import FrameGateway.Text.Number
import FrameGateway.Text.Hex
import FrameGateway.Toml.Value
/-! Strings, numbers and dates of TOML. The readers of kinds that start alike give `none` for an error in
the text, and `some none` to leave the text to another reader. -/

namespace FrameGateway.Toml

def isBlank (c : Char) : Bool := c = ' ' || c = '\t'

def skipBlank (cs : List Char) : List Char := cs.dropWhile isBlank

def newline? : List Char → Option (List Char)
  | '\n' :: r => some r
  | '\r' :: '\n' :: r => some r
  | _ => none

/-- Characters that strings hold as they are; quotes and backslashes have rules of their own. -/
def isPlain (c : Char) : Bool := c = '\t' || (0x20 ≤ c.toNat && c.toNat ≠ 0x7f)

/-- The character of `n` hexadecimal digits, if it is one. -/
def unicode? (n : Nat) (cs : List Char) : Option (Char × List Char) := do
  let ds := cs.take n
  guard (ds.length = n)
  let v ← ds.foldl (fun v c => do return 16 * (← v) + (← hexValue? c)) (some 0)
  if h : v.isValidChar then return (Char.ofNatAux v h, cs.drop n) else none

/-- The character of an escape, after its backslash. -/
def escape? : List Char → Option (Char × List Char)
  | 'b' :: r => some ('\x08', r)
  | 'f' :: r => some ('\x0c', r)
  | 'n' :: r => some ('\n', r)
  | 'r' :: r => some ('\r', r)
  | 't' :: r => some ('\t', r)
  | '\\' :: r => some ('\\', r)
  | '"' :: r => some ('"', r)
  | 'u' :: r => unicode? 4 r
  | 'U' :: r => unicode? 8 r
  | _ => none

/-- A one-line string after its opening quote. -/
def lineString (quote : Char) (escapes : Bool) : Nat → List Char → List Char → Option (String × List Char)
  | 0, _, _ => none
  | n + 1, cs, acc => match cs with
    | [] => none
    | c :: r =>
      if c = quote then some (String.ofList acc.reverse, r)
      else if escapes && c = '\\' then
        match escape? r with
        | some (e, r) => lineString quote escapes n r (e :: acc)
        | none => none
      else if isPlain c then lineString quote escapes n r (c :: acc)
      else none

def skipSpace : List Char → List Char
  | '\r' :: '\n' :: r => skipSpace r
  | c :: r => if isBlank c || c = '\n' then skipSpace r else c :: r
  | [] => []

/-- What follows blanks and line ends, of which the first has to be a line end. -/
def lineContinuation? (cs : List Char) : Option (List Char) := (newline? (skipBlank cs)).map skipSpace

/-- A string of many lines after its opening quotes. Up to two quotes may stand inside, and up to two
more before the closing ones. -/
def blockString (quote : Char) (escapes : Bool) : Nat → List Char → List Char → Option (String × List Char)
  | 0, _, _ => none
  | n + 1, cs, acc => match cs with
    | [] => none
    | c :: r =>
      if c = quote then
        let run := 1 + (r.takeWhile (· = quote)).length
        if run < 3 then blockString quote escapes n (cs.drop run) (List.replicate run quote ++ acc)
        else
          let inside := min (run - 3) 2
          some (String.ofList (acc.reverse ++ List.replicate inside quote), cs.drop (inside + 3))
      else if escapes && c = '\\' then
        match lineContinuation? r with
        | some r => blockString quote escapes n r acc
        | none => match escape? r with
          | some (e, r) => blockString quote escapes n r (e :: acc)
          | none => none
      else match newline? cs with
        | some r => blockString quote escapes n r ('\n' :: acc)
        | none => if isPlain c then blockString quote escapes n r (c :: acc) else none

/-- A string from its opening quote on. -/
def string? (cs : List Char) : Option (String × List Char) :=
  let n := cs.length + 1
  let trimmed (r : List Char) := (newline? r).getD r
  match cs with
  | '"' :: '"' :: '"' :: r => blockString '"' true n (trimmed r) []
  | '\'' :: '\'' :: '\'' :: r => blockString '\'' false n (trimmed r) []
  | '"' :: r => lineString '"' true n r []
  | '\'' :: r => lineString '\'' false n r []
  | _ => none

/-- Digits with single underscores between them; an underscore needs a digit behind it. -/
def underscored (isDigit : Char → Bool) : List Char → List Char → Option (List Char × List Char)
  | '_' :: c :: r, acc => if isDigit c then underscored isDigit r (c :: acc) else none
  | '_' :: [], _ => none
  | c :: r, acc => if isDigit c then underscored isDigit r (c :: acc) else some (acc.reverse, c :: r)
  | [], acc => some (acc.reverse, [])

def isDigit (c : Char) : Bool := (decimalDigit? c).isSome

def sign (cs : List Char) : Bool × List Char := match cs with
  | '+' :: r => (false, r)
  | '-' :: r => (true, r)
  | _ => (false, cs)

/-- A decimal integer's sign, its digits and what follows: no zero before another digit. -/
def decimalInteger (cs : List Char) : Option (Option (Bool × List Char × List Char)) :=
  let (minus, cs) := sign cs
  match cs with
  | '0' :: r => some (some (minus, ['0'], r))
  | c :: r =>
    if isDigit c then (underscored isDigit r [c]).map fun (ds, r) => some (minus, ds, r)
    else some none
  | [] => some none

def digits? (cs : List Char) : Option (List Char × List Char) := match cs with
  | c :: r => if isDigit c then underscored isDigit r [c] else none
  | [] => none

/-- The digits are past the largest double once their number and exponent are. -/
def overflows (mantissa : List Char) (point : Nat) (exponent : Int) : Bool :=
  let ds := mantissa.dropWhile (· = '0')
  let n := (decimal? ds).getD 0
  let e := exponent - point
  if ds.isEmpty ∨ (ds.length : Int) + e < 300 then false
  else if (ds.length : Int) + e > 400 then true
  else
    let limit := (2 ^ 54 - 1) * 2 ^ 970
    if 0 ≤ e then n * 10 ^ e.toNat ≥ limit else n ≥ limit * 10 ^ (-e).toNat

/-- What follows a float; one past the largest double is refused, unless it is negative. -/
def float? (cs : List Char) : Option (Option (List Char)) := do
  let special (cs : List Char) : Option (List Char) :=
    match (sign cs).2 with
    | 'i' :: 'n' :: 'f' :: r => some r
    | 'n' :: 'a' :: 'n' :: r => some r
    | _ => none
  match ← decimalInteger cs with
  | none => return special cs
  | some (minus, whole, r) =>
    let checked (fraction : List Char) (e : Int) (r : List Char) : Option (Option (List Char)) :=
      if !minus && overflows (whole ++ fraction) fraction.length e then none else some (some r)
    let exponent (fraction : List Char) (r : List Char) : Option (Option (List Char)) := do
      let (down, r) := sign r
      let (ds, r) ← digits? r
      let e : Int := (decimal? ds).getD 0
      checked fraction (if down then -e else e) r
    match r with
    | '.' :: r => do
      let (fraction, r) ← digits? r
      match r with
      | 'e' :: r => exponent fraction r
      | 'E' :: r => exponent fraction r
      | r => checked fraction 0 r
    | 'e' :: r => exponent [] r
    | 'E' :: r => exponent [] r
    | _ => return special cs

/-- A 64-bit integer, decimal or with one of the marks `0x`, `0o`, `0b`. -/
def integer? (cs : List Char) : Option (Int × List Char) := do
  let radix (base : Nat) (r : List Char) : Option (Int × List Char) := do
    let ok (c : Char) : Bool := (hexValue? c).any (· < base)
    let c ← r.head?
    guard (ok c)
    let (ds, r) ← underscored ok (r.drop 1) [c]
    let n := ds.foldl (fun n c => base * n + (hexValue? c).getD 0) 0
    if n < 2 ^ 63 then some (n, r) else none
  match cs with
  | '0' :: 'x' :: r => radix 16 r
  | '0' :: 'o' :: r => radix 8 r
  | '0' :: 'b' :: r => radix 2 r
  | _ =>
    let (minus, ds, r) ← (← decimalInteger cs)
    let n := (decimal? ds).getD 0
    let i : Int := if minus then -n else n
    if -2 ^ 63 ≤ i ∧ i < 2 ^ 63 then some (i, r) else none

/-- `n` digits with a value from `lo` to `hi`. -/
def field? (n lo hi : Nat) (cs : List Char) : Option (Nat × List Char) := do
  let ds := cs.take n
  guard (ds.length = n)
  let v ← decimal? ds
  if lo ≤ v ∧ v ≤ hi then some (v, cs.drop n) else none

def mark? (c : Char) : List Char → Option (List Char)
  | d :: r => if c = d then some r else none
  | [] => none

/-- What follows a time of day; certain once the first colon is there. -/
def time? (cs : List Char) : Option (Option (List Char)) :=
  match field? 2 0 23 cs with
  | some (_, ':' :: r) => do
    let (_, r) ← field? 2 0 59 r
    let r ← mark? ':' r
    let (_, r) ← field? 2 0 60 r
    match r with
    | '.' :: c :: r' => return some (if isDigit c then r'.dropWhile isDigit else r)
    | _ => return some r
  | _ => some none

def daysIn (year month : Nat) : Nat :=
  if month = 2 then if year % 4 = 0 ∧ (year % 100 ≠ 0 ∨ year % 400 = 0) then 29 else 28
  else if month = 4 ∨ month = 6 ∨ month = 9 ∨ month = 11 then 30 else 31

/-- An offset from universal time; certain once its sign is there. -/
def offset? (cs : List Char) : Option (List Char) := match cs with
  | 'Z' :: r => some r
  | 'z' :: r => some r
  | c :: r =>
    if c = '+' || c = '-' then do
      let (_, r) ← field? 2 0 23 r
      let r ← mark? ':' r
      let (_, r) ← field? 2 0 59 r
      return r
    else some cs
  | [] => some cs

/-- What follows a date, a time, or both with or without an offset; certain once the first mark is
there. -/
def datetime? (cs : List Char) : Option (Option (List Char)) :=
  match field? 4 0 9999 cs with
  | some (year, '-' :: r) => do
    let (month, r) ← field? 2 1 12 r
    let r ← mark? '-' r
    let (_, r) ← field? 2 1 (daysIn year month) r
    match r with
    | c :: r' =>
      if c = 'T' || c = 't' || c = ' ' then
        match ← time? r' with
        | some r => return some (← offset? r)
        | none => return some r
      else return some r
    | [] => return some r
  | _ => time? cs

end FrameGateway.Toml
