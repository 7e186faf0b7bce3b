import FrameGateway.Text.Utf8
import FrameGateway.Text.Hex
/-! JSON text as a tree. Reading checks the grammar only: what a number's digits or a string's
bytes amount to is decided where somebody asks for them. -/

namespace FrameGateway.Json

structure Numeral where
  negative : Bool
  whole : List Nat
  /-- the digits after the point, if there is one -/
  fraction : Option (List Nat)
  /-- the exponent's sign (true for minus) and digits, if there is one -/
  exponent : Option (Bool × List Nat)
  deriving Inhabited

/-- A string is `none` where its bytes or escapes form no text. -/
abbrev Text := Option String

inductive Tree where
  | null
  | bool (b : Bool)
  | number (n : Numeral)
  | string (s : Text)
  | array (items : List Tree)
  | object (members : List (Text × Tree))
  deriving Inhabited

def isBlank (b : UInt8) : Bool := b == 0x20 || b == 0x0a || b == 0x09 || b == 0x0d

def skipBlank (bs : Bytes) : Bytes := bs.dropWhile isBlank

def digit? (b : UInt8) : Option Nat := if 0x30 ≤ b && b ≤ 0x39 then some (b.toNat - 0x30) else none

def digits (bs : Bytes) : List Nat × Bytes :=
  let isDigit (b : UInt8) : Bool := (digit? b).isSome
  ((bs.takeWhile isDigit).filterMap digit?, bs.dropWhile isDigit)

/-- A number: no zero before another digit, and a digit after each of point and exponent mark. -/
def numeral? (bs : Bytes) : Option (Numeral × Bytes) := do
  let (negative, bs) := match bs with
    | 0x2d :: r => (true, r)
    | _ => (false, bs)
  let (whole, bs) := digits bs
  guard (!whole.isEmpty && (whole.head? != some 0 || whole.length == 1))
  let (fraction, bs) ← match bs with
    | 0x2e :: r =>
      let (ds, r) := digits r
      if ds.isEmpty then none else some (some ds, r)
    | _ => some (none, bs)
  let signed (bs : Bytes) : Option (Option (Bool × List Nat) × Bytes) :=
    let (minus, bs) := match bs with
      | 0x2b :: r => (false, r)
      | 0x2d :: r => (true, r)
      | _ => (false, bs)
    let (ds, r) := digits bs
    if ds.isEmpty then none else some (some (minus, ds), r)
  let (exponent, bs) ← match bs with
    | 0x65 :: r => signed r
    | 0x45 :: r => signed r
    | _ => some (none, bs)
  return (⟨negative, whole, fraction, exponent⟩, bs)

def hex4? : Bytes → Option (Nat × Bytes)
  | a :: b :: c :: d :: r => do
    let v (x : UInt8) := hexValue? (Char.ofNat x.toNat)
    return (4096 * (← v a) + 256 * (← v b) + 16 * (← v c) + (← v d), r)
  | _ => none

def escape? : UInt8 → Option UInt8
  | 0x22 => some 0x22
  | 0x5c => some 0x5c
  | 0x2f => some 0x2f
  | 0x62 => some 0x08
  | 0x66 => some 0x0c
  | 0x6e => some 0x0a
  | 0x72 => some 0x0d
  | 0x74 => some 0x09
  | _ => none

inductive Piece where
  | byte (b : UInt8)
  | unit (n : Nat)

def pieces? : Nat → Bytes → List Piece → Option (List Piece × Bytes)
  | 0, _, _ => none
  | n + 1, bs, acc => match bs with
    | 0x22 :: r => some (acc.reverse, r)
    | 0x5c :: 0x75 :: r => match hex4? r with
      | some (u, r) => pieces? n r (.unit u :: acc)
      | none => none
    | 0x5c :: e :: r => match escape? e with
      | some b => pieces? n r (.byte b :: acc)
      | none => none
    | b :: r => if b < 0x20 || b == 0x5c then none else pieces? n r (.byte b :: acc)
    | [] => none

/-- The text of the pieces: a high and a low surrogate unit side by side make one character, and
neither stands alone. -/
def textOf (ps : List Piece) : Text :=
  let rec go : List Piece → List Bytes → Text
    | [], acc => utf8? acc.reverse.flatten
    | .byte b :: r, acc => go r ([b] :: acc)
    | .unit u :: r, acc =>
      if 0xd800 ≤ u ∧ u < 0xdc00 then
        match r with
        | .unit l :: r' =>
          if 0xdc00 ≤ l ∧ l < 0xe000 then
            go r' (utf8 (String.singleton (Char.ofNat (0x10000 + (u - 0xd800) * 1024 + (l - 0xdc00)))) :: acc)
          else none
        | _ => none
      else if 0xdc00 ≤ u ∧ u < 0xe000 then none
      else go r (utf8 (String.singleton (Char.ofNat u)) :: acc)
  go ps []

def string? (bs : Bytes) : Option (Text × Bytes) :=
  (pieces? (bs.length + 1) bs []).map fun (ps, r) => (textOf ps, r)

def word? (w : String) (t : Tree) (bs : Bytes) : Option (Tree × Bytes) :=
  let b := utf8 w
  if bs.take b.length = b then some (t, bs.drop b.length) else none

mutual
def value? : Nat → Bytes → Option (Tree × Bytes)
  | 0, _ => none
  | n + 1, bs => match bs with
    | 0x6e :: _ => word? "null" .null bs
    | 0x74 :: _ => word? "true" (.bool true) bs
    | 0x66 :: _ => word? "false" (.bool false) bs
    | 0x22 :: r => (string? r).map fun (t, r) => (.string t, r)
    | 0x5b :: r => match skipBlank r with
      | 0x5d :: r => some (.array [], r)
      | r => items? n r []
    | 0x7b :: r => match skipBlank r with
      | 0x7d :: r => some (.object [], r)
      | r => members? n r []
    | _ => (numeral? bs).map fun (m, r) => (.number m, r)

def items? : Nat → Bytes → List Tree → Option (Tree × Bytes)
  | 0, _, _ => none
  | n + 1, bs, acc => match value? n bs with
    | none => none
    | some (t, r) => match skipBlank r with
      | 0x5d :: r => some (.array (t :: acc).reverse, r)
      | 0x2c :: r => items? n (skipBlank r) (t :: acc)
      | _ => none

def members? : Nat → Bytes → List (Text × Tree) → Option (Tree × Bytes)
  | 0, _, _ => none
  | n + 1, bs, acc => match bs with
    | 0x22 :: r => match string? r with
      | none => none
      | some (k, r) => match skipBlank r with
        | 0x3a :: r => match value? n (skipBlank r) with
          | none => none
          | some (t, r) => match skipBlank r with
            | 0x7d :: r => some (.object ((k, t) :: acc).reverse, r)
            | 0x2c :: r => members? n (skipBlank r) ((k, t) :: acc)
            | _ => none
        | _ => none
    | _ => none
end

/-- The tree of a whole text; blanks may stand around it. -/
def parse? (bs : Bytes) : Option Tree := do
  let (t, r) ← value? (2 * bs.length + 2) (skipBlank bs)
  if (skipBlank r).isEmpty then return t else none

def quoted (s : String) : String :=
  let esc (c : Char) : String := match c with
    | '"' => "\\\""
    | '\\' => "\\\\"
    | '\x08' => "\\b"
    | '\x0c' => "\\f"
    | '\n' => "\\n"
    | '\r' => "\\r"
    | '\t' => "\\t"
    | c => if c.toNat < 0x20 then "\\u" ++ hexText 4 c.toNat else String.singleton c
  "\"" ++ s.foldl (fun acc c => acc ++ esc c) "" ++ "\""

end FrameGateway.Json
