import FrameGateway.Toml.Scalar
/-! Whole TOML documents. -/

namespace FrameGateway.Toml

/-- Arrays and inline tables may nest one level less than this, and so many parts may a key have. -/
def depthLimit : Nat := 80

def skipComment (cs : List Char) : List Char := match cs with
  | '#' :: r => r.dropWhile isPlain
  | _ => cs

def skipLines : Nat → List Char → List Char
  | 0, cs => cs
  | n + 1, cs => match skipBlank cs with
    | '#' :: r => match newline? (r.dropWhile isPlain) with
      | some r => skipLines n r
      | none => r.dropWhile isPlain
    | cs => match newline? cs with
      | some r => skipLines n r
      | none => cs

/-- The end of a line: blanks, a comment, then a line end or the end of the text. -/
def endLine? (cs : List Char) : Option (List Char) :=
  let r := skipComment (skipBlank cs)
  if r.isEmpty then some [] else newline? r

def isBare (c : Char) : Bool := c.isAlphanum || c = '_' || c = '-'

def part? (cs : List Char) : Option (String × List Char) := match cs with
  | '"' :: r => lineString '"' true (r.length + 1) r []
  | '\'' :: r => lineString '\'' false (r.length + 1) r []
  | _ =>
    let k := cs.takeWhile isBare
    if k.isEmpty then none else some (String.ofList k, cs.drop k.length)

/-- A key: parts with dots between them, blanks around each. -/
def key? : Nat → List Char → List String → Option (List String × List Char)
  | 0, _, _ => none
  | n + 1, cs, acc => match part? (skipBlank cs) with
    | none => none
    | some (k, r) => match skipBlank r with
      | '.' :: r => key? n r (k :: acc)
      | r => if acc.length + 1 < depthLimit then some ((k :: acc).reverse, r) else none

def word? (w : String) (v : Value) (cs : List Char) : Option (Value × List Char) :=
  if w.toList.isPrefixOf cs then some (v, cs.drop w.length) else none

/-- A number or a date. -/
def number? (cs : List Char) : Option (Value × List Char) := do
  match ← datetime? cs with
  | some r => return (.datetime, r)
  | none => match ← float? cs with
    | some r => return (.float, r)
    | none => (integer? cs).map fun (i, r) => (.integer i, r)

/-- Items with commas between them up to a bracket; a comma may follow the last. -/
def items? (item : List Char → Option (Value × List Char)) :
    Nat → List Char → List Value → Option (Value × List Char)
  | 0, _, _ => none
  | n + 1, cs, acc => match skipLines cs.length cs with
    | ']' :: r => some (.array acc.reverse, r)
    | cs => match item cs with
      | none => none
      | some (v, r) => match skipLines r.length r with
        | ']' :: r => some (.array (v :: acc).reverse, r)
        | ',' :: r => items? item n r (v :: acc)
        | _ => none

/-- Entries of an inline table with commas between them up to its brace. -/
def members? (item : List Char → Option (Value × List Char)) :
    Nat → List Char → Entries → Option (Value × List Char)
  | 0, _, _ => none
  | n + 1, cs, es => match key? (cs.length + 1) cs [] with
    | some (k, '=' :: r) => match item (skipBlank r) with
      | none => none
      | some (v, r) => match assign k v .header es with
        | none => none
        | some es => match skipBlank r with
          | '\x7d' :: r => some (.table (entriesValue es), r)
          | ',' :: r => members? item n r es
          | _ => none
    | _ => none

/-- A value `depth` levels below the limit. -/
def value? : Nat → List Char → Option (Value × List Char)
  | depth, cs => match cs with
    | '"' :: _ => (string? cs).map fun (s, r) => (.string s, r)
    | '\'' :: _ => (string? cs).map fun (s, r) => (.string s, r)
    | '[' :: r => match depth with
      | 0 => none
      | d + 1 => items? (value? d) (r.length + 1) r []
    | '\x7b' :: r => match depth with
      | 0 => none
      | d + 1 => match skipBlank r with
        | '\x7d' :: r => some (.table [], r)
        | r => members? (value? d) (r.length + 1) r []
    | 't' :: _ => word? "true" (.boolean true) cs
    | 'f' :: _ => word? "false" (.boolean false) cs
    | c :: _ =>
      if isDigit c || c = '+' || c = '-' || c = 'i' || c = 'n' then number? cs else none
    | [] => none

/-- The lines of a document: the header that is open, and the tables so far. -/
def lines? : Nat → List Char → List String → Entries → Option Entries
  | 0, _, _, _ => none
  | n + 1, cs, path, doc => match skipBlank cs with
    | [] => some doc
    | '#' :: r => (endLine? ('#' :: r)).bind fun r => lines? n r path doc
    | '[' :: '[' :: r => do
      let (k, r) ← key? (r.length + 1) r []
      match r with
      | ']' :: ']' :: r => lines? n (← endLine? r) k (← openItem k doc)
      | _ => none
    | '[' :: r => do
      let (k, r) ← key? (r.length + 1) r []
      match r with
      | ']' :: r => lines? n (← endLine? r) k (← openTable k doc)
      | _ => none
    | cs => match newline? cs with
      | some r => lines? n r path doc
      | none => do
        let (k, r) ← key? (cs.length + 1) cs []
        match r with
        | '=' :: r =>
          let (v, r) ← value? (depthLimit - 1) (skipBlank r)
          lines? n (← endLine? r) path (← assignAt path k v doc)
        | _ => none

def parse? (text : String) : Option Value :=
  let cs := match text.toList with
    | '\ufeff' :: r => r
    | cs => cs
  (lines? (cs.length + 1) cs [] []).map fun es => .table (entriesValue es)

end FrameGateway.Toml
