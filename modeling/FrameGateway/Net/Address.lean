import FrameGateway.Text.Hex
import FrameGateway.Text.Number
/-! Socket addresses and their text: `a.b.c.d:port` or `[v6%scope]:port`. Parts of a version 4 address have
no leading zeros; a version 6 address may end in a version 4 one and may leave out zeros once. Written,
the longest run of zero groups is left out. -/

namespace FrameGateway

/-- An address of version 4, by its four bytes, or of version 6, by its eight groups, and a port. -/
inductive Address where
  | v4 (parts : List Nat) (port : Nat)
  | v6 (groups : List Nat) (scope port : Nat)
  deriving DecidableEq, Repr

namespace Address

/-! ### Reading -/

abbrev Reader (α : Type) := List Char → Option (α × List Char)

def char (c : Char) : Reader Unit
  | d :: r => if c = d then some ((), r) else none
  | [] => none

/-- A number in a base of at most 16 with at most `most` digits, below `bound`. -/
def number (base : Nat) (most : Option Nat) (zeros : Bool) (bound : Nat) : Reader Nat := fun cs =>
  let value (c : Char) : Option Nat :=
    let v := if '0' ≤ c ∧ c ≤ '9' then c.toNat - 48
      else if 'a' ≤ c ∧ c ≤ 'f' then c.toNat - 87
      else if 'A' ≤ c ∧ c ≤ 'F' then c.toNat - 55
      else 16
    if v < base then some v else none
  let digits := (cs.takeWhile fun c => (value c).isSome).filterMap value
  let n := digits.foldl (fun n d => base * n + d) 0
  if digits.isEmpty || (most.any (· < digits.length)) || n ≥ bound ||
    (!zeros && digits.head? == some 0 && digits.length > 1) then none
  else some (n, cs.drop digits.length)

def dotted? : Reader (List Nat) := fun cs => do
  let part := number 10 (some 3) false 256
  let (a, r) ← part cs
  let (_, r) ← char '.' r
  let (b, r) ← part r
  let (_, r) ← char '.' r
  let (c, r) ← part r
  let (_, r) ← char '.' r
  let (d, r) ← part r
  return ([a, b, c, d], r)

/-- Groups of a version 6 address behind those read so far, at most `limit` of them: the groups, whether
a version 4 address ended them, and the rest. -/
def groups (limit : Nat) : Nat → List Nat → List Char → List Nat × Bool × List Char
  | 0, sofar, cs => (sofar, false, cs)
  | fuel + 1, sofar, cs =>
    if sofar.length ≥ limit then (sofar, false, cs)
    else
      let behind {α : Type} (f : Reader α) : Option (α × List Char) :=
        if sofar.isEmpty then f cs else (char ':' cs).bind fun (_, r) => f r
      match (if sofar.length + 1 < limit then behind dotted? else none) with
      | some ([a, b, c, d], r) => (sofar ++ [256 * a + b, 256 * c + d], true, r)
      | _ =>
        match behind (number 16 (some 4) true 65536) with
        | some (g, r) => groups limit fuel (sofar ++ [g]) r
        | none => (sofar, false, cs)

def groups? : Reader (List Nat) := fun cs => do
  let (front, isV4, r) := groups 8 8 [] cs
  if front.length = 8 then return (front, r)
  if isV4 then none
  let (_, r) ← char ':' r
  let (_, r) ← char ':' r
  let (back, _, r) := groups (7 - front.length) 8 [] r
  return (front ++ (List.replicate (8 - front.length - back.length) 0 ++ back), r)

def port? : Reader Nat := fun cs => do
  let (_, r) ← char ':' cs
  number 10 none true 65536 r

def v4? : Reader Address := fun cs => do
  let (parts, r) ← dotted? cs
  let (port, r) ← port? r
  return (.v4 parts port, r)

def v6? : Reader Address := fun cs => do
  let (_, r) ← char '[' cs
  let (groups, r) ← groups? r
  let (scope, r) ← match char '%' r with
    | some (_, r) => number 10 none true (2 ^ 32) r
    | none => some (0, r)
  let (_, r) ← char ']' r
  let (port, r) ← port? r
  return (.v6 groups scope port, r)

def ofText? (s : String) : Option Address :=
  match (v4? s.toList).or (v6? s.toList) with
  | some (a, []) => some a
  | _ => none

def isSocketAddress (s : String) : Bool := (ofText? s).isSome

/-! ### Writing -/

/-- Where the longest run of zeros starts, the first of these, and its length, for a list from index `i`
on. -/
def zeroRun : Nat → List Nat → Nat × Nat
  | _, [] => (0, 0)
  | i, g :: r =>
    let here := ((g :: r).takeWhile (· = 0)).length
    let (start, length) := zeroRun (i + 1) r
    if length ≤ here then (i, here) else (start, length)

def joinedGroups (gs : List Nat) : String := ":".intercalate (gs.map hexShort)

def joinedParts (parts : List Nat) : String := ".".intercalate (parts.map toString)

/-- The groups of a version 6 address. One that stands for an address of version 4 shows that, and two
zeros or more may be left out. -/
def groupsText (gs : List Nat) : String :=
  match gs with
  | [0, 0, 0, 0, 0, 0xffff, a, b] => "::ffff:" ++ joinedParts [a / 256, a % 256, b / 256, b % 256]
  | gs =>
    let (start, length) := zeroRun 0 gs
    if 1 < length then joinedGroups (gs.take start) ++ "::" ++ joinedGroups (gs.drop (start + length))
    else joinedGroups gs

def text : Address → String
  | v4 parts port => joinedParts parts ++ ":" ++ toString port
  | v6 groups scope port =>
    let zone := if scope = 0 then "" else "%" ++ toString scope
    "[" ++ groupsText groups ++ zone ++ "]:" ++ toString port

end Address

end FrameGateway
