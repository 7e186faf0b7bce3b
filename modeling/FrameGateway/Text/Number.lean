/-! Reading numbers and words from text. -/

namespace FrameGateway

def decimalDigit? (c : Char) : Option Nat := if '0' ≤ c ∧ c ≤ '9' then some (c.toNat - 48) else none

/-- The number that decimal digits alone spell; at least one. -/
def decimal? (cs : List Char) : Option Nat :=
  if cs.isEmpty then none
  else cs.foldl (fun n c => do return 10 * (← n) + (← decimalDigit? c)) (some 0)

/-- A number below `bound`, with at most one plus sign before it. -/
def natural? (bound : Nat) (s : String) : Option Nat :=
  let digits := match s.toList with
    | '+' :: r => r
    | cs => cs
  (decimal? digits).filter (· < bound)

def isUnicodeBlank (c : Char) : Bool :=
  let n := c.toNat
  (0x09 ≤ n && n ≤ 0x0d) || n == 0x20 || n == 0x85 || n == 0xa0 || n == 0x1680 ||
    (0x2000 ≤ n && n ≤ 0x200a) || n == 0x2028 || n == 0x2029 || n == 0x202f || n == 0x205f || n == 0x3000

def trimBlanks (s : String) : String :=
  String.ofList ((s.toList.dropWhile isUnicodeBlank).reverse.dropWhile isUnicodeBlank).reverse

def asciiLower (s : String) : String := s.map Char.toLower

end FrameGateway
