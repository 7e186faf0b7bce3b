import FrameGateway.Bytes
/-! Lower-case hexadecimal text of numbers and byte strings. -/

namespace FrameGateway

def hexDigit (n : Nat) : Char :=
  if n < 10 then Char.ofNat (48 + n) else Char.ofNat (87 + n)

/-- The `w` low hexadecimal digits of `n`, most significant first. -/
def hexDigits : Nat → Nat → List Char
  | 0, _ => []
  | w + 1, n => hexDigits w (n / 16) ++ [hexDigit (n % 16)]

def hexText (w n : Nat) : String := String.ofList (hexDigits w n)

def hexShort (n : Nat) : String := String.ofList (Nat.toDigits 16 n)

def Bytes.hex (bs : Bytes) : String :=
  bs.foldl (fun s b => (s.push (hexDigit (b.toNat / 16))).push (hexDigit (b.toNat % 16))) ""

def hexValue? (c : Char) : Option Nat :=
  if '0' ≤ c ∧ c ≤ '9' then some (c.toNat - 48)
  else if 'a' ≤ c ∧ c ≤ 'f' then some (c.toNat - 87)
  else if 'A' ≤ c ∧ c ≤ 'F' then some (c.toNat - 55)
  else none

def Bytes.ofHex? (s : String) : Option Bytes :=
  let rec go : List Char → List UInt8 → Option Bytes
    | [], acc => some acc.reverse
    | h :: l :: r, acc => do go r (UInt8.ofNat (16 * (← hexValue? h) + (← hexValue? l)) :: acc)
    | [_], _ => none
  go s.toList []

end FrameGateway
