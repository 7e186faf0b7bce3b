import FrameGateway.Bytes
/-! Base 64 in the standard alphabet. Padding may be left out; where it stands it fills the last group
of four at most. Bits that no byte takes up have to be zero. -/

namespace FrameGateway.Base64

def pad : UInt8 := 0x3d

def sextet? (c : UInt8) : Option Nat :=
  let n := c.toNat
  if 0x41 ≤ n ∧ n ≤ 0x5a then some (n - 0x41)
  else if 0x61 ≤ n ∧ n ≤ 0x7a then some (n - 0x61 + 26)
  else if 0x30 ≤ n ∧ n ≤ 0x39 then some (n - 0x30 + 52)
  else if n = 0x2b then some 62
  else if n = 0x2f then some 63
  else none

/-- The bytes of groups of four sextets, the last of which may be short. -/
def unpack? : List Nat → Option Bytes
  | a :: b :: c :: d :: rest => do
    let n := ((a * 64 + b) * 64 + c) * 64 + d
    return .ofNat (n / 65536) :: .ofNat (n / 256) :: .ofNat n :: (← unpack? rest)
  | [a, b, c] =>
    let n := (a * 64 + b) * 64 + c
    if n % 4 = 0 then some [.ofNat (n / 1024), .ofNat (n / 4)] else none
  | [a, b] => if b % 16 = 0 then some [.ofNat (a * 4 + b / 16)] else none
  | [_] => none
  | [] => some []

def decode? (text : Bytes) : Option Bytes := do
  let digits := text.takeWhile (· != pad)
  let pads := text.drop digits.length
  if pads.all (· == pad) && (pads.isEmpty || digits.length % 4 ≥ 2 && pads.length ≤ 4 - digits.length % 4) then
    unpack? (← digits.mapM sextet?)
  else none

end FrameGateway.Base64
