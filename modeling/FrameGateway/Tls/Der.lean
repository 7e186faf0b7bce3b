import FrameGateway.Bytes
/-! Tagged values in their distinguished encoding: a tag, the shortest form of the length, the value. -/

namespace FrameGateway.Der

def integer : UInt8 := 0x02
def bitString : UInt8 := 0x03
def octetString : UInt8 := 0x04
def oid : UInt8 := 0x06
def boolean : UInt8 := 0x01
def sequence : UInt8 := 0x30
/-- The tag around a part that is told apart by a number. -/
def context (n : UInt8) : UInt8 := 0xa0 + n
/-- The same in the place of the part's own tag. -/
def implicit (n : UInt8) : UInt8 := 0x80 + n

/-- A length in its shortest form, of two bytes at most, and the bytes behind it. -/
def length? : Bytes → Option (Nat × Bytes)
  | n :: rest =>
    if n < 0x80 then some (n.toNat, rest)
    else
      let k := n.toNat - 0x80
      let len := beNat (rest.take k)
      if 1 ≤ k ∧ k ≤ 2 ∧ k ≤ rest.length ∧ (if k = 1 then 0x80 ≤ len else 256 ^ (k - 1) ≤ len) then
        some (len, rest.drop k)
      else none
  | [] => none

/-- The value behind a tag, and the bytes behind that. -/
def value? (tag : UInt8) : Bytes → Option (Bytes × Bytes)
  | t :: rest =>
    if t = tag then
      (length? rest).bind fun (len, rest) => if len ≤ rest.length then some (rest.splitAt len) else none
    else none
  | [] => none

/-- The value behind a tag with nothing behind it. -/
def whole? (tag : UInt8) (bs : Bytes) : Option Bytes := do
  let (v, rest) ← value? tag bs
  if rest.isEmpty then return v else none

/-- The number that the bytes of an integer stand for, in their shortest form and without a sign. -/
def natural? : Bytes → Option Nat
  | [] => none
  | [0] => some 0
  | 0 :: b :: r => if 0x80 ≤ b then some (beNat (b :: r)) else none
  | b :: r => if b < 0x80 then some (beNat (b :: r)) else none

def small? (bs : Bytes) : Option (Nat × Bytes) := do
  let (v, rest) ← value? integer bs
  let n ← natural? v
  if n < 256 then return (n, rest) else none

def wholeBytes? : Bytes → Option Bytes
  | 0 :: bs => some bs
  | _ => none

/-- Whole bytes as a string of bits, with a tag. -/
def bits? (tag : UInt8) (bs : Bytes) : Option (Bytes × Bytes) := do
  let (v, rest) ← value? tag bs
  return (← wholeBytes? v, rest)

theorem length_rest_le {bs rest : Bytes} {n : Nat} (h : length? bs = some (n, rest)) :
    rest.length ≤ bs.length := by
  unfold length? at h
  split at h
  next b r =>
    split at h
    · simp only [Option.some.injEq, Prod.mk.injEq] at h
      simp [← h.2]
    · simp only [Option.ite_none_right_eq_some, Option.some.injEq, Prod.mk.injEq] at h
      simp only [← h.2.2, List.length_drop, List.length_cons]
      omega
  next => cases h

theorem length_rest_lt {bs v rest : Bytes} {tag : UInt8} (h : value? tag bs = some (v, rest)) :
    rest.length < bs.length := by
  unfold value? at h
  split at h
  next t r =>
    simp only [Option.ite_none_right_eq_some, Option.bind_eq_some_iff] at h
    obtain ⟨-, ⟨len, r'⟩, hl, h⟩ := h
    have hr := length_rest_le hl
    simp only [Option.some.injEq, List.splitAt_eq, Prod.mk.injEq] at h
    simp only [← h.2.2, List.length_drop, List.length_cons]
    omega
  next => cases h

/-- The values of a list of items with one tag and nothing else. -/
def items? (tag : UInt8) (bs : Bytes) : Option (List Bytes) :=
  if bs.isEmpty then some []
  else match h : value? tag bs with
    | none => none
    | some (v, rest) =>
      have := length_rest_lt h
      (items? tag rest).map (v :: ·)
termination_by bs.length

def naturals? (bs : Bytes) : Option (List Nat) := (items? integer bs).bind (·.mapM natural?)

end FrameGateway.Der
