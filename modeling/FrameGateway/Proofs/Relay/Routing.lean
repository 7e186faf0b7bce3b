import FrameGateway.Proofs.Frame.Grammar
import Mathlib.Data.Nat.Bitwise
/-! What of a frame's bytes decides where it goes: its length, the length that it announces, two bits of
its flags and its token. Frames that agree on these are routed alike (`map_route_parseFrame`), whatever
their bodies, their packet ids and the other thirty bits of their flags. -/

namespace FrameGateway

/-- All that routing asks of a frame. -/
structure Route where
  isBroadcast : Bool
  isRedirect : Bool
  token : Option SessionId
  deriving DecidableEq

def FrameView.route (v : FrameView) : Route :=
  ⟨v.header.flags.isBroadcast, v.header.flags.isRedirect, v.token⟩

/-- Byte strings that differ only where routing does not look. -/
structure RoutedAlike (format : Option TokenFormat) (a b : Bytes) : Prop where
  length : a.length = b.length
  announced : announced a = announced b
  /-- the bits for broadcasts and for redirects -/
  flags : a.getD 2 0 &&& 6 = b.getD 2 0 &&& 6
  token : ∀ f, format = some f → (a.drop headerSize).take f.width = (b.drop headerSize).take f.width

namespace Flags

/-- A low flag bit is a bit of the first byte of the flag word. -/
theorem contains_leNat (b : UInt8) (rest : Bytes) {k : Nat} (hk : k < 8) :
    contains ⟨.ofNat (leNat (b :: rest))⟩ ⟨.ofNat (2 ^ k)⟩ = b.toNat.testBit k := by
  have hpow : 2 ^ k < 2 ^ 32 := Nat.pow_lt_pow_right (by decide) (by omega)
  have hbit : (leNat (b :: rest) % 2 ^ 32).testBit k = b.toNat.testBit k := by
    rw [Nat.testBit_mod_two_pow, decide_eq_true (by omega : k < 32), Bool.true_and, leNat,
      show b.toNat + 256 * leNat rest = 2 ^ 8 * leNat rest + b.toNat by omega,
      Nat.testBit_two_pow_mul_add _ b.toNat_lt, if_pos hk]
  rw [Bool.eq_iff_iff, contains, beq_iff_eq, ← UInt32.toNat_inj, UInt32.toNat_and, UInt32.toNat_ofNat',
    UInt32.toNat_ofNat', Nat.mod_eq_of_lt hpow, Nat.and_two_pow, hbit]
  have hpos : 0 ≠ 2 ^ k := Nat.ne_of_lt (Nat.two_pow_pos k)
  cases b.toNat.testBit k <;> simp [hpos]

theorem contains_congr {x y mask : UInt8} {xs ys : Bytes} (h : x &&& mask = y &&& mask) {k : Nat}
    (hk : k < 8) (hmask : mask.toNat.testBit k = true) :
    contains ⟨.ofNat (leNat (x :: xs))⟩ ⟨.ofNat (2 ^ k)⟩ =
      contains ⟨.ofNat (leNat (y :: ys))⟩ ⟨.ofNat (2 ^ k)⟩ := by
  have hbit := congrArg (fun b : UInt8 => b.toNat.testBit k) h
  rw [contains_leNat x xs hk, contains_leNat y ys hk]
  simpa only [UInt8.toNat_and, Nat.testBit_and, hmask, Bool.and_true] using hbit

end Flags

/-- The flag word of a frame starts with its third byte. -/
theorem exists_flagBytes {bs : Bytes} (h : headerSize ≤ bs.length) :
    ∃ rest, (bs.drop 2).take 4 = bs.getD 2 0 :: rest := by
  match bs, h with
  | _ :: _ :: b :: rest, _ => exact ⟨rest.take 3, rfl⟩

theorem map_route_parseFrame {format : Option TokenFormat} {a b : Bytes} (h : RoutedAlike format a b) :
    (parseFrame format a).map FrameView.route = (parseFrame format b).map FrameView.route := by
  rw [parseFrame_eq, parseFrame_eq, ← h.length, ← h.announced]
  split_ifs with h2 hd h6 hw
  · rfl
  · rfl
  · rfl
  · rfl
  · have hsizes := headerSize_eq
    have h8 : headerSize ≤ a.length := by omega
    obtain ⟨resta, ha⟩ := exists_flagBytes h8
    obtain ⟨restb, hb⟩ := exists_flagBytes (h.length ▸ h8)
    have hbroadcast : Flags.isBroadcast ⟨.ofNat (leNat (a.getD 2 0 :: resta))⟩ =
        Flags.isBroadcast ⟨.ofNat (leNat (b.getD 2 0 :: restb))⟩ :=
      Flags.contains_congr h.flags (k := 1) (by decide) (by decide)
    have hredirect : Flags.isRedirect ⟨.ofNat (leNat (a.getD 2 0 :: resta))⟩ =
        Flags.isRedirect ⟨.ofNat (leNat (b.getD 2 0 :: restb))⟩ :=
      Flags.contains_congr h.flags (k := 2) (by decide) (by decide)
    have htoken : (FrameView.cut format a).token = (FrameView.cut format b).token := by
      cases format with
      | none => rfl
      | some f => exact congrArg (fun raw => some (SessionId.ofNat (leNat raw))) (h.token f rfl)
    simp only [Except.map, FrameView.route, htoken]
    simp only [FrameView.cut, ha, hb, hbroadcast, hredirect]

end FrameGateway
