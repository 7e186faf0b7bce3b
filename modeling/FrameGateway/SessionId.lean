import FrameGateway.Text.Hex
/-! Session ids: 128-bit tokens, written in the grouped hexadecimal form of a UUID. -/

namespace FrameGateway

def uuidText (v : BitVec 128) : String :=
  let d := hexDigits 32 v.toNat
  let cut (a n : Nat) := String.ofList ((d.drop a).take n)
  "-".intercalate [cut 0 8, cut 8 4, cut 12 4, cut 16 4, cut 20 12]

/-- Names one client or backend session; also the token that a routing field carries. -/
structure SessionId where
  token : BitVec 128
  deriving DecidableEq, Hashable, Inhabited

namespace SessionId

def nil : SessionId := ⟨0⟩

def ofNat (n : Nat) : SessionId := ⟨BitVec.ofNat 128 n⟩

def val (s : SessionId) : Nat := s.token.toNat

def text (s : SessionId) : String := uuidText s.token

def debugText (s : SessionId) : String := s!"SessionId({s.val})"

theorem val_lt (s : SessionId) : s.val < 2 ^ 128 := s.token.isLt

theorem ofNat_val (s : SessionId) : ofNat s.val = s := by simp [ofNat, val]

theorem val_ofNat {n : Nat} (h : n < 2 ^ 128) : (ofNat n).val = n := by
  simpa [ofNat, val] using h

@[ext] theorem ext_val {a b : SessionId} (h : a.val = b.val) : a = b := by
  rw [← ofNat_val a, ← ofNat_val b, h]

end SessionId

end FrameGateway
