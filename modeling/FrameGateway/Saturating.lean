/-! Arithmetic on 64-bit words that stops at the ends of their range. -/

namespace FrameGateway.Saturating

def add (a b : UInt64) : UInt64 := if a + b < a then .ofNat (2 ^ 64 - 1) else a + b

def sub (a b : UInt64) : UInt64 := if a < b then 0 else a - b

theorem toNat_add (a b : UInt64) : (add a b).toNat = min (a.toNat + b.toNat) (2 ^ 64 - 1) := by
  have ha := a.toNat_lt
  have hb := b.toNat_lt
  unfold add
  split <;> rename_i h <;> rw [UInt64.lt_iff_toNat_lt, UInt64.toNat_add] at h
  · simp
    omega
  · rw [UInt64.toNat_add]
    omega

theorem toNat_sub (a b : UInt64) : (sub a b).toNat = a.toNat - b.toNat := by
  unfold sub
  split <;> rename_i h <;> rw [UInt64.lt_iff_toNat_lt] at h
  · simp
    omega
  · rw [UInt64.toNat_sub_of_le _ _ (by rw [UInt64.le_iff_toNat_le]; omega)]

end FrameGateway.Saturating
