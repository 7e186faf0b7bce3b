import FrameGateway.Duration
import FrameGateway.Saturating
/-! Which signed timestamps a clock accepts, in milliseconds since 1970. -/

namespace FrameGateway

def futureTolerance : UInt64 := 2000

def isFresh (timestamp now : UInt64) (maxAge : Duration) : Bool :=
  timestamp ≤ Saturating.add now futureTolerance && Saturating.sub now timestamp ≤ maxAge.millisWord

theorem isFresh_iff {timestamp now : UInt64} {maxAge : Duration} :
    isFresh timestamp now maxAge ↔ timestamp.toNat ≤ now.toNat + 2000 ∧
      now.toNat - timestamp.toNat ≤ maxAge.millis % 2 ^ 64 := by
  have ht := timestamp.toNat_lt
  have hm : maxAge.millisWord.toNat = maxAge.millis % 2 ^ 64 := UInt64.toNat_ofNat'
  simp only [isFresh, Bool.and_eq_true, decide_eq_true_eq, UInt64.le_iff_toNat_le,
    Saturating.toNat_add, Saturating.toNat_sub, hm]
  have hf : futureTolerance.toNat = 2000 := rfl
  omega

end FrameGateway
