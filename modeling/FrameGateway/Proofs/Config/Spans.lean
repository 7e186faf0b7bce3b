import FrameGateway.Config.Settings
import Mathlib.Tactic.Common
/-! The spans of time in a configuration, and what is left of them in whole milliseconds. -/

namespace FrameGateway

namespace Duration

variable {d e : Duration} {n : Nat}

theorem eq_of_nanos (h : d.nanos = e.nanos) : d = e := by
  cases d
  cases e
  congr

/-- The span without its part below a millisecond. -/
def trimmed (d : Duration) : Duration :=
  ⟨1000000 * d.millis, Nat.lt_of_le_of_lt (Nat.mul_div_le ..) d.bounded⟩

@[simp] theorem nanos_trimmed (d : Duration) : d.trimmed.nanos = 1000000 * d.millis := rfl

@[simp] theorem millis_trimmed (d : Duration) : d.trimmed.millis = d.millis :=
  Nat.mul_div_cancel_left _ (by decide)

theorem nanos_ofMillis (h : n < 2 ^ 64) : (ofMillis n).nanos = 1000000 * n := by
  have hlt : 1000000 * n < 2 ^ 64 * second := by
    rw [second]
    omega
  rw [ofMillis, ofNanos, dif_pos hlt]

theorem millis_ofMillis (h : n < 2 ^ 64) : (ofMillis n).millis = n := by
  rw [millis, nanos_ofMillis h, Nat.mul_div_cancel_left _ (by decide)]

theorem ofMillis_millis (h : d.millis < 2 ^ 64) : ofMillis d.millis = d.trimmed :=
  eq_of_nanos (nanos_ofMillis h)

/-- Whole milliseconds, as many as a word holds. -/
def Whole (d : Duration) : Prop := d.trimmed = d ∧ d.millis < 2 ^ 64

instance (d : Duration) : Decidable d.Whole := inferInstanceAs (Decidable (_ ∧ _))

theorem Whole.ofMillis_millis (h : d.Whole) : ofMillis d.millis = d := (Duration.ofMillis_millis h.2).trans h.1

theorem whole_ofMillis (h : n < 2 ^ 64) : (ofMillis n).Whole := by
  refine ⟨eq_of_nanos ?_, by rwa [millis_ofMillis h]⟩
  rw [nanos_trimmed, millis_ofMillis h, nanos_ofMillis h]

end Duration

def Config.spans (c : Config) : List Duration :=
  [c.server.idleTimeout, c.server.shutdownTimeout, c.server.connectTimeout, c.cluster.loginTimeout,
    c.cluster.timestampWindow, c.cluster.replayTtl]

/-- The same configuration but for its spans of time, each replaced by what `f` makes of it. -/
def Config.mapSpans (f : Duration → Duration) (c : Config) : Config where
  server := { c.server with
    idleTimeout := f c.server.idleTimeout
    shutdownTimeout := f c.server.shutdownTimeout
    connectTimeout := f c.server.connectTimeout }
  codec := c.codec
  cluster := { c.cluster with
    loginTimeout := f c.cluster.loginTimeout
    timestampWindow := f c.cluster.timestampWindow
    replayTtl := f c.cluster.replayTtl }
  logging := c.logging

theorem Config.mapSpans_eq_iff {f g : Duration → Duration} {c : Config} :
    c.mapSpans f = c.mapSpans g ↔ ∀ d ∈ c.spans, f d = g d := by
  simp only [mapSpans, spans, Config.mk.injEq, ServerConfig.mk.injEq, ClusterConfig.mk.injEq,
    List.forall_mem_cons, List.not_mem_nil, false_imp_iff, implies_true, true_and, and_true]
  tauto

end FrameGateway
