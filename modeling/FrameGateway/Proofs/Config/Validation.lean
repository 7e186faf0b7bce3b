import FrameGateway.Config.Settings
import Mathlib.Tactic.Common
/-! What a configuration without problems promises. -/

namespace FrameGateway

theorem when_eq_nil_iff {b : Bool} {p : Problem} : when b p = [] ↔ b = false := by
  cases b <;> simp [when]

structure ClusterConfig.Valid (c : ClusterConfig) : Prop where
  address : Address.isSocketAddress c.coordinatorAddress = true
  loginTimeout : c.loginTimeout.nanos ≠ 0
  maxNodes : c.maxNodes ≠ 0
  window : c.timestampWindow.nanos ≠ 0
  replayTtl : 2 * c.timestampWindow.nanos ≤ c.replayTtl.nanos
  replayCapacity : c.replayCapacity ≠ 0

/-- The check finds nothing exactly where all promises are kept. It aborts only where the time to live
cannot reach twice the window. -/
theorem ClusterConfig.problems_eq_nil_iff {c : ClusterConfig} : c.problems = .ok [] ↔ c.Valid := by
  by_cases h : 2 * c.timestampWindow.nanos < 2 ^ 64 * second
  · rw [problems, Duration.twice?, dif_pos h]
    simp only [Except.ok.injEq, List.append_eq_nil_iff, when_eq_nil_iff, Bool.not_eq_false',
      beq_eq_false_iff_ne, decide_eq_false_iff_not, Nat.not_lt]
    constructor
    · rintro ⟨⟨⟨⟨⟨ha, hl⟩, hm⟩, hw⟩, ht⟩, hc⟩
      exact ⟨ha, hl, hm, hw, ht, hc⟩
    · rintro ⟨ha, hl, hm, hw, ht, hc⟩
      exact ⟨⟨⟨⟨⟨ha, hl⟩, hm⟩, hw⟩, ht⟩, hc⟩
  · rw [problems, Duration.twice?, dif_neg h]
    refine ⟨nofun, fun hv => ?_⟩
    have := hv.replayTtl
    have := c.replayTtl.bounded
    omega

structure ServerConfig.Valid (c : ServerConfig) : Prop where
  named : c.address ≠ ""
  address : Address.isSocketAddress c.address = true
  connections : c.maxConnections ≠ 0
  queue : c.queueCapacity ≠ 0
  queueLimit : c.queueCapacity ≤ 1000000
  idleTimeout : 100 ≤ c.idleTimeout.millis
  shutdownTimeout : c.shutdownTimeout.seconds ≤ 60
  connectTimeout : 10 ≤ c.connectTimeout.millis

theorem ServerConfig.problems_eq_nil_iff {c : ServerConfig} : c.problems = [] ↔ c.Valid := by
  have haddress : (if c.address.isEmpty then [Problem.emptyAddress]
      else when (!Address.isSocketAddress c.address) (.badAddress c.address)) = [] ↔
      c.address ≠ "" ∧ Address.isSocketAddress c.address = true := by
    split <;> simp_all [when_eq_nil_iff]
  have hqueue : (if c.queueCapacity == 0 then [Problem.noQueue]
      else when (c.queueCapacity > 1000000) (.hugeQueue c.queueCapacity)) = [] ↔
      c.queueCapacity ≠ 0 ∧ c.queueCapacity ≤ 1000000 := by
    split <;> simp_all [when_eq_nil_iff]
  simp only [problems, List.append_eq_nil_iff, haddress, hqueue, when_eq_nil_iff, beq_eq_false_iff_ne,
    decide_eq_false_iff_not, Nat.not_lt, gt_iff_lt]
  constructor
  · rintro ⟨⟨⟨⟨⟨⟨hn, ha⟩, hm⟩, hq, hl⟩, hi⟩, hs⟩, hc⟩
    exact ⟨hn, ha, hm, hq, hl, hi, hs, hc⟩
  · rintro ⟨hn, ha, hm, hq, hl, hi, hs, hc⟩
    exact ⟨⟨⟨⟨⟨⟨hn, ha⟩, hm⟩, hq, hl⟩, hi⟩, hs⟩, hc⟩

theorem Config.problems_eq_nil_iff {c : Config} :
    c.problems = .ok [] ↔ c.server.Valid ∧ c.cluster.Valid ∧ c.logging.problems = [] := by
  rw [← ServerConfig.problems_eq_nil_iff, ← ClusterConfig.problems_eq_nil_iff, problems]
  cases c.cluster.problems with
  | error e => simp [Except.map]
  | ok ps => simp [Except.map]

end FrameGateway
