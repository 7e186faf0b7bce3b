import FrameGateway.Cluster.Coordinator
import FrameGateway.Gateway.Basic
import FrameGateway.Proofs.Config.Validation
/-! What can be made of a configuration that the check has found nothing wrong with. Whoever makes something of it
relies on the check for the sizes that are asked for; it bounds queues, but neither the connections nor the span
that it doubles itself (`Config.makes_what_is_checked`). -/

namespace FrameGateway

theorem Duration.exists_twice_iff {d : Duration} : (∃ t, d.twice? = some t) ↔ d.seconds < 2 ^ 63 := by
  have hhalf : 2 * d.nanos < 2 ^ 64 * second ↔ d.seconds < 2 ^ 63 := by
    rw [seconds, second]
    omega
  rw [← hhalf, twice?]
  split_ifs with h
  · simp [h]
  · simp [h]

theorem permits_eq_ok_iff {count n : Nat} : permits count = .ok n ↔ count < 2 ^ 61 ∧ count = n := by
  have hmost : maxPermits = 2 ^ 61 - 1 := by decide
  rw [permits, hmost]
  split_ifs with h
  · rw [Except.ok.injEq]
    omega
  · refine ⟨nofun, fun ⟨hlt, _⟩ => ?_⟩
    omega

/-- Making a gateway aborts for want of permits and for nothing else. -/
theorem Gateway.build_eq_ok_iff {c : Config} {g : Gateway} :
    build c = .ok g ↔ c.server.maxConnections.toNat < 2 ^ 61 ∧ create c = g := by
  rw [build]
  cases hp : FrameGateway.permits c.server.maxConnections.toNat with
  | ok n =>
    obtain ⟨hlt, rfl⟩ := permits_eq_ok_iff.mp hp
    simp only [Except.map, Except.ok.injEq, hlt, true_and]
    rfl
  | error e =>
    refine ⟨nofun, fun ⟨hlt, _⟩ => ?_⟩
    rw [permits_eq_ok_iff.mpr ⟨hlt, rfl⟩] at hp
    cases hp

theorem Outbox.build_eq_ok {capacity : Nat} (h : capacity < 2 ^ 61) : build capacity = .ok (create capacity) := by
  have hlt : max capacity 1 < 2 ^ 61 := by omega
  rw [build, permits_eq_ok_iff.mpr ⟨hlt, rfl⟩]
  rfl

theorem ClusterConfig.exists_problems_iff {c : ClusterConfig} :
    (∃ ps, c.problems = .ok ps) ↔ c.timestampWindow.seconds < 2 ^ 63 := by
  rw [← Duration.exists_twice_iff, problems]
  cases c.timestampWindow.twice? with
  | none => simp
  | some t => simp

namespace Config

variable {c : Config}

theorem exists_problems_iff : (∃ ps, c.problems = .ok ps) ↔ c.cluster.timestampWindow.seconds < 2 ^ 63 := by
  rw [← ClusterConfig.exists_problems_iff, problems]
  cases c.cluster.problems with
  | error e => simp [Except.map]
  | ok ps => simp [Except.map]

/-- The check of a configuration returns exactly if the window of timestamps is shorter than `2 ^ 63` seconds. If it
returns and reports nothing, the gateway can be made exactly if it is to have fewer than `2 ^ 61` connections; queues
of the configured size can be made; and the coordinator starts with nothing in its tables, whatever their limits.
That a coordinator can be made needs no condition: nothing is reserved for its tables in advance, and its limits are
only compared with later on. -/
theorem makes_what_is_checked (c : Config) :
    ((∃ ps, c.problems = .ok ps) ↔ c.cluster.timestampWindow.seconds < 2 ^ 63) ∧
    (c.problems = .ok [] →
      ((∃ g, Gateway.build c = .ok g) ↔ c.server.maxConnections.toNat < 2 ^ 61) ∧
      Outbox.build c.server.queueCapacity.toNat = .ok (.create c.server.queueCapacity.toNat) ∧
      ∀ keys, (Coordinator.create keys c.cluster).nodes.size = 0 ∧
        (Coordinator.create keys c.cluster).seen.size = 0) := by
  refine ⟨exists_problems_iff, fun h => ⟨?_, Outbox.build_eq_ok ?_, fun keys => ⟨rfl, ?_⟩⟩⟩
  · simp [Gateway.build_eq_ok_iff]
  · have hq : c.server.queueCapacity.toNat ≤ 1000000 := (problems_eq_nil_iff.mp h).1.queueLimit
    omega
  · rfl

/-- The most connections that there can be permits for, and one more. -/
theorem makes_what_is_checked_at_the_limit :
    (let c : Config := { server := { maxConnections := 2305843009213693951 } };
      c.problems = .ok [] ∧ ∃ g, Gateway.build c = .ok g) ∧
    (let c : Config := { server := { maxConnections := 2305843009213693952 } };
      c.problems = .ok [] ∧ ¬ ∃ g, Gateway.build c = .ok g) := by
  refine ⟨⟨by decide +kernel, ?_⟩, by decide +kernel, ?_⟩
  · exact (((makes_what_is_checked _).2 (by decide +kernel)).1).mpr (by decide +kernel)
  · rw [((makes_what_is_checked _).2 (by decide +kernel)).1]
    decide +kernel

/-- Neither is the check total nor does it suffice: it aborts for a window of half the longest span, and it finds
nothing wrong with more connections than there can be permits for, which no gateway can be made with. -/
theorem aborts_for_longest_window_and_most_connections :
    (let c : Config := { cluster := { timestampWindow := .ofSeconds (2 ^ 63) } };
      c.problems = .error {}) ∧
    (let c : Config := { server := { maxConnections := 2305843009213693952 } };
      c.problems = .ok [] ∧ Gateway.build c = .error {}) := by
  have hpermits : permits (2305843009213693952 : UInt64).toNat = .error {} := by decide +kernel
  exact ⟨by decide +kernel, by decide +kernel, congrArg (Except.map _) hpermits⟩

end Config

end FrameGateway
