import FrameGateway.Proofs.Cluster.Calls
/-! Which logins are called stale. The window is counted in whole milliseconds and cut to a word of 64 bits, so
that what counts is its remainder: a coordinator keeps its promise for windows that fit into the word, and calls
requests stale that are within a longer one (`Coordinator.stale_iff`). -/

namespace FrameGateway

/-- More than two seconds ahead of the clock, or more than the window behind it, in milliseconds. -/
def OutOfTime (timestamp now : UInt64) (window : Nat) : Prop :=
  (2000 : Int) < timestamp.toNat - now.toNat ∨ (window : Int) < now.toNat - timestamp.toNat

variable {timestamp now : UInt64} {v w : Nat}

theorem isFresh_eq_false_iff {maxAge : Duration} :
    isFresh timestamp now maxAge = false ↔ OutOfTime timestamp now (maxAge.millis % 2 ^ 64) := by
  rw [← Bool.not_eq_true, isFresh_iff, OutOfTime]
  omega

theorem OutOfTime.of_le (h : OutOfTime timestamp now w) (hle : v ≤ w) : OutOfTime timestamp now v := by
  rw [OutOfTime] at h ⊢
  omega

/-- No age is past what a clock can show; up to there windows of different lengths are told apart. -/
theorem forall_outOfTime_iff :
    (∀ timestamp now, OutOfTime timestamp now w → OutOfTime timestamp now v) ↔
      min v (2 ^ 64 - 1) ≤ min w (2 ^ 64 - 1) := by
  constructor
  · intro h
    by_contra hlt
    -- a request that is one millisecond older than the shorter window
    have hword : w + 1 < 2 ^ 64 := by omega
    have hold : (UInt64.ofNat (w + 1)).toNat = w + 1 := UInt64.toNat_ofNat_of_lt' hword
    have hzero : (0 : UInt64).toNat = 0 := rfl
    have hin := h 0 (.ofNat (w + 1))
    rw [OutOfTime, OutOfTime, hold, hzero] at hin
    omega
  · intro hle timestamp now h
    have hnow := now.toNat_lt
    rw [OutOfTime] at h ⊢
    omega

namespace Coordinator

variable {c : Coordinator} {a : Arrival}

theorem errorCode_eq_staleRequest_iff :
    (c.handle a).2.errorCode = .staleRequest ↔ isFresh a.request.timestamp a.now c.window = false := by
  rw [errorCode_handle]
  cases hf : isFresh a.request.timestamp a.now c.window with
  | false => simp [objections, hf]
  | true =>
    -- no later check calls a request stale
    have hmem : .staleRequest ∉ c.objections a := by
      simp only [objections, hf, if_true, List.nil_append, List.mem_append, not_or]
      refine ⟨?_, ?_, ?_, ?_⟩
      · rcases c.verifier a.request.publicKey a.request.payload a.request.signature with e | _
        · cases e <;> simp
        · simp
      · split_ifs <;> simp
      · split_ifs <;> simp
      · split_ifs <;> simp
    refine iff_of_false (fun hs => hmem ?_) (by simp)
    cases ho : c.objections a with
    | nil => rw [ho] at hs; cases hs
    | cons code codes => rw [ho] at hs; exact hs ▸ List.mem_cons_self

theorem window_answer (c : Coordinator) (call : ClusterCall) : (c.answer call).1.window = c.window := by
  cases call with
  | login a => exact (c.judgement_handle a).2.2
  | unregister id => rfl
  | query request => rfl

theorem window_after (c : Coordinator) (calls : List ClusterCall) : (c.after calls).window = c.window := by
  induction calls generalizing c with
  | nil => rfl
  | cons call calls ih => exact (ih _).trans (c.window_answer call)

/-- A login at a coordinator with that window, whatever has been asked of it before. -/
theorem stale_after_iff {calls : List ClusterCall} : ((c.after calls).handle a).2.errorCode = .staleRequest ↔
    OutOfTime a.request.timestamp a.now (c.window.millis % 2 ^ 64) := by
  rw [errorCode_eq_staleRequest_iff, window_after, isFresh_eq_false_iff]

/-- A login that bears the timestamp, at a moment when the clock shows the other number. -/
def arrivalAt (timestamp now : UInt64) : Arrival := ⟨{ (default : LoginRequest) with timestamp }, now, 0⟩

/-- Whatever has been asked of a coordinator before, it calls a request stale exactly if the timestamp is more than
two seconds ahead of the clock, or the clock ahead of it by more than what is left of the window's milliseconds when
multiples of `2 ^ 64` are dropped. This is the window itself for all requests exactly if nothing is dropped, or if
what is left is the longest age that there is. A wider window that fits into a word calls no request stale that a
narrower one lets pass. -/
theorem stale_iff (keys : KeyPair) (config : ClusterConfig) (verifier : Verifier) (calls : List ClusterCall) :
    let c := { Coordinator.create keys config with verifier }.after calls
    let window := config.timestampWindow.millis
    (∀ a, (c.handle a).2.errorCode = .staleRequest ↔ OutOfTime a.request.timestamp a.now (window % 2 ^ 64)) ∧
    ((∀ a, (c.handle a).2.errorCode = .staleRequest ↔ OutOfTime a.request.timestamp a.now window) ↔
      window < 2 ^ 64 ∨ window % 2 ^ 64 = 2 ^ 64 - 1) ∧
    ∀ (wider : ClusterConfig) (calls' : List ClusterCall),
      config.timestampWindow.nanos ≤ wider.timestampWindow.nanos → wider.timestampWindow.millis < 2 ^ 64 →
      let d := { Coordinator.create keys wider with verifier }.after calls'
      ∀ a, (d.handle a).2.errorCode = .staleRequest → (c.handle a).2.errorCode = .staleRequest := by
  intro c window
  have hstale : ∀ a, (c.handle a).2.errorCode = .staleRequest ↔
      OutOfTime a.request.timestamp a.now (window % 2 ^ 64) := fun a => stale_after_iff
  have hmod : window % 2 ^ 64 ≤ window := Nat.mod_le ..
  have hlt : window % 2 ^ 64 < 2 ^ 64 := Nat.mod_lt _ (by decide)
  refine ⟨hstale, ⟨fun h => ?_, fun h a => ?_⟩, ?_⟩
  · have hall : ∀ timestamp now, OutOfTime timestamp now (window % 2 ^ 64) → OutOfTime timestamp now window :=
      fun timestamp now ho => (h (arrivalAt timestamp now)).mp ((hstale _).mpr ho)
    have := forall_outOfTime_iff.mp hall
    omega
  · rw [hstale]
    refine ⟨forall_outOfTime_iff.mpr ?_ _ _, fun ho => ho.of_le hmod⟩
    rcases h with hw | hw
    · exact Nat.le_of_eq (by rw [Nat.mod_eq_of_lt hw])
    · omega
  · intro wider calls' hle hfits d a hd
    have hmono : window ≤ wider.timestampWindow.millis := Nat.div_le_div_right hle
    have ho : OutOfTime a.request.timestamp a.now (wider.timestampWindow.millis % 2 ^ 64) := stale_after_iff.mp hd
    rw [Nat.mod_eq_of_lt hfits] at ho
    exact (hstale a).mpr (ho.of_le (Nat.le_trans hmod hmono))

/-- A request that is a minute old is not let pass by half a minute either. -/
theorem stale_iff_in_a_minute :
    let half : ClusterConfig := {}
    let minute : ClusterConfig := { timestampWindow := .ofSeconds 60 }
    let start (config : ClusterConfig) := Coordinator.create ⟨[], 0, [], []⟩ config
    half.timestampWindow.nanos ≤ minute.timestampWindow.nanos ∧ minute.timestampWindow.millis < 2 ^ 64 ∧
      ((start minute).handle (arrivalAt 10000 70001)).2.errorCode = .staleRequest ∧
      (((start half).after [.login (arrivalAt 0 0)]).handle (arrivalAt 10000 70001)).2.errorCode = .staleRequest := by
  intro half minute start
  have hle : half.timestampWindow.nanos ≤ minute.timestampWindow.nanos := by decide
  have hfits : minute.timestampWindow.millis < 2 ^ 64 := by decide
  have hstale : ((start minute).handle (arrivalAt 10000 70001)).2.errorCode = .staleRequest :=
    errorCode_eq_staleRequest_iff.mpr (by decide)
  obtain ⟨-, -, hwider⟩ := stale_iff ⟨[], 0, [], []⟩ half Ed25519.verify [.login (arrivalAt 0 0)]
  exact ⟨hle, hfits, hstale, hwider minute [] hle hfits (arrivalAt 10000 70001) hstale⟩

/-- The shortest window that does not fit into a word. -/
def windowPastWord : ClusterConfig := { timestampWindow := .ofMillis (2 ^ 64), replayTtl := .ofMillis (2 ^ 65) }

/-- Nothing is wrong with such a window, and yet a request that is a millisecond old is called stale. -/
theorem young_request_called_stale : ¬∀ config : ClusterConfig, config.problems = .ok [] →
    ∀ keys calls a, (((create keys config).after calls).handle a).2.errorCode = .staleRequest ↔
      OutOfTime a.request.timestamp a.now config.timestampWindow.millis := by
  intro h
  have hp : windowPastWord.problems = .ok [] := by decide +kernel
  have hin : ¬OutOfTime 10000 10001 windowPastWord.timestampWindow.millis := by
    rw [OutOfTime]
    decide +kernel
  have hout : OutOfTime 10000 10001 (windowPastWord.timestampWindow.millis % 2 ^ 64) := .inr (by decide +kernel)
  exact hin ((h windowPastWord hp ⟨[], 0, [], []⟩ [] (arrivalAt 10000 10001)).mp (stale_after_iff.mpr hout))

end Coordinator

end FrameGateway
