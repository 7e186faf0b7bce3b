import FrameGateway.Proofs.Cluster.Login
import FrameGateway.Proofs.Cluster.Timeline
import FrameGateway.Proofs.Config.Validation
/-! Logins that overlap. A trace keeps the logins that have come to a coordinator, in the order of their
checks, and what they were answered. Along every run the cache knows the nonces that have passed for as
long as time and room allow (`Remembered`), and only fresh logins that have passed succeed (`Inv`). -/

namespace FrameGateway

/-- A login that has come to its checks, and what the clocks read then. -/
structure Checked where
  request : LoginRequest
  /-- milliseconds since 1970 -/
  now : UInt64
  /-- nanoseconds of the steady clock -/
  clock : Nat
  /-- the check of its nonce has let it through -/
  passed : Bool

def Checked.key (x : Checked) : NonceKey := ⟨x.request.machineId, x.request.nonce⟩

/-- A coordinator, the logins that have come to it in the order of their checks, and the answers that it
has given to them, each with the place of its login. -/
structure LoginTrace where
  coordinator : Coordinator
  checked : List Checked
  answers : List (Nat × LoginResponse)

inductive LoginStep where
  /-- a login comes and goes through its checks -/
  | check (request : LoginRequest) (now : UInt64) (clock : Nat)
  /-- a login that has passed them is registered and answered -/
  | register (place : Nat)
  /-- the table of nodes changes otherwise: a node leaves it, or someone who shares it acts -/
  | nodes (table : NodeTable)

/-- What the wall clock and the steady clock read at a step that looks at them. -/
def LoginStep.reading? : LoginStep → Option (UInt64 × Nat)
  | .check _ now clock => some (now, clock)
  | .register _ => none
  | .nodes _ => none

namespace LoginTrace

def create (c : Coordinator) : LoginTrace := ⟨c, [], []⟩

def step (d : LoginTrace) : LoginStep → LoginTrace
  | .check request now clock =>
    match d.coordinator.validate request now clock with
    | (c, .ok ()) => { d with coordinator := c, checked := d.checked ++ [⟨request, now, clock, true⟩] }
    | (c, .error code) =>
      ⟨{ c with counters := c.counters.loginRejected }, d.checked ++ [⟨request, now, clock, false⟩],
        d.answers ++ [(d.checked.length, c.respond request code none)]⟩
  | .register place =>
    match d.checked[place]? with
    | some x =>
      if x.passed ∧ place ∉ d.answers.map (·.1) then
        let (coordinator, r) := d.coordinator.conclude x.request
        { d with coordinator, answers := d.answers ++ [(place, r)] }
      else d
    | none => d
  | .nodes table => { d with coordinator := { d.coordinator with nodes := table } }

def run (d : LoginTrace) (steps : List LoginStep) : LoginTrace := steps.foldl step d

def readings (d : LoginTrace) : List (UInt64 × Nat) := d.checked.map fun x => (x.now, x.clock)

theorem readings_step (d : LoginTrace) (s : LoginStep) :
    (d.step s).readings = d.readings ++ s.reading?.toList := by
  cases s with
  | check request now clock =>
    rw [step]
    rcases d.coordinator.validate request now clock with ⟨c, code | _⟩
    · simp [readings, LoginStep.reading?]
    · simp [readings, LoginStep.reading?]
  | register place =>
    rw [step]
    cases d.checked[place]? with
    | none => simp [LoginStep.reading?]
    | some x =>
      dsimp only
      split_ifs
      · simp [readings, LoginStep.reading?]
      · simp [LoginStep.reading?]
  | nodes table => simp [step, readings, LoginStep.reading?]

theorem readings_run (d : LoginTrace) (steps : List LoginStep) :
    (d.run steps).readings = d.readings ++ steps.filterMap LoginStep.reading? := by
  induction steps generalizing d with
  | nil => exact (List.append_nil _).symm
  | cons s steps ih =>
    refine (ih (d.step s)).trans ?_
    rw [readings_step, List.append_assoc, List.filterMap_cons]
    cases s.reading? with
    | none => rfl
    | some r => rfl

def Accepts (d : LoginTrace) (place : Nat) : Prop := ∃ r, (place, r) ∈ d.answers ∧ r.errorCode = .success

end LoginTrace

/-! ### What the cache remembers -/

def passes (logins : List Checked) : Nat := logins.countP (·.passed)

/-- The cache knows each nonce that has passed for as long as it is younger than `ttl` and fewer than
`capacity` have passed since; so no second login passes with it by then. -/
structure Remembered (ttl capacity : Nat) (checked : List Checked) (l : Timeline) : Prop where
  kept : ∀ before x after, checked = before ++ x :: after → x.passed → passes after < capacity →
    (∀ y ∈ after, y.clock - x.clock < ttl) → l.Keeps x.key x.clock (passes after)
  once : ∀ before x between y after, checked = before ++ x :: (between ++ y :: after) →
    x.passed → y.passed → passes between < capacity →
    (∀ z ∈ between ++ [y], z.clock - x.clock < ttl) → y.key ≠ x.key

namespace Remembered

variable {ttl capacity : Nat} {checked : List Checked} {l : Timeline} {y : Checked}

theorem nil (ttl capacity : Nat) : Remembered ttl capacity [] [] :=
  ⟨by simp, by simp⟩

/-- Where a login stands in a list that has grown by one. -/
theorem concat_eq_append_cons {α : Type} {l before after : List α} {x y : α}
    (h : l ++ [y] = before ++ x :: after) :
    (after = [] ∧ x = y ∧ l = before) ∨ ∃ rest, after = rest ++ [y] ∧ l = before ++ x :: rest := by
  rcases after.eq_nil_or_concat with rfl | ⟨rest, z, rfl⟩
  · obtain ⟨rfl, hxy⟩ := List.append_inj' h rfl
    exact .inl ⟨rfl, (List.singleton_inj.mp hxy).symm, rfl⟩
  · rw [List.concat_eq_append, ← List.cons_append, ← List.append_assoc] at h
    obtain ⟨rfl, hyz⟩ := List.append_inj' h rfl
    obtain rfl := List.singleton_inj.mp hyz
    exact .inr ⟨rest, List.concat_eq_append, rfl⟩

/-- A login that is turned away before its nonce is looked at changes nothing. -/
theorem concat_unseen (h : Remembered ttl capacity checked l) (hy : y.passed = false) :
    Remembered ttl capacity (checked ++ [y]) l := by
  refine ⟨fun before x after he hx hn hlt => ?_, fun before x between z after he hx hz hn hlt => ?_⟩
  · rcases concat_eq_append_cons he with ⟨-, rfl, -⟩ | ⟨rest, rfl, hrest⟩
    · rw [hy] at hx; cases hx
    · have hp : passes (rest ++ [y]) = passes rest := by simp [passes, hy]
      rw [hp] at hn ⊢
      exact h.kept before x rest hrest hx hn fun z hz => hlt z (by simp [hz])
  · rw [← List.cons_append, ← List.append_assoc] at he
    rcases concat_eq_append_cons he with ⟨-, rfl, -⟩ | ⟨rest, rfl, hrest⟩
    · rw [hy] at hz; cases hz
    · rw [List.append_assoc, List.cons_append] at hrest
      exact h.once before x between z rest hrest hx hz hn hlt

theorem concat_check (h : Remembered ttl capacity checked l)
    (hy : y.passed = !(l.check ttl capacity y.clock y.key).2) :
    Remembered ttl capacity (checked ++ [y]) (l.check ttl capacity y.clock y.key).1 := by
  rw [Timeline.check] at hy ⊢
  refine ⟨fun before x after he hx hn hlt => ?_, fun before x between z after he hx hz hn hlt => ?_⟩
  · rcases concat_eq_append_cons he with ⟨rfl, rfl, -⟩ | ⟨rest, rfl, hrest⟩
    · split at hy
      next => rw [hx] at hy; cases hy
      next hnew => rw [if_neg hnew]; exact Timeline.keeps_push ..
    · have hk := fun hn => (h.kept before x rest hrest hx hn fun z hz => hlt z (by simp [hz])).recent
        (hlt y (by simp))
      split at hy
      next hknown =>
        have hp : passes (rest ++ [y]) = passes rest := by simp [passes, hy]
        rw [if_pos hknown]
        rw [hp] at hn ⊢
        exact hk hn
      next hnew =>
        have hp : passes (rest ++ [y]) = passes rest + 1 := by simp [passes, hy]
        rw [if_neg hnew]
        rw [hp] at hn ⊢
        exact (hk (by omega)).push hn y.clock y.key
  · rw [← List.cons_append, ← List.append_assoc] at he
    rcases concat_eq_append_cons he with ⟨rfl, rfl, hold⟩ | ⟨rest, rfl, hrest⟩
    · intro hkey
      have hk := (h.kept before x between hold hx hn fun z hz => hlt z (by simp [hz])).recent
        (hlt z (by simp))
      rw [hkey, if_pos hk.lookup, hz] at hy
      cases hy
    · rw [List.append_assoc, List.cons_append] at hrest
      exact h.once before x between z rest hrest hx hz hn hlt

end Remembered

namespace LoginTrace

variable {d : LoginTrace} {l : Timeline} {ttl window : Duration} {capacity : Nat}

/-- What holds between the logins that have come, the cache and the answers. -/
structure Inv (ttl window : Duration) (capacity : Nat) (d : LoginTrace) (l : Timeline) : Prop where
  knows : d.coordinator.seen.Knows l
  hasTtl : d.coordinator.seen.ttl = ttl
  hasCapacity : d.coordinator.seen.capacity = capacity
  hasWindow : d.coordinator.window = window
  fresh : ∀ x ∈ d.checked, x.passed → isFresh x.request.timestamp x.now window
  answered : ∀ a ∈ d.answers, ∃ x, d.checked[a.1]? = some x ∧ (a.2.errorCode = .success → x.passed)
  remembered : Remembered ttl.nanos capacity d.checked l

/-- An answer stays with its login when another one comes. -/
theorem Inv.answered_concat (h : d.Inv ttl window capacity l) (y : Checked) :
    ∀ a ∈ d.answers, ∃ x, (d.checked ++ [y])[a.1]? = some x ∧ (a.2.errorCode = .success → x.passed) := by
  intro a ha
  obtain ⟨x, hx, hp⟩ := h.answered a ha
  exact ⟨x, by rw [List.getElem?_append_left (List.getElem?_eq_some_iff.mp hx).1, hx], hp⟩

theorem Inv.fresh_concat (h : d.Inv ttl window capacity l) {y : Checked}
    (hy : y.passed → isFresh y.request.timestamp y.now window) :
    ∀ x ∈ d.checked ++ [y], x.passed → isFresh x.request.timestamp x.now window := by
  intro x hx
  rcases List.mem_append.mp hx with hx | hx
  · exact h.fresh x hx
  · rw [List.mem_singleton.mp hx]
    exact hy

theorem Inv.check (h : d.Inv ttl window capacity l) (request : LoginRequest) (now : UInt64)
    (clock : Nat) : ∃ l, (d.step (.check request now clock)).Inv ttl window capacity l := by
  have hrefused : ∀ (c : Coordinator) code, code ≠ .success → ∀ (y : Checked),
      ∀ a ∈ d.answers ++ [(d.checked.length, c.respond request code none)],
        ∃ x, (d.checked ++ [y])[a.1]? = some x ∧ (a.2.errorCode = .success → x.passed) := by
    intro c code hcode y a ha
    rcases List.mem_append.mp ha with ha | ha
    · exact h.answered_concat y a ha
    · rw [List.mem_singleton.mp ha]
      exact ⟨y, List.getElem?_concat_length, fun hs => absurd hs hcode⟩
  rcases d.coordinator.validate_cases request now clock with ⟨code, hcode, hv⟩ | ⟨hf, hv⟩
  · refine ⟨l, ?_⟩
    rw [step, hv]
    exact ⟨h.knows, h.hasTtl, h.hasCapacity, h.hasWindow, h.fresh_concat nofun, hrefused _ code hcode _,
      h.remembered.concat_unseen rfl⟩
  · obtain ⟨hk, hr, ht, hc⟩ := h.knows.check clock request.machineId request.nonce
    rw [h.hasTtl, h.hasCapacity] at hk hr
    rw [h.hasWindow] at hf
    have hnew : ∀ b, (d.coordinator.seen.check clock request.machineId request.nonce).2 = !b →
        Remembered ttl.nanos capacity (d.checked ++ [⟨request, now, clock, b⟩])
          (l.check ttl.nanos capacity clock ⟨request.machineId, request.nonce⟩).1 := by
      intro b hb
      refine h.remembered.concat_check (y := ⟨request, now, clock, b⟩) ?_
      dsimp only [Checked.key]
      rw [← hr, hb, Bool.not_not]
    refine ⟨(l.check ttl.nanos capacity clock ⟨request.machineId, request.nonce⟩).1, ?_⟩
    rw [step, hv]
    cases hseen : (d.coordinator.seen.check clock request.machineId request.nonce).2 with
    | true =>
      exact ⟨hk, ht.trans h.hasTtl, hc.trans h.hasCapacity, h.hasWindow, h.fresh_concat nofun,
        hrefused _ .replayDetected (by decide) _, hnew false hseen⟩
    | false =>
      exact ⟨hk, ht.trans h.hasTtl, hc.trans h.hasCapacity, h.hasWindow, h.fresh_concat fun _ => hf,
        h.answered_concat _, hnew true hseen⟩

theorem Inv.register (h : d.Inv ttl window capacity l) (place : Nat) :
    (d.step (.register place)).Inv ttl window capacity l := by
  rw [step]
  cases hx : d.checked[place]? with
  | none => exact h
  | some x =>
    by_cases hp : x.passed ∧ place ∉ d.answers.map (·.1)
    · dsimp only
      rw [if_pos hp]
      have hans : ∀ r, ∀ a ∈ d.answers ++ [(place, r)],
          ∃ x, d.checked[a.1]? = some x ∧ (a.2.errorCode = .success → x.passed) := by
        intro r a ha
        rcases List.mem_append.mp ha with ha | ha
        · exact h.answered a ha
        · rw [List.mem_singleton.mp ha]
          exact ⟨x, hx, fun _ => hp.1⟩
      rw [Coordinator.conclude]
      rcases d.coordinator.nodes.register _ _ _ with ⟨nodes, e | id⟩
      · exact ⟨h.knows, h.hasTtl, h.hasCapacity, h.hasWindow, h.fresh, hans _, h.remembered⟩
      · exact ⟨h.knows, h.hasTtl, h.hasCapacity, h.hasWindow, h.fresh, hans _, h.remembered⟩
    · dsimp only
      rw [if_neg hp]
      exact h

theorem Inv.step (h : d.Inv ttl window capacity l) (s : LoginStep) :
    ∃ l, (d.step s).Inv ttl window capacity l := by
  cases s with
  | check request now clock => exact h.check request now clock
  | register place => exact ⟨l, h.register place⟩
  | nodes table =>
    exact ⟨l, h.knows, h.hasTtl, h.hasCapacity, h.hasWindow, h.fresh, h.answered, h.remembered⟩

theorem Inv.run (h : d.Inv ttl window capacity l) (steps : List LoginStep) :
    ∃ l, (d.run steps).Inv ttl window capacity l := by
  induction steps generalizing d l with
  | nil => exact ⟨l, h⟩
  | cons s steps ih =>
    obtain ⟨l, hs⟩ := h.step s
    exact ih hs

/-- A coordinator at its start, whatever its signatures are checked with and whoever shares its nodes. -/
theorem inv_create {config : ClusterConfig} (h : config.Valid) (keys : KeyPair) (verifier : Verifier)
    (nodes : NodeTable) :
    (create { Coordinator.create keys config with verifier, nodes }).Inv config.replayTtl
      config.timestampWindow config.replayCapacity.toNat [] := by
  have hc : config.replayCapacity.toNat ≠ 0 := fun h0 => h.replayCapacity (UInt64.toNat_inj.mp h0)
  refine ⟨ReplayCache.knows_create .., rfl, ?_, rfl, nofun, nofun, .nil ..⟩
  exact Nat.max_eq_left (Nat.one_le_iff_ne_zero.mpr hc)

/-- A login that is answered before the next one comes is a call of `Coordinator.login`. -/
theorem Inv.login (h : d.Inv ttl window capacity l) (request : LoginRequest) (now : UInt64)
    (clock : Nat) :
    let e := (d.step (.check request now clock)).step (.register d.checked.length)
    e.coordinator = (d.coordinator.login request now clock).1 ∧
      e.answers = d.answers ++ [(d.checked.length, (d.coordinator.login request now clock).2)] := by
  have hnew : d.checked.length ∉ d.answers.map (·.1) := by
    intro hm
    obtain ⟨a, ha, he⟩ := List.mem_map.mp hm
    obtain ⟨x, hx, -⟩ := h.answered a ha
    rw [he, List.getElem?_eq_none (Nat.le_refl _)] at hx
    cases hx
  rw [Coordinator.login_eq]
  rcases hv : d.coordinator.validate request now clock with ⟨c, code | _⟩
  · simp [LoginTrace.step, hv]
  · simp [LoginTrace.step, hv, hnew]

end LoginTrace

end FrameGateway
