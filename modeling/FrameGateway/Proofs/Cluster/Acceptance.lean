import FrameGateway.Proofs.Cluster.Trace
/-! No login is accepted twice. A nonce is known for the cache's span of time, and a timestamp is fresh for
the window and two seconds more; so a login gets in again exactly where the first span does not cover
the second (`accepted_once`). -/

namespace FrameGateway.LoginTrace

variable {d : LoginTrace} {l : Timeline} {ttl window : Duration} {capacity : Nat}

/-- The clocks never go back, and they go in step: the wall clock shows the whole milliseconds of the
steady one, counted from some origin. -/
def InStep (readings : List (UInt64 × Nat)) : Prop :=
  (∃ origin, ∀ r ∈ readings, r.1.toNat = (origin + r.2) / 1000000) ∧ readings.Pairwise (·.2 ≤ ·.2)

/-- Two logins under one nonce and timestamp got in, and fewer than `capacity` others passed in between. -/
def AcceptedTwice (d : LoginTrace) (capacity : Nat) : Prop :=
  ∃ before x between y after, d.checked = before ++ x :: (between ++ y :: after) ∧ y.key = x.key ∧
    y.request.timestamp = x.request.timestamp ∧ passes between < capacity ∧
    d.Accepts before.length ∧ d.Accepts (before.length + 1 + between.length)

/-- The most that lies between two moments at which one timestamp is fresh: from two seconds ahead of
it to the last nanosecond of the window behind it. -/
theorem Inv.clock_sub_lt (h : d.Inv ttl window capacity l) (hstep : InStep d.readings) {x y z : Checked}
    (hx : x ∈ d.checked) (hy : y ∈ d.checked) (hxp : x.passed) (hyp : y.passed)
    (ht : y.request.timestamp = x.request.timestamp) (hz : z.clock ≤ y.clock) :
    z.clock - x.clock < 1000000 * (window.millis + 2001) := by
  obtain ⟨⟨origin, ho⟩, -⟩ := hstep
  have hxf := (isFresh_iff.mp (h.fresh x hx hxp)).1
  have hyf := (isFresh_iff.mp (h.fresh y hy hyp)).2
  have hm := Nat.mod_le window.millis (2 ^ 64)
  rw [ho _ (List.mem_map_of_mem hx)] at hxf
  rw [ho _ (List.mem_map_of_mem hy), ht] at hyf
  dsimp only at hxf hyf
  omega

theorem Inv.passed_of_accepts (h : d.Inv ttl window capacity l) {before after : List Checked}
    {x : Checked} (he : d.checked = before ++ x :: after) (ha : d.Accepts before.length) : x.passed := by
  obtain ⟨r, hm, hs⟩ := ha
  obtain ⟨x', hx', hp⟩ := h.answered _ hm
  rw [he, List.getElem?_append_right (Nat.le_refl _), Nat.sub_self, List.getElem?_cons_zero] at hx'
  exact Option.some.inj hx' ▸ hp hs

theorem Inv.not_acceptedTwice (h : d.Inv ttl window capacity l) (hstep : InStep d.readings)
    (httl : 1000000 * (window.millis + 2001) ≤ ttl.nanos) : ¬d.AcceptedTwice capacity := by
  rintro ⟨before, x, between, y, after, he, hkey, ht, hn, hxa, hya⟩
  have hxp := h.passed_of_accepts he hxa
  have he' : d.checked = (before ++ x :: between) ++ y :: after := by
    rw [he, List.append_assoc, List.cons_append]
  have hplace : before.length + 1 + between.length = (before ++ x :: between).length := by
    rw [List.length_append, List.length_cons]
    omega
  have hyp := h.passed_of_accepts he' (hplace ▸ hya)
  refine h.remembered.once before x between y after he hxp hyp hn (fun z hz => ?_) hkey
  have hle : z.clock ≤ y.clock := by
    have hp := List.pairwise_map.mp hstep.2
    rw [he, List.pairwise_append, List.pairwise_cons, List.pairwise_append] at hp
    rcases List.mem_append.mp hz with hz | hz
    · exact hp.2.1.2.2.2 z hz y (by simp)
    · exact Nat.le_of_eq (congrArg Checked.clock (List.mem_singleton.mp hz))
  have := h.clock_sub_lt hstep (by simp [he]) (by simp [he]) hxp hyp ht hle
  omega

/-- A login that passes its checks and is registered at once. -/
theorem step_check_register {request : LoginRequest} {now : UInt64} {clock : Nat} {nodes : NodeTable}
    {id : NodeId} (hf : isFresh request.timestamp now d.coordinator.window)
    (hv : d.coordinator.verifier request.publicKey request.payload request.signature = .ok ())
    (hs : (d.coordinator.seen.check clock request.machineId request.nonce).2 = false)
    (hr : d.coordinator.nodes.register request.machineId request.publicKey request.services =
      (nodes, .ok id))
    (hp : d.checked.length ∉ d.answers.map (·.1)) :
    ∃ counters answer, answer.errorCode = .success ∧
      (d.step (.check request now clock)).step (.register d.checked.length) =
        ⟨{ d.coordinator with
            nodes, counters
            seen := (d.coordinator.seen.check clock request.machineId request.nonce).1 },
          d.checked ++ [⟨request, now, clock, true⟩], d.answers ++ [(d.checked.length, answer)]⟩ := by
  have hval := Coordinator.validate_of_fresh hf hv clock
  rw [hs, if_neg Bool.false_ne_true] at hval
  have hc : d.step (.check request now clock) =
      { d with
        coordinator.seen := (d.coordinator.seen.check clock request.machineId request.nonce).1
        checked := d.checked ++ [⟨request, now, clock, true⟩] } := by
    rw [step, hval]
  refine ⟨d.coordinator.counters.loginAccepted, d.coordinator.respond request .success (some id), rfl, ?_⟩
  rw [hc, step]
  simp only [List.getElem?_concat_length, hp, not_false_eq_true, and_self, if_true, Coordinator.conclude, hr]
  rfl

/-- A login as soon as its timestamp is fresh. -/
def early (request : LoginRequest) : Checked :=
  ⟨request, .ofNat (request.timestamp.toNat - 2000), 1000000 * (request.timestamp.toNat - 2000), true⟩

/-- A login in the last nanosecond in which its timestamp is fresh. -/
def late (request : LoginRequest) (window : Duration) : Checked :=
  ⟨request, .ofNat (request.timestamp.toNat + window.millis),
    1000000 * (request.timestamp.toNat + window.millis) + 999999, true⟩

/-- A client logs in with one request, early and late. -/
def loginTwice (request : LoginRequest) (window : Duration) : List LoginStep :=
  [.check request (early request).now (early request).clock, .register 0,
    .check request (late request window).now (late request window).clock, .register 1]

section LoginTwice

variable {request : LoginRequest} {window : Duration}

theorem toNat_early (request : LoginRequest) : (early request).now.toNat = request.timestamp.toNat - 2000 :=
  UInt64.toNat_ofNat_of_lt' (Nat.lt_of_le_of_lt (Nat.sub_le ..) request.timestamp.toNat_lt)

theorem toNat_late (h : request.timestamp.toNat + window.millis < 2 ^ 64) :
    (late request window).now.toNat = request.timestamp.toNat + window.millis :=
  UInt64.toNat_ofNat_of_lt' h

/-- If the cache has forgotten the nonce by the second login, both get in. -/
theorem run_loginTwice (request : LoginRequest) {c : Coordinator} {n : Nat} (hseen : c.seen.Knows [])
    (hnodes : c.nodes = .create n) (hn : n ≠ 0)
    (hv : c.verifier request.publicKey request.payload request.signature = .ok ())
    (hlo : 2000 ≤ request.timestamp.toNat)
    (hhi : request.timestamp.toNat + c.window.millis < 2 ^ 64)
    (httl : c.seen.ttl.nanos < 1000000 * (c.window.millis + 2001)) :
    ∃ d r₁ r₂, r₁.errorCode = .success ∧ r₂.errorCode = .success ∧
      (create c).run (loginTwice request c.window) =
        ⟨d, [early request, late request c.window], [(0, r₁), (1, r₂)]⟩ := by
  obtain ⟨keys, verifier, nodes, seen, window, counters⟩ := c
  dsimp only at hseen hnodes hv hhi httl ⊢
  subst hnodes
  have hw : window.millis % 2 ^ 64 = window.millis := Nat.mod_eq_of_lt (by omega)
  have hearly := toNat_early request
  have hlate := toNat_late hhi
  -- the first login meets an empty cache and an empty table
  obtain ⟨hk, hs, ht, -⟩ := hseen.check (early request).clock request.machineId request.nonce
  rw [Timeline.check_of_recent_eq_nil rfl] at hk hs
  obtain ⟨counters₁, r₁, hr₁, hfirst⟩ := step_check_register
    (d := create ⟨keys, verifier, .create n, seen, window, counters⟩)
    (isFresh_iff.mpr (by rw [hearly]; omega)) hv hs
    (NodeTable.register_of_none rfl (Nat.pos_of_ne_zero hn)) List.not_mem_nil
  -- the second one meets the first one's node, and a nonce that is too old
  dsimp only [create, List.length_nil, List.nil_append] at hfirst
  generalize (seen.check (early request).clock request.machineId request.nonce).1 = seen₁ at hk ht hfirst
  obtain ⟨-, hs, -, -⟩ := hk.check (late request window).clock request.machineId request.nonce
  rw [Timeline.check_of_recent_eq_nil] at hs
  · obtain ⟨counters₂, r₂, hr₂, hsecond⟩ := step_check_register
      (d := ⟨⟨keys, verifier, ((NodeTable.create n).enter request.machineId request.publicKey
        request.services).1, seen₁, window, counters₁⟩, [early request], [(0, r₁)]⟩)
      (isFresh_iff.mpr (by rw [hlate]; dsimp only; omega)) hv hs
      (NodeTable.register_of_some (r := ⟨⟨1⟩, request.machineId, request.publicKey, request.services⟩)
        (by simp [NodeTable.enter, NodeTable.create, NodeTable.nodeOf?, NodeTable.get?]) rfl) (by simp)
    refine ⟨_, r₁, r₂, hr₁, hr₂, Eq.trans ?_ hsecond⟩
    simp only [run, loginTwice, create, List.foldl_cons, List.foldl_nil]
    rw [hfirst]
    rfl
  · have hold : seen₁.ttl.nanos ≤ (late request window).clock - (early request).clock := by
      rw [ht, late, early]
      dsimp only
      omega
    rw [Timeline.recent, List.dropWhile_cons, if_pos (by simpa using hold), List.dropWhile_nil]

theorem inStep_loginTwice (hhi : request.timestamp.toNat + window.millis < 2 ^ 64) :
    InStep ((loginTwice request window).filterMap LoginStep.reading?) := by
  have hr : (loginTwice request window).filterMap LoginStep.reading? =
      [((early request).now, (early request).clock),
        ((late request window).now, (late request window).clock)] := by
    simp only [loginTwice, List.filterMap_cons, List.filterMap_nil, LoginStep.reading?]
  rw [hr]
  refine ⟨⟨0, fun r h => ?_⟩, ?_⟩
  · rcases List.mem_cons.mp h with rfl | h
    · rw [toNat_early, early]
      dsimp only
      omega
    · rw [List.mem_singleton.mp h, toNat_late hhi, late]
      dsimp only
      omega
  · rw [List.pairwise_pair, early, late]
    dsimp only
    omega

theorem acceptedTwice_loginTwice {d : Coordinator} {r₁ r₂ : LoginResponse} {capacity : Nat}
    (h₁ : r₁.errorCode = .success) (h₂ : r₂.errorCode = .success) (hc : 0 < capacity) :
    AcceptedTwice ⟨d, [early request, late request window], [(0, r₁), (1, r₂)]⟩ capacity := by
  refine ⟨[], early request, [], late request window, [], ?_, ?_, ?_, hc, ⟨r₁, ?_, h₁⟩, ⟨r₂, ?_, h₂⟩⟩
  · rw [List.nil_append, List.nil_append]
  · rw [Checked.key, Checked.key, early, late]
  · rw [early, late]
  · exact List.mem_cons_self
  · exact List.mem_cons_of_mem _ List.mem_cons_self

end LoginTwice

/-- No login gets in twice where the cache remembers its nonce for the window, the two seconds by which a
clock may run ahead, and the millisecond that it rounds off. Where the cache forgets earlier (the
check of a configuration allows that for windows of two seconds or less), every login
that gets in once gets in twice. -/
theorem accepted_once {config : ClusterConfig} (h : config.problems = .ok []) :
    (1000000 * (config.timestampWindow.millis + 2001) ≤ config.replayTtl.nanos →
      ∀ keys verifier nodes steps,
        InStep (steps.filterMap LoginStep.reading?) →
        ¬((create { Coordinator.create keys config with verifier, nodes }).run steps).AcceptedTwice
          config.replayCapacity.toNat) ∧
    (config.replayTtl.nanos < 1000000 * (config.timestampWindow.millis + 2001) →
      config.timestampWindow.millis ≤ 2000 ∧
      ∀ keys (verifier : Verifier) (request : LoginRequest),
        verifier request.publicKey request.payload request.signature = .ok () →
        2000 ≤ request.timestamp.toNat → request.timestamp.toNat + 2000 < 2 ^ 64 →
        InStep ((loginTwice request config.timestampWindow).filterMap LoginStep.reading?) ∧
        ((create { Coordinator.create keys config with verifier }).run
          (loginTwice request config.timestampWindow)).AcceptedTwice config.replayCapacity.toNat) := by
  have hv := ClusterConfig.problems_eq_nil_iff.mp h
  refine ⟨fun httl keys verifier nodes steps hstep => ?_, fun httl => ?_⟩
  · obtain ⟨l, hl⟩ := (inv_create hv keys verifier nodes).run steps
    exact hl.not_acceptedTwice (by rw [readings_run]; exact hstep) httl
  · have hw : config.timestampWindow.millis ≤ 2000 := by
      have := hv.replayTtl
      rw [Duration.millis] at httl ⊢
      omega
    refine ⟨hw, fun keys verifier request hver hlo hhi => ?_⟩
    obtain ⟨d, r₁, r₂, h₁, h₂, hrun⟩ := run_loginTwice request
      (c := { Coordinator.create keys config with verifier }) (ReplayCache.knows_create ..) rfl
      (fun h0 => hv.maxNodes (UInt64.toNat_inj.mp h0)) hver hlo
      (by dsimp only [Coordinator.create]; omega) httl
    refine ⟨inStep_loginTwice (by omega), ?_⟩
    rw [show config.timestampWindow = (Coordinator.create keys config).window from rfl, hrun]
    exact acceptedTwice_loginTwice h₁ h₂
      (Nat.pos_of_ne_zero fun h0 => hv.replayCapacity (UInt64.toNat_inj.mp h0))

/-- By default a nonce is remembered for five minutes, and a request that comes again a second later is
turned away. -/
theorem accepted_once_default :
    ({} : ClusterConfig).problems = .ok [] ∧
      InStep [(10000, 10000000000), (11000, 11000000000)] ∧
      ¬((create { Coordinator.create ⟨[], 0, [], []⟩ {} with
          verifier := fun _ _ _ => .ok (), nodes := .create 1 }).run
        [.check { (default : LoginRequest) with timestamp := 10000 } 10000 10000000000, .register 0,
          .check { (default : LoginRequest) with timestamp := 10000 } 11000 11000000000,
          .register 1]).AcceptedTwice 10000 := by
  have hp : ({} : ClusterConfig).problems = .ok [] := by decide +kernel
  have hs : InStep [(10000, 10000000000), (11000, 11000000000)] :=
    ⟨⟨0, by decide⟩, by decide⟩
  exact ⟨hp, hs, (accepted_once hp).1 (by decide) _ _ _ _ hs⟩

/-- Half a second of age is allowed, and a nonce is remembered for twice as long. -/
def halfSecond : ClusterConfig := { timestampWindow := .ofMillis 500, replayTtl := .ofMillis 1000 }

/-- Under such a configuration, which has no problems, a request gets in two seconds ahead of its time and
half a second behind it. -/
theorem accepted_again : ¬∀ config : ClusterConfig, config.problems = .ok [] →
    ∀ keys verifier nodes steps, InStep (steps.filterMap LoginStep.reading?) →
      ¬((create { Coordinator.create keys config with verifier, nodes }).run steps).AcceptedTwice
        config.replayCapacity.toNat := by
  intro h
  have hp : halfSecond.problems = .ok [] := by decide +kernel
  let request : LoginRequest := { (default : LoginRequest) with timestamp := 10000 }
  let c : Coordinator :=
    { Coordinator.create ⟨[], 0, [], []⟩ halfSecond with verifier := fun _ _ _ => .ok () }
  obtain ⟨d, r₁, r₂, h₁, h₂, hrun⟩ := run_loginTwice request (c := c) (n := 4096)
    (ReplayCache.knows_create ..) rfl (by decide) rfl (by decide) (by decide) (by decide)
  refine h halfSecond hp ⟨[], 0, [], []⟩ (fun _ _ _ => .ok ()) (.create 4096)
    (loginTwice request halfSecond.timestampWindow) (inStep_loginTwice (by decide)) ?_
  exact hrun ▸ acceptedTwice_loginTwice h₁ h₂ (by decide)

end FrameGateway.LoginTrace
