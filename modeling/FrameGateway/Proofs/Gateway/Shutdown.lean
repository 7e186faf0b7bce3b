import FrameGateway.Proofs.Gateway.Lifecycle
import FrameGateway.Proofs.Gateway.Attaching
/-! Clients behind a stop. A call looks for a stop where it begins, and not again when its connection has been
wrapped; so a call that the stop has come upon still lets its client in. No other call does, unless a failed
bind undoes the stop (`AttachCalls.admits_nobody_after_stop_iff`). -/

namespace FrameGateway

namespace Gateway

theorem phase_finish (g : Gateway) (a : Attachment) : (g.finish a).phase = g.phase := by
  unfold finish
  cases a.role <;> rfl

theorem phase_receive (g : Gateway) (a : Attachment) (bytes : Bytes) (ended : Bool) (now : Nat) :
    (g.receive a bytes ended now).1.phase = g.phase := by
  obtain ⟨relay, heq⟩ := relayFrames_eq g a (FrameStream.drain (a.unread ++ bytes)).frames
  unfold receive
  dsimp only
  rw [heq]
  split_ifs <;> rfl

theorem phase_feed (g : Gateway) (a : Attachment) (bytes : Bytes) (ended : Bool) (now : Nat) :
    (g.feed a bytes ended now).phase = g.phase := by
  have hp := phase_receive g a bytes ended now
  unfold feed
  dsimp only
  split
  · exact (phase_finish _ a).trans hp
  · exact hp

theorem phase_enterClient (g : Gateway) (fresh : SessionId) (now : Nat) :
    (g.enterClient fresh now).1.phase = g.phase := by
  rw [enterClient, openSession_eq]
  rfl

theorem phase_addBackend (g : Gateway) (h : Handle) : (g.addBackend h).1.phase = g.phase := by
  unfold addBackend
  split
  · rfl
  · dsimp only
    split <;> rfl

end Gateway

/-- Nothing but a bind that fails takes a stopped gateway out of its stop. -/
theorem GatewayState.stopped_of_step? {s s' : GatewayState} {m : Move} (h : s.step? m = some s')
    (hp : s.gateway.phase = .stopped) (hm : ∀ e, m ≠ .bound (.error e)) : s'.gateway.phase = .stopped := by
  cases m with
  | start =>
    simp only [step?, Gateway.beginStart, hp] at h
    cases h
    exact hp
  | bound outcome =>
    cases outcome with
    | error e => exact absurd rfl (hm e)
    | ok address =>
      simp only [step?, Gateway.finishStart_of_stopped address hp] at h
      split_ifs at h
      cases h
      exact hp
  | stop => cases h; exact Gateway.phase_stop _
  | connect =>
    simp only [step?, Gateway.beginClient_eq, if_pos hp] at h
    cases h
    exact hp
  | abandon =>
    simp only [step?] at h
    split_ifs at h
    cases h
    exact hp
  | enter fresh now =>
    simp only [step?] at h
    split_ifs at h
    cases h
    exact (Gateway.phase_enterClient _ fresh now).trans hp
  | attach fresh now =>
    simp only [step?, Gateway.attachBackend, Gateway.ensureNotStopped, if_pos hp] at h
    cases h
    exact hp
  | host id capacity => cases h; exact hp
  | add b =>
    simp only [step?] at h
    split_ifs at h
    cases h
    exact (Gateway.phase_addBackend _ b).trans hp
  | remove id => cases h; exact hp
  | write i n => cases h; exact hp
  | close i => cases h; exact hp
  | feed a bytes ended now =>
    simp only [step?] at h
    split_ifs at h
    cases h
    exact (Gateway.phase_feed _ a bytes ended now).trans hp
  | finish a =>
    simp only [step?] at h
    split_ifs at h
    cases h
    exact (Gateway.phase_finish _ a).trans hp

/-- No client comes in a move of another call. -/
theorem GatewayState.Moved.no_entry {s s' : GatewayState} {m : Move} (h : s.Moved m s')
    (ht : s.gateway.clientCounts.table = []) :
    s'.gateway.clientCounts.table = [] ∧ s'.gateway.clientCounts.total = s.gateway.clientCounts.total ∧
      s'.gateway.clientCounts.greetings = s.gateway.clientCounts.greetings := by
  cases h with
  | idle hc =>
    rw [hc]
    exact ⟨ht, rfl, rfl⟩
  | left b hb hc =>
    rw [hc]
    exact ⟨congrArg (List.filter _) ht, rfl, rfl⟩
  | emptied hm hc =>
    rw [hc]
    exact ⟨rfl, rfl, rfl⟩

namespace AttachCalls

variable {r r' s t u : AttachCalls} {a : AttachStep} {config : Config}

/-- From one point to another nobody is let in, and at the other there is nobody to send frames to. -/
structure LetsNobodyIn (s t : AttachCalls) : Prop where
  table : t.gateway.relay.clients = []
  total : t.gateway.relay.counters.connectionsTotal = s.gateway.relay.counters.connectionsTotal
  greetings : t.gateway.relay.events.filter Event.isBound = s.gateway.relay.events.filter Event.isBound
  answers : ∃ new, t.answers = s.answers ++ new ∧ ∀ x ∈ new, ∃ e, x.2 = .error e

theorem LetsNobodyIn.trans (h : LetsNobodyIn s t) (h' : LetsNobodyIn t u) : LetsNobodyIn s u := by
  obtain ⟨new, hnew, herr⟩ := h.answers
  obtain ⟨more, hmore, hmerr⟩ := h'.answers
  refine ⟨h'.table, h'.total.trans h.total, h'.greetings.trans h.greetings, new ++ more, ?_, fun x hx => ?_⟩
  · rw [hmore, hnew, List.append_assoc]
  · rcases List.mem_append.mp hx with hx | hx
    · exact herr x hx
    · exact hmerr x hx

theorem LetsNobodyIn.admitted (h : LetsNobodyIn s t) : t.admitted = s.admitted := by
  obtain ⟨new, hnew, herr⟩ := h.answers
  have hnone : new.filterMap (fun a => a.2.toOption) = [] := by
    refine List.filterMap_eq_nil_iff.mpr fun x hx => ?_
    obtain ⟨e, he⟩ := herr x hx
    rw [he]
    rfl
  rw [AttachCalls.admitted, hnew, List.filterMap_append, hnone, List.append_nil, AttachCalls.admitted]

/-- A stretch that ends a call with a fault, or ends none. -/
theorem LetsNobodyIn.of_clientCounts (htable : t.clientCounts.table = [])
    (htotal : t.clientCounts.total = s.clientCounts.total)
    (hgreetings : t.clientCounts.greetings = s.clientCounts.greetings)
    (hanswers : t.answers = s.answers ∨ ∃ i e, t.answers = s.answers ++ [(i, .error e)]) : LetsNobodyIn s t := by
  refine ⟨htable, htotal, hgreetings, ?_⟩
  rcases hanswers with ha | ⟨i, e, ha⟩
  · exact ⟨[], by rw [ha, List.append_nil], fun x hx => absurd hx List.not_mem_nil⟩
  · exact ⟨[(i, .error e)], ha, fun x hx => ⟨e, by rw [List.mem_singleton.mp hx]⟩⟩

theorem Inv.lets_nobody_in (h : r.Inv config) (ht : r.Turn a r') (hc : r.gateway.relay.clients = [])
    (ha : ∀ i fresh now, a ≠ .wrapped i fresh now) : LetsNobodyIn r r' := by
  cases ht with
  | stopped => exact .of_clientCounts hc rfl rfl (.inr ⟨_, _, rfl⟩)
  | full => exact .of_clientCounts hc rfl rfl (.inr ⟨_, _, rfl⟩)
  | waits => exact .of_clientCounts hc rfl rfl (.inl rfl)
  | failed => exact .of_clientCounts hc rfl rfl (.inr ⟨_, _, rfl⟩)
  | enters i fresh now => exact absurd rfl (ha i fresh now)
  | meanwhile m s hm hs =>
    obtain ⟨htable, htotal, hgreetings⟩ := (GatewayState.moved_of_step? h.state hm hs).1.no_entry hc
    exact .of_clientCounts htable htotal hgreetings (.inl rfl)

theorem Inv.lets_nobody_in_run (h : s.Inv config) {steps : List AttachStep} (hr : s.run? steps = some t)
    (hc : s.gateway.relay.clients = []) (ha : ∀ i fresh now, .wrapped i fresh now ∉ steps) :
    LetsNobodyIn s t := by
  have hend := run_rest (P := fun u steps => u.Inv config ∧ LetsNobodyIn s u ∧
    ∀ i fresh now, .wrapped i fresh now ∉ steps) ?_ ⟨h, .of_clientCounts hc rfl rfl (.inl rfl), ha⟩ hr
  · exact hend.2.1
  · rintro u v a steps ⟨h, hu, ha⟩ ht
    have hturn := h.lets_nobody_in ht hu.table fun i fresh now he => ha i fresh now (he ▸ List.mem_cons_self ..)
    exact ⟨h.step ht, hu.trans hturn, fun i fresh now hm => ha i fresh now (List.mem_cons_of_mem _ hm)⟩

/-- Nobody is let in by these steps, however far they have gone. -/
def AdmitsNobody (s : AttachCalls) (steps : List AttachStep) : Prop :=
  ∀ done t, done <+: steps → s.run? done = some t → LetsNobodyIn s t

theorem Inv.admitsNobody_iff (h : s.Inv config) {steps : List AttachStep} (hr : s.run? steps = some t)
    (hc : s.gateway.relay.clients = []) :
    s.AdmitsNobody steps ↔ ∀ i fresh now, .wrapped i fresh now ∉ steps := by
  constructor
  · intro hno i fresh now hm
    obtain ⟨done, u, v, hpre, hdone, hturn, hrun⟩ := exists_turn_of_mem hr hm
    -- the call returns an id, where only faults are returned
    have hbefore := (hno done u ((List.prefix_append _ _).trans hpre) hdone).admitted
    have hbehind := (hno _ v hpre hrun).admitted
    have hone : v.admitted.length = u.admitted.length + 1 := by
      cases hturn
      exact length_admitted_ok u i _
    rw [hbefore, hbehind] at hone
    omega
  · intro ha done u hpre hrun
    exact h.lets_nobody_in_run hrun hc fun i fresh now hm => ha i fresh now (hpre.subset hm)

/-! ### Who gets in -/

/-- From one point to another the gateway stays stopped, and the calls that begin are refused. -/
structure StaysShut (s t : AttachCalls) : Prop where
  phase : t.gateway.phase = .stopped
  waiting : t.waiting ⊆ s.waiting
  answers : s.answers <+: t.answers
  refused : ∀ i, s.begun ≤ i → i < t.begun → (i, .error .gatewayStopped) ∈ t.answers

theorem StaysShut.trans (h : StaysShut s t) (h' : StaysShut t u) : StaysShut s u := by
  refine ⟨h'.phase, fun i hi => h.waiting (h'.waiting hi), h.answers.trans h'.answers, fun i hs hu => ?_⟩
  by_cases ht : i < t.begun
  · exact h'.answers.subset (h.refused i hs ht)
  · exact h'.refused i (Nat.le_of_not_lt ht) hu

theorem Turn.stays_shut (h : r.Turn a r') (hp : r.gateway.phase = .stopped)
    (ha : ∀ e, a ≠ .meanwhile (.bound (.error e))) : StaysShut r r' := by
  have hnone : ∀ i, r.begun ≤ i → i < r.begun → (i, Except.error Fault.gatewayStopped) ∈ r'.answers :=
    fun i hi hlt => absurd hlt (Nat.not_lt_of_le hi)
  cases h with
  | stopped =>
    refine ⟨hp, List.Subset.refl _, List.prefix_append _ _, fun i hi hlt => ?_⟩
    obtain rfl : i = r.begun := Nat.le_antisymm (Nat.le_of_lt_succ hlt) hi
    exact List.mem_append_right _ (List.mem_singleton_self _)
  | full h => exact absurd hp h
  | waits h => exact absurd hp h
  | failed i e hi => exact ⟨hp, List.erase_subset, List.prefix_append _ _, hnone⟩
  | enters i fresh now hi =>
    have hphase := (Gateway.phase_enterClient r.gateway fresh now).trans hp
    exact ⟨hphase, List.erase_subset, List.prefix_append _ _, hnone⟩
  | meanwhile m s hm hs =>
    have hphase := GatewayState.stopped_of_step? hs hp fun e he => ha e (congrArg _ he)
    exact ⟨hphase, List.Subset.refl _, List.prefix_refl _, hnone⟩

theorem stays_shut_run {steps : List AttachStep} (hr : s.run? steps = some t)
    (hp : s.gateway.phase = .stopped) (ha : ∀ e, .meanwhile (.bound (.error e)) ∉ steps) : StaysShut s t := by
  have hrefl : StaysShut s s :=
    ⟨hp, List.Subset.refl _, List.prefix_refl _, fun i hi hlt => absurd hlt (Nat.not_lt_of_le hi)⟩
  have hend := run_rest (P := fun u steps => StaysShut s u ∧ ∀ e, .meanwhile (.bound (.error e)) ∉ steps) ?_
    ⟨hrefl, ha⟩ hr
  · exact hend.1
  · rintro u v a steps ⟨hu, ha⟩ ht
    have hturn := ht.stays_shut hu.phase fun e he => ha e (he ▸ List.mem_cons_self ..)
    exact ⟨hu.trans hturn, fun e hm => ha e (List.mem_cons_of_mem _ hm)⟩

/-- Whose connection is wrapped behind a stop has waited when it came. -/
theorem waiting_of_wrapped {steps : List AttachStep} (hr : s.run? steps = some t)
    (hp : s.gateway.phase = .stopped) (ha : ∀ e, .meanwhile (.bound (.error e)) ∉ steps) {i now : Nat}
    {fresh : SessionId} (hm : .wrapped i fresh now ∈ steps) : i ∈ s.waiting := by
  obtain ⟨done, u, v, hpre, hdone, hturn, -⟩ := exists_turn_of_mem hr hm
  -- up to its turn no call has joined those who wait
  have hsub : done <+: steps := (List.prefix_append _ _).trans hpre
  refine (stays_shut_run hdone hp fun e he => ha e (hsub.subset he)).waiting ?_
  cases hturn
  assumption

/-- Who gets in behind a stop that has just come over a gateway, whatever went on before and goes on from
there. The stop leaves nobody to send frames to. From then on nobody is let in, no client is reported or
counted, and there stays nobody to send frames to, exactly where no connection has been wrapped. And where no
bind fails, so that nothing undoes the stop, the gateway stays stopped, each call that begins is refused, and
nobody is let in exactly where no connection has been wrapped of those calls that the stop came upon. -/
theorem admits_nobody_after_stop_iff (config : Config) (steps rest : List AttachStep) (r s t : AttachCalls)
    (hr : (create config).run? steps = some r) (hp : r.gateway.phase ≠ .stopped)
    (hs : r.step? (.meanwhile .stop) = some s) (ht : s.run? rest = some t) :
    s.gateway.phase = .stopped ∧ s.gateway.relay.clients = [] ∧
    (s.AdmitsNobody rest ↔ ∀ i fresh now, .wrapped i fresh now ∉ rest) ∧
    ((∀ e, .meanwhile (.bound (.error e)) ∉ rest) → t.gateway.phase = .stopped ∧
      (∀ i, s.begun ≤ i → i < t.begun → (i, .error .gatewayStopped) ∈ t.answers) ∧
      (s.AdmitsNobody rest ↔ ∀ i ∈ r.waiting, ∀ fresh now, .wrapped i fresh now ∉ rest)) := by
  have hi := ((inv_create config).run hr).step (turn_of_step? hs)
  obtain rfl : { r with state := { r.state with gateway := r.gateway.stop } } = s := by
    cases hs
    rfl
  have hphase : r.gateway.stop.phase = .stopped := Gateway.phase_stop _
  have hc : r.gateway.stop.relay.clients = [] := by
    have htable := congrArg ClientCounts.table (Gateway.clientCounts_stop r.gateway)
    rw [if_neg hp] at htable
    exact htable
  have hiff := hi.admitsNobody_iff ht hc
  refine ⟨hphase, hc, hiff, fun hb => ?_⟩
  have hshut := stays_shut_run ht hphase hb
  refine ⟨hshut.phase, hshut.refused, hiff.trans ⟨fun ha i _ => ha i, fun ha i fresh now hm => ?_⟩⟩
  exact ha i (waiting_of_wrapped ht hphase hb hm) fresh now hm

/-- A stop comes upon a call whose connection cannot be wrapped, and a call behind it is refused. -/
theorem admits_nobody_after_stop_in_failing_call :
    ∃ r s t, (create {}).run? [.call] = some r ∧ r.step? (.meanwhile .stop) = some s ∧
      s.run? [.failed 0 .timeout, .call] = some t ∧ s.AdmitsNobody [.failed 0 .timeout, .call] := by
  refine ⟨_, _, _, rfl, rfl, rfl, ?_⟩
  have h := admits_nobody_after_stop_iff {} [.call] [.failed 0 .timeout, .call] _ _ _ rfl (by decide) rfl rfl
  exact (h.2.2.2 (by simp)).2.2.mpr (by simp)

/-- A stop comes upon a call whose connection is then wrapped, and its client is let in. Nor is a client kept
out that comes behind a stop which a failed bind has undone. -/
theorem lets_in_behind_stop :
    (∃ s t, (create {}).run? [.call, .meanwhile .stop] = some s ∧ s.gateway.phase = .stopped ∧
      s.gateway.relay.clients = [] ∧ s.run? [.wrapped 0 (.ofNat 7) 0] = some t ∧ t.gateway.phase = .stopped ∧
      t.answers = [(0, .ok (.ofNat 7))] ∧ t.gateway.relay.events = [.bound (.ofNat 7) 0] ∧
      t.gateway.relay.counters.connectionsTotal = 1 ∧ t.gateway.relay.clients = [⟨.ofNat 7, ⟨0⟩⟩]) ∧
    ∃ s t, (create {}).run? [.meanwhile .start, .meanwhile .stop] = some s ∧ s.gateway.phase = .stopped ∧
      s.gateway.relay.clients = [] ∧
      s.run? [.meanwhile (.bound (.error .timeout)), .call, .wrapped 0 (.ofNat 7) 0] = some t ∧
      t.answers = [(0, .ok (.ofNat 7))] ∧ t.gateway.relay.events = [.bound (.ofNat 7) 0] ∧
      t.gateway.relay.counters.connectionsTotal = 1 ∧ t.gateway.relay.clients = [⟨.ofNat 7, ⟨0⟩⟩] :=
  ⟨⟨_, _, rfl, rfl, rfl, rfl, rfl, rfl, rfl, rfl, rfl⟩, _, _, rfl, rfl, rfl, rfl, rfl, rfl, rfl, rfl⟩

end AttachCalls

end FrameGateway
