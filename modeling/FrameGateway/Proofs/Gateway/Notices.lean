import FrameGateway.Proofs.Gateway.Stages
/-! What is reported about one client, from first to last, while the tasks of the gateway may interrupt one another
between any two calls. That the pool serves it is reported before its loop runs; then there is nothing but frames of its
own that were dropped; and that it has gone is reported when it is in no table and in no count any more
(`Tasks.notices_of_client`). -/

namespace FrameGateway

namespace Tasks

open Gateway (Call endCalls)

variable {config : Config} {t t' : Tasks} {a : TaskStep} {steps : List TaskStep} {c : Handle} {id : SessionId}

theorem mem_reports {e : Event} (h : e.concerns c.id) : e ∈ t.reports c ↔ e ∈ t.gateway.relay.events :=
  List.mem_filter.trans (and_iff_left h)

theorem mem_loops_iff (hi : t.state.Inv) (hc : (c, .client) ∈ t.state.opened) :
    c ∈ t.gateway.loops ↔ ∃ a ∈ t.gateway.attached, a.outbox = c.outbox := by
  constructor
  · intro h
    obtain ⟨a, ha, rfl⟩ := List.mem_map.mp h
    exact ⟨a, (List.mem_filter.mp ha).1, rfl⟩
  · rintro ⟨a, ha, hbox⟩
    obtain ⟨hhandle, hrole⟩ := handle_of_outbox hi hc ha hbox
    exact hhandle ▸ GatewayState.mem_loops ha hrole

/-- Once the end of a client has been reported, it is in no table and in no count. -/
theorem not_mem_of_reported {calls : List Call} (h : calls <:+ endCalls .client) (hr : .reportClosed .client ∉ calls) :
    .removeClient ∉ calls ∧ .uncountClient ∉ calls := by
  simp only [endCalls, List.suffix_cons_iff, List.suffix_nil] at h
  rcases h with rfl | rfl | rfl | rfl | rfl <;> simp at hr ⊢

/-- What has been reported about a client by now. -/
inductive Reported (c : Handle) (t : Tasks) (n : Nat) (losses : List Event) : Prop
  | nothing (reports : t.reports c = []) (loop : c ∉ t.gateway.loops) (pending : t.pending c ≠ [])
  | bound (reports : t.reports c = .bound c.id n :: losses)
      (loop : c ∈ t.gateway.loops ∧ c ∈ t.counted ∨ c ∉ t.gateway.loops ∧ t.pending c ≠ [])
  | closed (reports : t.reports c = .bound c.id n :: losses ++ [.closed c.id .client]) (loop : c ∉ t.gateway.loops)
      (table : t.gateway.relay.client? c.id = none) (counted : c ∉ t.counted)

theorem Stage.reported (h : Stage c steps t) (hi : t.state.Inv) (hc : (c, .client) ∈ t.state.opened)
    (hu : Unshared t.state.opened c) :
    ∃ n losses, Losses c (FrameStream.drain (sent c.outbox steps)).frames losses ∧ Reported c t n losses := by
  have hloops := mem_loops_iff hi hc
  have hnone : Losses c (FrameStream.drain (sent c.outbox steps)).frames [] := fun e he => nomatch he
  cases h with
  | entering now calls pending left more noReader bytes holding counted reports =>
    have hloop : c ∉ t.gateway.loops := fun hm =>
      let ⟨a, ha, ho⟩ := hloops.mp hm
      noReader a ha ho
    obtain ⟨n, hreports⟩ := reports hu
    refine ⟨n, [], hnone, ?_⟩
    split at hreports
    · exact .nothing hreports hloop (pending ▸ more)
    · exact .bound hreports (.inr ⟨hloop, pending ▸ more⟩)
  | reading pending reader unread holding counted reports =>
    obtain ⟨n, losses, hreports, hlost⟩ := reports hu
    exact ⟨n, losses, hlost, .bound hreports (.inl ⟨hloops.mpr reader, counted⟩)⟩
  | leaving calls pending left noReader holding counted table reports =>
    have hloop : c ∉ t.gateway.loops := fun hm =>
      let ⟨a, ha, ho⟩ := hloops.mp hm
      noReader a ha ho
    obtain ⟨n, losses, hreports, hlost⟩ := reports hu
    refine ⟨n, losses, hlost, ?_⟩
    split at hreports
    next hmem =>
      refine .bound (hreports.trans (List.append_nil _)) (.inr ⟨hloop, fun he => ?_⟩)
      rw [← pending, he] at hmem
      cases hmem
    next hnot =>
      obtain ⟨hremoved, huncounted⟩ := not_mem_of_reported left hnot
      refine .closed hreports hloop (List.find?_eq_none.mpr fun b hb => ?_) (counted.not.mpr huncounted)
      simpa using table hu hremoved b hb

theorem Losses.closed_not_mem {frames : List Bytes} {losses : List Event} (h : Losses c frames losses) (n : Nat) :
    .closed c.id .client ∉ .bound c.id n :: losses := by
  intro hm
  rcases List.mem_cons.mp hm with he | hm
  · cases he
  · obtain ⟨_, _, _, he⟩ := h _ hm
    cases he

section Reported

variable {n : Nat} {losses : List Event} {frames : List Bytes}

theorem Reported.closed_mem_iff (h : Reported c t n losses) (hl : Losses c frames losses) :
    .closed c.id .client ∈ t.gateway.relay.events ↔
      t.reports c = .bound c.id n :: losses ++ [.closed c.id .client] := by
  rw [← mem_reports (t := t) (c := c) (by simp [Event.concerns])]
  constructor
  · intro hm
    cases h with
    | nothing reports =>
      rw [reports] at hm
      cases hm
    | bound reports => exact absurd (reports ▸ hm) (hl.closed_not_mem n)
    | closed reports => exact reports
  · intro he
    rw [he]
    exact List.mem_append_right _ (List.mem_singleton_self _)

theorem Reported.of_loop (h : Reported c t n losses) (hl : Losses c frames losses) (hloop : c ∈ t.gateway.loops) :
    c ∈ t.counted ∧ .bound c.id n ∈ t.gateway.relay.events ∧ .closed c.id .client ∉ t.gateway.relay.events := by
  have hclosed := h.closed_mem_iff hl
  cases h with
  | nothing _ hnot => exact absurd hloop hnot
  | bound reports hor =>
    have hbound : .bound c.id n ∈ t.reports c := reports ▸ List.mem_cons_self
    refine ⟨(hor.resolve_right fun hnot => hnot.1 hloop).2, (List.mem_filter.mp hbound).1, fun hm => ?_⟩
    rw [hclosed, reports, List.self_eq_append_right] at hm
    cases hm
  | closed _ hnot => exact absurd hloop hnot

theorem Reported.of_closed (h : Reported c t n losses) (hl : Losses c frames losses)
    (hc : .closed c.id .client ∈ t.gateway.relay.events) :
    c ∉ t.gateway.loops ∧ t.gateway.relay.client? c.id = none ∧ c ∉ t.counted := by
  have hreports := (h.closed_mem_iff hl).mp hc
  cases h with
  | nothing reports => cases reports.symm.trans hreports
  | bound reports =>
    rw [reports, List.self_eq_append_right] at hreports
    cases hreports
  | closed _ loop table counted => exact ⟨loop, table, counted⟩

theorem Reported.of_idle (h : Reported c t n losses) (hl : Losses c frames losses) (hp : t.pending c = []) :
    .bound c.id n ∈ t.gateway.relay.events ∧
      (.closed c.id .client ∈ t.gateway.relay.events ↔ c ∉ t.gateway.loops) := by
  have hbound : .bound c.id n ∈ t.reports c → .bound c.id n ∈ t.gateway.relay.events := fun hm =>
    (List.mem_filter.mp hm).1
  have hloop := h.of_loop hl
  have hclosed := h.closed_mem_iff hl
  cases h with
  | nothing _ _ hne => exact absurd hp hne
  | bound reports hor =>
    have hm := (hor.resolve_right fun hne => hne.2 hp).1
    exact ⟨hbound (reports ▸ List.mem_cons_self), iff_of_false (hloop hm).2.2 (not_not_intro hm)⟩
  | closed reports hnot => exact ⟨hbound (reports ▸ List.mem_cons_self), iff_of_true (hclosed.mpr reports) hnot⟩

/-- Nothing is reported about a client that has gone. -/
theorem Reported.last {u : Tasks} (h : Reported c t n losses) (hl : Losses c frames losses)
    (hp : u.gateway.relay.events <+: t.gateway.relay.events)
    (hc : .closed c.id .client ∈ u.gateway.relay.events) : t.reports c = u.reports c := by
  have hprefix : u.reports c <+: t.reports c := hp.filter _
  rw [(h.closed_mem_iff hl).mp (hp.subset hc)] at hprefix ⊢
  rcases List.prefix_concat_iff.mp hprefix with he | hshort
  · exact he.symm
  · have hm : .closed c.id .client ∈ u.reports c := (mem_reports (by simp [Event.concerns])).mpr hc
    exact absurd (hshort.subset hm) (hl.closed_not_mem n)

end Reported

/-! ### A whole run -/

theorem events_of_run {done rest : List TaskStep} {u : Tasks} (h : (create config).run? (done ++ rest) = some t)
    (hu : (create config).run? done = some u) :
    u.state.opened <+: t.state.opened ∧ u.gateway.relay.events <+: t.gateway.relay.events := by
  induction rest using List.reverseRecOn generalizing t with
  | nil =>
    rw [List.append_nil, hu] at h
    cases h
    exact ⟨List.prefix_refl _, List.prefix_refl _⟩
  | append_singleton rest a ih =>
    rw [← List.append_assoc] at h
    obtain ⟨v, hv, ha⟩ := run?_snoc.mp h
    obtain ⟨hopened, hevents⟩ := ih hv
    have hc := changed_of_step? (inv_of_run hv).state ha
    exact ⟨hopened.trans hc.opened, hevents.trans hc.events⟩

def joins (id : SessionId) (steps : List TaskStep) : Nat := (steps.map (TaskStep.joins id)).sum

theorem joins_snoc (id : SessionId) (steps : List TaskStep) (a : TaskStep) :
    joins id (steps ++ [a]) = joins id steps + a.joins id := by
  simp [joins]

/-- A call for another session, or for a client, takes no backend of this id out of the pool. -/
theorem count_backend_perform (g : Gateway) {h : Handle} {call : Call} (hne : call.role = .backend → h.id ≠ id) :
    (g.perform h call).relay.events.count (.closed id .backend) + (g.perform h call).relay.pool.ids.count id ≤
      g.relay.events.count (.closed id .backend) + g.relay.pool.ids.count id := by
  rw [Gateway.perform_events, List.count_append]
  cases call with
  | addBackend =>
    change _ + 0 + (g.relay.pool.add h).1.ids.count id ≤ _
    rcases Pool.add_cases g.relay.pool h with ⟨-, he⟩ | ⟨-, he⟩
    · rw [he]
      exact Nat.le_refl _
    · simp [he, Pool.ids, hne rfl]
  | removeBackend =>
    have hle := ((Pool.members_remove_sublist g.relay.pool h.id).map (·.id)).count_le id
    exact Nat.add_le_add_left hle _
  | reportClosed role =>
    have hnone : [Event.closed h.id role].count (.closed id .backend) = 0 := by
      refine List.count_eq_zero.mpr fun hm => ?_
      obtain ⟨hid, hrole⟩ := Event.closed.inj (List.mem_singleton.mp hm)
      exact hne hrole.symm hid.symm
    change _ + [Event.closed h.id role].count (.closed id .backend) + g.relay.pool.ids.count id ≤ _
    rw [hnone]
    exact Nat.le_refl _
  | _ => exact Nat.le_refl _

/-- A backend that leaves the pool is reported once, unless a stream of it ends. -/
theorem Changed.count_backend_le (h : t.Changed a t')
    (owners : ∀ h, ∀ call ∈ t.pending h, (h, call.role) ∈ t.state.opened)
    (hno : ∀ h, (h, .backend) ∈ t.state.opened → h.id ≠ id) :
    t'.gateway.relay.events.count (.closed id .backend) + t'.gateway.relay.pool.ids.count id ≤
      t.gateway.relay.events.count (.closed id .backend) + t.gateway.relay.pool.ids.count id + a.joins id := by
  have htells : ∀ {b : Attachment} {frames relay news}, t.gateway.relay.Reports b.id frames relay news →
      relay.events.count (.closed id .backend) + relay.pool.ids.count id ≤
        t.gateway.relay.events.count (.closed id .backend) + t.gateway.relay.pool.ids.count id + a.joins id := by
    intro b frames relay news relays
    have hleavers := relays.leavers id
    rw [relays.events, List.count_append]
    omega
  cases h with
  | quiet _ s stopping same bytes pool =>
    change s.gateway.relay.events.count _ + s.gateway.relay.pool.ids.count id ≤ _
    rw [same.events, Nat.add_assoc]
    exact Nat.add_le_add_left (pool id) _
  | client fresh now | backend fresh now =>
    change (t.gateway.openSession fresh).1.relay.events.count _ +
      (t.gateway.openSession fresh).1.relay.pool.ids.count id ≤ _
    rw [Gateway.openSession_eq]
    exact Nat.le_add_right ..
  | relayed _ _ _ _ _ _ _ _ relays => exact htells relays
  | left _ _ _ _ _ _ relays => exact htells relays
  | called h call rest hp =>
    have ho := owners h call (hp ▸ List.mem_cons_self)
    exact count_backend_perform t.gateway fun hr => hno h (hr ▸ ho)

theorem count_backend_of_run (h : (create config).run? steps = some t)
    (hno : ∀ h, (h, .backend) ∈ t.state.opened → h.id ≠ id) :
    t.gateway.relay.events.count (.closed id .backend) + t.gateway.relay.pool.ids.count id ≤ joins id steps := by
  induction steps using List.reverseRecOn generalizing t with
  | nil => cases h; exact Nat.le_refl _
  | append_singleton steps a ih =>
    obtain ⟨u, hu, ha⟩ := run?_snoc.mp h
    have hi := inv_of_run hu
    have hc := changed_of_step? hi.state ha
    have hbefore : ∀ h, (h, .backend) ∈ u.state.opened → h.id ≠ id := fun h hm => hno h (hc.opened.subset hm)
    have hle := hc.count_backend_le hi.owners hbefore
    have hrest := ih hu hbefore
    rw [joins_snoc]
    omega

theorem attached_of_feed {b : Attachment} {bytes : Bytes} {ended : Bool} {now : Nat}
    (h : t.step? (.begin (.feed b bytes ended now)) = some t') : b ∈ t.gateway.attached := by
  simp only [step?, begin?] at h
  split at h
  next hb => exact hb
  next => cases h

/-- All that is reported of a client whose id no other session over a stream has, whichever calls of other tasks come
between those of its own. That the pool serves it is reported, and counted it is, before its loop runs; what follows are
frames that it has sent and that were dropped; and at the end, when its loop has ended and it is in no table and in no
count any more, that it is gone. Nothing is reported about it after that, and bytes of it are taken in only before.
Its task does report both, unless it has calls to make still. That a backend of its id has gone is reported only where
the host has put one under that id into the pool. Tasks that are not interrupted do what the gateway does at once. -/
theorem notices_of_client (config : Config) (steps : List TaskStep) (t : Tasks)
    (h : (create config).run? steps = some t) (c : Handle) (hc : (c, .client) ∈ t.state.opened)
    (hid : ∀ x ∈ t.state.opened, x.1.id = c.id → x.1 = c) :
    let events := t.gateway.relay.events
    (∃ n losses, (∀ e ∈ losses, ∃ frame ∈ (FrameStream.drain (sent c.outbox steps)).frames, ∃ fault,
        e = .dropped c.id frame fault) ∧
      (t.reports c = [] ∨ t.reports c = .bound c.id n :: losses ∨
        t.reports c = .bound c.id n :: losses ++ [.closed c.id .client])) ∧
    (c ∈ t.gateway.loops → c ∈ t.counted ∧ (∃ n, .bound c.id n ∈ events) ∧ .closed c.id .client ∉ events) ∧
    (.closed c.id .client ∈ events →
      c ∉ t.gateway.loops ∧ t.gateway.relay.client? c.id = none ∧ c ∉ t.counted) ∧
    (t.gateway.relay.counters.connectionsActive.toNat = t.counted.length ∧ t.counted.Nodup) ∧
    (t.pending c = [] → (∃ n, .bound c.id n ∈ events) ∧ (.closed c.id .client ∈ events ↔ c ∉ t.gateway.loops)) ∧
    (∀ done a bytes ended now rest, steps = done ++ .begin (.feed a bytes ended now) :: rest → a.id = c.id →
      ∃ u, (create config).run? done = some u ∧ c ∈ u.gateway.loops ∧
        (∃ n, .bound c.id n ∈ u.gateway.relay.events) ∧ .closed c.id .client ∉ u.gateway.relay.events) ∧
    (∀ done rest u, steps = done ++ rest → (create config).run? done = some u →
      .closed c.id .client ∈ u.gateway.relay.events → t.reports c = u.reports c) ∧
    events.count (.closed c.id .backend) ≤ joins c.id steps ∧
    ∀ moves s, (GatewayState.create config).run? moves = some s →
      ∃ calls u, (create config).run? calls = some u ∧ u.state = s ∧ u.Idle := by
  intro events
  have hi := inv_of_run h
  obtain ⟨n, losses, hlost, hreported⟩ := (hi.stages c hc).reported hi.state hc hid
  refine ⟨⟨n, losses, hlost, ?_⟩, fun hm => ?_, hreported.of_closed hlost,
    ⟨hi.accounts.active, hi.accounts.counted⟩, fun hp => ?_, ?_, ?_, ?_, fun moves s hs => ?_⟩
  · cases hreported with
    | nothing reports => exact .inl reports
    | bound reports => exact .inr (.inl reports)
    | closed reports => exact .inr (.inr reports)
  · obtain ⟨hcounted, hbound, hclosed⟩ := hreported.of_loop hlost hm
    exact ⟨hcounted, ⟨n, hbound⟩, hclosed⟩
  · obtain ⟨hbound, hclosed⟩ := hreported.of_idle hlost hp
    exact ⟨⟨n, hbound⟩, hclosed⟩
  · rintro done a bytes ended now rest rfl ha
    have hrun := h
    rw [run?_append, Option.bind_eq_some_iff] at hrun
    obtain ⟨u, hu, hrun⟩ := hrun
    obtain ⟨v, hstep, -⟩ := run?_cons_eq_some.mp hrun
    have hiu := inv_of_run hu
    have hopened := (events_of_run h hu).1.subset
    have hattached := attached_of_feed hstep
    -- whoever reads under this id is this client
    have hhandle : a.handle = c := hid _ (hopened (hiu.state.readers a hattached)) ha
    have hcu : (c, .client) ∈ u.state.opened := by
      have hm := hiu.state.readers a hattached
      rwa [hi.state.role_eq_of_opened (hopened hm) (show (a.handle, .client) ∈ _ from hhandle ▸ hc),
        show (⟨a.id, a.outbox⟩ : Handle) = c from hhandle] at hm
    have huu : Unshared u.state.opened c := fun x hx => hid x (hopened hx)
    obtain ⟨m, drops, hlost', hreported'⟩ := (hiu.stages c hcu).reported hiu.state hcu huu
    have hloop : c ∈ u.gateway.loops :=
      (mem_loops_iff hiu.state hcu).mpr ⟨a, hattached, congrArg Handle.outbox hhandle⟩
    obtain ⟨-, hbound, hclosed⟩ := hreported'.of_loop hlost' hloop
    exact ⟨u, hu, hloop, ⟨m, hbound⟩, hclosed⟩
  · rintro done rest u rfl hu hclosed
    exact hreported.last hlost (events_of_run h hu).2 hclosed
  · have hno : ∀ b, (b, .backend) ∈ t.state.opened → b.id ≠ c.id := by
      intro b hb he
      have hbc : b = c := hid _ hb he
      rw [hbc] at hb
      cases hi.state.role_eq_of_opened hb hc
    exact (Nat.le_add_right ..).trans (count_backend_of_run h hno)
  · have hidle : (create config).Idle := fun _ => rfl
    exact hidle.reaches_run hs

/-- Two clients come at a time. A frame of the first finds no backend; then everything is stopped, and while this is
done the loop of the first ends. It has been reported as gone before the stop has emptied the table. -/
theorem notices_of_client_among_others :
    let c : Handle := ⟨.ofNat 7, ⟨0⟩⟩
    let d : Handle := ⟨.ofNat 8, ⟨1⟩⟩
    let a : Attachment := .start c .client 300000
    let frame : Bytes := [6, 0, 0, 0, 0, 0, 0, 0]
    let steps : List TaskStep := [.begin .connect, .begin .connect, .begin (.enter c.id 0), .call c,
      .begin (.enter d.id 0), .call d, .call c, .call d, .call c, .call d, .call c, .begin (.feed a frame false 0),
      .call d, .begin .stop, .begin (.finish a), .call c, .stopCall 0, .call c, .stopCall 0, .call c]
    ∃ t, (create {}).run? steps = some t ∧ (c, .client) ∈ t.state.opened ∧
      (∀ x ∈ t.state.opened, x.1.id = c.id → x.1 = c) ∧ .closed c.id .client ∈ t.gateway.relay.events ∧
      t.pending c = [.freePermit] ∧ c ∉ t.gateway.loops ∧ t.gateway.relay.client? c.id = none ∧ c ∉ t.counted ∧
      t.gateway.relay.counters.connectionsActive.toNat = t.counted.length := by
  intro c d a frame steps
  have hrun : ((create {}).run? steps).map (fun t => (t.state.opened, t.pending c, t.gateway.relay.events)) =
      some ([(c, .client), (d, .client)], [.freePermit], [.bound c.id 0, .bound d.id 0,
        .dropped c.id frame .noSessionsAvailable, .closed c.id .client]) := by
    decide +kernel
  obtain ⟨t, ht, he⟩ := Option.map_eq_some_iff.mp hrun
  obtain ⟨hopened, he⟩ := Prod.mk.inj he
  obtain ⟨hpending, hevents⟩ := Prod.mk.inj he
  have hc : (c, .client) ∈ t.state.opened := by
    rw [hopened]
    exact List.mem_cons_self ..
  have hid : ∀ x ∈ t.state.opened, x.1.id = c.id → x.1 = c := by
    rw [hopened]
    decide
  have hclosed : .closed c.id .client ∈ t.gateway.relay.events := by
    rw [hevents]
    decide
  obtain ⟨-, -, hgone, ⟨hactive, -⟩, -⟩ := notices_of_client {} steps t ht c hc hid
  obtain ⟨hloop, htable, hcounted⟩ := hgone hclosed
  exact ⟨t, ht, hc, hid, hclosed, hpending, hloop, htable, hcounted, hactive⟩

end Tasks

end FrameGateway
