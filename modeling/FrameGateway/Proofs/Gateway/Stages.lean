import FrameGateway.Proofs.Frame.Chunks
import FrameGateway.Proofs.Gateway.Tasks
import Mathlib.Data.List.Perm.Subperm
/-! Where the task of a client is: it lets the client in, its loop runs, or its loop has ended. What the client has,
what is known of it and what has been reported about it is told by this, and by the calls that its task has still to
make (`Tasks.Stage`). Each step of any task keeps it so (`Tasks.Inv.step`). -/

namespace FrameGateway

/-- Reports about a client of that id. -/
def Event.concerns (id : SessionId) : Event → Bool
  | bound session _ => session = id
  | dropped source _ _ => source = id
  | closed session role => session = id && role = .client

namespace Gateway

variable {g : Gateway} {h : Handle} {call : Call}

theorem perform_events (g : Gateway) (h : Handle) (call : Call) : (g.perform h call).relay.events =
    g.relay.events ++ match call with
      | .reportBound => [.bound h.id g.relay.pool.size]
      | .reportClosed role => [.closed h.id role]
      | _ => [] := by
  cases call <;> simp [perform, withCounters, attach, Relay.report, Relay.addClient, Relay.addBackend,
    Relay.removeClient, Relay.removeBackend]

/-- The session of a task that makes a call is the only one to come or to go with it. -/
theorem perform_clients {b : Handle} (hb : b ∈ (g.perform h call).relay.clients) :
    b ∈ g.relay.clients ∨ b = h ∧ call = .addClient := by
  cases call with
  | addClient => exact (Relay.mem_of_mem_addClient hb).imp_right fun he => ⟨he, rfl⟩
  | removeClient => exact .inl (List.mem_filter.mp hb).1
  | _ => exact .inl hb

theorem perform_attached {a : Attachment} : a ∈ (g.perform h call).attached ↔
    a ∈ g.attached ∨ ∃ role now, call = .read role now ∧ a = .start h role (now + g.server.idleTimeout.timer) := by
  cases call with
  | read role now =>
    simp only [perform, attach, List.mem_append, List.mem_singleton, Call.read.injEq]
    refine or_congr_right ⟨fun he => ⟨role, now, ⟨rfl, rfl⟩, he⟩, ?_⟩
    rintro ⟨_, _, ⟨rfl, rfl⟩, he⟩
    exact he
  | _ =>
    refine ⟨.inl, ?_⟩
    rintro (ha | ⟨_, _, he, -⟩)
    · exact ha
    · cases he

end Gateway

namespace GatewayState

variable {s : GatewayState} {h : Handle}

/-- A task may make its calls at any time. -/
theorem Inv.perform (hi : s.Inv) {call : Gateway.Call} (ho : (h, call.role) ∈ s.opened) :
    Inv { s with gateway := s.gateway.perform h call } := by
  have hw : ∀ {g}, s.gateway.LeavesOnly g → Inv { s with gateway := g } := fun hw =>
    hi.leavesOnly hw s.binding s.wrapping
  have hrelay : ∀ {r : Relay}, r.clients = s.gateway.relay.clients → r.pool = s.gateway.relay.pool →
      r.boxes = s.gateway.relay.boxes → r.token = s.gateway.relay.token →
      Inv { s with gateway := { s.gateway with relay := r } } := fun hc hp hb ht =>
    hw (.of_relay ⟨hc ▸ .refl _, hp ▸ .refl _, congrArg (·.boxes.length) hb, ht⟩)
  cases call with
  | addClient =>
    refine ⟨hi.queues, hi.made, fun b hb => ?_, Relay.nodup_ids_addClient hi.clientIds h, hi.pool, hi.poolIds,
      hi.readers⟩
    rcases Relay.mem_of_mem_addClient hb with hb | rfl
    · exact hi.clients b hb
    · exact ho
  | addBackend =>
    refine ⟨hi.queues, hi.made, hi.clients, hi.clientIds, fun b hb => ?_, Pool.nodup_ids_add hi.poolIds h, hi.readers⟩
    rcases Pool.mem_of_mem_add hb with hb | rfl
    · exact hi.pool b hb
    · exact mem_known ho
  | read role now =>
    refine ⟨hi.queues, hi.made, hi.clients, hi.clientIds, hi.pool, hi.poolIds, fun a ha => ?_⟩
    rcases Gateway.mem_attach ha with ha | ⟨hid, hrole, hbox⟩
    · exact hi.readers a ha
    · rw [hid, hrole, hbox]
      exact ho
  | removeClient => exact hw (.of_relay ⟨List.filter_sublist, .refl _, rfl, rfl⟩)
  | removeBackend => exact hw (.of_relay (Relay.leavesOnly_removeBackend _ _))
  | freePermit => exact hw (.of_same rfl rfl rfl)
  | countClient | countBackend | uncountClient | reportBound | reportClosed => exact hrelay rfl rfl rfl rfl

theorem Inv.role_eq_of_opened (hi : s.Inv) {role role' : Role} (ho : (h, role) ∈ s.opened)
    (ho' : (h, role') ∈ s.opened) : role = role' := by
  have hn : (s.opened.map (·.1)).Nodup := (List.map_append ▸ hi.queues).of_append_right.of_map
  exact congrArg Prod.snd (List.inj_on_of_nodup_map hn ho ho' rfl)

end GatewayState

namespace Gateway

/-- A session over a stream has been opened, and nothing has been done with it yet. -/
theorem openSession_opens (g : Gateway) (fresh : SessionId) (role : Role) :
    Opens g fresh role (g.openSession fresh).1 (g.openSession fresh).2 := by
  rw [openSession_eq]
  exact ⟨rfl, rfl, List.length_append, rfl, fun _ => .inl⟩

end Gateway

namespace Tasks

open Gateway (Call StopCall startCalls endCalls stopCalls)

/-- Nobody else has been opened under the id of this client. -/
def Unshared (opened : List (Handle × Role)) (c : Handle) : Prop := ∀ x ∈ opened, x.1.id = c.id → x.1 = c

def sent (i : OutboxId) (steps : List TaskStep) : Bytes := steps.flatMap (TaskStep.sent i)

def reports (t : Tasks) (c : Handle) : List Event := t.gateway.relay.events.filter (·.concerns c.id)

/-- Reports of frames among these, which a client has sent and which were dropped. -/
def Losses (c : Handle) (frames : List Bytes) (losses : List Event) : Prop :=
  ∀ e ∈ losses, ∃ frame ∈ frames, ∃ fault, e = .dropped c.id frame fault

inductive Stage (c : Handle) (steps : List TaskStep) (t : Tasks) : Prop
  | entering (now : Nat) (calls : List Call) (pending : t.pending c = calls) (left : calls <:+ startCalls now .client)
      (more : calls ≠ []) (noReader : ∀ a ∈ t.gateway.attached, a.outbox ≠ c.outbox) (bytes : sent c.outbox steps = [])
      (holding : c ∈ t.holding) (counted : c ∈ t.counted ↔ .countClient ∉ calls)
      (reports : Unshared t.state.opened c → ∃ n, t.reports c = if .reportBound ∈ calls then [] else [.bound c.id n])
  | reading (pending : t.pending c = []) (reader : ∃ a ∈ t.gateway.attached, a.outbox = c.outbox)
      (unread : ∀ a ∈ t.gateway.attached, a.outbox = c.outbox →
        a.unread = (FrameStream.drain (sent c.outbox steps)).rest)
      (holding : c ∈ t.holding) (counted : c ∈ t.counted)
      (reports : Unshared t.state.opened c → ∃ n losses, t.reports c = .bound c.id n :: losses ∧
        Losses c (FrameStream.drain (sent c.outbox steps)).frames losses)
  | leaving (calls : List Call) (pending : t.pending c = calls) (left : calls <:+ endCalls .client)
      (noReader : ∀ a ∈ t.gateway.attached, a.outbox ≠ c.outbox)
      (holding : c ∈ t.holding ↔ .freePermit ∈ calls) (counted : c ∈ t.counted ↔ .uncountClient ∈ calls)
      (table : Unshared t.state.opened c → .removeClient ∉ calls → ∀ b ∈ t.gateway.relay.clients, b.id ≠ c.id)
      (reports : Unshared t.state.opened c → ∃ n losses, t.reports c = .bound c.id n :: losses ++
          (if .reportClosed .client ∈ calls then [] else [.closed c.id .client]) ∧
        Losses c (FrameStream.drain (sent c.outbox steps)).frames losses)

variable {t t' : Tasks} {a : TaskStep} {steps : List TaskStep} {c : Handle}

theorem sent_snoc (i : OutboxId) (steps : List TaskStep) (a : TaskStep) :
    sent i (steps ++ [a]) = sent i steps ++ a.sent i := by
  simp [sent]

theorem reports_append {events news : List Event} (h : events = t.gateway.relay.events ++ news) :
    events.filter (·.concerns c.id) = t.reports c ++ news.filter (·.concerns c.id) := by
  rw [h, List.filter_append, reports]

theorem Losses.append {early late : List Bytes} {losses more : List Event} (h : Losses c early losses)
    (h' : Losses c late more) : Losses c (early ++ late) (losses ++ more) := by
  intro e he
  rcases List.mem_append.mp he with he | he
  · obtain ⟨frame, hf, rest⟩ := h e he
    exact ⟨frame, List.mem_append_left _ hf, rest⟩
  · obtain ⟨frame, hf, rest⟩ := h' e he
    exact ⟨frame, List.mem_append_right _ hf, rest⟩

theorem Unshared.earlier (hu : Unshared t'.state.opened c) (hg : t.state.opened ⊆ t'.state.opened) :
    Unshared t.state.opened c := fun x hx => hu x (hg hx)

/-! ### Steps of others -/

/-- A step that is none of this client's. -/
structure Apart (c : Handle) (t : Tasks) (a : TaskStep) (t' : Tasks) : Prop where
  opened : t.state.opened ⊆ t'.state.opened
  pending : t'.pending c = t.pending c
  readers : ∀ b, b.outbox = c.outbox → (b ∈ t'.gateway.attached ↔ b ∈ t.gateway.attached)
  bytes : a.sent c.outbox = []
  holding : c ∈ t'.holding ↔ c ∈ t.holding
  counted : c ∈ t'.counted ↔ c ∈ t.counted
  table : Unshared t'.state.opened c → ∀ b ∈ t'.gateway.relay.clients, b.id = c.id → b ∈ t.gateway.relay.clients
  reports : Unshared t'.state.opened c → t'.reports c = t.reports c

theorem Stage.apart (h : Stage c steps t) (ha : Apart c t a t') : Stage c (steps ++ [a]) t' := by
  have hsent : sent c.outbox (steps ++ [a]) = sent c.outbox steps := by
    rw [sent_snoc, ha.bytes, List.append_nil]
  have hreader : (∀ b ∈ t.gateway.attached, b.outbox ≠ c.outbox) → ∀ b ∈ t'.gateway.attached, b.outbox ≠ c.outbox :=
    fun hno b hb ho => hno b ((ha.readers b ho).mp hb) ho
  cases h with
  | entering now calls pending left more noReader bytes holding counted reports =>
    refine .entering now calls (ha.pending.trans pending) left more (hreader noReader) (hsent.trans bytes)
      (ha.holding.mpr holding) (ha.counted.trans counted) fun hu => ?_
    rw [ha.reports hu]
    exact reports (hu.earlier ha.opened)
  | reading pending reader unread holding counted reports =>
    refine .reading (ha.pending.trans pending) ?_ ?_ (ha.holding.mpr holding) (ha.counted.mpr counted) fun hu => ?_
    · obtain ⟨b, hb, ho⟩ := reader
      exact ⟨b, (ha.readers b ho).mpr hb, ho⟩
    · intro b hb ho
      rw [hsent]
      exact unread b ((ha.readers b ho).mp hb) ho
    · rw [ha.reports hu, hsent]
      exact reports (hu.earlier ha.opened)
  | leaving calls pending left noReader holding counted table reports =>
    refine .leaving calls (ha.pending.trans pending) left (hreader noReader) (ha.holding.trans holding)
      (ha.counted.trans counted) (fun hu hout b hb hid => ?_) fun hu => ?_
    · exact table (hu.earlier ha.opened) hout b (ha.table hu b hb hid) hid
    · rw [ha.reports hu, hsent]
      exact reports (hu.earlier ha.opened)

/-- A reader's queue tells whether it is this client's. -/
theorem handle_of_outbox (hi : t.state.Inv) (hc : (c, .client) ∈ t.state.opened) {b : Attachment}
    (hb : b ∈ t.gateway.attached) (ho : b.outbox = c.outbox) : b.handle = c ∧ b.role = .client := by
  obtain ⟨hid, hrole⟩ := hi.reader hc hb ho
  exact ⟨congrArg₂ Handle.mk hid ho, hrole⟩

theorem Unshared.id_ne (hu : Unshared t.state.opened c) {h : Handle} {role : Role} (ho : (h, role) ∈ t.state.opened)
    (hne : h ≠ c) : h.id ≠ c.id := fun he => hne (hu _ ho he)

theorem SameSessions.apart {s : GatewayState} {stopping : List (List StopCall)} (hs : t.state.SameSessions s)
    (hbytes : ∀ i, a.sent i = []) (c : Handle) : Apart c t a { t with state := s, stopping } := by
  refine ⟨hs.opened ▸ List.Subset.refl _, rfl, fun b _ => ?_, hbytes _, .rfl, .rfl, fun _ b hb _ => hs.clients hb,
    fun _ => ?_⟩
  · rw [gateway, hs.attached]
    rfl
  · exact congrArg (List.filter _) hs.events

/-- What is reported of another's frames is no report about this client. -/
theorem filter_news_of_other {b : Attachment} {frames : List Bytes} {relay : Relay} {news : List Event}
    (h : t.gateway.relay.Reports b.id frames relay news) (hid : b.id ≠ c.id) : news.filter (·.concerns c.id) = [] := by
  rw [List.filter_eq_nil_iff]
  intro e he
  obtain ⟨frame, -, fault, rfl⟩ | ⟨id, rfl⟩ := h.kinds e he
  · simpa [Event.concerns] using hid
  · simp [Event.concerns]

theorem losses_news {b : Attachment} {frames : List Bytes} {relay : Relay} {news : List Event}
    (h : t.gateway.relay.Reports b.id frames relay news) (hid : b.id = c.id) :
    Losses c frames (news.filter (·.concerns c.id)) := by
  intro e he
  obtain ⟨he, hc⟩ := List.mem_filter.mp he
  obtain ⟨frame, hf, fault, rfl⟩ | ⟨id, rfl⟩ := h.kinds e he
  · exact ⟨frame, hf, fault, by rw [hid]⟩
  · simp [Event.concerns] at hc

theorem openSession_same (t : Tasks) (fresh : SessionId) :
    (t.gateway.openSession fresh).1.attached = t.gateway.attached ∧
    (t.gateway.openSession fresh).1.relay.clients = t.gateway.relay.clients ∧
    (t.gateway.openSession fresh).1.relay.events = t.gateway.relay.events := by
  rw [Gateway.openSession_eq]
  exact ⟨rfl, rfl, rfl⟩

/-- The session that is opened is not this client. -/
theorem apart_of_opens {fresh : SessionId} {role : Role} {now : Nat} (hne : (t.gateway.openSession fresh).2 ≠ c)
    (hbytes : a.sent c.outbox = []) : Apart c t a (t.opens fresh role now) := by
  obtain ⟨hattached, hclients, hevents⟩ := openSession_same t fresh
  refine ⟨List.subset_append_left _ _, Function.update_of_ne hne.symm _ _, fun b _ => ?_, hbytes, ?_, .rfl,
    fun _ b hb _ => hclients ▸ hb, fun _ => congrArg (List.filter _) hevents⟩
  · exact iff_of_eq (congrArg (b ∈ ·) hattached)
  · simp only [opens]
    split
    · simp [hne.symm]
    · exact .rfl

theorem mem_keep {l : List Attachment} {i : OutboxId} {unread : Bytes} {deadline : Nat} {b : Attachment}
    (hb : b.outbox ≠ i) :
    b ∈ (l.map fun x => if x.outbox = i then { x with unread, deadline } else x) ↔ b ∈ l := by
  rw [List.mem_map]
  constructor
  · rintro ⟨x, hx, rfl⟩
    by_cases hxi : x.outbox = i
    · rw [if_pos hxi] at hb
      exact absurd hxi hb
    · rwa [if_neg hxi]
  · intro hm
    exact ⟨b, hm, if_neg hb⟩

theorem apart_of_relayed (hi : t.state.Inv) {b : Attachment} {bytes : Bytes} {ended : Bool} {now : Nat} {relay : Relay}
    {news : List Event} {deadline : Nat} (hb : b ∈ t.gateway.attached) (hne : b.outbox ≠ c.outbox)
    (relays : t.gateway.relay.Reports b.id (b.drained bytes).frames relay news)
    (clients : t.gateway.relay.SameClients relay) :
    Apart c t (.begin (.feed b bytes ended now)) (t.withGateway { t.gateway with
      relay
      attached := t.gateway.attached.map fun x =>
        if x.outbox = b.outbox then { x with unread := (b.drained bytes).rest, deadline } else x }) := by
  refine ⟨List.Subset.refl _, rfl, fun x ho => mem_keep fun he => hne (he.symm.trans ho), if_neg hne, .rfl, .rfl,
    fun _ x hx _ => clients.table ▸ hx, fun hu => ?_⟩
  have hid : b.id ≠ c.id := hu.id_ne (hi.readers b hb) fun he => hne (congrArg Handle.outbox he)
  refine (reports_append relays.events).trans ?_
  rw [filter_news_of_other relays hid, List.append_nil]

theorem apart_of_left (hi : t.state.Inv) {m : Move} {b : Attachment} {relay : Relay} {news : List Event}
    (hm : m.reader? = some b) (hb : b ∈ t.gateway.attached) (hne : b.outbox ≠ c.outbox)
    (relays : t.gateway.relay.Reports b.id m.frames relay news) (clients : t.gateway.relay.SameClients relay) :
    Apart c t (.begin m) ((t.withGateway { t.gateway with relay }).leave b) := by
  have hother : b.handle ≠ c := fun he => hne (congrArg Handle.outbox he)
  refine ⟨List.Subset.refl _, Function.update_of_ne hother.symm _ _, fun x ho => ?_, ?_, .rfl, .rfl,
    fun _ x hx _ => clients.table ▸ hx, fun hu => ?_⟩
  · refine List.mem_filter.trans (and_iff_left (bne_iff_ne.mpr fun he => hne (he.symm.trans ho)))
  · cases m with
    | feed x bytes ended now => cases hm; exact if_neg hne
    | _ => rfl
  · have hid : b.id ≠ c.id := hu.id_ne (hi.readers b hb) hother
    refine (reports_append relays.events).trans ?_
    rw [filter_news_of_other relays hid, List.append_nil]

theorem apart_of_called {h : Handle} {call : Call} {rest : List Call} (ho : (h, call.role) ∈ t.state.opened)
    (hqueue : h.outbox ≠ c.outbox) : Apart c t (.call h) (t.make h call rest) := by
  have hne : h ≠ c := fun he => hqueue (congrArg _ he)
  refine ⟨List.Subset.refl _, Function.update_of_ne hne.symm _ _, fun b hb => ?_, rfl, ?_, ?_,
    fun hu b hb hid => ?_, fun hu => ?_⟩
  · refine Gateway.perform_attached.trans (or_iff_left ?_)
    rintro ⟨role, now, -, rfl⟩
    exact hqueue hb
  · simp only [make]
    split_ifs
    · exact List.mem_erase_of_ne hne.symm
    · exact .rfl
  · simp only [make]
    split_ifs
    · simp [hne.symm]
    · exact List.mem_erase_of_ne hne.symm
    · exact .rfl
  · rcases Gateway.perform_clients hb with hb | ⟨rfl, -⟩
    · exact hb
    · exact absurd hid (hu.id_ne ho hne)
  · have hid : h.id ≠ c.id := hu.id_ne ho hne
    refine (reports_append (Gateway.perform_events t.gateway h call)).trans ?_
    rw [List.append_right_eq_self]
    cases call <;> simp [Event.concerns, hid]

/-! ### Steps of its own -/

theorem suffix_startCalls {call : Call} {rest : List Call} {now : Nat} (h : call :: rest <:+ startCalls now .client) :
    (call = .addClient ∧ rest = [.countClient, .reportBound, .read .client now]) ∨
    (call = .countClient ∧ rest = [.reportBound, .read .client now]) ∨
    (call = .reportBound ∧ rest = [.read .client now]) ∨ (call = .read .client now ∧ rest = []) := by
  simpa [startCalls, List.suffix_cons_iff] using h

theorem suffix_endCalls {call : Call} {rest : List Call} (h : call :: rest <:+ endCalls .client) :
    (call = .removeClient ∧ rest = [.uncountClient, .reportClosed .client, .freePermit]) ∨
    (call = .uncountClient ∧ rest = [.reportClosed .client, .freePermit]) ∨
    (call = .reportClosed .client ∧ rest = [.freePermit]) ∨ (call = .freePermit ∧ rest = []) := by
  simpa [endCalls, List.suffix_cons_iff] using h

/-- This client's stream has been opened. -/
theorem stage_of_opens {fresh : SessionId} {now : Nat} (hc : (t.gateway.openSession fresh).2 = c)
    (hm : a.sent c.outbox = []) (hnew : ∀ b ∈ t.gateway.attached, b.outbox ≠ c.outbox)
    (hbytes : sent c.outbox steps = []) (hcounted : c ∉ t.counted)
    (hreports : Unshared (t.opens fresh .client now).state.opened c → t.reports c = []) :
    Stage c (steps ++ [a]) (t.opens fresh .client now) := by
  subst hc
  obtain ⟨hattached, -, hevents⟩ := openSession_same t fresh
  refine .entering now (startCalls now .client) (Function.update_self ..) (List.suffix_refl _) (List.cons_ne_nil _ _)
    (fun b hb => hnew b (hattached ▸ hb)) ?_ ?_ (iff_of_false hcounted ?_) fun hu => ⟨0, ?_⟩
  · rw [sent_snoc, hbytes, hm]
    rfl
  · exact List.mem_append_right _ (List.mem_singleton_self _)
  · simp [startCalls]
  · rw [if_pos (by simp [startCalls])]
    exact (congrArg (List.filter _) hevents).trans (hreports hu)

theorem reports_make (t : Tasks) (c : Handle) (call : Call) (rest : List Call) :
    (t.make c call rest).reports c = t.reports c ++ match call with
      | .reportBound => [.bound c.id t.gateway.relay.pool.size]
      | .reportClosed .client => [.closed c.id .client]
      | _ => [] := by
  refine (reports_append (Gateway.perform_events t.gateway c call)).trans (congrArg _ ?_)
  cases call with
  | reportClosed role => cases role <;> simp [Event.concerns]
  | reportBound => simp [Event.concerns]
  | _ => rfl

/-- The task of a client makes its next call. -/
theorem Stage.called (h : Stage c steps t) (hholding : t.holding.Nodup) (hcounted : t.counted.Nodup) {call : Call}
    {rest : List Call} (hp : t.pending c = call :: rest) : Stage c (steps ++ [.call c]) (t.make c call rest) := by
  have hrest : (t.make c call rest).pending c = rest := Function.update_self ..
  have hreports := reports_make t c call rest
  have hsent : sent c.outbox (steps ++ [.call c]) = sent c.outbox steps := by
    rw [sent_snoc]
    exact List.append_nil _
  cases h with
  | entering now calls pending left more noReader bytes holding counted reports =>
    obtain rfl : calls = call :: rest := pending.symm.trans hp
    have hleft := (List.suffix_cons call rest).trans left
    have hbytes := hsent.trans bytes
    obtain ⟨rfl, rfl⟩ | ⟨rfl, rfl⟩ | ⟨rfl, rfl⟩ | ⟨rfl, rfl⟩ := suffix_startCalls left
    · refine .entering now _ hrest hleft (by simp) noReader hbytes holding (counted.trans (by simp)) fun hu => ?_
      simpa [hreports] using reports hu
    · have hmem : c ∈ t.counted ++ [c] := List.mem_append_right _ (List.mem_singleton_self _)
      refine .entering now _ hrest hleft (by simp) noReader hbytes holding (iff_of_true hmem (by simp)) fun hu => ?_
      simpa [hreports] using reports hu
    · refine .entering now _ hrest hleft (by simp) noReader hbytes holding (counted.trans (by simp)) fun hu => ?_
      obtain ⟨n, hnone⟩ := reports hu
      exact ⟨t.gateway.relay.pool.size, by simpa [hreports] using hnone⟩
    · have hreader : ∀ {a}, a ∈ (t.gateway.perform c (.read .client now)).attached ↔ _ := Gateway.perform_attached
      refine .reading hrest ⟨_, hreader.mpr (.inr ⟨_, _, rfl, rfl⟩), rfl⟩ (fun a ha ho => ?_) holding
        (counted.mpr (by simp)) fun hu => ?_
      · rcases hreader.mp ha with ha | ⟨role, now, -, rfl⟩
        · exact absurd ho (noReader a ha)
        · rw [hbytes, FrameStream.drain_of_none rfl]
          rfl
      · obtain ⟨n, hbound⟩ := reports hu
        exact ⟨n, [], by simpa [hreports] using hbound, fun e he => nomatch he⟩
  | reading pending => cases pending.symm.trans hp
  | leaving calls pending left noReader holding counted table reports =>
    obtain rfl : calls = call :: rest := pending.symm.trans hp
    have hleft := (List.suffix_cons call rest).trans left
    rw [← hsent] at reports
    obtain ⟨rfl, rfl⟩ | ⟨rfl, rfl⟩ | ⟨rfl, rfl⟩ | ⟨rfl, rfl⟩ := suffix_endCalls left
    · refine .leaving _ hrest hleft noReader (holding.trans (by simp)) (counted.trans (by simp))
        (fun _ _ b hb => ?_) fun hu => ?_
      · exact bne_iff_ne.mp (List.mem_filter.mp hb).2
      · simpa [hreports] using reports hu
    · have hout : c ∉ t.counted.erase c := hcounted.not_mem_erase
      refine .leaving _ hrest hleft noReader (holding.trans (by simp)) (iff_of_false hout (by simp))
        (fun hu _ => table hu (by simp)) fun hu => ?_
      simpa [hreports] using reports hu
    · refine .leaving _ hrest hleft noReader (holding.trans (by simp)) (counted.trans (by simp))
        (fun hu _ => table hu (by simp)) fun hu => ?_
      obtain ⟨n, losses, hbound, hlost⟩ := reports hu
      exact ⟨n, losses, by simp [hreports, hbound], hlost⟩
    · have hout : c ∉ t.holding.erase c := hholding.not_mem_erase
      refine .leaving _ hrest hleft noReader (iff_of_false hout (by simp)) (counted.trans (by simp))
        (fun hu _ => table hu (by simp)) fun hu => ?_
      simpa [hreports] using reports hu

/-- What arrives for a reader goes on from where its stream has been left. -/
theorem drain_sent {b : Attachment} (h : b.unread = (FrameStream.drain (sent c.outbox steps)).rest)
    (bytes : Bytes) : FrameStream.drain (sent c.outbox steps ++ bytes) =
      (b.drained bytes).after (FrameStream.drain (sent c.outbox steps)).frames := by
  unfold Attachment.drained
  rw [FrameStream.drain_append, h]

/-- This client's reader relays what has arrived, and waits. -/
theorem Stage.relayed (h : Stage c steps t) {b : Attachment} {bytes : Bytes} {ended : Bool} {now : Nat} {relay : Relay}
    {news : List Event} {deadline : Nat} (hb : b ∈ t.gateway.attached) (hid : b.id = c.id) (hbox : b.outbox = c.outbox)
    (relays : t.gateway.relay.Reports b.id (b.drained bytes).frames relay news) :
    Stage c (steps ++ [.begin (.feed b bytes ended now)]) (t.withGateway { t.gateway with
      relay
      attached := t.gateway.attached.map fun x =>
        if x.outbox = b.outbox then { x with unread := (b.drained bytes).rest, deadline } else x }) := by
  cases h with
  | entering _ _ _ _ _ noReader => exact absurd hbox (noReader b hb)
  | leaving _ _ _ noReader => exact absurd hbox (noReader b hb)
  | reading pending reader unread holding counted reports =>
    have hdrain := drain_sent (unread b hb hbox) bytes
    have hbytes : (TaskStep.begin (.feed b bytes ended now)).sent c.outbox = bytes := if_pos hbox
    refine .reading pending ⟨_, List.mem_map_of_mem hb, ?_⟩ (fun x hx hxc => ?_) holding counted fun hu => ?_
    · rw [if_pos rfl]
      exact hbox
    · rw [sent_snoc, hbytes, hdrain]
      obtain ⟨y, -, rfl⟩ := List.mem_map.mp hx
      by_cases hy : y.outbox = b.outbox
      · rw [if_pos hy]
        rfl
      · rw [if_neg hy] at hxc
        exact absurd (hxc.trans hbox.symm) hy
    · obtain ⟨n, losses, hreports, hlost⟩ := reports hu
      refine ⟨n, losses ++ news.filter (·.concerns c.id), ?_, ?_⟩
      · refine (reports_append relays.events).trans ?_
        rw [hreports]
        rfl
      · rw [sent_snoc, hbytes, hdrain]
        exact hlost.append (losses_news relays hid)

/-- This client's reader relays what has arrived, and its loop ends. -/
theorem Stage.left (h : Stage c steps t) {m : Move} {b : Attachment} {relay : Relay} {news : List Event}
    (hm : m.reader? = some b) (hb : b ∈ t.gateway.attached) (hhandle : b.handle = c) (hr : b.role = .client)
    (relays : t.gateway.relay.Reports b.id m.frames relay news) :
    Stage c (steps ++ [.begin m]) ((t.withGateway { t.gateway with relay }).leave b) := by
  subst hhandle
  cases h with
  | entering _ _ _ _ _ noReader => exact absurd rfl (noReader b hb)
  | leaving _ _ _ noReader => exact absurd rfl (noReader b hb)
  | reading pending reader unread holding counted reports =>
    have hcalls : ((t.withGateway { t.gateway with relay }).leave b).pending b.handle = endCalls .client :=
      (Function.update_self ..).trans (congrArg endCalls hr)
    refine .leaving _ hcalls (List.suffix_refl _) (fun x hx => bne_iff_ne.mp (List.mem_filter.mp hx).2)
      (iff_of_true holding (by simp [endCalls])) (iff_of_true counted (by simp [endCalls]))
      (fun _ hout => absurd (by simp [endCalls]) hout) fun hu => ?_
    obtain ⟨n, losses, hreports, hlost⟩ := reports hu
    refine ⟨n, losses ++ news.filter (·.concerns b.id), ?_, ?_⟩
    · refine (reports_append relays.events).trans ?_
      rw [hreports, if_pos (by simp [endCalls]), List.append_nil]
      rfl
    · -- the last bytes may come with the end, or the loop ends without any
      have hnews := losses_news (c := b.handle) relays rfl
      cases m with
      | feed x bytes ended now =>
        cases hm
        have hbytes : (TaskStep.begin (.feed b bytes ended now)).sent b.handle.outbox = bytes := if_pos rfl
        rw [sent_snoc, hbytes, drain_sent (unread b hb rfl)]
        exact hlost.append hnews
      | finish x =>
        have hnone : sent b.handle.outbox (steps ++ [.begin (.finish x)]) = sent b.handle.outbox steps := by
          rw [sent_snoc]
          exact List.append_nil _
        rw [hnone, ← List.append_nil (FrameStream.drain (sent b.handle.outbox steps)).frames]
        exact hlost.append hnews
      | _ => cases hm

/-! ### All tasks -/

/-- The accounts of all clients. -/
structure Accounts (most : Nat) (t : Tasks) : Prop where
  holding : t.holding.Nodup
  counted : t.counted.Nodup
  covered : t.counted ⊆ t.holding
  permits : t.gateway.permits + t.state.wrapping + t.holding.length = most
  active : t.gateway.relay.counters.connectionsActive.toNat = t.counted.length

structure Inv (config : Config) (steps : List TaskStep) (t : Tasks) : Prop where
  state : t.state.Inv
  owners : ∀ h, ∀ call ∈ t.pending h, (h, call.role) ∈ t.state.opened
  stages : ∀ c, (c, .client) ∈ t.state.opened → Stage c steps t
  /-- nothing has arrived for a queue that there is not -/
  unsent : ∀ i, (∀ x ∈ t.state.opened, x.1.outbox ≠ i) → sent i steps = []
  /-- nothing has been reported about an id that nobody has had -/
  known : ∀ id, ∀ e ∈ t.gateway.relay.events, e.concerns id → ∃ x ∈ t.state.opened, x.1.id = id
  holders : ∀ h ∈ t.holding, (h, .client) ∈ t.state.opened
  accounts : t.Accounts config.server.maxConnections.toNat

variable {config : Config}

theorem inv_create (config : Config) : Inv config [] (create config) where
  state := GatewayState.inv_create config
  owners _ _ hm := nomatch hm
  stages _ hc := nomatch hc
  unsent _ _ := rfl
  known _ _ he := nomatch he
  holders _ hh := nomatch hh
  accounts := ⟨.nil, .nil, List.Subset.refl _, rfl, rfl⟩

theorem Changed.opened (h : t.Changed a t') : t.state.opened <+: t'.state.opened := by
  cases h with
  | quiet _ s stopping same => rw [same.opened]
  | client | backend => exact List.prefix_append _ _
  | relayed | left | called => exact List.prefix_refl _

theorem Changed.events (h : t.Changed a t') : t.gateway.relay.events <+: t'.gateway.relay.events := by
  cases h with
  | quiet _ s stopping same => exact same.events ▸ List.prefix_refl _
  | client fresh | backend fresh => exact (openSession_same t fresh).2.2 ▸ List.prefix_refl _
  | relayed _ _ _ _ relay news _ _ relays => exact ⟨news, relays.events.symm⟩
  | left _ _ relay news _ _ relays => exact ⟨news, relays.events.symm⟩
  | called h call rest hp => exact ⟨_, (Gateway.perform_events t.gateway h call).symm⟩

theorem inv_opens (hi : t.state.Inv) (fresh : SessionId) (role : Role) (now : Nat) :
    (t.opens fresh role now).state.Inv := by
  have ho := Gateway.openSession_opens t.gateway fresh role
  have hpool : (t.gateway.openSession fresh).1.relay.pool = t.gateway.relay.pool := by
    rw [Gateway.openSession_eq]
  have hclients := (openSession_same t fresh).2.1
  refine hi.opens _ ho (fun c hc => .inl (hclients ▸ hc)) ?_ (fun c hc => .inl (hpool ▸ hc)) ?_
  · rw [hclients]
    exact hi.clientIds
  · rw [hpool]
    exact hi.poolIds

theorem Changed.state (h : t.Changed a t') (hi : t.state.Inv)
    (owners : ∀ h, ∀ call ∈ t.pending h, (h, call.role) ∈ t.state.opened) : t'.state.Inv := by
  cases h with
  | quiet _ s stopping same => exact same.inv
  | client fresh now | backend fresh now => exact inv_opens hi fresh _ now
  | relayed b bytes _ _ relay _ deadline _ _ _ leavesOnly =>
    exact hi.leavesOnly ((Gateway.LeavesOnly.of_relay leavesOnly).trans (Gateway.leavesOnly_keep _ b.outbox _ _)) _ _
  | left m b relay _ _ _ _ _ leavesOnly =>
    exact hi.leavesOnly ((Gateway.LeavesOnly.of_relay leavesOnly).trans (Gateway.leavesOnly_leave _ b)) _ _
  | called h call rest hp => exact hi.perform (owners h call (hp ▸ List.mem_cons_self))

theorem role_of_mem_startCalls {call : Call} {now : Nat} {role : Role} (h : call ∈ startCalls now role) :
    call.role = role := by
  cases role <;> simp only [startCalls, List.mem_cons, List.not_mem_nil, or_false] at h <;>
    rcases h with rfl | rfl | rfl | rfl <;> rfl

theorem role_of_mem_endCalls {call : Call} {role : Role} (h : call ∈ endCalls role) : call.role = role := by
  cases role <;> simp only [endCalls, List.mem_cons, List.not_mem_nil, or_false] at h <;>
    rcases h with rfl | rfl | rfl | rfl <;> rfl

theorem owners_update {pending : Handle → List Call} {opened opened' : List (Handle × Role)} {b : Handle}
    {calls : List Call} (owners : ∀ h, ∀ call ∈ pending h, (h, call.role) ∈ opened) (hsub : opened ⊆ opened')
    (hcalls : ∀ call ∈ calls, (b, call.role) ∈ opened') :
    ∀ h, ∀ call ∈ Function.update pending b calls h, (h, call.role) ∈ opened' := by
  intro h call hm
  by_cases he : h = b
  · subst he
    rw [Function.update_self] at hm
    exact hcalls call hm
  · rw [Function.update_of_ne he] at hm
    exact hsub (owners h call hm)

theorem Changed.owners (h : t.Changed a t') (hi : t.state.Inv)
    (owners : ∀ h, ∀ call ∈ t.pending h, (h, call.role) ∈ t.state.opened) :
    ∀ h, ∀ call ∈ t'.pending h, (h, call.role) ∈ t'.state.opened := by
  cases h with
  | quiet _ s stopping same => exact fun h call hm => same.opened ▸ owners h call hm
  | client fresh now | backend fresh now =>
    refine owners_update owners (List.subset_append_left _ _) fun call hm => ?_
    rw [role_of_mem_startCalls hm]
    exact List.mem_append_right _ (List.mem_singleton_self _)
  | relayed => exact owners
  | left m b _ _ _ hb =>
    refine owners_update owners (List.Subset.refl _) fun call hm => ?_
    rw [role_of_mem_endCalls hm]
    exact hi.readers b hb
  | called h call rest hp =>
    exact owners_update owners (List.Subset.refl _) fun other hm => owners h other (hp ▸ List.mem_cons_of_mem _ hm)

theorem Changed.unsent (h : t.Changed a t') (hi : t.state.Inv)
    (unsent : ∀ i, (∀ x ∈ t.state.opened, x.1.outbox ≠ i) → sent i steps = []) :
    ∀ i, (∀ x ∈ t'.state.opened, x.1.outbox ≠ i) → sent i (steps ++ [a]) = [] := by
  intro i hno
  have hold : ∀ x ∈ t.state.opened, x.1.outbox ≠ i := fun x hx => hno x (h.opened.subset hx)
  have hbytes : a.sent i = [] := by
    cases h with
    | quiet _ _ _ _ bytes => exact bytes i
    | relayed b _ _ _ _ _ _ hb => exact if_neg (hold _ (hi.readers b hb))
    | left m b _ _ hm hb =>
      cases m with
      | feed => cases hm; exact if_neg (hold _ (hi.readers b hb))
      | _ => rfl
    | client | backend | called => rfl
  rw [sent_snoc, unsent i hold, hbytes]
  rfl

theorem Changed.known (h : t.Changed a t') (hi : t.state.Inv)
    (owners : ∀ h, ∀ call ∈ t.pending h, (h, call.role) ∈ t.state.opened)
    (known : ∀ id, ∀ e ∈ t.gateway.relay.events, e.concerns id → ∃ x ∈ t.state.opened, x.1.id = id) :
    ∀ id, ∀ e ∈ t'.gateway.relay.events, e.concerns id → ∃ x ∈ t'.state.opened, x.1.id = id := by
  have htells : ∀ {b : Attachment} {frames relay news}, b ∈ t.gateway.attached →
      t.gateway.relay.Reports b.id frames relay news → ∀ id, ∀ e ∈ relay.events, e.concerns id →
      ∃ x ∈ t.state.opened, x.1.id = id := by
    intro b frames relay news hb relays id e he hc
    rw [relays.events] at he
    rcases List.mem_append.mp he with he | he
    · exact known id e he hc
    · obtain ⟨frame, -, fault, rfl⟩ | ⟨other, rfl⟩ := relays.kinds e he
      · exact ⟨_, hi.readers b hb, by simpa [Event.concerns] using hc⟩
      · simp [Event.concerns] at hc
  cases h with
  | quiet _ s stopping same =>
    intro id e he hc
    rw [same.opened]
    exact known id e (same.events ▸ he) hc
  | client fresh now | backend fresh now =>
    intro id e he hc
    obtain ⟨x, hx, hid⟩ := known id e ((openSession_same t fresh).2.2 ▸ he) hc
    exact ⟨x, List.mem_append_left _ hx, hid⟩
  | relayed b _ _ _ relay news _ hb relays => exact htells hb relays
  | left m b relay news _ hb relays => exact htells hb relays
  | called h call rest hp =>
    intro id e he hc
    have ho := owners h call (hp ▸ List.mem_cons_self)
    rcases List.mem_append.mp (Gateway.perform_events t.gateway h call ▸ he) with he | he
    · exact known id e he hc
    · refine ⟨_, ho, ?_⟩
      cases call with
      | reportBound | reportClosed =>
        rw [List.mem_singleton.mp he] at hc
        simp [Event.concerns] at hc
        simp [hc]
      | _ => cases he

/-- A client that has only just come was not there before. -/
theorem Inv.opens (hi : t.Inv config steps) {fresh : SessionId} {now : Nat} (hm : a.sent c.outbox = [])
    (hi' : (t.opens fresh .client now).state.Inv) (hc : (t.gateway.openSession fresh).2 = c) :
    Stage c (steps ++ [a]) (t.opens fresh .client now) := by
  have hnew : ∀ x ∈ t.state.opened, x.1.outbox ≠ c.outbox := hc ▸ hi'.outbox_ne rfl
  refine stage_of_opens hc hm (fun b hb => hnew _ (hi.state.readers b hb)) (hi.unsent c.outbox hnew) (fun hm => ?_)
    fun hu => ?_
  · exact hnew _ (hi.holders c (hi.accounts.covered hm)) rfl
  · refine List.filter_eq_nil_iff.mpr fun e he hconcerns => ?_
    obtain ⟨x, hx, hid⟩ := hi.known c.id e he hconcerns
    exact hnew x hx (congrArg Handle.outbox (hu x (List.mem_append_left _ hx) hid))

theorem Changed.stages (h : t.Changed a t') (hi : t.Inv config steps) (hi' : t'.state.Inv) :
    ∀ c, (c, .client) ∈ t'.state.opened → Stage c (steps ++ [a]) t' := by
  intro c hc
  cases h with
  | quiet _ s stopping same bytes => exact (hi.stages c (same.opened ▸ hc)).apart (SameSessions.apart same bytes c)
  | client fresh now =>
    by_cases he : (t.gateway.openSession fresh).2 = c
    · exact hi.opens rfl hi' he
    · have hold : (c, .client) ∈ t.state.opened := (List.mem_append.mp hc).resolve_right fun hm =>
        he (congrArg Prod.fst (List.mem_singleton.mp hm)).symm
      exact (hi.stages c hold).apart (apart_of_opens he rfl)
  | backend fresh now =>
    have hold : (c, .client) ∈ t.state.opened := (List.mem_append.mp hc).resolve_right fun hm =>
      nomatch congrArg Prod.snd (List.mem_singleton.mp hm)
    have hne := hi'.outbox_ne rfl _ hold
    exact (hi.stages c hold).apart (apart_of_opens (fun he => hne (congrArg Handle.outbox he).symm) rfl)
  | relayed b bytes _ _ relay news deadline hb relays clients =>
    by_cases hbox : b.outbox = c.outbox
    · have hid := congrArg Handle.id (handle_of_outbox hi.state hc hb hbox).1
      exact (hi.stages c hc).relayed hb hid hbox relays
    · exact (hi.stages c hc).apart (apart_of_relayed hi.state hb hbox relays clients)
  | left m b relay news hm hb relays clients =>
    by_cases hbox : b.outbox = c.outbox
    · obtain ⟨hhandle, hrole⟩ := handle_of_outbox hi.state hc hb hbox
      exact (hi.stages c hc).left hm hb hhandle hrole relays
    · exact (hi.stages c hc).apart (apart_of_left hi.state hm hb hbox relays clients)
  | called h call rest hp =>
    have ho := hi.owners h call (hp ▸ List.mem_cons_self)
    by_cases he : h = c
    · subst he
      exact (hi.stages h hc).called hi.accounts.holding hi.accounts.counted hp
    · refine (hi.stages c hc).apart (apart_of_called ho fun hbox => he ?_)
      exact hi.state.eq_of_outbox (GatewayState.mem_known ho) (GatewayState.mem_known hc) hbox

theorem Changed.holders (h : t.Changed a t') (holders : ∀ h ∈ t.holding, (h, .client) ∈ t.state.opened) :
    ∀ h ∈ t'.holding, (h, .client) ∈ t'.state.opened := by
  cases h with
  | quiet _ s stopping same => exact fun h hm => same.opened ▸ holders h hm
  | client fresh now =>
    intro h hm
    rcases List.mem_append.mp hm with hm | hm
    · exact List.mem_append_left _ (holders h hm)
    · rw [List.mem_singleton.mp hm]
      exact List.mem_append_right _ (List.mem_singleton_self _)
  | backend => exact fun h hm => List.mem_append_left _ (holders h hm)
  | relayed | left => exact holders
  | called h call rest =>
    intro other hm
    simp only [make] at hm
    split at hm
    · exact holders other (List.mem_of_mem_erase hm)
    · exact holders other hm

/-- What the client has whose task makes this call. -/
theorem Stage.of_pending {call : Call} {rest : List Call} (h : Stage c steps t) (hp : t.pending c = call :: rest) :
    (call = .countClient → c ∈ t.holding ∧ c ∉ t.counted) ∧ (call = .uncountClient → c ∈ t.counted) ∧
    (call = .freePermit → c ∈ t.holding ∧ c ∉ t.counted) := by
  cases h with
  | entering now calls pending left more noReader bytes holding counted =>
    obtain rfl : calls = call :: rest := pending.symm.trans hp
    obtain ⟨rfl, rfl⟩ | ⟨rfl, rfl⟩ | ⟨rfl, rfl⟩ | ⟨rfl, rfl⟩ := suffix_startCalls left <;>
      simp [holding, counted]
  | reading pending => cases pending.symm.trans hp
  | leaving calls pending left noReader holding counted =>
    obtain rfl : calls = call :: rest := pending.symm.trans hp
    obtain ⟨rfl, rfl⟩ | ⟨rfl, rfl⟩ | ⟨rfl, rfl⟩ | ⟨rfl, rfl⟩ := suffix_endCalls left <;>
      simp [holding, counted]

theorem Accounts.called {most : Nat} (h : t.Accounts most) (hm : most < 2 ^ 64) {call : Call} {rest : List Call}
    (hcount : call = .countClient → c ∈ t.holding ∧ c ∉ t.counted) (huncount : call = .uncountClient → c ∈ t.counted)
    (hfree : call = .freePermit → c ∈ t.holding ∧ c ∉ t.counted) : (t.make c call rest).Accounts most := by
  have hpermits := h.permits
  cases call with
  | countClient =>
    obtain ⟨hholds, hnot⟩ := hcount rfl
    have hnodup : (t.counted ++ [c]).Nodup := List.nodup_append.mpr ⟨h.counted, List.nodup_singleton _,
      fun x hx y hy he => hnot (by rwa [← List.mem_singleton.mp hy, ← he])⟩
    have hcovered : t.counted ++ [c] ⊆ t.holding :=
      List.append_subset.mpr ⟨h.covered, fun x hx => List.mem_singleton.mp hx ▸ hholds⟩
    have hle := (List.subperm_of_subset hnodup hcovered).length_le
    refine ⟨h.holding, hnodup, hcovered, h.permits, ?_⟩
    change (t.gateway.relay.counters.connectionsActive + 1).toNat = (t.counted ++ [c]).length
    rw [UInt64.toNat_add, h.active, List.length_append, List.length_singleton] at *
    exact Nat.mod_eq_of_lt (by simp; omega)
  | uncountClient =>
    have hlength := List.length_erase_of_mem (huncount rfl)
    refine ⟨h.holding, h.counted.erase c, fun x hx => h.covered (List.mem_of_mem_erase hx), h.permits, ?_⟩
    change (Saturating.sub t.gateway.relay.counters.connectionsActive 1).toNat = (t.counted.erase c).length
    rw [Saturating.toNat_sub, h.active, hlength]
    rfl
  | freePermit =>
    obtain ⟨hholds, hnot⟩ := hfree rfl
    refine ⟨h.holding.erase c, h.counted, fun x hx => ?_, ?_, h.active⟩
    · have hne : x ≠ c := fun he => hnot (he ▸ hx)
      exact (List.mem_erase_of_ne hne).mpr (h.covered hx)
    · have hlength := List.length_erase_of_mem hholds
      have hpos := List.length_pos_of_mem hholds
      change t.gateway.permits + 1 + t.state.wrapping + (t.holding.erase c).length = most
      omega
  | _ => exact ⟨h.holding, h.counted, h.covered, h.permits, h.active⟩

theorem Changed.accounts (h : t.Changed a t') (hi : t.Inv config steps) (hi' : t'.state.Inv) :
    t'.Accounts config.server.maxConnections.toNat := by
  have hold := hi.accounts
  cases h with
  | quiet _ s stopping same =>
    refine ⟨hold.holding, hold.counted, hold.covered, ?_, (congrArg _ same.active).trans hold.active⟩
    exact (congrArg (· + t.holding.length) same.permits).trans hold.permits
  | client fresh now hw =>
    have hnew : (t.gateway.openSession fresh).2 ∉ t.holding := fun hm => hi'.outbox_ne rfl _ (hi.holders _ hm) rfl
    refine ⟨?_, hold.counted, fun x hx => List.mem_append_left _ (hold.covered hx), ?_, ?_⟩
    · exact List.nodup_append.mpr ⟨hold.holding, List.nodup_singleton _, fun x hx y hy he =>
        hnew (by rwa [← List.mem_singleton.mp hy, ← he])⟩
    · have hpermits := hold.permits
      have hgateway : (t.gateway.openSession fresh).1.permits = t.gateway.permits := by
        rw [Gateway.openSession_eq]
      change (t.gateway.openSession fresh).1.permits + (t.state.wrapping - 1) +
        (t.holding ++ [(t.gateway.openSession fresh).2]).length = _
      rw [hgateway, List.length_append, List.length_singleton]
      omega
    · refine Eq.trans (congrArg UInt64.toNat ?_) hold.active
      change (t.gateway.openSession fresh).1.relay.counters.connectionsActive = _
      rw [Gateway.openSession_eq]
  | backend fresh now =>
    refine ⟨hold.holding, hold.counted, hold.covered, ?_, ?_⟩
    · refine Eq.trans ?_ hold.permits
      change (t.gateway.openSession fresh).1.permits + _ + _ = _
      rw [Gateway.openSession_eq]
      rfl
    · refine Eq.trans (congrArg UInt64.toNat ?_) hold.active
      change (t.gateway.openSession fresh).1.relay.counters.connectionsActive = _
      rw [Gateway.openSession_eq]
  | relayed _ _ _ _ relay _ _ _ _ clients =>
    exact ⟨hold.holding, hold.counted, hold.covered, hold.permits, (congrArg _ clients.active).trans hold.active⟩
  | left _ _ relay _ _ _ _ clients =>
    exact ⟨hold.holding, hold.counted, hold.covered, hold.permits, (congrArg _ clients.active).trans hold.active⟩
  | called h call rest hp =>
    have ho := hi.owners h call (hp ▸ List.mem_cons_self)
    have hstage : call.role = .client → _ := fun hr => (hi.stages h (hr ▸ ho)).of_pending hp
    exact hold.called (UInt64.toNat_lt _) (fun he => (hstage (he ▸ rfl)).1 he) (fun he => (hstage (he ▸ rfl)).2.1 he)
      fun he => (hstage (he ▸ rfl)).2.2 he

theorem Inv.step (hi : t.Inv config steps) (h : t.step? a = some t') : t'.Inv config (steps ++ [a]) := by
  have hc := changed_of_step? hi.state h
  have hi' := hc.state hi.state hi.owners
  exact ⟨hi', hc.owners hi.state hi.owners, hc.stages hi hi', hc.unsent hi.state hi.unsent,
    hc.known hi.state hi.owners hi.known, hc.holders hi.holders, hc.accounts hi hi'⟩

theorem inv_of_run (h : (create config).run? steps = some t) : t.Inv config steps := by
  induction steps using List.reverseRecOn generalizing t with
  | nil => cases h; exact inv_create config
  | append_singleton steps a ih =>
    obtain ⟨u, hu, ha⟩ := run?_snoc.mp h
    exact (ih hu).step ha

end Tasks

end FrameGateway
