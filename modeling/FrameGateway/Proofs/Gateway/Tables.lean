import FrameGateway.Gateway.Basic
import FrameGateway.Proofs.Relay.Books
/-! What happens to the tables of sessions. Most of what a gateway does lets sessions leave and no more
(`Gateway.LeavesOnly`); this holds of relaying, too, since it finds closed backends. A session comes where one
is opened over a stream (`Gateway.Opens`), or where the host adds a backend (`Gateway.addBackend_cases`). -/

namespace FrameGateway

namespace Relay

/-- Sessions may leave; none comes, and no queue is made. -/
structure LeavesOnly (r r' : Relay) : Prop where
  clients : r'.clients.Sublist r.clients
  pool : r'.pool.members.Sublist r.pool.members
  queues : r'.boxes.boxes.length = r.boxes.boxes.length
  token : r'.token = r.token

variable {r r' r'' : Relay}

theorem LeavesOnly.refl (r : Relay) : LeavesOnly r r := ⟨.refl _, .refl _, rfl, rfl⟩

theorem LeavesOnly.trans (h : LeavesOnly r r') (h' : LeavesOnly r' r'') : LeavesOnly r r'' :=
  ⟨h'.clients.trans h.clients, h'.pool.trans h.pool, h'.queues.trans h.queues, h'.token.trans h.token⟩

theorem LeavesOnly.sound (h : LeavesOnly r r') (hs : r.Sound) : r'.Sound := by
  have hsub : ∀ a ∈ r'.pool.members ++ r'.clients, a ∈ r.pool.members ++ r.clients :=
    fun a ha => (h.pool.append h.clients).subset ha
  exact ⟨hs.pool.sublist (h.pool.map _), hs.clients.sublist (h.clients.map _),
    fun a ha b hb => hs.owner a (hsub a ha) b (hsub b hb)⟩

theorem leavesOnly_pass (h : r.Sound) (role : Role) (source : SessionId) (frame : Bytes) :
    LeavesOnly r (r.pass role source frame).1 := by
  obtain ⟨e, result, hacc, heq⟩ := pass_effect h role ((parseFrame r.token frame).map FrameView.route)
  have hs := sameSessions_taken r frame
  rw [heq source frame rfl, finish_effect]
  refine ⟨hs.clients ▸ .refl _, hacc.backends, ?_, hs.token⟩
  rw [← hs.boxes]
  exact Outboxes.length_pushAll

theorem leavesOnly_removeBackend (r : Relay) (id : SessionId) : LeavesOnly r (r.removeBackend id).1 :=
  ⟨.refl _, Pool.members_remove_sublist r.pool id, rfl, rfl⟩

theorem leavesOnly_modify (r : Relay) (i : OutboxId) (f : Outbox → Outbox) :
    LeavesOnly r { r with boxes := r.boxes.modify i f } :=
  ⟨.refl _, .refl _, List.length_modify .., rfl⟩

theorem nodup_ids_addClient (hn : (r.clients.map (·.id)).Nodup) (h : Handle) :
    ((r.addClient h).clients.map (·.id)).Nodup := by
  rw [addClient, List.map_append, List.nodup_append]
  refine ⟨hn.sublist (List.filter_sublist.map _), List.nodup_singleton _, ?_⟩
  intro i hi j hj
  obtain ⟨c, hc, rfl⟩ := List.mem_map.mp hi
  rw [List.mem_singleton.mp hj]
  simpa using (List.mem_filter.mp hc).2

theorem mem_of_mem_addClient {h c : Handle} (hc : c ∈ (r.addClient h).clients) : c ∈ r.clients ∨ c = h := by
  rcases List.mem_append.mp hc with hc | hc
  · exact .inl (List.mem_filter.mp hc).1
  · exact .inr (List.mem_singleton.mp hc)

theorem length_openQueue (r : Relay) (capacity : Nat) :
    (r.openQueue capacity).1.boxes.boxes.length = r.boxes.boxes.length + 1 := List.length_append

end Relay

namespace Gateway

/-- Sessions and readers may end; nobody comes, and no id is given out. -/
structure LeavesOnly (g g' : Gateway) : Prop where
  relay : g.relay.LeavesOnly g'.relay
  readers : ∀ a ∈ g'.attached, ∃ b ∈ g.attached, a.id = b.id ∧ a.role = b.role ∧ a.outbox = b.outbox
  counter : g'.counter = g.counter

variable {g g' g'' : Gateway}

theorem LeavesOnly.of_relay {r : Relay} (h : g.relay.LeavesOnly r) : LeavesOnly g { g with relay := r } :=
  ⟨h, fun a ha => ⟨a, ha, rfl, rfl, rfl⟩, rfl⟩

theorem LeavesOnly.refl (g : Gateway) : LeavesOnly g g := .of_relay (.refl _)

theorem LeavesOnly.trans (h : LeavesOnly g g') (h' : LeavesOnly g' g'') : LeavesOnly g g'' := by
  refine ⟨h.relay.trans h'.relay, fun a ha => ?_, h'.counter.trans h.counter⟩
  obtain ⟨b, hb, hid, hrole, hbox⟩ := h'.readers a ha
  obtain ⟨c, hc, hid', hrole', hbox'⟩ := h.readers b hb
  exact ⟨c, hc, hid.trans hid', hrole.trans hrole', hbox.trans hbox'⟩

theorem LeavesOnly.of_same (hr : g'.relay = g.relay) (ha : g'.attached = g.attached)
    (hc : g'.counter = g.counter) : LeavesOnly g g' :=
  ⟨hr ▸ .refl _, fun a h => ⟨a, ha ▸ h, rfl, rfl, rfl⟩, hc⟩

theorem leavesOnly_beginStart (g : Gateway) : LeavesOnly g g.beginStart.1 := by
  unfold beginStart
  split <;> exact .of_same rfl rfl rfl

theorem leavesOnly_finishStart (g : Gateway) (outcome : Except Fault String) :
    LeavesOnly g (g.finishStart outcome).1 := by
  unfold finishStart
  split
  · exact .of_same rfl rfl rfl
  · dsimp only
    split <;> exact .of_same rfl rfl rfl

theorem beginClient_eq (g : Gateway) : g.beginClient =
    if g.phase = .stopped then .error .gatewayStopped
    else if g.permits = 0 then .error .connectionLimit
    else .ok { g with permits := g.permits - 1 } := by
  unfold beginClient ensureNotStopped
  split_ifs <;> rfl

theorem leavesOnly_beginClient (h : g.beginClient = .ok g') : LeavesOnly g g' := by
  unfold beginClient ensureNotStopped at h
  simp only [bind, Except.bind, pure, Except.pure, throw, throwThe, MonadExceptOf.throw] at h
  split_ifs at h
  cases h
  exact .of_same rfl rfl rfl

theorem leavesOnly_stop (g : Gateway) : LeavesOnly g g.stop := by
  rw [stop_eq]
  split
  · exact .refl g
  · exact ⟨⟨List.nil_sublist _, List.nil_sublist _, rfl, rfl⟩, fun a ha => ⟨a, ha, rfl, rfl, rfl⟩, rfl⟩

theorem leavesOnly_leave (g : Gateway) (a : Attachment) : LeavesOnly g (g.leave a) :=
  ⟨.refl _, fun b hb => ⟨b, (List.mem_filter.mp hb).1, rfl, rfl, rfl⟩, rfl⟩

theorem leavesOnly_finish (g : Gateway) (a : Attachment) : LeavesOnly g (g.finish a) := by
  have hreaders : ∀ b ∈ g.attached.filter (·.outbox != a.outbox),
      ∃ c ∈ g.attached, b.id = c.id ∧ b.role = c.role ∧ b.outbox = c.outbox :=
    fun b hb => ⟨b, (List.mem_filter.mp hb).1, rfl, rfl, rfl⟩
  unfold finish
  cases a.role with
  | client => exact ⟨⟨List.filter_sublist, .refl _, rfl, rfl⟩, hreaders, rfl⟩
  | backend =>
    have h := Relay.leavesOnly_removeBackend g.relay a.id
    exact ⟨⟨h.clients, h.pool, h.queues, h.token⟩, hreaders, rfl⟩

theorem leavesOnly_relayFrame (h : g.relay.Sound) (a : Attachment) (frame : Bytes) :
    LeavesOnly g (g.relayFrame a frame) := by
  have hp := Relay.leavesOnly_pass h a.role a.id frame
  unfold relayFrame
  cases hr : a.role with
  | client => rw [hr] at hp; exact .of_relay hp
  | backend => rw [hr] at hp; exact .of_relay hp

theorem leavesOnly_relayFrames (h : g.relay.Sound) (a : Attachment) (frames : List Bytes) :
    LeavesOnly g (frames.foldl (fun g frame => g.relayFrame a frame) g) := by
  induction frames generalizing g with
  | nil => exact .refl g
  | cons frame frames ih =>
    have hw := leavesOnly_relayFrame h a frame
    exact hw.trans (ih (hw.relay.sound h))

/-- A reader may keep what it has not relayed yet, and until when it waits. -/
theorem leavesOnly_keep (g : Gateway) (i : OutboxId) (unread : Bytes) (deadline : Nat) :
    LeavesOnly g { g with attached := g.attached.map fun b =>
      if b.outbox = i then { b with unread, deadline } else b } := by
  refine ⟨.refl _, fun b hb => ?_, rfl⟩
  obtain ⟨c, hm, rfl⟩ := List.mem_map.mp hb
  refine ⟨c, hm, ?_⟩
  split <;> exact ⟨rfl, rfl, rfl⟩

theorem leavesOnly_receive (h : g.relay.Sound) (a : Attachment) (bytes : Bytes) (ended : Bool) (now : Nat) :
    LeavesOnly g (g.receive a bytes ended now).1 := by
  have hw := leavesOnly_relayFrames h a (FrameStream.drain (a.unread ++ bytes)).frames
  unfold receive
  dsimp only
  generalize (FrameStream.drain (a.unread ++ bytes)).frames.foldl
    (fun g frame => g.relayFrame a frame) g = g' at hw
  have hc : LeavesOnly g' (g'.withCounters Counters.decodeError) :=
    .of_relay ⟨.refl _, .refl _, rfl, rfl⟩
  split_ifs
  · exact hw.trans hc
  · exact hw
  · exact hw.trans (leavesOnly_keep g' a.outbox _ _)
  · exact hw.trans (leavesOnly_keep g' a.outbox _ _)

theorem leavesOnly_feed (h : g.relay.Sound) (a : Attachment) (bytes : Bytes) (ended : Bool) (now : Nat) :
    LeavesOnly g (g.feed a bytes ended now) := by
  have hw := leavesOnly_receive h a bytes ended now
  unfold feed
  dsimp only
  split
  · exact hw.trans (leavesOnly_finish _ a)
  · exact hw

/-! ### Sessions that come -/

/-- Giving out an id counts on, and does nothing else. -/
theorem allocate_eq (g : Gateway) (fresh : SessionId) :
    ∃ counter, (g.allocate fresh).1 = { g with counter } := by
  have hfree : ∀ most tries (g : Gateway), ∃ counter, (g.nextFree most tries).1 = { g with counter } := by
    intro most tries
    induction tries with
    | zero => exact fun g => ⟨_, rfl⟩
    | succ n ih =>
      intro g
      rw [nextFree]
      dsimp only
      split
      · exact ⟨_, rfl⟩
      · obtain ⟨counter, hc⟩ := ih { g with counter := g.counter + 1 }
        exact ⟨counter, hc⟩
  unfold allocate
  split
  · exact hfree _ _ g
  · exact ⟨_, rfl⟩

/-- A session that is opened has a new queue. -/
theorem openSession_eq (g : Gateway) (fresh : SessionId) : g.openSession fresh =
    ({ g with counter := (g.allocate fresh).1.counter
              relay := { g.relay with boxes := (g.relay.boxes.create g.server.queueCapacity.toNat).1 } },
      ⟨(g.allocate fresh).2, ⟨g.relay.boxes.boxes.length⟩⟩) := by
  obtain ⟨counter, hc⟩ := allocate_eq g fresh
  rw [openSession, show g.allocate fresh = ((g.allocate fresh).1, (g.allocate fresh).2) from rfl, hc]
  rfl

/-- A session has been opened over a stream: it has the next id, a new queue, and a reader. -/
structure Opens (g : Gateway) (fresh : SessionId) (role : Role) (g' : Gateway) (h : Handle) : Prop where
  handle : h = ⟨(g.allocate fresh).2, ⟨g.relay.boxes.boxes.length⟩⟩
  counter : g'.counter = (g.allocate fresh).1.counter
  queues : g'.relay.boxes.boxes.length = g.relay.boxes.boxes.length + 1
  token : g'.relay.token = g.relay.token
  readers : ∀ a ∈ g'.attached, a ∈ g.attached ∨ a.id = h.id ∧ a.role = role ∧ a.outbox = h.outbox

theorem mem_attach {h : Handle} {role : Role} {now : Nat} {a : Attachment}
    (ha : a ∈ (g.attach h role now).attached) :
    a ∈ g.attached ∨ a.id = h.id ∧ a.role = role ∧ a.outbox = h.outbox := by
  rcases List.mem_append.mp ha with ha | ha
  · exact .inl ha
  · rw [List.mem_singleton] at ha
    subst ha
    exact .inr ⟨rfl, rfl, rfl⟩

theorem enterClient_opens (g : Gateway) (fresh : SessionId) (now : Nat) :
    Opens g fresh .client (g.enterClient fresh now).1 (g.enterClient fresh now).2 ∧
    (g.enterClient fresh now).1.relay.pool = g.relay.pool ∧
    (g.enterClient fresh now).1.relay.clients =
      (g.relay.addClient (g.enterClient fresh now).2).clients := by
  rw [enterClient, openSession_eq]
  refine ⟨⟨rfl, rfl, ?_, rfl, fun a ha => mem_attach ha⟩, rfl, rfl⟩
  exact List.length_append

theorem attachBackend_opens {h : Handle} {fresh : SessionId} {now : Nat}
    (he : g.attachBackend fresh now = (g', .ok h)) :
    Opens g fresh .backend g' h ∧ g'.relay.pool = (g.relay.pool.add h).1 ∧
    g'.relay.clients = g.relay.clients ∧
    g'.relay.counters.backendsAttached = g.relay.counters.backendsAttached + 1 := by
  unfold attachBackend at he
  split at he
  · cases he
  · rw [openSession_eq] at he
    cases he
    exact ⟨⟨rfl, rfl, List.length_append, rfl, fun a ha => mem_attach ha⟩, rfl, rfl, rfl⟩

theorem attachBackend_error {e : Fault} {fresh : SessionId} {now : Nat}
    (he : g.attachBackend fresh now = (g', .error e)) : g' = g := by
  unfold attachBackend at he
  split at he
  · cases he; rfl
  · rw [openSession_eq] at he
    cases he

theorem addBackend_cases (g : Gateway) (h : Handle) :
    LeavesOnly g (g.addBackend h).1 ∨
    h.id ∉ g.relay.pool.ids ∧ (g.addBackend h).1 =
      { g with relay := { g.relay with pool := { g.relay.pool with members := g.relay.pool.members ++ [h] }
                                       counters := g.relay.counters.backendAttached } } := by
  unfold addBackend
  split
  · exact .inl (.refl g)
  · rcases Pool.add_cases g.relay.pool h with ⟨-, he⟩ | ⟨hid, he⟩
    · simp only [Relay.addBackend, he]
      exact .inl (.refl g)
    · simp only [Relay.addBackend, he]
      exact .inr ⟨hid, rfl⟩

end Gateway

end FrameGateway
