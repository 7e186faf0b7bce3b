import FrameGateway.Proofs.Gateway.Tables
/-! A gateway among those who use it: its clients and backends, the host with sessions of its own, and
the writers that empty the queues. They move in any order, and a call that has to wait is cut where it
waits. All that a move can do to the tables of sessions is said once (`GatewayState.stepped_of_step?`); that
each session in them is one that the gateway has opened or that the host has made, and that each of
these has a queue of its own, follows from there (`GatewayState.Inv`). -/

namespace FrameGateway

/-- What can happen next. Whatever has to wait is divided in two moves. -/
inductive Move where
  | start
  /-- a bind that is under way is over -/
  | bound (outcome : Except Fault String)
  | stop
  /-- a client connects, and its connection is to be wrapped -/
  | connect
  /-- a connection could not be wrapped -/
  | abandon
  /-- a connection has been wrapped -/
  | enter (fresh : SessionId) (now : Nat)
  /-- a backend connects -/
  | attach (fresh : SessionId) (now : Nat)
  /-- the host makes a session of its own -/
  | host (id : SessionId) (capacity : Nat)
  /-- the host puts a session among the backends -/
  | add (h : Handle)
  | remove (id : SessionId)
  /-- a writer takes frames out of its queue -/
  | write (i : OutboxId) (frames : Nat)
  /-- a writer ends, or the host lets go of its queue -/
  | close (i : OutboxId)
  /-- a session reads -/
  | feed (a : Attachment) (bytes : Bytes) (ended : Bool) (now : Nat)
  /-- a reader ends: after a silence, or since all reading is to end -/
  | finish (a : Attachment)

/-- A gateway, what waits in it, and whose sessions it has. -/
structure GatewayState where
  gateway : Gateway
  /-- binds that are under way -/
  binding : Nat
  /-- connections that are being wrapped -/
  wrapping : Nat
  /-- the host's own sessions, oldest first -/
  hosted : List Handle
  /-- the sessions that the gateway has opened over streams, and as what, oldest first -/
  opened : List (Handle × Role)

namespace GatewayState

def create (config : Config) : GatewayState := ⟨.create config, 0, 0, [], []⟩

/-- All sessions that there have been. The host may put any of them among the backends. -/
def known (s : GatewayState) : List Handle := s.hosted ++ s.opened.map (·.1)

def step? (s : GatewayState) : Move → Option GatewayState
  | .start => match s.gateway.beginStart with
    | (gateway, some _) => some { s with gateway }
    | (gateway, none) => some { s with gateway, binding := s.binding + 1 }
  | .bound outcome =>
    if s.binding = 0 then none
    else some { s with gateway := (s.gateway.finishStart outcome).1, binding := s.binding - 1 }
  | .stop => some { s with gateway := s.gateway.stop }
  | .connect => match s.gateway.beginClient with
    | .error _ => some s
    | .ok gateway => some { s with gateway, wrapping := s.wrapping + 1 }
  | .abandon =>
    if s.wrapping = 0 then none
    else some { s with gateway := s.gateway.abandonClient, wrapping := s.wrapping - 1 }
  | .enter fresh now =>
    if s.wrapping = 0 then none
    else
      let (gateway, h) := s.gateway.enterClient fresh now
      some { s with gateway, wrapping := s.wrapping - 1, opened := s.opened ++ [(h, .client)] }
  | .attach fresh now => match s.gateway.attachBackend fresh now with
    | (gateway, .error _) => some { s with gateway }
    | (gateway, .ok h) => some { s with gateway, opened := s.opened ++ [(h, .backend)] }
  | .host id capacity =>
    let (relay, i) := s.gateway.relay.openQueue capacity
    some { s with gateway := { s.gateway with relay }, hosted := s.hosted ++ [⟨id, i⟩] }
  | .add h => if h ∈ s.known then some { s with gateway := (s.gateway.addBackend h).1 } else none
  | .remove id => some { s with gateway := (s.gateway.removeBackend id).1 }
  | .write i n =>
    let boxes := s.gateway.relay.boxes.modify i fun o => { o with frames := o.frames.drop n }
    some { s with gateway := { s.gateway with relay := { s.gateway.relay with boxes } } }
  | .close i => some { s with gateway := { s.gateway with relay := s.gateway.relay.closeQueue i } }
  | .feed a bytes ended now =>
    if a ∈ s.gateway.attached then some { s with gateway := s.gateway.feed a bytes ended now } else none
  | .finish a =>
    if a ∈ s.gateway.attached then some { s with gateway := s.gateway.finish a } else none

def run? (s : GatewayState) (moves : List Move) : Option GatewayState := moves.foldlM step? s

theorem run?_cons_eq_some {s s' : GatewayState} {m : Move} {moves : List Move} :
    s.run? (m :: moves) = some s' ↔ ∃ t, s.step? m = some t ∧ t.run? moves = some s' := by
  rw [run?, List.foldlM_cons]
  exact Option.bind_eq_some_iff

inductive Stepped (s : GatewayState) : Move → GatewayState → Prop
  | leavesOnly (m : Move) (g : Gateway) (binding wrapping : Nat) (h : s.gateway.LeavesOnly g) :
    Stepped s m { s with gateway := g, binding, wrapping }
  | entered (fresh : SessionId) (now wrapping : Nat) :
    Stepped s (.enter fresh now)
      { s with gateway := (s.gateway.enterClient fresh now).1, wrapping
               opened := s.opened ++ [((s.gateway.enterClient fresh now).2, .client)] }
  | attached (fresh : SessionId) (now : Nat) (g : Gateway) (h : Handle)
      (he : s.gateway.attachBackend fresh now = (g, .ok h)) :
    Stepped s (.attach fresh now) { s with gateway := g, opened := s.opened ++ [(h, .backend)] }
  | hosted (id : SessionId) (capacity : Nat) :
    Stepped s (.host id capacity)
      { s with gateway := { s.gateway with relay := (s.gateway.relay.openQueue capacity).1 }
               hosted := s.hosted ++ [⟨id, ⟨s.gateway.relay.boxes.boxes.length⟩⟩] }
  | added (h : Handle) (hm : h ∈ s.known) (hid : h.id ∉ s.gateway.relay.pool.ids) :
    Stepped s (.add h) { s with gateway := { s.gateway with relay := { s.gateway.relay with
      pool := { s.gateway.relay.pool with members := s.gateway.relay.pool.members ++ [h] }
      counters := s.gateway.relay.counters.backendAttached } } }

theorem stepped_of_step? {s s' : GatewayState} {m : Move} (hs : s.gateway.relay.Sound)
    (h : s.step? m = some s') : s.Stepped m s' := by
  cases m with
  | start =>
    have hw := Gateway.leavesOnly_beginStart s.gateway
    simp only [step?] at h
    split at h
    next heq => cases h; rw [heq] at hw; exact .leavesOnly _ _ _ _ hw
    next heq => cases h; rw [heq] at hw; exact .leavesOnly _ _ _ _ hw
  | bound outcome =>
    simp only [step?] at h
    split at h
    · cases h
    · cases h
      exact .leavesOnly _ _ _ _ (Gateway.leavesOnly_finishStart _ outcome)
  | stop => cases h; exact .leavesOnly _ _ _ _ (Gateway.leavesOnly_stop _)
  | connect =>
    simp only [step?] at h
    split at h
    next => cases h; exact .leavesOnly _ _ _ _ (.refl _)
    next heq => cases h; exact .leavesOnly _ _ _ _ (Gateway.leavesOnly_beginClient heq)
  | abandon =>
    simp only [step?] at h
    split at h
    · cases h
    · cases h
      exact .leavesOnly _ _ _ _ (.of_same rfl rfl rfl)
  | enter fresh now =>
    simp only [step?] at h
    split at h
    · cases h
    · cases h
      exact .entered fresh now _
  | attach fresh now =>
    simp only [step?] at h
    split at h
    next g e heq =>
      cases h
      exact Gateway.attachBackend_error heq ▸ .leavesOnly _ _ _ _ (.refl _)
    next g b heq =>
      cases h
      exact .attached fresh now g b heq
  | host id capacity => cases h; exact .hosted id capacity
  | add b =>
    simp only [step?] at h
    split at h
    next hm =>
      cases h
      rcases Gateway.addBackend_cases s.gateway b with hw | ⟨hid, heq⟩
      · exact .leavesOnly _ _ _ _ hw
      · exact heq ▸ .added b hm hid
    next => cases h
  | remove id =>
    cases h
    exact .leavesOnly _ _ _ _ (.of_relay (Relay.leavesOnly_removeBackend _ id))
  | write i n =>
    cases h
    exact .leavesOnly _ _ _ _ (.of_relay (Relay.leavesOnly_modify _ i _))
  | close i =>
    cases h
    exact .leavesOnly _ _ _ _ (.of_relay (Relay.leavesOnly_modify _ i _))
  | feed a bytes ended now =>
    simp only [step?] at h
    split at h
    · cases h
      exact .leavesOnly _ _ _ _ (Gateway.leavesOnly_feed hs a bytes ended now)
    · cases h
  | finish a =>
    simp only [step?] at h
    split at h
    · cases h
      exact .leavesOnly _ _ _ _ (Gateway.leavesOnly_finish _ a)
    · cases h

theorem Stepped.token {s s' : GatewayState} {m : Move} (h : s.Stepped m s') :
    s'.gateway.relay.token = s.gateway.relay.token := by
  cases h with
  | leavesOnly m g binding wrapping hw => exact hw.relay.token
  | entered fresh now wrapping => exact (Gateway.enterClient_opens s.gateway fresh now).1.token
  | attached fresh now g b he => exact (Gateway.attachBackend_opens he).1.token
  | hosted => rfl
  | added => rfl

/-! ### Whose sessions these are -/

/-- The tables of sessions hold known sessions only, none under one id twice, and each session that is
known has a queue of its own. -/
structure Inv (s : GatewayState) : Prop where
  queues : (s.known.map (·.outbox)).Nodup
  made : ∀ h ∈ s.known, h.outbox.index < s.gateway.relay.boxes.boxes.length
  clients : ∀ h ∈ s.gateway.relay.clients, (h, .client) ∈ s.opened
  clientIds : (s.gateway.relay.clients.map (·.id)).Nodup
  pool : ∀ h ∈ s.gateway.relay.pool.members, h ∈ s.known
  poolIds : s.gateway.relay.pool.ids.Nodup
  readers : ∀ a ∈ s.gateway.attached, (⟨a.id, a.outbox⟩, a.role) ∈ s.opened

variable {s s' : GatewayState}

theorem inv_create (config : Config) : (create config).Inv :=
  ⟨.nil, by simp [create, known], by simp [create, Gateway.create, Relay.create], .nil,
    by simp [create, Gateway.create, Relay.create, Pool.empty], .nil, by simp [create, Gateway.create]⟩

theorem mem_known {b : Handle} {role : Role} (h : (b, role) ∈ s.opened) : b ∈ s.known :=
  List.mem_append_right _ (List.mem_map_of_mem h)

/-- A queue tells whose it is. -/
theorem Inv.eq_of_outbox (h : s.Inv) {a b : Handle} (ha : a ∈ s.known) (hb : b ∈ s.known)
    (he : a.outbox = b.outbox) : a = b :=
  List.inj_on_of_nodup_map h.queues ha hb he

/-- The queue of a session that is opened is not one that there was. -/
theorem Inv.outbox_ne (hi : s.Inv) {l : List (Handle × Role)} {h : Handle} {role : Role}
    (ho : s.opened = l ++ [(h, role)]) : ∀ x ∈ l, x.1.outbox ≠ h.outbox := by
  intro x hx he
  have hq := hi.queues
  rw [known, ho, List.map_append, List.map_append] at hq
  have hlast := (List.nodup_append.mp hq).2.1
  rw [List.map_append, List.nodup_append] at hlast
  refine hlast.2.2 x.1.outbox ?_ h.outbox ?_ he
  · exact List.mem_map_of_mem (List.mem_map_of_mem hx)
  · simp

/-- The reader of a session goes by the id and the role of that session. -/
theorem Inv.reader (h : s.Inv) {b : Handle} {role : Role} (hb : (b, role) ∈ s.opened) {a : Attachment}
    (ha : a ∈ s.gateway.attached) (he : a.outbox = b.outbox) : a.id = b.id ∧ a.role = role := by
  have hn : (s.opened.map (·.1.outbox)).Nodup := by
    have := (List.map_append ▸ h.queues).of_append_right
    rwa [List.map_map] at this
  have heq := List.inj_on_of_nodup_map hn (h.readers a ha) hb he
  exact ⟨congrArg (·.1.id) heq, congrArg Prod.snd heq⟩

theorem Inv.sound (h : s.Inv) : s.gateway.relay.Sound := by
  have hk : ∀ a ∈ s.gateway.relay.pool.members ++ s.gateway.relay.clients, a ∈ s.known := fun a ha =>
    (List.mem_append.mp ha).elim (h.pool a) fun ha => mem_known (h.clients a ha)
  exact ⟨h.poolIds, h.clientIds, fun a ha b hb he => congrArg _ (h.eq_of_outbox (hk a ha) (hk b hb) he)⟩

/-- A session with the newest queue. -/
theorem Inv.queues_of_perm (h : s.Inv) {known : List Handle} {b : Handle}
    (hb : b.outbox.index = s.gateway.relay.boxes.boxes.length) (hp : known.Perm (b :: s.known)) :
    (known.map (·.outbox)).Nodup ∧
      ∀ a ∈ known, a.outbox.index < s.gateway.relay.boxes.boxes.length + 1 := by
  refine ⟨(hp.map _).nodup_iff.mpr (List.nodup_cons.mpr ⟨fun hm => ?_, h.queues⟩), fun a ha => ?_⟩
  · obtain ⟨a, ha, he⟩ := List.mem_map.mp hm
    have := h.made a ha
    rw [he, hb] at this
    exact absurd this (Nat.lt_irrefl _)
  · rcases List.mem_cons.mp (hp.mem_iff.mp ha) with rfl | ha
    · omega
    · have := h.made a ha
      omega

theorem Inv.leavesOnly (h : s.Inv) {g : Gateway} (hw : s.gateway.LeavesOnly g) (binding wrapping : Nat) :
    Inv { s with gateway := g, binding, wrapping } := by
  refine ⟨h.queues, fun b hb => hw.relay.queues ▸ h.made b hb, fun b hb => h.clients b (hw.relay.clients.subset hb),
    h.clientIds.sublist (hw.relay.clients.map _), fun b hb => h.pool b (hw.relay.pool.subset hb),
    h.poolIds.sublist (hw.relay.pool.map _), fun a ha => ?_⟩
  obtain ⟨b, hb, hid, hrole, hbox⟩ := hw.readers a ha
  exact hid ▸ hrole ▸ hbox ▸ h.readers b hb

/-- Whatever session is opened, and whichever table it goes to. -/
theorem Inv.opens (h : s.Inv) {fresh : SessionId} {role : Role} {g : Gateway} {b : Handle} (wrapping : Nat)
    (ho : s.gateway.Opens fresh role g b)
    (hc : ∀ c ∈ g.relay.clients, c ∈ s.gateway.relay.clients ∨ c = b ∧ role = .client)
    (hci : (g.relay.clients.map (·.id)).Nodup)
    (hp : ∀ c ∈ g.relay.pool.members, c ∈ s.gateway.relay.pool.members ∨ c = b)
    (hpi : g.relay.pool.ids.Nodup) :
    Inv { s with gateway := g, wrapping, opened := s.opened ++ [(b, role)] } := by
  have hknown : known { s with gateway := g, wrapping, opened := s.opened ++ [(b, role)] } =
      s.known ++ [b] := by
    rw [known, List.map_append, ← List.append_assoc]
    rfl
  have hnew : b.outbox.index = s.gateway.relay.boxes.boxes.length := by rw [ho.handle]
  obtain ⟨hq, hm⟩ := h.queues_of_perm hnew (List.perm_append_singleton b s.known)
  refine ⟨?_, ?_, ?_, hci, ?_, hpi, ?_⟩
  · rw [hknown]
    exact hq
  · intro a ha
    rw [ho.queues]
    exact hm a (hknown ▸ ha)
  · intro c hm
    rcases hc c hm with hm | ⟨rfl, rfl⟩
    · exact List.mem_append_left _ (h.clients c hm)
    · exact List.mem_append_right _ (List.mem_singleton_self _)
  · intro c hm
    rw [hknown]
    rcases hp c hm with hm | rfl
    · exact List.mem_append_left _ (h.pool c hm)
    · exact List.mem_append_right _ (List.mem_singleton_self _)
  · intro a ha
    rcases ho.readers a ha with ha | ⟨hid, hrole, hbox⟩
    · exact List.mem_append_left _ (h.readers a ha)
    · rw [hid, hrole, hbox]
      exact List.mem_append_right _ (List.mem_singleton_self (b, role))

theorem Inv.step (h : s.Inv) {m : Move} (hs : s.Stepped m s') : s'.Inv := by
  cases hs with
  | leavesOnly m g binding wrapping hw => exact h.leavesOnly hw binding wrapping
  | entered fresh now wrapping =>
    obtain ⟨ho, hp, hc⟩ := Gateway.enterClient_opens s.gateway fresh now
    refine h.opens wrapping ho ?_ ?_ ?_ ?_
    · intro c hm
      exact (Relay.mem_of_mem_addClient (hc ▸ hm)).imp_right fun he => ⟨he, rfl⟩
    · rw [hc]
      exact Relay.nodup_ids_addClient h.clientIds _
    · intro c hm
      exact .inl (hp ▸ hm)
    · rw [hp]
      exact h.poolIds
  | attached fresh now g b he =>
    obtain ⟨ho, hp, hc, -⟩ := Gateway.attachBackend_opens he
    refine h.opens s.wrapping ho ?_ ?_ ?_ ?_
    · intro c hm
      exact .inl (hc ▸ hm)
    · rw [hc]
      exact h.clientIds
    · intro c hm
      exact Pool.mem_of_mem_add (hp ▸ hm)
    · rw [hp]
      exact Pool.nodup_ids_add h.poolIds b
  | hosted id capacity =>
    have hperm : (s.hosted ++ [(⟨id, ⟨s.gateway.relay.boxes.boxes.length⟩⟩ : Handle)] ++ s.opened.map (·.1)).Perm
        (⟨id, ⟨s.gateway.relay.boxes.boxes.length⟩⟩ :: s.known) := by
      rw [List.append_assoc]
      exact List.perm_middle
    obtain ⟨hq, hm⟩ := h.queues_of_perm rfl hperm
    refine ⟨hq, fun a ha => ?_, h.clients, h.clientIds, fun c hc => ?_, h.poolIds, h.readers⟩
    · exact (hm a ha).trans_eq (Relay.length_openQueue ..).symm
    · exact hperm.mem_iff.mpr (List.mem_cons_of_mem _ (h.pool c hc))
  | added b hm hid =>
    refine ⟨h.queues, h.made, h.clients, h.clientIds, fun c hc => ?_, Pool.nodup_ids_append h.poolIds hid,
      h.readers⟩
    rcases List.mem_append.mp hc with hc | hc
    · exact h.pool c hc
    · exact List.mem_singleton.mp hc ▸ hm

theorem Inv.run (h : s.Inv) {moves : List Move} (hr : s.run? moves = some s') : s'.Inv := by
  induction moves generalizing s with
  | nil => cases hr; exact h
  | cons m moves ih =>
    obtain ⟨t, ht, hr⟩ := run?_cons_eq_some.mp hr
    exact ih (h.step (stepped_of_step? h.sound ht)) hr

end GatewayState

end FrameGateway
