import FrameGateway.Proofs.Gateway.State
/-! What a gateway has to do with its clients: their permits, their counters, the table that frames are sent
by, and the sessions that are read from. Two things alone change this for one client, that it comes and
that its reader ends; a stop empties the table; and all else that a gateway does leaves it as it is
(`GatewayState.moved_of_step?`). -/

namespace FrameGateway

def Event.isBound : Event → Bool
  | bound .. => true
  | _ => false

structure ClientCounts where
  /-- connections that may still come -/
  permits : Nat
  total : UInt64
  active : UInt64
  /-- the clients that frames are sent to -/
  table : List Handle
  /-- the clients that are read from, oldest first -/
  loops : List Handle
  /-- the reports of clients that the pool now serves, oldest first -/
  greetings : List Event

namespace ClientCounts

def enter (c : ClientCounts) (h : Handle) (backends : Nat) : ClientCounts :=
  { c with
    total := c.total + 1
    active := c.active + 1
    table := c.table.filter (·.id != h.id) ++ [h]
    loops := c.loops ++ [h]
    greetings := c.greetings ++ [.bound h.id backends] }

def leave (c : ClientCounts) (h : Handle) : ClientCounts :=
  { c with
    permits := c.permits + 1
    active := Saturating.sub c.active 1
    table := c.table.filter (·.id != h.id)
    loops := c.loops.filter (·.outbox != h.outbox) }

end ClientCounts

namespace Relay

variable {r : Relay}

theorem greetings_map (notes : List Note) (source : SessionId) (frame : Bytes) :
    (notes.map (·.event source frame)).filter Event.isBound = [] := by
  rw [List.filter_eq_nil_iff]
  intro e he
  obtain ⟨n, -, rfl⟩ := List.mem_map.mp he
  cases n <;> exact Bool.false_ne_true

/-- Relaying a frame is no matter of who the clients are. -/
structure SameClients (r r' : Relay) : Prop where
  table : r'.clients = r.clients
  total : r'.counters.connectionsTotal = r.counters.connectionsTotal
  active : r'.counters.connectionsActive = r.counters.connectionsActive
  greetings : r'.events.filter Event.isBound = r.events.filter Event.isBound

theorem sameClients_pass (h : r.Sound) (role : Role) (source : SessionId) (frame : Bytes) :
    SameClients r (r.pass role source frame).1 := by
  obtain ⟨e, result, -, heq⟩ := pass_effect h role ((parseFrame r.token frame).map FrameView.route)
  rw [heq source frame rfl, finish_effect]
  refine ⟨(sameSessions_taken r frame).clients, ?_, ?_, ?_⟩
  · simp only [withReports, Effect.on, Counters.relayed, counters_taken]
  · simp only [withReports, Effect.on, Counters.relayed, counters_taken]
  · simp only [withReports, Effect.on, List.filter_append, greetings_map, events_taken, List.append_nil]

end Relay

namespace Gateway

variable {g g' : Gateway}

def loops (g : Gateway) : List Handle := (g.attached.filter (·.role = .client)).map Attachment.handle

def clientCounts (g : Gateway) : ClientCounts where
  permits := g.permits
  total := g.relay.counters.connectionsTotal
  active := g.relay.counters.connectionsActive
  table := g.relay.clients
  loops := g.loops
  greetings := g.relay.events.filter Event.isBound

/-! ### What leaves the clients alone -/

theorem clientCounts_relay {r : Relay} (h : g.relay.SameClients r) :
    ({ g with relay := r } : Gateway).clientCounts = g.clientCounts := by
  simp only [clientCounts, loops, h.table, h.total, h.active, h.greetings]

theorem clientCounts_beginStart (g : Gateway) : g.beginStart.1.clientCounts = g.clientCounts := by
  unfold beginStart
  split <;> rfl

theorem clientCounts_finishStart (g : Gateway) (outcome : Except Fault String) :
    (g.finishStart outcome).1.clientCounts = g.clientCounts := by
  unfold finishStart
  split
  · rfl
  · dsimp only
    split <;> rfl

theorem clientCounts_attachBackend {h : Handle} {fresh : SessionId} {now : Nat}
    (he : g.attachBackend fresh now = (g', .ok h)) : g'.clientCounts = g.clientCounts := by
  unfold attachBackend at he
  split at he
  · cases he
  · rw [openSession_eq] at he
    cases he
    simp [clientCounts, loops, performAll, startCalls, perform, attach, withCounters, Relay.addBackend,
      Counters.backendAttached]

theorem clientCounts_addBackend (g : Gateway) (h : Handle) : (g.addBackend h).1.clientCounts = g.clientCounts := by
  unfold addBackend
  split
  · rfl
  · dsimp only
    split <;> rfl

theorem clientCounts_relayFrame (h : g.relay.Sound) (a : Attachment) (frame : Bytes) :
    (g.relayFrame a frame).clientCounts = g.clientCounts := by
  have hp := Relay.sameClients_pass h a.role a.id frame
  unfold relayFrame
  cases hr : a.role with
  | client => rw [hr] at hp; exact clientCounts_relay hp
  | backend => rw [hr] at hp; exact clientCounts_relay hp

theorem clientCounts_relayFrames (h : g.relay.Sound) (a : Attachment) (frames : List Bytes) :
    (frames.foldl (fun g frame => g.relayFrame a frame) g).clientCounts = g.clientCounts := by
  induction frames generalizing g with
  | nil => rfl
  | cons frame frames ih =>
    exact (ih ((leavesOnly_relayFrame h a frame).relay.sound h)).trans (clientCounts_relayFrame h a frame)

/-- The frames of a session concern the relay alone. -/
theorem relayFrames_eq (g : Gateway) (a : Attachment) (frames : List Bytes) :
    ∃ relay, frames.foldl (fun g frame => g.relayFrame a frame) g = { g with relay } := by
  induction frames generalizing g with
  | nil => exact ⟨g.relay, rfl⟩
  | cons frame frames ih =>
    obtain ⟨relay, h⟩ := ih (g.relayFrame a frame)
    exact ⟨relay, h⟩

/-- A reader may keep what it has not relayed yet, and until when it waits. -/
theorem clientCounts_keep (g : Gateway) (i : OutboxId) (unread : Bytes) (deadline : Nat) :
    ({ g with attached := g.attached.map fun b =>
      if b.outbox = i then { b with unread, deadline } else b } : Gateway).clientCounts = g.clientCounts := by
  have hrole : ∀ b : Attachment, (if b.outbox = i then { b with unread, deadline } else b).role = b.role :=
    fun b => by split <;> rfl
  have hhandle : ∀ b : Attachment,
      (if b.outbox = i then { b with unread, deadline } else b).handle = b.handle :=
    fun b => by split <;> rfl
  simp only [clientCounts, loops, List.filter_map, List.map_map, Function.comp_def, hrole, hhandle]

/-! ### What changes them -/

theorem clientCounts_stop (g : Gateway) :
    g.stop.clientCounts = if g.phase = .stopped then g.clientCounts else { g.clientCounts with table := [] } := by
  rw [stop_eq]
  split <;> rfl

theorem clientCounts_enterClient (g : Gateway) (fresh : SessionId) (now : Nat) :
    (g.enterClient fresh now).1.clientCounts =
      g.clientCounts.enter (g.enterClient fresh now).2 g.relay.pool.size := by
  rw [enterClient, openSession_eq]
  simp [clientCounts, loops, performAll, startCalls, perform, attach, withCounters, ClientCounts.enter, Relay.addClient,
    Relay.report, Counters.connectionEstablished, Event.isBound, Attachment.handle]

theorem loops_finish (g : Gateway) (a : Attachment) :
    (g.finish a).loops = g.loops.filter (·.outbox != a.outbox) := by
  have hatt : (g.finish a).attached = g.attached.filter (·.outbox != a.outbox) := by
    unfold finish
    cases a.role <;> rfl
  rw [loops, loops, hatt, List.filter_map, List.filter_filter, List.filter_filter]
  simp only [Function.comp_def, Attachment.handle, Bool.and_comm]

theorem clientCounts_finish_client {a : Attachment} (hr : a.role = .client) :
    (g.finish a).clientCounts = g.clientCounts.leave a.handle := by
  rw [clientCounts, loops_finish]
  simp [finish, leave, hr, performAll, endCalls, perform, clientCounts, ClientCounts.leave, withCounters,
    Relay.removeClient,
    Relay.report, Counters.connectionClosed, Event.isBound, Attachment.handle]

/-- The end of a backend's reader does not concern the clients, since their queues are other ones. -/
theorem clientCounts_finish_backend {a : Attachment} (hr : a.role = .backend)
    (hother : ∀ b ∈ g.attached, b.outbox = a.outbox → b.role = a.role) :
    (g.finish a).clientCounts = g.clientCounts := by
  have hloops : g.loops.filter (·.outbox != a.outbox) = g.loops := by
    refine List.filter_eq_self.mpr fun h hh => bne_iff_ne.mpr fun ho => ?_
    obtain ⟨b, hb, rfl⟩ := List.mem_map.mp hh
    obtain ⟨hb, hclient⟩ := List.mem_filter.mp hb
    rw [hother b hb ho, hr] at hclient
    cases hclient
  rw [clientCounts, loops_finish, hloops]
  simp [finish, leave, hr, performAll, endCalls, perform, clientCounts, Relay.removeBackend, Relay.report,
    Event.isBound]

/-- Bytes that arrive from a session leave the clients alone. -/
theorem clientCounts_receive (h : g.relay.Sound) (a : Attachment) (bytes : Bytes) (ended : Bool) (now : Nat) :
    (g.receive a bytes ended now).1.clientCounts = g.clientCounts := by
  have hc := clientCounts_relayFrames h a (FrameStream.drain (a.unread ++ bytes)).frames
  unfold receive
  dsimp only
  split_ifs
  · exact hc
  · exact hc
  · exact (clientCounts_keep _ a.outbox _ _).trans hc
  · exact (clientCounts_keep _ a.outbox _ _).trans hc

/-- The loop of a session ends with its stream, or with a fault of it. -/
theorem feed_of_isOver {a : Attachment} {bytes : Bytes} {ended : Bool} (now : Nat)
    (h : ended = true ∨ (FrameStream.drain (a.unread ++ bytes)).fault ≠ none) :
    g.feed a bytes ended now = (g.receive a bytes ended now).1.finish a := by
  have hover : (g.receive a bytes ended now).2 = true := by
    unfold receive
    dsimp only
    split_ifs with hfault hended
    · rfl
    · rfl
    · rw [Option.ne_none_iff_exists'] at h
      obtain hended' | ⟨fault, hf⟩ := h
      · exact absurd hended' hended
      · rw [hf] at hfault
        exact absurd rfl hfault
  rw [feed]
  dsimp only
  rw [if_pos hover]

/-- They may end the loop of a session, and then this concerns the clients if it is one of them. -/
theorem clientCounts_feed (h : g.relay.Sound) {a : Attachment}
    (hother : ∀ b ∈ g.attached, b.outbox = a.outbox → b.role = a.role) (bytes : Bytes) (ended : Bool)
    (now : Nat) : (g.feed a bytes ended now).clientCounts = g.clientCounts ∨
      a.role = .client ∧ (g.feed a bytes ended now).clientCounts = g.clientCounts.leave a.handle := by
  have hc := clientCounts_receive h a bytes ended now
  have hreaders := (leavesOnly_receive h a bytes ended now).readers
  unfold feed
  dsimp only
  split
  next =>
    cases hr : a.role with
    | client => exact .inr ⟨rfl, by rw [clientCounts_finish_client hr, hc]⟩
    | backend =>
      refine .inl ((clientCounts_finish_backend hr fun b hb ho => ?_).trans hc)
      obtain ⟨x, hx, -, hrole, hbox⟩ := hreaders b hb
      exact hrole.trans (hother x hx (hbox.symm.trans ho))
  next => exact .inl hc

end Gateway

def Move.attachesClient : Move → Bool
  | connect | abandon | enter .. => true
  | _ => false

namespace GatewayState

variable {s s' : GatewayState} {m : Move}

inductive Moved (s : GatewayState) (m : Move) (s' : GatewayState) : Prop
  | idle (hc : s'.gateway.clientCounts = s.gateway.clientCounts)
  | left (h : Handle) (hh : h ∈ s.gateway.loops) (hc : s'.gateway.clientCounts = s.gateway.clientCounts.leave h)
  | emptied (hm : m = .stop) (hc : s'.gateway.clientCounts = { s.gateway.clientCounts with table := [] })

theorem mem_loops {g : Gateway} {a : Attachment} (ha : a ∈ g.attached) (hr : a.role = .client) :
    a.handle ∈ g.loops :=
  List.mem_map_of_mem (List.mem_filter.mpr ⟨ha, decide_eq_true hr⟩)

/-- Who shares a queue has one role. -/
theorem Inv.role_eq (h : s.Inv) {a : Attachment} (ha : a ∈ s.gateway.attached) :
    ∀ b ∈ s.gateway.attached, b.outbox = a.outbox → b.role = a.role :=
  fun _ hb ho => (h.reader (h.readers a ha) hb ho).2

theorem moved_of_step? (hi : s.Inv) (hm : m.attachesClient = false) (h : s.step? m = some s') :
    s.Moved m s' ∧ s'.wrapping = s.wrapping := by
  cases m with
  | start =>
    have hc := Gateway.clientCounts_beginStart s.gateway
    simp only [step?] at h
    split at h
    next heq => cases h; rw [heq] at hc; exact ⟨.idle hc, rfl⟩
    next heq => cases h; rw [heq] at hc; exact ⟨.idle hc, rfl⟩
  | bound outcome =>
    simp only [step?] at h
    split at h
    · cases h
    · cases h
      exact ⟨.idle (Gateway.clientCounts_finishStart _ outcome), rfl⟩
  | stop =>
    cases h
    have hc := Gateway.clientCounts_stop s.gateway
    split at hc
    · exact ⟨.idle hc, rfl⟩
    · exact ⟨.emptied rfl hc, rfl⟩
  | connect => cases hm
  | abandon => cases hm
  | enter fresh now => cases hm
  | attach fresh now =>
    simp only [step?] at h
    split at h
    next g e heq =>
      cases h
      exact ⟨.idle (congrArg _ (Gateway.attachBackend_error heq)), rfl⟩
    next g b heq =>
      cases h
      exact ⟨.idle (Gateway.clientCounts_attachBackend heq), rfl⟩
  | host id capacity => cases h; exact ⟨.idle rfl, rfl⟩
  | add b =>
    simp only [step?] at h
    split at h
    · cases h
      exact ⟨.idle (Gateway.clientCounts_addBackend _ b), rfl⟩
    · cases h
  | remove id => cases h; exact ⟨.idle rfl, rfl⟩
  | write i n => cases h; exact ⟨.idle rfl, rfl⟩
  | close i => cases h; exact ⟨.idle rfl, rfl⟩
  | feed a bytes ended now =>
    simp only [step?] at h
    split at h
    next ha =>
      cases h
      rcases Gateway.clientCounts_feed hi.sound (hi.role_eq ha) bytes ended now with hc | ⟨hr, hc⟩
      · exact ⟨.idle hc, rfl⟩
      · exact ⟨.left _ (mem_loops ha hr) hc, rfl⟩
    next => cases h
  | finish a =>
    simp only [step?] at h
    split at h
    next ha =>
      cases h
      cases hr : a.role with
      | client => exact ⟨.left _ (mem_loops ha hr) (Gateway.clientCounts_finish_client hr), rfl⟩
      | backend => exact ⟨.idle (Gateway.clientCounts_finish_backend hr (hi.role_eq ha)), rfl⟩
    next => cases h

end GatewayState

end FrameGateway
