import FrameGateway.Proofs.Gateway.State
import FrameGateway.Proofs.Relay.Reports
/-! What a gateway reports, move by move. A client that comes is reported, and so is what becomes of the
frames that a session sends, and the end of a session that is read from; nothing else is
(`GatewayState.outcome_of_step?`). -/

namespace FrameGateway

namespace Attachment

/-- The whole frames there are once these bytes have arrived. -/
def drained (a : Attachment) (bytes : Bytes) : FrameStream.Drained := FrameStream.drain (a.unread ++ bytes)

def start (h : Handle) (role : Role) (deadline : Nat) : Attachment := ⟨h.id, role, h.outbox, [], deadline⟩

end Attachment

namespace Gateway

variable {g : Gateway}

theorem relays_relayFrames (hn : g.relay.pool.ids.Nodup) (a : Attachment) (frames : List Bytes) :
    ∃ relay news, frames.foldl (fun g frame => g.relayFrame a frame) g = { g with relay } ∧
      g.relay.Reports a.id frames relay news ∧ (a.role = .backend → relay.pool = g.relay.pool) := by
  induction frames generalizing g with
  | nil => exact ⟨g.relay, [], rfl, .of_same rfl rfl, fun _ => rfl⟩
  | cons frame frames ih =>
    have hpass : g.relayFrame a frame = { g with relay := (g.relay.pass a.role a.id frame).1 } := by
      unfold relayFrame
      cases a.role <;> rfl
    obtain ⟨news, hfirst⟩ := Relay.reportsSome_pass hn a.role a.id frame
    obtain ⟨relay, more, heq, hrest, hpool⟩ := ih (g := g.relayFrame a frame) (hpass ▸ hfirst.nodup hn)
    rw [hpass] at hrest hpool
    refine ⟨relay, news ++ more, ?_, hfirst.trans hrest, fun hr => ?_⟩
    · rw [List.foldl_cons, heq, hpass]
    · rw [hpool hr, hr]
      exact Relay.pool_pass_backend g.relay a.id frame

theorem events_finish (g : Gateway) (a : Attachment) :
    (g.finish a).relay.events = g.relay.events ++ [.closed a.id a.role] := by
  unfold finish
  cases a.role <;> rfl

theorem attached_finish (g : Gateway) (a : Attachment) :
    (g.finish a).attached = g.attached.filter (·.outbox != a.outbox) := by
  unfold finish
  cases a.role <;> rfl

theorem pool_finish (g : Gateway) (a : Attachment) : (g.finish a).relay.pool =
    if a.role = .backend then (g.relay.pool.remove a.id).1 else g.relay.pool := by
  unfold finish
  cases a.role <;> rfl

/-- Nothing is reported, nobody is read from who was not before, and sessions may leave the pool. -/
structure Quiet (g g' : Gateway) : Prop where
  events : g'.relay.events = g.relay.events
  attached : g'.attached = g.attached
  pool : ∀ id, g'.relay.pool.ids.count id ≤ g.relay.pool.ids.count id

variable {g' : Gateway}

theorem Quiet.of_same (hr : g'.relay = g.relay) (ha : g'.attached = g.attached) : Quiet g g' := by
  refine ⟨?_, ha, fun id => ?_⟩
  · rw [hr]
  · rw [hr]

theorem quiet_beginStart (g : Gateway) : Quiet g g.beginStart.1 := by
  unfold beginStart
  split <;> exact .of_same rfl rfl

theorem quiet_finishStart (g : Gateway) (outcome : Except Fault String) : Quiet g (g.finishStart outcome).1 := by
  unfold finishStart
  split
  · exact .of_same rfl rfl
  · dsimp only
    split <;> exact .of_same rfl rfl

theorem quiet_stop (g : Gateway) : Quiet g g.stop := by
  rw [stop_eq]
  split
  · exact .of_same rfl rfl
  · exact ⟨rfl, rfl, fun id => Nat.zero_le _⟩

theorem quiet_beginClient (h : g.beginClient = .ok g') : Quiet g g' := by
  unfold beginClient ensureNotStopped at h
  simp only [bind, Except.bind, pure, Except.pure, throw, throwThe, MonadExceptOf.throw] at h
  split_ifs at h
  cases h
  exact .of_same rfl rfl

theorem quiet_removeBackend (g : Gateway) (id : SessionId) : Quiet g (g.removeBackend id).1 := by
  refine ⟨rfl, rfl, fun other => ?_⟩
  exact ((Pool.members_remove_sublist g.relay.pool id).map _).count_le other

/-- The host may put a session among the backends, and nothing is reported. -/
theorem addBackend_quiet (g : Gateway) (h : Handle) : (g.addBackend h).1.relay.events = g.relay.events ∧
    (g.addBackend h).1.attached = g.attached ∧ ∀ id, (g.addBackend h).1.relay.pool.ids.count id ≤
      g.relay.pool.ids.count id + if h.id = id then 1 else 0 := by
  unfold addBackend
  split
  · exact ⟨rfl, rfl, fun id => Nat.le_add_right ..⟩
  · rcases Pool.add_cases g.relay.pool h with ⟨-, he⟩ | ⟨-, he⟩
    · simp only [Relay.addBackend, he]
      exact ⟨rfl, rfl, fun id => Nat.le_add_right ..⟩
    · simp only [Relay.addBackend, he]
      refine ⟨rfl, rfl, fun id => ?_⟩
      simp [withCounters, Pool.ids, List.count_singleton]

theorem enterClient_reports (g : Gateway) (fresh : SessionId) (now : Nat) :
    (g.enterClient fresh now).1.relay.events =
      g.relay.events ++ [.bound (g.enterClient fresh now).2.id g.relay.pool.size] ∧
    (g.enterClient fresh now).1.attached = g.attached ++
      [.start (g.enterClient fresh now).2 .client (now + g.server.idleTimeout.timer)] := by
  rw [enterClient, openSession_eq]
  exact ⟨rfl, rfl⟩

theorem attachBackend_quiet {h : Handle} {fresh : SessionId} {now : Nat}
    (he : g.attachBackend fresh now = (g', .ok h)) : g'.relay.events = g.relay.events ∧
      g'.attached = g.attached ++ [.start h .backend (now + g.server.idleTimeout.timer)] := by
  unfold attachBackend at he
  split at he
  · cases he
  · rw [openSession_eq] at he
    cases he
    exact ⟨rfl, rfl⟩

/-- Bytes that arrive may be the last that is read from a session. -/
theorem receive_cases (hn : g.relay.pool.ids.Nodup) (a : Attachment) (bytes : Bytes) (ended : Bool) (now : Nat) :
    ∃ relay news, g.relay.Reports a.id (a.drained bytes).frames relay news ∧
      (a.role = .backend → relay.pool = g.relay.pool) ∧
      (g.receive a bytes ended now = ({ g with relay }, true) ∨
        (a.drained bytes).fault = none ∧ ∃ deadline, g.receive a bytes ended now = ({ g with
          relay
          attached := g.attached.map fun b =>
            if b.outbox = a.outbox then { b with unread := (a.drained bytes).rest, deadline } else b }, false)) := by
  obtain ⟨relay, news, heq, htells, hpool⟩ := relays_relayFrames hn a (a.drained bytes).frames
  unfold receive
  rw [show FrameStream.drain (a.unread ++ bytes) = a.drained bytes from rfl]
  dsimp only
  rw [heq]
  cases hf : (a.drained bytes).fault with
  | some fault =>
    refine ⟨{ relay with counters := relay.counters.decodeError }, news, ?_, hpool, .inl ?_⟩
    · exact ⟨htells.events, htells.kinds, htells.leavers⟩
    · rw [if_pos rfl]
      rfl
  | none =>
    dsimp only
    split_ifs with hcut hended
    · refine ⟨{ relay with counters := relay.counters.decodeError }, news, ?_, hpool, .inl rfl⟩
      exact ⟨htells.events, htells.kinds, htells.leavers⟩
    · exact ⟨relay, news, htells, hpool, .inl rfl⟩
    · exact ⟨relay, news, htells, hpool, .inr ⟨rfl, _, rfl⟩⟩
    · exact ⟨relay, news, htells, hpool, .inr ⟨rfl, _, rfl⟩⟩

theorem feed_cases (hn : g.relay.pool.ids.Nodup) (a : Attachment) (bytes : Bytes) (ended : Bool) (now : Nat) :
    ∃ relay news, g.relay.Reports a.id (a.drained bytes).frames relay news ∧
      (a.role = .backend → relay.pool = g.relay.pool) ∧
      (g.feed a bytes ended now = ({ g with relay } : Gateway).finish a ∨
        (a.drained bytes).fault = none ∧ ∃ deadline, g.feed a bytes ended now = { g with
          relay
          attached := g.attached.map fun b =>
            if b.outbox = a.outbox then { b with unread := (a.drained bytes).rest, deadline } else b }) := by
  obtain ⟨relay, news, htells, hpool, heq | ⟨hfault, deadline, heq⟩⟩ := receive_cases hn a bytes ended now
  · exact ⟨relay, news, htells, hpool, .inl (by rw [feed, heq]; rfl)⟩
  · exact ⟨relay, news, htells, hpool, .inr ⟨hfault, deadline, by rw [feed, heq]; rfl⟩⟩

end Gateway

namespace Move

def reader? : Move → Option Attachment
  | feed a .. => some a
  | finish a => some a
  | _ => none

def frames : Move → List Bytes
  | feed a bytes .. => (a.drained bytes).frames
  | _ => []

/-- How often the host puts a session of that id among the backends here. -/
def joins (id : SessionId) : Move → Nat
  | add h => if h.id = id then 1 else 0
  | _ => 0

end Move

namespace GatewayState

variable {s t : GatewayState} {m : Move}

/-- All that a move can come to: what it reports, whose readers it leaves, and what becomes of the pool. -/
inductive Outcome (s : GatewayState) : Move → GatewayState → Prop
  | silent (m : Move) (t : GatewayState) (hm : m.reader? = none)
      (events : t.gateway.relay.events = s.gateway.relay.events) (attached : t.gateway.attached = s.gateway.attached)
      (opened : t.opened = s.opened)
      (pool : ∀ id, t.gateway.relay.pool.ids.count id ≤ s.gateway.relay.pool.ids.count id + m.joins id) :
    Outcome s m t
  | entered (fresh : SessionId) (now : Nat) (t : GatewayState) (h : Handle) (backends deadline : Nat)
      (events : t.gateway.relay.events = s.gateway.relay.events ++ [.bound h.id backends])
      (attached : t.gateway.attached = s.gateway.attached ++ [.start h .client deadline])
      (opened : t.opened = s.opened ++ [(h, .client)])
      (pool : t.gateway.relay.pool = s.gateway.relay.pool) : Outcome s (.enter fresh now) t
  | attached (fresh : SessionId) (now : Nat) (t : GatewayState) (h : Handle) (deadline : Nat)
      (events : t.gateway.relay.events = s.gateway.relay.events)
      (attached : t.gateway.attached = s.gateway.attached ++ [.start h .backend deadline])
      (opened : t.opened = s.opened ++ [(h, .backend)])
      (pool : t.gateway.relay.pool = (s.gateway.relay.pool.add h).1) : Outcome s (.attach fresh now) t
  | read (a : Attachment) (bytes : Bytes) (ended : Bool) (now : Nat) (t : GatewayState) (news : List Event)
      (deadline : Nat) (ha : a ∈ s.gateway.attached)
      (relays : s.gateway.relay.Reports a.id (a.drained bytes).frames t.gateway.relay news)
      (fault : (a.drained bytes).fault = none)
      (attached : t.gateway.attached = s.gateway.attached.map fun b =>
        if b.outbox = a.outbox then { b with unread := (a.drained bytes).rest, deadline } else b)
      (opened : t.opened = s.opened)
      (pool : a.role = .backend → t.gateway.relay.pool = s.gateway.relay.pool) : Outcome s (.feed a bytes ended now) t
  | ended (m : Move) (a : Attachment) (t : GatewayState) (relay : Relay) (news : List Event) (hm : m.reader? = some a)
      (ha : a ∈ s.gateway.attached) (relays : s.gateway.relay.Reports a.id m.frames relay news)
      (events : t.gateway.relay.events = relay.events ++ [.closed a.id a.role])
      (attached : t.gateway.attached = s.gateway.attached.filter (·.outbox != a.outbox))
      (opened : t.opened = s.opened)
      (pool : a.role = .backend → relay.pool = s.gateway.relay.pool)
      (pool' : t.gateway.relay.pool = if a.role = .backend then (relay.pool.remove a.id).1 else relay.pool) :
    Outcome s m t

theorem Outcome.of_quiet (hm : m.reader? = none) (h : s.gateway.Quiet t.gateway) (ho : t.opened = s.opened) :
    s.Outcome m t :=
  .silent m t hm h.events h.attached ho fun id => (h.pool id).trans (Nat.le_add_right ..)

theorem Outcome.of_finish {a : Attachment} {relay : Relay} {news : List Event} (hm : m.reader? = some a)
    (ha : a ∈ s.gateway.attached) (relays : s.gateway.relay.Reports a.id m.frames relay news)
    (pool : a.role = .backend → relay.pool = s.gateway.relay.pool) :
    s.Outcome m { s with gateway := ({ s.gateway with relay } : Gateway).finish a } :=
  .ended m a _ relay news hm ha relays (Gateway.events_finish ..) (Gateway.attached_finish ..) rfl pool
    (Gateway.pool_finish ..)

theorem outcome_of_step? (hi : s.Inv) (h : s.step? m = some t) : s.Outcome m t := by
  cases m with
  | start =>
    have hq := Gateway.quiet_beginStart s.gateway
    simp only [step?] at h
    split at h
    next heq => cases h; rw [heq] at hq; exact .of_quiet rfl hq rfl
    next heq => cases h; rw [heq] at hq; exact .of_quiet rfl hq rfl
  | bound outcome =>
    simp only [step?] at h
    split at h
    · cases h
    · cases h
      exact .of_quiet rfl (Gateway.quiet_finishStart _ outcome) rfl
  | stop => cases h; exact .of_quiet rfl (Gateway.quiet_stop _) rfl
  | connect =>
    simp only [step?] at h
    split at h
    next => cases h; exact .of_quiet rfl (.of_same rfl rfl) rfl
    next heq => cases h; exact .of_quiet rfl (Gateway.quiet_beginClient heq) rfl
  | abandon =>
    simp only [step?] at h
    split at h
    · cases h
    · cases h
      exact .of_quiet rfl (.of_same rfl rfl) rfl
  | enter fresh now =>
    simp only [step?] at h
    split at h
    · cases h
    · cases h
      obtain ⟨hevents, hattached⟩ := Gateway.enterClient_reports s.gateway fresh now
      exact .entered fresh now _ _ _ _ hevents hattached rfl (Gateway.enterClient_opens s.gateway fresh now).2.1
  | attach fresh now =>
    simp only [step?] at h
    split at h
    next heq =>
      cases h
      exact .of_quiet rfl (.of_same (congrArg _ (Gateway.attachBackend_error heq))
        (congrArg _ (Gateway.attachBackend_error heq))) rfl
    next heq =>
      cases h
      obtain ⟨hevents, hattached⟩ := Gateway.attachBackend_quiet heq
      exact .attached fresh now _ _ _ hevents hattached rfl (Gateway.attachBackend_opens heq).2.1
  | host id capacity => cases h; exact .of_quiet rfl ⟨rfl, rfl, fun _ => Nat.le_refl _⟩ rfl
  | add b =>
    simp only [step?] at h
    split at h
    · cases h
      obtain ⟨hevents, hattached, hpool⟩ := Gateway.addBackend_quiet s.gateway b
      exact .silent _ _ rfl hevents hattached rfl hpool
    · cases h
  | remove id => cases h; exact .of_quiet rfl (Gateway.quiet_removeBackend _ id) rfl
  | write i n => cases h; exact .of_quiet rfl ⟨rfl, rfl, fun _ => Nat.le_refl _⟩ rfl
  | close i => cases h; exact .of_quiet rfl ⟨rfl, rfl, fun _ => Nat.le_refl _⟩ rfl
  | feed a bytes ended now =>
    simp only [step?] at h
    split at h
    next ha =>
      cases h
      obtain ⟨relay, news, htells, hpool, heq | ⟨hfault, deadline, heq⟩⟩ :=
        Gateway.feed_cases hi.poolIds a bytes ended now
      · rw [heq]
        exact .of_finish rfl ha htells hpool
      · rw [heq]
        exact .read a bytes ended now _ news deadline ha htells hfault rfl rfl hpool
    next => cases h
  | finish a =>
    simp only [step?] at h
    split at h
    next ha =>
      cases h
      have hnone : s.gateway.relay.Reports a.id [] s.gateway.relay [] := .of_same rfl rfl
      exact .of_finish rfl ha hnone fun _ => rfl
    next => cases h

end GatewayState

end FrameGateway
