import FrameGateway.Proofs.Relay.Delivery
/-! The books of a relay. A frame reaches each queue at most once and with all its bytes as they came;
every delivery that it is owed is counted once, as relayed or as dropped; and nothing but its route
decides which queues it reaches and what becomes of the pool. -/

namespace FrameGateway

def Event.isDropped : Event → Bool
  | dropped .. => true
  | _ => false

/-- The same report about another frame. -/
def Event.withFrame (frame : Bytes) : Event → Event
  | dropped source _ fault => dropped source frame fault
  | e => e

namespace Relay

/-- What holds of the sessions of any relay: no id is twice in the pool or among the clients, which are
tables by id, and a queue belongs to one id, which its handles carry. -/
structure Sound (r : Relay) : Prop where
  pool : r.pool.ids.Nodup
  clients : (r.clients.map (·.id)).Nodup
  owner : ∀ a ∈ r.pool.members ++ r.clients, ∀ b ∈ r.pool.members ++ r.clients,
    a.outbox = b.outbox → a.id = b.id

def pass (r : Relay) : Role → SessionId → Bytes → Relay × Except Fault Nat
  | .client => r.fromClient
  | .backend => r.fromBackend

def broadcastTargets (r : Relay) : Role → List Handle
  | .client => r.pool.members
  | .backend => r.clients

/-- How many deliveries a frame is owed: one for each target of a broadcast that has any, and else one. -/
def owed (r : Relay) (role : Role) (route : Except Fault Route) : Nat :=
  match route with
  | .ok v => if v.isBroadcast && !(r.broadcastTargets role).isEmpty then (r.broadcastTargets role).length else 1
  | .error _ => 1

variable {r r' : Relay}

theorem Sound.nodup_outboxes (h : r.Sound) (role : Role) : ((r.broadcastTargets role).map (·.outbox)).Nodup := by
  have hids : ((r.broadcastTargets role).map (·.id)).Nodup := by
    cases role with
    | client => exact h.pool
    | backend => exact h.clients
  have hsub : ∀ a ∈ r.broadcastTargets role, a ∈ r.pool.members ++ r.clients := fun a ha => by
    cases role with
    | client => exact List.mem_append_left _ ha
    | backend => exact List.mem_append_right _ ha
  rw [List.Nodup, List.pairwise_map] at hids ⊢
  exact hids.imp_of_mem fun ha hb hne he => hne (h.owner _ (hsub _ ha) _ (hsub _ hb) he)

/-! ### Routing -/

/-- Where a frame of that route goes, once it has been taken apart. -/
def routeView (r : Relay) (role : Role) (source : SessionId) (frame : Bytes) (v : Route) :
    Relay × Except Fault Nat :=
  match role with
  | .client =>
    if v.isBroadcast then
      if r.pool.members.isEmpty then (r, .error .noSessionsAvailable)
      else
        let s := r.fanOut source frame r.pool.members
        let closed := r.pool.members.filter fun h => s.1.boxes.isClosed h.outbox
        (closed.foldl (fun r h => r.prune h.id) s.1, .ok s.2)
    else match (v.token.filter fun _ => v.isRedirect).bind r.pool.find? with
      | some target => r.forwardTo target frame
      | none => r.forwardNext frame
  | .backend =>
    if v.isBroadcast then
      if r.clients.isEmpty then (r, .error .noSessionsAvailable)
      else
        let s := r.fanOut source frame r.clients
        (s.1, .ok s.2)
    else match v.token with
      | none => (r, .error .noTokenFormat)
      | some token => match r.client? token with
        | none => (r, .error (.unknownSession token.text))
        | some target => match r.boxes.offer target.outbox frame with
          | .ok boxes => ({ r with boxes }, .ok 1)
          | .error e => (r, .error e)

theorem pass_eq (r : Relay) (role : Role) (source : SessionId) (frame : Bytes) :
    r.pass role source frame = finish source frame
      (match (r.receive frame).parse frame with
        | (r, .ok v) => r.routeView role source frame v.route
        | (r, .error e) => (r, .error e)) := by
  cases role with
  | client =>
    rw [pass, fromClient, routeFromClient]
    rcases (r.receive frame).parse frame with ⟨r', e | v⟩ <;> rfl
  | backend =>
    rw [pass, fromBackend, routeFromBackend]
    rcases (r.receive frame).parse frame with ⟨r', e | v⟩ <;> rfl

theorem owed_broadcast {role : Role} {v : Route} (hb : v.isBroadcast = true)
    (hne : ¬ (r.broadcastTargets role).isEmpty = true) : r.owed role (.ok v) = (r.broadcastTargets role).length := by
  rw [owed, hb, Bool.eq_false_iff.mpr hne]
  rfl

theorem owed_eq_one {role : Role} {v : Route} (h : v.isBroadcast = true → (r.broadcastTargets role).isEmpty = true) :
    r.owed role (.ok v) = 1 := by
  rw [owed]
  refine if_neg fun hc => ?_
  obtain ⟨hb, hne⟩ := Bool.and_eq_true_iff.mp hc
  rw [h hb] at hne
  cases hne

/-- A broadcast that is meant for nobody is a fault, and any other is offered to each target on its own. -/
theorem acts_broadcast (h : r.Sound) (role : Role) {v : Route} (hb : v.isBroadcast = true) :
    r.Acts (r.owed role (.ok v)) fun r' source frame => r'.routeView role source frame v := by
  by_cases hne : (r.broadcastTargets role).isEmpty = true
  · rw [owed_eq_one fun _ => hne]
    refine (acts_fault r .noSessionsAvailable).of_eq ?_
    intro r' source frame hs
    cases role with
    | client => rw [routeView, if_pos hb, hs.pool, if_pos (show r.pool.members.isEmpty = true from hne)]
    | backend => rw [routeView, if_pos hb, hs.clients, if_pos (show r.clients.isEmpty = true from hne)]
  · rw [owed_broadcast hb hne]
    cases role with
    | client =>
      have hn : (r.pool.members.map (·.outbox)).Nodup := h.nodup_outboxes .client
      let closed := (r.pool.members.filter fun h => r.boxes.isClosed h.outbox).map (·.id)
      refine ⟨_, _, accounts_offers hn r closed, ?_⟩
      intro r' source frame hs
      have hn' : (r'.pool.members.map (·.outbox)).Nodup := hs.pool ▸ hn
      dsimp only
      rw [routeView, if_pos hb, if_neg (hs.pool ▸ hne), fanOut_eq hn']
      dsimp only
      rw [foldl_prune_eq _ _ source frame, Effect.on_andThen]
      -- no copy of a frame opens or closes a queue
      simp only [Effect.on, Outboxes.isClosed_pushAll, Effect.offers, hs.pool, hs.boxes, closed]
    | backend =>
      have hn : (r.clients.map (·.outbox)).Nodup := h.nodup_outboxes .backend
      refine ⟨_, _, accounts_offers hn r [], ?_⟩
      intro r' source frame hs
      have hn' : (r'.clients.map (·.outbox)).Nodup := hs.clients ▸ hn
      dsimp only
      rw [routeView, if_pos hb, if_neg (hs.clients ▸ hne), fanOut_eq hn', Effect.on_andThen, ← hs.pool,
        ← hs.clients, ← hs.boxes]
      exact congrArg (·, _) Effect.on_idle.symm

theorem SameSessions.client? (h : r'.SameSessions r) (id : SessionId) : r'.client? id = r.client? id := by
  rw [Relay.client?, Relay.client?, h.clients]

theorem acts_single (role : Role) {v : Route} (hb : ¬ v.isBroadcast = true) :
    r.Acts 1 fun r' source frame => r'.routeView role source frame v := by
  cases role with
  | client =>
    cases hf : (v.token.filter fun _ => v.isRedirect).bind r.pool.find? with
    | none =>
      refine (acts_forwardNext r).of_eq ?_
      intro r' source frame hs
      rw [routeView, if_neg hb, hs.pool, hf]
    | some target =>
      refine (acts_forwardTo r target).of_eq ?_
      intro r' source frame hs
      rw [routeView, if_neg hb, hs.pool, hf]
  | backend =>
    cases ht : v.token with
    | none =>
      refine (acts_fault r .noTokenFormat).of_eq ?_
      intro r' source frame hs
      rw [routeView, if_neg hb, ht]
    | some token =>
      cases hc : r.client? token with
      | none =>
        refine (acts_fault r (.unknownSession token.text)).of_eq ?_
        intro r' source frame hs
        simp only [routeView, if_neg hb, ht, hs.client?, hc]
      | some target =>
        refine (acts_offer r target.outbox).of_eq ?_
        intro r' source frame hs
        cases ho : r'.boxes.offer target.outbox frame <;>
          simp only [routeView, if_neg hb, ht, hs.client?, hc, ho]

theorem acts_routeView (h : r.Sound) (role : Role) (v : Route) :
    r.Acts (r.owed role (.ok v)) fun r' source frame => r'.routeView role source frame v := by
  by_cases hb : v.isBroadcast = true
  · exact acts_broadcast h role hb
  · rw [owed_eq_one fun h => absurd h hb]
    exact acts_single role hb

/-! ### One frame -/

/-- The relay that has counted a frame, as one that came and perhaps as one that cannot be read. -/
def taken (r : Relay) (frame : Bytes) : Relay := ((r.receive frame).parse frame).1

theorem parse_receive (r : Relay) (frame : Bytes) :
    (r.receive frame).parse frame = (r.taken frame, parseFrame r.token frame) := by
  rw [taken, parse]
  show _ = (_, parseFrame (r.receive frame).token frame)
  cases parseFrame (r.receive frame).token frame <;> rfl

theorem sameSessions_taken (r : Relay) (frame : Bytes) : (r.taken frame).SameSessions r := by
  rw [taken, parse]
  split
  · exact ⟨rfl, rfl, rfl, rfl⟩
  · exact ⟨rfl, rfl, rfl, rfl⟩

/-- The route of a frame and the sessions fix what relaying it does. -/
theorem pass_effect (h : r.Sound) (role : Role) (route : Except Fault Route) :
    ∃ e result, Effect.Accounts e r (r.owed role route) result ∧ ∀ source frame,
      (parseFrame r.token frame).map FrameView.route = route →
        r.pass role source frame = finish source frame (e.on (r.taken frame) source frame, result) := by
  cases route with
  | error f =>
    refine ⟨_, _, .error (List.Sublist.refl r.pool.members) f, fun source frame hroute => ?_⟩
    rw [pass_eq, parse_receive, ← (sameSessions_taken r frame).pool, Effect.on_idle]
    cases hp : parseFrame r.token frame with
    | ok view => rw [hp] at hroute; cases hroute
    | error f' => rw [hp] at hroute; cases hroute; rfl
  | ok v =>
    obtain ⟨e, result, hacc, heq⟩ := acts_routeView h role v
    refine ⟨e, result, hacc, fun source frame hroute => ?_⟩
    rw [pass_eq, parse_receive, ← heq _ source frame (sameSessions_taken r frame)]
    cases hp : parseFrame r.token frame with
    | ok view => rw [hp] at hroute; cases hroute; rfl
    | error f => rw [hp] at hroute; cases hroute

/-! ### The books -/

/-- What relaying one frame has done: the queues in `reached` have got a copy, `news` has been reported,
and the counters say so. -/
structure Balances (r r' : Relay) (role : Role) (frame : Bytes) (result : Except Fault Nat)
    (reached : List OutboxId) (news : List Event) : Prop where
  distinct : reached.Nodup
  delivered : ∀ i ∈ reached, ∃ o, r.boxes.get? i = some o ∧ o.isOpen = true ∧
    o.frames.length < o.capacity ∧ r'.boxes.get? i = some { o with frames := o.frames ++ [frame] }
  untouched : ∀ i ∉ reached, r'.boxes.get? i = r.boxes.get? i
  returned : deliveries result = reached.length
  reported : r'.events = r.events ++ news
  counters : r'.counters = { r.counters with
    framesReceived := r.counters.framesReceived + 1
    bytesReceived := r.counters.bytesReceived + .ofNat frame.length
    framesRelayed := r.counters.framesRelayed + .ofNat reached.length
    framesDropped := r.counters.framesDropped + .ofNat (news.countP Event.isDropped)
    decodeErrors := r.counters.decodeErrors + if (parseFrame r.token frame).isOk then 0 else 1 }
  total : reached.length + news.countP Event.isDropped =
    r.owed role ((parseFrame r.token frame).map FrameView.route)

/-- All that is reported of a frame: if it was not routed at all, its own fault as well. -/
def reports (e : Effect) : Except Fault Nat → List Note
  | .ok _ => e.notes
  | .error f => e.notes ++ [.lost f]

theorem countP_reports (e : Effect) (result : Except Fault Nat) :
    (reports e result).countP Note.isLost = e.losses + failures result := by
  cases result with
  | ok n => rfl
  | error f => rw [reports, List.countP_append]; rfl

def withReports (e : Effect) (r : Relay) (source : SessionId) (frame : Bytes) (result : Except Fault Nat) :
    Relay :=
  let r := (⟨e.reached, reports e result, e.pool⟩ : Effect).on r source frame
  { r with counters := r.counters.relayed (deliveries result) }

theorem finish_effect (e : Effect) (r : Relay) (source : SessionId) (frame : Bytes)
    (result : Except Fault Nat) :
    finish source frame (e.on r source frame, result) = (withReports e r source frame result, result) := by
  cases result with
  | ok n => rfl
  | error f =>
    have hlose : (e.andThen ⟨[], [.lost f], e.pool⟩).on r source frame =
        (e.on r source frame).drop source frame f :=
      (Effect.on_andThen e _).trans (Effect.on_lose (r := e.on r source frame) f)
    rw [finish, ← hlose]
    simp [withReports, Effect.andThen, reports, deliveries, Counters.relayed]

theorem counters_taken (r : Relay) (frame : Bytes) : (r.taken frame).counters = { r.counters with
    framesReceived := r.counters.framesReceived + 1
    bytesReceived := r.counters.bytesReceived + .ofNat frame.length
    decodeErrors := r.counters.decodeErrors + if (parseFrame r.token frame).isOk then 0 else 1 } := by
  rw [taken, parse, receive]
  cases parseFrame r.token frame with
  | ok v => simp [Except.isOk, Except.toBool, Counters.frameReceived]
  | error f => rfl

theorem isOk_map {α β : Type} {f : α → β} (x : Except Fault α) : (x.map f).isOk = x.isOk := by
  cases x <;> rfl

theorem events_taken (r : Relay) (frame : Bytes) : (r.taken frame).events = r.events := by
  rw [taken, parse]
  split <;> rfl

theorem countP_event (notes : List Note) (source : SessionId) (frame : Bytes) :
    (notes.map (·.event source frame)).countP Event.isDropped = notes.countP Note.isLost := by
  rw [List.countP_map]
  refine List.countP_congr fun n _ => ?_
  cases n <;> rfl

theorem balances_of_accounts {e : Effect} {role : Role} {result : Except Fault Nat} {frame : Bytes}
    (h : e.Accounts r (r.owed role ((parseFrame r.token frame).map FrameView.route)) result)
    (source : SessionId) :
    Balances r (withReports e (r.taken frame) source frame result) role frame result e.reached
      ((reports e result).map (·.event source frame)) := by
  have hs := sameSessions_taken r frame
  refine ⟨h.nodup, fun i hi => ?_, fun i hi => ?_, h.returned, ?_, ?_, ?_⟩
  · obtain ⟨o, ho, hopen, hroom⟩ := Outboxes.exists_of_refusal?_eq_none (h.taken i hi)
    refine ⟨o, ho, hopen, hroom, ?_⟩
    rw [withReports, Effect.on, hs.boxes, Outboxes.get?_pushAll_of_mem h.nodup hi, ho, Option.map_some]
  · rw [withReports, Effect.on, hs.boxes, Outboxes.get?_pushAll_of_not_mem hi]
  · rw [withReports, Effect.on, events_taken]
  · rw [countP_event, withReports, h.returned]
    simp only [Effect.on, Effect.losses, counters_taken, Counters.relayed]
  · rw [countP_event, countP_reports, ← Nat.add_assoc, h.total]

/-- The books of a relay balance: whatever sessions there are, whether their queues are open, full or
closed, and whatever bytes come. And frames are opaque to it: one that differs only where routing does not
look has the same outcome, in its own bytes. -/
theorem books_balance (h : r.Sound) (role : Role) (source : SessionId) (frame : Bytes) :
    ∃ reached news,
      Balances r (r.pass role source frame).1 role frame (r.pass role source frame).2 reached news ∧
      ∀ other, RoutedAlike r.token frame other →
        (r.pass role source other).2 = (r.pass role source frame).2 ∧
        (r.pass role source other).1.pool = (r.pass role source frame).1.pool ∧
        (r.pass role source other).1.clients = (r.pass role source frame).1.clients ∧
        (r.pass role source other).1.counters = (r.pass role source frame).1.counters ∧
        Balances r (r.pass role source other).1 role other (r.pass role source other).2 reached
          (news.map (·.withFrame other)) := by
  obtain ⟨e, result, hacc, heq⟩ := pass_effect h role ((parseFrame r.token frame).map FrameView.route)
  refine ⟨e.reached, (reports e result).map (·.event source frame), ?_, fun other halike => ?_⟩
  · rw [heq source frame rfl, finish_effect]
    exact balances_of_accounts hacc source
  · have hroute := map_route_parseFrame halike
    have hother : (reports e result).map (·.event source other) =
        ((reports e result).map (·.event source frame)).map (·.withFrame other) := by
      rw [List.map_map]
      refine List.map_congr_left fun n _ => ?_
      cases n <;> rfl
    rw [heq source frame rfl, heq source other hroute.symm, finish_effect, finish_effect, ← hother]
    have hb := balances_of_accounts (hroute ▸ hacc) source
    have hc := (balances_of_accounts hacc source).counters
    refine ⟨rfl, rfl, ?_, ?_, hb⟩
    · exact (sameSessions_taken r other).clients.trans (sameSessions_taken r frame).clients.symm
    · have hok := congrArg Except.isOk hroute
      rw [isOk_map, isOk_map] at hok
      rw [hb.counters, hc, countP_event, countP_event, halike.length, hok]

/-- A broadcast of a bare header to a backend with room and to one whose queue is full. -/
theorem books_balance_of_full_queue :
    let r : Relay := { token := none, clients := [], pool := ⟨[⟨.ofNat 1, ⟨0⟩⟩, ⟨.ofNat 2, ⟨1⟩⟩], 0⟩
                       boxes := ⟨[.create 1, ⟨1, [[]], true⟩]⟩, counters := {}, events := [] }
    r.Sound ∧ ∃ reached news,
      Balances r (r.pass .client (.ofNat 7) [6, 0, 2, 0, 0, 0, 0, 0]).1 .client [6, 0, 2, 0, 0, 0, 0, 0]
        (r.pass .client (.ofNat 7) [6, 0, 2, 0, 0, 0, 0, 0]).2 reached news ∧
      reached.length + news.countP Event.isDropped = 2 := by
  intro r
  have hs : r.Sound := ⟨by decide, by decide, by decide⟩
  obtain ⟨reached, news, hb, -⟩ := books_balance hs .client (.ofNat 7) [6, 0, 2, 0, 0, 0, 0, 0]
  exact ⟨hs, reached, news, hb, hb.total⟩

end Relay

end FrameGateway
