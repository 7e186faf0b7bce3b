import FrameGateway.Proofs.Gateway.Clients
import FrameGateway.Proofs.Gateway.Reports
import Mathlib.Logic.Function.Basic
/-! A gateway whose tasks may be interrupted between any two of their calls. What a session's task does at a stretch,
when its stream has been opened and when its loop has ended, is cut into single calls, and so is a stop; the calls of
different tasks come in any order (`Tasks.step?`). All that one step can do is said once (`Tasks.changed_of_step?`). A
run in which no task is interrupted is a run of the gateway (`Tasks.Idle.reaches_run`). -/

namespace FrameGateway

def Gateway.Call.role : Gateway.Call → Role
  | .addClient | .countClient | .reportBound | .removeClient | .uncountClient | .freePermit => .client
  | .addBackend | .countBackend | .removeBackend => .backend
  | .read role _ | .reportClosed role => role

structure Tasks where
  state : GatewayState
  /-- the calls that the task of a session has to make before it waits again -/
  pending : Handle → List Gateway.Call
  /-- the calls that each stop which has begun has to make -/
  stopping : List (List Gateway.StopCall)
  /-- the clients that have a permit -/
  holding : List Handle
  /-- the clients that have been counted as active, and not taken off again -/
  counted : List Handle

inductive TaskStep where
  /-- something begins, and comes to its first call -/
  | begin (m : Move)
  /-- the task of a session makes its next call -/
  | call (h : Handle)
  /-- a stop makes its next call -/
  | stopCall (k : Nat)

namespace Tasks

open Gateway (Call StopCall startCalls endCalls stopCalls)

def create (config : Config) : Tasks := ⟨.create config, fun _ => [], [], [], []⟩

def gateway (t : Tasks) : Gateway := t.state.gateway

def withGateway (t : Tasks) (gateway : Gateway) : Tasks := { t with state := { t.state with gateway } }

/-- A session has been opened over a stream. A client has the permit of a connection that was being wrapped. -/
def opens (t : Tasks) (fresh : SessionId) (role : Role) (now : Nat) : Tasks :=
  let h := (t.gateway.openSession fresh).2
  { t with
    state := { t.state with
      gateway := (t.gateway.openSession fresh).1
      wrapping := if role = .client then t.state.wrapping - 1 else t.state.wrapping
      opened := t.state.opened ++ [(h, role)] }
    pending := Function.update t.pending h (startCalls now role)
    holding := if role = .client then t.holding ++ [h] else t.holding }

def leave (t : Tasks) (a : Attachment) : Tasks :=
  { t.withGateway (t.gateway.leave a) with pending := Function.update t.pending a.handle (endCalls a.role) }

def begin? (t : Tasks) : Move → Option Tasks
  | .stop =>
    if t.gateway.phase = .stopped then some t
    else some { t.withGateway { t.gateway with phase := .stopped } with stopping := t.stopping ++ [stopCalls] }
  | .enter fresh now => if t.state.wrapping = 0 then none else some (t.opens fresh .client now)
  | .attach fresh now => if t.gateway.phase = .stopped then some t else some (t.opens fresh .backend now)
  | .feed a bytes ended now =>
    if a ∈ t.gateway.attached then
      let (gateway, isOver) := t.gateway.receive a bytes ended now
      some (if isOver then (t.withGateway gateway).leave a else t.withGateway gateway)
    else none
  | .finish a => if a ∈ t.gateway.attached then some (t.leave a) else none
  | m => (t.state.step? m).map fun state => { t with state }

def make (t : Tasks) (h : Handle) (call : Call) (rest : List Call) : Tasks :=
  { t.withGateway (t.gateway.perform h call) with
    pending := Function.update t.pending h rest
    holding := if call = .freePermit then t.holding.erase h else t.holding
    counted :=
      if call = .countClient then t.counted ++ [h]
      else if call = .uncountClient then t.counted.erase h
      else t.counted }

def step? (t : Tasks) : TaskStep → Option Tasks
  | .begin m => t.begin? m
  | .call h => match t.pending h with
    | [] => none
    | call :: rest => some (t.make h call rest)
  | .stopCall k => match t.stopping[k]? with
    | some (call :: rest) =>
      some { t.withGateway (t.gateway.performStop call) with stopping := t.stopping.set k rest }
    | _ => none

def run? (t : Tasks) (steps : List TaskStep) : Option Tasks := steps.foldlM step? t

variable {t t' : Tasks} {a : TaskStep} {steps : List TaskStep}

theorem run?_cons_eq_some :
    t.run? (a :: steps) = some t' ↔ ∃ u, t.step? a = some u ∧ u.run? steps = some t' := by
  rw [run?, List.foldlM_cons]
  exact Option.bind_eq_some_iff

theorem run?_append (t : Tasks) (done rest : List TaskStep) :
    t.run? (done ++ rest) = (t.run? done).bind (·.run? rest) := by
  rw [run?, List.foldlM_append]; rfl

theorem run?_snoc : t.run? (steps ++ [a]) = some t' ↔ ∃ u, t.run? steps = some u ∧ u.step? a = some t' := by
  rw [run?_append, Option.bind_eq_some_iff]
  constructor
  · rintro ⟨u, hu, h⟩
    obtain ⟨v, hv, h⟩ := run?_cons_eq_some.mp h
    cases h
    exact ⟨u, hu, hv⟩
  · rintro ⟨u, hu, h⟩
    exact ⟨u, hu, run?_cons_eq_some.mpr ⟨t', h, rfl⟩⟩

/-! ### Tasks that are not interrupted -/

/-- All that a task has to do, done at a stretch. -/
theorem run_calls (t : Tasks) (h : Handle) (calls : List Call) (hp : t.pending h = calls) :
    ∃ u, t.run? (List.replicate calls.length (.call h)) = some u ∧
      u.state = { t.state with gateway := t.gateway.performAll h calls } ∧
      u.pending = Function.update t.pending h [] := by
  induction calls generalizing t with
  | nil => exact ⟨t, rfl, rfl, by rw [← hp, Function.update_eq_self]⟩
  | cons call rest ih =>
    have hstep : t.step? (.call h) = some (t.make h call rest) := by
      rw [step?, hp]
    obtain ⟨u, hu, hstate, hpending⟩ := ih (t.make h call rest) (Function.update_self ..)
    refine ⟨u, run?_cons_eq_some.mpr ⟨_, hstep, hu⟩, hstate, ?_⟩
    rw [hpending, make, Function.update_idem]

theorem run_stopCalls (t : Tasks) (k : Nat) (calls : List StopCall) (hk : t.stopping[k]? = some calls) :
    ∃ u, t.run? (List.replicate calls.length (.stopCall k)) = some u ∧
      u.state = { t.state with gateway := calls.foldl Gateway.performStop t.gateway } ∧ u.pending = t.pending := by
  induction calls generalizing t with
  | nil => exact ⟨t, rfl, rfl, rfl⟩
  | cons call rest ih =>
    have hstep : t.step? (.stopCall k) =
        some { t.withGateway (t.gateway.performStop call) with stopping := t.stopping.set k rest } := by
      rw [step?, hk]
    have hlt : k < t.stopping.length := (List.getElem?_eq_some_iff.mp hk).1
    obtain ⟨u, hu, hstate, hpending⟩ :=
      ih { t.withGateway (t.gateway.performStop call) with stopping := t.stopping.set k rest }
        (List.getElem?_set_self hlt)
    exact ⟨u, run?_cons_eq_some.mpr ⟨_, hstep, hu⟩, hstate, hpending⟩

def Idle (t : Tasks) : Prop := ∀ h, t.pending h = []

theorem Idle.of_update {h : Handle} {calls : List Call} (ht : t.Idle) {u : Tasks}
    (hu : u.pending = Function.update (Function.update t.pending h calls) h []) : u.Idle := by
  intro h'
  rw [hu, Function.update_idem]
  by_cases he : h' = h
  · rw [he, Function.update_self]
  · rw [Function.update_of_ne he]
    exact ht h'

/-- The tasks come to that state, and none of them has a call to make then. -/
def Reaches (t : Tasks) (s : GatewayState) : Prop := ∃ steps u, t.run? steps = some u ∧ u.state = s ∧ u.Idle

variable {m : Move} {s : GatewayState} {u : Tasks}

theorem Idle.reaches (ht : t.Idle) : t.Reaches t.state := ⟨[], t, rfl, rfl, ht⟩

theorem Reaches.of_begin (h : u.Reaches s) (hm : t.begin? m = some u) : t.Reaches s := by
  obtain ⟨steps, v, hv, hs, hidle⟩ := h
  exact ⟨.begin m :: steps, v, run?_cons_eq_some.mpr ⟨u, hm, hv⟩, hs, hidle⟩

theorem Idle.reaches_opens (ht : t.Idle) (fresh : SessionId) (role : Role) (now : Nat) :
    (t.opens fresh role now).Reaches { (t.opens fresh role now).state with
      gateway := (t.gateway.openSession fresh).1.performAll (t.gateway.openSession fresh).2
        (startCalls now role) } := by
  obtain ⟨u, hu, hstate, hpending⟩ :=
    run_calls (t.opens fresh role now) (t.gateway.openSession fresh).2 (startCalls now role) (Function.update_self ..)
  exact ⟨_, u, hu, hstate, ht.of_update hpending⟩

theorem Idle.reaches_leave (ht : t.Idle) (a : Attachment) :
    (t.leave a).Reaches { t.state with gateway := t.gateway.finish a } := by
  obtain ⟨u, hu, hstate, hpending⟩ := run_calls (t.leave a) a.handle (endCalls a.role) (Function.update_self ..)
  exact ⟨_, u, hu, hstate, ht.of_update hpending⟩

theorem Idle.reaches_stop (ht : t.Idle) : t.Reaches { t.state with gateway := t.gateway.stop } := by
  by_cases hp : t.gateway.phase = .stopped
  · rw [Gateway.stop, if_pos hp]
    exact ht.reaches
  · obtain ⟨u, hu, hstate, hpending⟩ := run_stopCalls
      { t.withGateway { t.gateway with phase := .stopped } with stopping := t.stopping ++ [stopCalls] }
      t.stopping.length stopCalls List.getElem?_concat_length
    refine Reaches.of_begin (m := .stop) ⟨_, u, hu, ?_, fun h => (congrFun hpending h).trans (ht h)⟩ (if_neg hp)
    rw [Gateway.stop, if_neg hp]
    exact hstate

theorem Idle.reaches_attach (ht : t.Idle) {fresh : SessionId} {now : Nat}
    (h : t.state.step? (.attach fresh now) = some s) : t.Reaches s := by
  by_cases hp : t.state.gateway.phase = .stopped
  · have hrefused : t.state.step? (.attach fresh now) = some t.state := by
      simp only [GatewayState.step?, Gateway.attachBackend, Gateway.ensureNotStopped, if_pos hp]
    cases hrefused.symm.trans h
    exact ht.reaches
  · have hopened : t.state.step? (.attach fresh now) = some { t.state with
        gateway := (t.gateway.openSession fresh).1.performAll (t.gateway.openSession fresh).2
          (startCalls now .backend)
        opened := t.state.opened ++ [((t.gateway.openSession fresh).2, .backend)] } := by
      simp only [GatewayState.step?, Gateway.attachBackend, Gateway.ensureNotStopped, if_neg hp, gateway]
    cases hopened.symm.trans h
    exact (ht.reaches_opens fresh .backend now).of_begin (m := .attach fresh now) (if_neg hp)

theorem Idle.reaches_feed (ht : t.Idle) {a : Attachment} (ha : a ∈ t.gateway.attached) (bytes : Bytes)
    (ended : Bool) (now : Nat) : t.Reaches { t.state with gateway := t.gateway.feed a bytes ended now } := by
  have hstep : t.begin? (.feed a bytes ended now) =
      some (if (t.gateway.receive a bytes ended now).2 then
        (t.withGateway (t.gateway.receive a bytes ended now).1).leave a
        else t.withGateway (t.gateway.receive a bytes ended now).1) := if_pos ha
  rw [Gateway.feed]
  dsimp only
  by_cases hover : (t.gateway.receive a bytes ended now).2 = true
  · rw [if_pos hover] at hstep ⊢
    have hleft : (t.withGateway (t.gateway.receive a bytes ended now).1).Idle := ht
    exact (hleft.reaches_leave a).of_begin hstep
  · rw [if_neg hover] at hstep ⊢
    have hread : (t.withGateway (t.gateway.receive a bytes ended now).1).Idle := ht
    exact hread.reaches.of_begin hstep

/-- What a gateway does in one move its tasks do one call after the other. -/
theorem Idle.reaches_step (ht : t.Idle) (h : t.state.step? m = some s) : t.Reaches s := by
  have hwhole : (t.begin? m = (t.state.step? m).map fun state => { t with state }) → t.Reaches s := by
    intro he
    rw [h] at he
    have hidle : Idle { t with state := s } := ht
    exact hidle.reaches.of_begin he
  cases m with
  | stop =>
    cases h
    exact ht.reaches_stop
  | enter fresh now =>
    simp only [GatewayState.step?] at h
    split at h
    · cases h
    next hw =>
      cases h
      exact (ht.reaches_opens fresh .client now).of_begin (m := .enter fresh now) (if_neg hw)
  | attach fresh now => exact ht.reaches_attach h
  | feed a bytes ended now =>
    simp only [GatewayState.step?] at h
    split at h
    next ha =>
      cases h
      exact ht.reaches_feed ha bytes ended now
    next => cases h
  | finish a =>
    simp only [GatewayState.step?] at h
    split at h
    next ha =>
      cases h
      exact (ht.reaches_leave a).of_begin (m := .finish a) (if_pos ha)
    next => cases h
  | _ => exact hwhole rfl

theorem Idle.reaches_run (ht : t.Idle) {moves : List Move} (h : t.state.run? moves = some s) : t.Reaches s := by
  induction moves generalizing t with
  | nil => cases h; exact ht.reaches
  | cons m moves ih =>
    obtain ⟨s', hm, h⟩ := GatewayState.run?_cons_eq_some.mp h
    obtain ⟨first, u, hu, rfl, hidle⟩ := ht.reaches_step hm
    obtain ⟨rest, v, hv, hs, hidle'⟩ := ih hidle h
    refine ⟨first ++ rest, v, ?_, hs, hidle'⟩
    rw [run?_append, hu]
    exact hv

end Tasks

/-! ### All that a step can do -/

namespace Move

/-- The bytes that arrive for the reader of this queue. -/
def sent (i : OutboxId) : Move → Bytes
  | feed a bytes .. => if a.outbox = i then bytes else []
  | _ => []

/-- No session comes or ends here, and nothing stops. -/
def isQuiet : Move → Bool
  | stop | enter .. | attach .. | feed .. | finish .. => false
  | _ => true

theorem sent_of_isQuiet {m : Move} (h : m.isQuiet) (i : OutboxId) : m.sent i = [] := by
  cases m with
  | feed => cases h
  | _ => rfl

end Move

namespace TaskStep

def sent (i : OutboxId) : TaskStep → Bytes
  | begin m => m.sent i
  | _ => []

def joins (id : SessionId) : TaskStep → Nat
  | begin m => m.joins id
  | _ => 0

end TaskStep

namespace GatewayState

variable {s s' : GatewayState} {m : Move}

/-- No session comes or ends, and nothing is reported. -/
structure SameSessions (s s' : GatewayState) : Prop where
  inv : s'.Inv
  opened : s'.opened = s.opened
  attached : s'.gateway.attached = s.gateway.attached
  events : s'.gateway.relay.events = s.gateway.relay.events
  clients : s'.gateway.relay.clients ⊆ s.gateway.relay.clients
  active : s'.gateway.relay.counters.connectionsActive = s.gateway.relay.counters.connectionsActive
  permits : s'.gateway.permits + s'.wrapping = s.gateway.permits + s.wrapping

theorem SameSessions.refl (hi : s.Inv) : SameSessions s s := ⟨hi, rfl, rfl, rfl, List.Subset.refl _, rfl, rfl⟩

theorem permits_of_step? (hm : m.attachesClient = true) (hq : m.isQuiet) (h : s.step? m = some s') :
    s'.gateway.clientCounts = { s.gateway.clientCounts with permits := s'.gateway.permits } ∧
      s'.gateway.permits + s'.wrapping = s.gateway.permits + s.wrapping := by
  cases m with
  | connect =>
    simp only [step?, Gateway.beginClient_eq] at h
    split_ifs at h with hp hn
    · cases h; exact ⟨rfl, rfl⟩
    · cases h; exact ⟨rfl, rfl⟩
    · cases h
      refine ⟨rfl, ?_⟩
      dsimp only
      omega
  | abandon =>
    simp only [step?] at h
    split_ifs at h with hw
    cases h
    refine ⟨rfl, ?_⟩
    dsimp only [Gateway.abandonClient]
    omega
  | enter => cases hq
  | _ => cases hm

theorem sameSessions_of_isQuiet (hi : s.Inv) (hq : m.isQuiet) (h : s.step? m = some s') : SameSessions s s' ∧
    ∀ id, s'.gateway.relay.pool.ids.count id ≤ s.gateway.relay.pool.ids.count id + m.joins id := by
  have hi' := hi.step (stepped_of_step? hi.sound h)
  cases outcome_of_step? hi h with
  | silent m t _ events attached opened pool =>
    refine ⟨?_, pool⟩
    have hsame : ∀ permits, s'.gateway.clientCounts = { s.gateway.clientCounts with permits } →
        s'.gateway.permits + s'.wrapping = s.gateway.permits + s.wrapping → SameSessions s s' := fun permits hc hp =>
      have hclients : s'.gateway.relay.clients = s.gateway.relay.clients := congrArg ClientCounts.table hc
      ⟨hi', opened, attached, events, hclients ▸ List.Subset.refl _, congrArg ClientCounts.active hc, hp⟩
    cases hm : m.attachesClient with
    | true =>
      obtain ⟨hc, hp⟩ := permits_of_step? hm hq h
      exact hsame _ hc hp
    | false =>
      obtain ⟨hmoved, hwrapping⟩ := moved_of_step? hi hm h
      cases hmoved with
      | idle hc => exact hsame _ hc (congrArg₂ (· + ·) (congrArg ClientCounts.permits hc) hwrapping)
      | left b hb hc =>
        -- the reader would be gone
        have hloops : s'.gateway.loops = s.gateway.loops.filter (·.outbox != b.outbox) := congrArg ClientCounts.loops hc
        rw [Gateway.loops, attached, ← Gateway.loops] at hloops
        rw [hloops] at hb
        exact absurd rfl (bne_iff_ne.mp (List.mem_filter.mp hb).2)
      | emptied he => subst he; cases hq
  | entered => cases hq
  | attached => cases hq
  | read => cases hq
  | ended m a _ _ _ ha =>
    cases m with
    | feed | finish => cases hq
    | _ => cases ha

end GatewayState

namespace Tasks

open Gateway (Call StopCall startCalls endCalls stopCalls)

variable {t t' : Tasks} {a : TaskStep}

inductive Changed (t : Tasks) : TaskStep → Tasks → Prop
  | quiet (a : TaskStep) (s : GatewayState) (stopping : List (List StopCall)) (same : t.state.SameSessions s)
      (bytes : ∀ i, a.sent i = [])
      (pool : ∀ id, s.gateway.relay.pool.ids.count id ≤ t.gateway.relay.pool.ids.count id + a.joins id) :
    Changed t a { t with state := s, stopping }
  | client (fresh : SessionId) (now : Nat) (h : t.state.wrapping ≠ 0) :
    Changed t (.begin (.enter fresh now)) (t.opens fresh .client now)
  | backend (fresh : SessionId) (now : Nat) : Changed t (.begin (.attach fresh now)) (t.opens fresh .backend now)
  | relayed (a : Attachment) (bytes : Bytes) (ended : Bool) (now : Nat) (relay : Relay) (news : List Event)
      (deadline : Nat) (ha : a ∈ t.gateway.attached)
      (relays : t.gateway.relay.Reports a.id (a.drained bytes).frames relay news)
      (clients : t.gateway.relay.SameClients relay) (leavesOnly : t.gateway.relay.LeavesOnly relay) :
    Changed t (.begin (.feed a bytes ended now)) (t.withGateway { t.gateway with
      relay
      attached := t.gateway.attached.map fun b =>
        if b.outbox = a.outbox then { b with unread := (a.drained bytes).rest, deadline } else b })
  | left (m : Move) (a : Attachment) (relay : Relay) (news : List Event) (hm : m.reader? = some a)
      (ha : a ∈ t.gateway.attached) (relays : t.gateway.relay.Reports a.id m.frames relay news)
      (clients : t.gateway.relay.SameClients relay) (leavesOnly : t.gateway.relay.LeavesOnly relay) :
    Changed t (.begin m) ((t.withGateway { t.gateway with relay }).leave a)
  | called (h : Handle) (call : Call) (rest : List Call) (hp : t.pending h = call :: rest) :
    Changed t (.call h) (t.make h call rest)

theorem changed_of_feed {a : Attachment} {bytes : Bytes} {ended : Bool} {now : Nat} (hi : t.state.Inv)
    (h : t.begin? (.feed a bytes ended now) = some t') : t.Changed (.begin (.feed a bytes ended now)) t' := by
  have hwanes := (Gateway.leavesOnly_receive hi.sound a bytes ended now).relay
  have hclients := Gateway.clientCounts_receive hi.sound a bytes ended now
  have hsame : t.gateway.relay.SameClients (t.gateway.receive a bytes ended now).1.relay :=
    ⟨congrArg ClientCounts.table hclients, congrArg ClientCounts.total hclients, congrArg ClientCounts.active hclients,
      congrArg ClientCounts.greetings hclients⟩
  obtain ⟨relay, news, htells, -, heq⟩ := Gateway.receive_cases hi.poolIds a bytes ended now
  simp only [begin?] at h
  split_ifs at h with ha hover
  · cases h
    rcases heq with heq | ⟨-, deadline, heq⟩
    · rw [gateway, heq] at hover hsame ⊢
      rw [heq] at hwanes
      exact .left _ a relay news rfl ha htells hsame hwanes
    · rw [gateway, heq] at hover
      cases hover
  · cases h
    rcases heq with heq | ⟨-, deadline, heq⟩
    · rw [gateway, heq] at hover
      exact absurd rfl hover
    · rw [gateway, heq] at hsame ⊢
      rw [heq] at hwanes
      exact .relayed a bytes ended now relay news deadline ha htells hsame hwanes

theorem sameSessions_performStop (hi : t.state.Inv) (call : StopCall) :
    t.state.SameSessions { t.state with gateway := t.gateway.performStop call } ∧
      ∀ id, (t.gateway.performStop call).relay.pool.ids.count id ≤ t.gateway.relay.pool.ids.count id := by
  have hw : ∀ {g}, t.gateway.LeavesOnly g → GatewayState.Inv { t.state with gateway := g } :=
    fun h => hi.leavesOnly h t.state.binding t.state.wrapping
  cases call with
  | cancel =>
    exact ⟨⟨hw (.of_same rfl rfl rfl), rfl, rfl, rfl, List.Subset.refl _, rfl, rfl⟩, fun _ => Nat.le_refl _⟩
  | clearPool =>
    refine ⟨⟨hw (.of_relay ⟨.refl _, List.nil_sublist _, rfl, rfl⟩), rfl, rfl, rfl, List.Subset.refl _, rfl, rfl⟩, ?_⟩
    exact fun _ => Nat.zero_le _
  | clearClients =>
    refine ⟨⟨hw (.of_relay ⟨List.nil_sublist _, .refl _, rfl, rfl⟩), rfl, rfl, rfl, List.nil_subset _, rfl, rfl⟩, ?_⟩
    exact fun _ => Nat.le_refl _

theorem changed_of_step? (hi : t.state.Inv) (h : t.step? a = some t') : t.Changed a t' := by
  have hnothing : ∀ a, (∀ i, TaskStep.sent i a = []) → t.Changed a t := fun a hbytes =>
    .quiet a t.state t.stopping (.refl hi) hbytes fun _ => Nat.le_add_right ..
  have hquiet : ∀ {m}, m.isQuiet → t.begin? m = (t.state.step? m).map (fun state => { t with state }) →
      t.begin? m = some t' → t.Changed (.begin m) t' := by
    intro m hm he hb
    rw [he] at hb
    obtain ⟨s, hs, rfl⟩ := Option.map_eq_some_iff.mp hb
    obtain ⟨hsame, hpool⟩ := GatewayState.sameSessions_of_isQuiet hi hm hs
    exact .quiet _ s t.stopping hsame (fun i => Move.sent_of_isQuiet hm i) hpool
  cases a with
  | begin m =>
    change t.begin? m = some t' at h
    cases m with
    | stop =>
      simp only [begin?] at h
      split_ifs at h
      · cases h
        exact hnothing _ fun _ => rfl
      · cases h
        have hi' := hi.leavesOnly (g := { t.gateway with phase := .stopped }) (.of_same rfl rfl rfl) t.state.binding
          t.state.wrapping
        exact .quiet _ _ _ ⟨hi', rfl, rfl, rfl, List.Subset.refl _, rfl, rfl⟩ (fun _ => rfl)
          fun _ => Nat.le_add_right ..
    | enter fresh now =>
      simp only [begin?] at h
      split_ifs at h with hw
      cases h
      exact .client fresh now hw
    | attach fresh now =>
      simp only [begin?] at h
      split_ifs at h
      · cases h
        exact hnothing _ fun _ => rfl
      · cases h
        exact .backend fresh now
    | feed a bytes ended now => exact changed_of_feed hi h
    | finish a =>
      simp only [begin?] at h
      split_ifs at h with ha
      cases h
      exact .left _ a t.gateway.relay [] rfl ha (.of_same rfl rfl) ⟨rfl, rfl, rfl, rfl⟩ (.refl _)
    | start | bound | connect | abandon | host | add | remove | write | close => exact hquiet rfl rfl h
  | call h' =>
    simp only [step?] at h
    split at h
    · cases h
    next call rest hp =>
      cases h
      exact .called h' call rest hp
  | stopCall k =>
    simp only [step?] at h
    split at h
    next call rest hk =>
      cases h
      obtain ⟨hsame, hpool⟩ := sameSessions_performStop hi call
      exact .quiet _ _ _ hsame (fun _ => rfl) hpool
    next => cases h

end Tasks

end FrameGateway
