import FrameGateway.Proofs.Gateway.Clients
import FrameGateway.Proofs.Gateway.Numbering
/-! The calls that attach clients, each cut where it waits for its connection to be wrapped, among all else
that happens to a gateway. Every permit is free, held by a call that waits, or held by a client that is read
from, and the counters agree with what the calls have returned and with who is read from
(`AttachCalls.connections_add_up`). A call that does not let its client in leaves no trace. -/

namespace FrameGateway

inductive AttachStep where
  /-- a call begins -/
  | call
  /-- the connection of a call could not be wrapped -/
  | failed (call : Nat) (fault : Fault)
  /-- the connection of a call has been wrapped -/
  | wrapped (call : Nat) (fresh : SessionId) (now : Nat)
  /-- whatever else happens -/
  | meanwhile (m : Move)

/-- A gateway and the calls that attach clients to it, numbered as they begin. -/
structure AttachCalls where
  state : GatewayState
  begun : Nat
  /-- calls whose connection is being wrapped -/
  waiting : List Nat
  /-- what the calls that are over returned, oldest first -/
  answers : List (Nat × Except Fault SessionId)

namespace AttachCalls

def create (config : Config) : AttachCalls := ⟨.create config, 0, [], []⟩

def gateway (r : AttachCalls) : Gateway := r.state.gateway

def clientCounts (r : AttachCalls) : ClientCounts := r.gateway.clientCounts

def admitted (r : AttachCalls) : List SessionId := r.answers.filterMap fun a => a.2.toOption

/-- The next stretch. A call whose connection has been wrapped goes on as soon as it has an id for the
client; while there is none, it searches. -/
def step? (r : AttachCalls) : AttachStep → Option AttachCalls
  | .call => (r.state.step? .connect).map fun state => match r.gateway.beginClient with
    | .error e => { r with state, begun := r.begun + 1, answers := r.answers ++ [(r.begun, .error e)] }
    | .ok _ => { r with state, begun := r.begun + 1, waiting := r.begun :: r.waiting }
  | .failed i e =>
    if i ∈ r.waiting then (r.state.step? .abandon).map fun state =>
      { r with state, waiting := r.waiting.erase i, answers := r.answers ++ [(i, .error e)] }
    else none
  | .wrapped i fresh now =>
    if i ∈ r.waiting ∧ r.gateway.hasId then (r.state.step? (.enter fresh now)).map fun state =>
      { r with state, waiting := r.waiting.erase i
               answers := r.answers ++ [(i, .ok (r.gateway.enterClient fresh now).2.id)] }
    else none
  | .meanwhile m => if m.attachesClient then none else (r.state.step? m).map fun state => { r with state }

def run? (r : AttachCalls) (steps : List AttachStep) : Option AttachCalls := steps.foldlM step? r

theorem run?_cons_eq_some {r r' : AttachCalls} {a : AttachStep} {steps : List AttachStep} :
    r.run? (a :: steps) = some r' ↔ ∃ s, r.step? a = some s ∧ s.run? steps = some r' := by
  rw [run?, List.foldlM_cons]
  exact Option.bind_eq_some_iff

theorem run?_append (r : AttachCalls) (a b : List AttachStep) :
    r.run? (a ++ b) = (r.run? a).bind (·.run? b) := by
  rw [run?, List.foldlM_append]; rfl

inductive Turn (r : AttachCalls) : AttachStep → AttachCalls → Prop
  | stopped (h : r.gateway.phase = .stopped) :
    Turn r .call { r with begun := r.begun + 1, answers := r.answers ++ [(r.begun, .error .gatewayStopped)] }
  | full (h : r.gateway.phase ≠ .stopped) (hp : r.gateway.permits = 0) :
    Turn r .call { r with begun := r.begun + 1, answers := r.answers ++ [(r.begun, .error .connectionLimit)] }
  | waits (h : r.gateway.phase ≠ .stopped) (hp : 0 < r.gateway.permits) :
    Turn r .call
      { r with state := { r.state with gateway := { r.gateway with permits := r.gateway.permits - 1 }
                                       wrapping := r.state.wrapping + 1 }
               begun := r.begun + 1, waiting := r.begun :: r.waiting }
  | failed (i : Nat) (e : Fault) (hi : i ∈ r.waiting) :
    Turn r (.failed i e)
      { r with state := { r.state with gateway := { r.gateway with permits := r.gateway.permits + 1 }
                                       wrapping := r.state.wrapping - 1 }
               waiting := r.waiting.erase i, answers := r.answers ++ [(i, .error e)] }
  | enters (i : Nat) (fresh : SessionId) (now : Nat) (hi : i ∈ r.waiting) (hid : r.gateway.hasId) :
    Turn r (.wrapped i fresh now)
      { r with state := { r.state with gateway := (r.gateway.enterClient fresh now).1
                                       wrapping := r.state.wrapping - 1
                                       opened := r.state.opened ++ [((r.gateway.enterClient fresh now).2, .client)] }
               waiting := r.waiting.erase i
               answers := r.answers ++ [(i, .ok (r.gateway.enterClient fresh now).2.id)] }
  | meanwhile (m : Move) (s : GatewayState) (hm : m.attachesClient = false) (hs : r.state.step? m = some s) :
    Turn r (.meanwhile m) { r with state := s }

variable {r r' : AttachCalls} {a : AttachStep}

theorem turn_of_step? (h : r.step? a = some r') : r.Turn a r' := by
  cases a with
  | call =>
    simp only [step?, GatewayState.step?, show r.state.gateway = r.gateway from rfl, Gateway.beginClient_eq] at h
    split_ifs at h with hp hn
    · cases h; exact .stopped hp
    · cases h; exact .full hp hn
    · cases h; exact .waits hp (Nat.pos_of_ne_zero hn)
  | failed i e =>
    simp only [step?, GatewayState.step?] at h
    split_ifs at h with hi
    · cases h
    · cases h
      exact .failed i e hi
  | wrapped i fresh now =>
    simp only [step?, GatewayState.step?] at h
    split_ifs at h with hi
    · cases h
    · cases h
      exact .enters i fresh now hi.1 hi.2
  | meanwhile m =>
    simp only [step?] at h
    split_ifs at h with hm
    obtain ⟨s, hs, rfl⟩ := Option.map_eq_some_iff.mp h
    exact .meanwhile m s (Bool.eq_false_iff.mpr hm) hs

/-- What each stretch hands on, with the steps that are still to come, holds when none is. -/
theorem run_rest {P : AttachCalls → List AttachStep → Prop}
    (hstep : ∀ r r' a steps, P r (a :: steps) → r.Turn a r' → P r' steps) {steps : List AttachStep}
    (h : P r steps) (hr : r.run? steps = some r') : P r' [] := by
  induction steps generalizing r with
  | nil => cases hr; exact h
  | cons a steps ih =>
    obtain ⟨s, hs, hr⟩ := run?_cons_eq_some.mp hr
    exact ih (hstep r s a steps h (turn_of_step? hs)) hr

/-- Each step of a run has had its turn. -/
theorem exists_turn_of_mem {steps : List AttachStep} (hr : r.run? steps = some r') (ha : a ∈ steps) :
    ∃ done s t, done ++ [a] <+: steps ∧ r.run? done = some s ∧ s.Turn a t ∧ r.run? (done ++ [a]) = some t := by
  obtain ⟨done, rest, rfl⟩ := List.append_of_mem ha
  rw [run?_append, Option.bind_eq_some_iff] at hr
  obtain ⟨s, hdone, hr⟩ := hr
  obtain ⟨t, ht, -⟩ := run?_cons_eq_some.mp hr
  refine ⟨done, s, t, by simp, hdone, turn_of_step? ht, ?_⟩
  rw [run?_append, hdone]
  exact run?_cons_eq_some.mpr ⟨t, ht, rfl⟩

end AttachCalls

/-! ### Accounts -/

/-- The counts agree when so many calls wait and so many clients have been let in. -/
structure ClientCounts.Balanced (c : ClientCounts) (most waiting admitted : Nat) : Prop where
  permits : c.permits + waiting + c.loops.length = most
  active : c.active.toNat = c.loops.length
  total : c.total = .ofNat admitted
  queues : (c.loops.map (·.outbox)).Nodup

namespace ClientCounts

variable {c : ClientCounts} {most waiting admitted : Nat} {h : Handle}

/-- A call takes a permit and waits. -/
theorem Balanced.waits (hc : c.Balanced most waiting admitted) (hp : 0 < c.permits) :
    Balanced { c with permits := c.permits - 1 } most (waiting + 1) admitted := by
  refine ⟨?_, hc.active, hc.total, hc.queues⟩
  have := hc.permits
  dsimp only
  omega

/-- A call gives its permit back. -/
theorem Balanced.fails (hc : c.Balanced most (waiting + 1) admitted) :
    Balanced { c with permits := c.permits + 1 } most waiting admitted := by
  refine ⟨?_, hc.active, hc.total, hc.queues⟩
  have := hc.permits
  dsimp only
  omega

/-- A call hands its permit over to its client. -/
theorem Balanced.enter (hc : c.Balanced most (waiting + 1) admitted) (hm : most < 2 ^ 64)
    (hnew : h.outbox ∉ c.loops.map (·.outbox)) (backends : Nat) :
    (c.enter h backends).Balanced most waiting (admitted + 1) := by
  have hp := hc.permits
  refine ⟨?_, ?_, ?_, ?_⟩
  · change c.permits + waiting + (c.loops ++ [h]).length = most
    rw [List.length_append, List.length_singleton]
    omega
  · rw [ClientCounts.enter, UInt64.toNat_add, hc.active, List.length_append, List.length_singleton]
    exact Nat.mod_eq_of_lt (by simp; omega)
  · rw [ClientCounts.enter, hc.total, UInt64.ofNat_add]
    rfl
  · rw [ClientCounts.enter, List.map_append, List.nodup_append]
    refine ⟨hc.queues, List.nodup_singleton _, fun o ho o' ho' heq => hnew ?_⟩
    have ho' : o' = h.outbox := List.mem_singleton.mp ho'
    rwa [← ho', ← heq]

/-- Only one of those who are read from has a given queue. -/
theorem length_leave (hn : (c.loops.map (·.outbox)).Nodup) (hh : h ∈ c.loops) :
    (c.leave h).loops.length + 1 = c.loops.length := by
  have heq : (c.leave h).loops.map (·.outbox) = (c.loops.map (·.outbox)).erase h.outbox := by
    rw [hn.erase_eq_filter, List.filter_map]
    rfl
  have hm := List.mem_map_of_mem (f := (·.outbox)) hh
  have hl := congrArg List.length heq
  rw [List.length_map, List.length_erase_of_mem hm, List.length_map] at hl
  rw [hl, Nat.sub_add_cancel (List.length_pos_of_mem hh)]

theorem Balanced.leave (hc : c.Balanced most waiting admitted) (hh : h ∈ c.loops) :
    (c.leave h).Balanced most waiting admitted := by
  have hl := length_leave hc.queues hh
  refine ⟨?_, ?_, hc.total, hc.queues.sublist (List.filter_sublist.map _)⟩
  · have := hc.permits
    simp only [ClientCounts.leave] at hl ⊢
    omega
  · rw [ClientCounts.leave, Saturating.toNat_sub, hc.active, ← hl]
    rfl

/-- A client whose id is free is entered behind all others. -/
theorem table_enter (ht : c.table = c.loops) (hfree : h.id ∉ c.table.map (·.id)) (backends : Nat) :
    (c.enter h backends).table = (c.enter h backends).loops := by
  have hall : c.table.filter (·.id != h.id) = c.table :=
    List.filter_eq_self.mpr fun b hb => bne_iff_ne.mpr fun he => hfree (he ▸ List.mem_map_of_mem hb)
  rw [ClientCounts.enter, hall, ht]

/-- Where the ids tell the clients apart, as the queues do, the one who leaves is taken out by either. -/
theorem table_leave (ht : c.table = c.loops) (hids : (c.table.map (·.id)).Nodup)
    (hn : (c.loops.map (·.outbox)).Nodup) (hh : h ∈ c.loops) : (c.leave h).table = (c.leave h).loops := by
  rw [ClientCounts.leave, ht]
  refine List.filter_congr fun b hb => ?_
  rw [Bool.eq_iff_iff, bne_iff_ne, bne_iff_ne]
  rw [ht] at hids
  exact not_congr ⟨fun he => congrArg _ (List.inj_on_of_nodup_map hids hb hh he),
    fun he => congrArg _ (List.inj_on_of_nodup_map hn hb hh he)⟩

/-- Frames are sent to none but those who are read from. A client who comes leaves it so. -/
theorem table_subset_enter (hsub : c.table ⊆ c.loops) (backends : Nat) :
    (c.enter h backends).table ⊆ (c.enter h backends).loops := by
  intro b hb
  rcases List.mem_append.mp hb with hb | hb
  · exact List.mem_append_left _ (hsub (List.mem_filter.mp hb).1)
  · exact List.mem_append_right _ hb

/-- And so does one who leaves, since the queues tell those apart who are read from. -/
theorem table_subset_leave (hsub : c.table ⊆ c.loops) (hn : (c.loops.map (·.outbox)).Nodup) (hh : h ∈ c.loops) :
    (c.leave h).table ⊆ (c.leave h).loops := by
  intro b hb
  obtain ⟨hb, hid⟩ := List.mem_filter.mp hb
  refine List.mem_filter.mpr ⟨hsub hb, bne_iff_ne.mpr fun ho => bne_iff_ne.mp hid ?_⟩
  exact congrArg Handle.id (List.inj_on_of_nodup_map hn (hsub hb) hh ho)

end ClientCounts

namespace AttachCalls

variable {r r' : AttachCalls} {a : AttachStep} {config : Config}

structure Inv (config : Config) (r : AttachCalls) : Prop where
  state : r.state.Inv
  token : r.gateway.relay.token = config.codec.token
  /-- each call that has begun waits or has returned, once -/
  calls : (r.answers.map (·.1) ++ r.waiting).Perm (List.range r.begun)
  wrapping : r.state.wrapping = r.waiting.length
  balanced : r.clientCounts.Balanced config.server.maxConnections.toNat r.waiting.length r.admitted.length

theorem inv_create (config : Config) : (create config).Inv config :=
  ⟨GatewayState.inv_create config, rfl, .refl _, rfl, ⟨rfl, rfl, rfl, .nil⟩⟩

theorem admitted_error (r : AttachCalls) (i : Nat) (e : Fault) :
    admitted { r with answers := r.answers ++ [(i, .error e)] } = r.admitted := by
  rw [admitted, List.filterMap_append]
  exact List.append_nil _

theorem length_admitted_ok (r : AttachCalls) (i : Nat) (id : SessionId) :
    (admitted { r with answers := r.answers ++ [(i, .ok id)] }).length = r.admitted.length + 1 := by
  rw [admitted, List.filterMap_append, List.length_append]
  rfl

/-- Whatever happens to the sessions of a gateway meanwhile, they stay as they have to be. -/
theorem Turn.state (h : r.Turn a r') (hi : r.state.Inv) :
    r'.state.Inv ∧ r'.gateway.relay.token = r.gateway.relay.token := by
  have hstep : ∀ {m s}, r.state.Stepped m s → s.Inv ∧ s.gateway.relay.token = r.gateway.relay.token :=
    fun hs => ⟨hi.step hs, hs.token⟩
  cases h with
  | stopped => exact ⟨hi, rfl⟩
  | full => exact ⟨hi, rfl⟩
  | waits => exact hstep (.leavesOnly .connect _ _ _ (.of_same rfl rfl rfl))
  | failed => exact hstep (.leavesOnly .abandon _ _ _ (.of_same rfl rfl rfl))
  | enters i fresh now => exact hstep (.entered fresh now _)
  | meanwhile m s hm hs => exact hstep (GatewayState.stepped_of_step? hi.sound hs)

theorem Inv.calls_begin (h : r.Inv config) {calls : List Nat}
    (hp : calls.Perm (r.begun :: (r.answers.map (·.1) ++ r.waiting))) :
    calls.Perm (List.range (r.begun + 1)) := by
  rw [List.range_succ]
  exact hp.trans ((h.calls.cons _).trans (List.perm_append_singleton ..).symm)

theorem Inv.calls_return (h : r.Inv config) {i : Nat} (hi : i ∈ r.waiting) (x : Except Fault SessionId) :
    ((r.answers ++ [(i, x)]).map (·.1) ++ r.waiting.erase i).Perm (List.range r.begun) := by
  rw [List.map_append, List.append_assoc]
  exact ((List.perm_cons_erase hi).symm.append_left _).trans h.calls

/-- The queue of a new session is not one that is read for. -/
theorem Inv.queue_new (h : r.Inv config) (fresh : SessionId) (now : Nat) :
    (r.gateway.enterClient fresh now).2.outbox ∉ r.clientCounts.loops.map (·.outbox) := by
  intro hm
  obtain ⟨b, hb, ho⟩ := List.mem_map.mp hm
  obtain ⟨a, ha, rfl⟩ := List.mem_map.mp hb
  -- the queues of all who are read from have been made before
  have hlt := h.state.made _ (GatewayState.mem_known (h.state.readers a (List.mem_filter.mp ha).1))
  have hnew := (Gateway.enterClient_opens r.gateway fresh now).1.handle
  rw [show (⟨a.id, a.outbox⟩ : Handle).outbox = (r.gateway.enterClient fresh now).2.outbox from ho, hnew] at hlt
  exact absurd hlt (Nat.lt_irrefl _)

/-- A call that is refused at once. -/
theorem Inv.refused (h : r.Inv config) (e : Fault) :
    Inv config { r with begun := r.begun + 1, answers := r.answers ++ [(r.begun, .error e)] } := by
  refine ⟨h.state, h.token, h.calls_begin ?_, h.wrapping, ?_⟩
  · rw [List.map_append, List.append_assoc]
    exact List.perm_middle
  · exact (admitted_error r r.begun e).symm ▸ h.balanced

theorem Inv.step (h : r.Inv config) (ht : r.Turn a r') : r'.Inv config := by
  obtain ⟨hscene, htoken⟩ := ht.state h.state
  have htoken := htoken.trans h.token
  have hb := h.balanced
  have herase : ∀ {i}, i ∈ r.waiting → r.waiting.length = (r.waiting.erase i).length + 1 := fun hi => by
    rw [List.length_erase_of_mem hi, Nat.sub_add_cancel (List.length_pos_of_mem hi)]
  cases ht with
  | stopped => exact h.refused _
  | full => exact h.refused _
  | waits hp hn =>
    exact ⟨hscene, htoken, h.calls_begin List.perm_middle, congrArg (· + 1) h.wrapping, hb.waits hn⟩
  | failed i e hi =>
    refine ⟨hscene, htoken, h.calls_return hi _, ?_, ?_⟩
    · exact (congrArg (· - 1) h.wrapping).trans (List.length_erase_of_mem hi).symm
    · rw [herase hi] at hb
      exact (admitted_error r i e).symm ▸ hb.fails
  | enters i fresh now hi hid =>
    refine ⟨hscene, htoken, h.calls_return hi _, ?_, ?_⟩
    · exact (congrArg (· - 1) h.wrapping).trans (List.length_erase_of_mem hi).symm
    · rw [herase hi] at hb
      have hent := hb.enter config.server.maxConnections.toNat_lt (h.queue_new fresh now) r.gateway.relay.pool.size
      rw [clientCounts, ← Gateway.clientCounts_enterClient] at hent
      exact (length_admitted_ok r i _).symm ▸ hent
  | meanwhile m s hm hs =>
    obtain ⟨hmoved, hw⟩ := GatewayState.moved_of_step? h.state hm hs
    refine ⟨hscene, htoken, h.calls, hw.trans h.wrapping, ?_⟩
    change s.gateway.clientCounts.Balanced _ r.waiting.length r.admitted.length
    cases hmoved with
    | idle hc =>
      rw [hc]
      exact hb
    | left c hin hc =>
      rw [hc]
      exact hb.leave hin
    | emptied hm hc =>
      rw [hc]
      exact ⟨hb.permits, hb.active, hb.total, hb.queues⟩

theorem Inv.run (h : r.Inv config) {steps : List AttachStep} (hr : r.run? steps = some r') :
    r'.Inv config :=
  run_rest (P := fun r _ => r.Inv config) (fun _ _ _ _ h ht => h.step ht) h hr

/-! ### The table of clients -/

theorem Inv.table_subset (h : r.Inv config) (ht : r.Turn a r') (hsub : r.gateway.relay.clients ⊆ r.gateway.loops) :
    r'.gateway.relay.clients ⊆ r'.gateway.loops := by
  change r'.clientCounts.table ⊆ r'.clientCounts.loops
  cases ht with
  | stopped => exact hsub
  | full => exact hsub
  | waits => exact hsub
  | failed => exact hsub
  | enters i fresh now =>
    change (r.gateway.enterClient fresh now).1.clientCounts.table ⊆
      (r.gateway.enterClient fresh now).1.clientCounts.loops
    rw [Gateway.clientCounts_enterClient]
    exact ClientCounts.table_subset_enter hsub _
  | meanwhile m s hm hs =>
    change s.gateway.clientCounts.table ⊆ s.gateway.clientCounts.loops
    cases (GatewayState.moved_of_step? h.state hm hs).1 with
    | idle hc =>
      rw [hc]
      exact hsub
    | left b hb hc =>
      rw [hc]
      exact ClientCounts.table_subset_leave hsub h.balanced.queues hb
    | emptied _ hc =>
      rw [hc]
      exact List.nil_subset _

theorem table_subset_run (h : r.Inv config) (hsub : r.gateway.relay.clients ⊆ r.gateway.loops)
    {steps : List AttachStep} (hr : r.run? steps = some r') : r'.gateway.relay.clients ⊆ r'.gateway.loops := by
  have hend := run_rest (P := fun r _ => r.Inv config ∧ r.gateway.relay.clients ⊆ r.gateway.loops) ?_ ⟨h, hsub⟩ hr
  · exact hend.2
  · rintro r r' a steps ⟨h, hsub⟩ ht
    exact ⟨h.step ht, h.table_subset ht hsub⟩


def draws (steps : List AttachStep) : List SessionId :=
  steps.filterMap fun
    | .wrapped _ fresh _ => some fresh
    | _ => none

/-- Frames are sent to those who are read from. Where ids are drawn, those that are yet to be drawn
differ from theirs and from each other. -/
structure ReadersListed (r : AttachCalls) (steps : List AttachStep) : Prop where
  table : r.clientCounts.table = r.clientCounts.loops
  drawn : TokenFormat.inTurn? r.gateway.relay.token = none →
    (draws steps).Nodup ∧ ∀ id ∈ draws steps, id ∉ r.clientCounts.table.map (·.id)

theorem Inv.table_moved (h : r.Inv config) (ht : r.clientCounts.table = r.clientCounts.loops) {m : Move}
    {s : GatewayState}
    (hmoved : r.state.Moved m s) (hm : m ≠ .stop) :
    s.gateway.clientCounts.table = s.gateway.clientCounts.loops ∧
      s.gateway.clientCounts.table ⊆ r.clientCounts.table := by
  cases hmoved with
  | idle hc =>
    rw [hc]
    exact ⟨ht, List.Subset.refl _⟩
  | left b hb hc =>
    rw [hc]
    exact ⟨ClientCounts.table_leave ht h.state.clientIds h.balanced.queues hb, List.filter_subset_self _⟩
  | emptied he => exact absurd he hm

theorem Inv.readersListed (h : r.Inv config) {steps : List AttachStep} (hs : r.ReadersListed (a :: steps))
    (ht : r.Turn a r') (ha : a ≠ .meanwhile .stop) : r'.ReadersListed steps := by
  have htoken := (ht.state h.state).2
  cases ht with
  | stopped => exact ⟨hs.table, hs.drawn⟩
  | full => exact ⟨hs.table, hs.drawn⟩
  | waits => exact ⟨hs.table, hs.drawn⟩
  | failed => exact ⟨hs.table, hs.drawn⟩
  | enters i fresh now hi hid =>
    obtain ⟨ho, -, hclients⟩ := Gateway.enterClient_opens r.gateway fresh now
    -- the id is one that the search has found free, or it is the next that is drawn
    have hfree : (r.gateway.enterClient fresh now).2.id ∉ r.clientCounts.table.map (·.id) := by
      rw [ho.handle]
      exact Gateway.allocate_free hid fun hn => (hs.drawn hn).2 fresh (List.mem_cons_self ..)
    refine ⟨?_, fun hn => ?_⟩
    · change (r.gateway.enterClient fresh now).1.clientCounts.table =
        (r.gateway.enterClient fresh now).1.clientCounts.loops
      rw [Gateway.clientCounts_enterClient]
      exact ClientCounts.table_enter hs.table hfree _
    · rw [htoken] at hn
      obtain ⟨hnodup, hnew⟩ := hs.drawn hn
      obtain ⟨hfresh, hnodup⟩ := List.nodup_cons.mp hnodup
      refine ⟨hnodup, fun id hid hm => ?_⟩
      obtain ⟨c, hc, rfl⟩ := List.mem_map.mp hm
      change c ∈ (r.gateway.enterClient fresh now).1.relay.clients at hc
      rw [hclients] at hc
      rcases Relay.mem_of_mem_addClient hc with hc | hc
      · exact hnew c.id (List.mem_cons_of_mem _ hid) (List.mem_map_of_mem hc)
      · rw [hc, ho.handle, Gateway.allocate_of_drawn hn] at hid
        exact hfresh hid
  | meanwhile m s hm hstep =>
    have hmoved := (GatewayState.moved_of_step? h.state hm hstep).1
    obtain ⟨htable, hsub⟩ := h.table_moved hs.table hmoved fun he => ha (congrArg _ he)
    refine ⟨htable, fun hn => ?_⟩
    obtain ⟨hnodup, hnew⟩ := hs.drawn (htoken ▸ hn)
    exact ⟨hnodup, fun id hid hm => hnew id hid (List.map_subset _ hsub hm)⟩

theorem Inv.readersListed_run (h : r.Inv config) {steps : List AttachStep} (hs : r.ReadersListed steps)
    (hr : r.run? steps = some r') (hstop : .meanwhile .stop ∉ steps) : r'.ReadersListed [] := by
  have hend := run_rest (P := fun r steps => r.Inv config ∧ r.ReadersListed steps ∧ .meanwhile .stop ∉ steps) ?_
    ⟨h, hs, hstop⟩ hr
  · exact hend.2.1
  · rintro r r' a steps ⟨h, hs, hstop⟩ ht
    rw [List.mem_cons, not_or] at hstop
    exact ⟨h.step ht, h.readersListed hs ht (Ne.symm hstop.1), hstop.2⟩

/-- A move with which the loop of this session ends: after a silence, or since all reading is to end; with its stream;
or with a fault of it. -/
inductive Ends (a : Attachment) : Move → Prop
  | finish : Ends a (.finish a)
  | feed (bytes : Bytes) (ended : Bool) (now : Nat)
      (isOver : ended = true ∨ (FrameStream.drain (a.unread ++ bytes)).fault ≠ none) : Ends a (.feed a bytes ended now)

theorem Inv.client_ends (h : r.Inv config) {b : Attachment} {m : Move} (hm : Ends b m) (hr : b.role = .client)
    (hs : r.step? (.meanwhile m) = some r') : b.handle ∈ r.gateway.loops ∧ r'.waiting = r.waiting ∧
      r'.answers = r.answers ∧ r'.clientCounts = r.clientCounts.leave b.handle := by
  cases turn_of_step? hs with
  | meanwhile _ s _ hstep =>
    cases hm with
    | finish =>
      simp only [GatewayState.step?] at hstep
      split at hstep
      next hb =>
        cases hstep
        exact ⟨GatewayState.mem_loops hb hr, rfl, rfl, Gateway.clientCounts_finish_client hr⟩
      next => cases hstep
    | feed bytes ended now isOver =>
      simp only [GatewayState.step?] at hstep
      split at hstep
      next hb =>
        cases hstep
        refine ⟨GatewayState.mem_loops hb hr, rfl, rfl, ?_⟩
        change (r.gateway.feed b bytes ended now).clientCounts = _
        rw [Gateway.feed_of_isOver now isOver, Gateway.clientCounts_finish_client hr]
        exact congrArg (·.leave b.handle) (Gateway.clientCounts_receive h.state.sound b bytes ended now)
      next => cases hstep

/-- The counts of clients, whatever happens to the gateway and in which order. Each call that has begun waits or
has returned. A permit is free, or a call that waits has it, or a client that is read from; as many are
active as are read from, so never more than the limit; and as many have been counted in all, in a 64-bit
word, as calls have let their client in. Before any stop, frames are sent to exactly those who are read from,
if no id is drawn twice. A call that is refused changes nothing, one that waits has taken a permit, and one
whose connection cannot be wrapped gives its permit back and changes nothing else. A client whose loop ends was read
from and is not any more; no frame is sent to it, its permit is free, and one client less is active. -/
theorem connections_add_up (config : Config) (steps : List AttachStep) (r : AttachCalls)
    (h : (create config).run? steps = some r) :
    (r.answers.map (·.1) ++ r.waiting).Perm (List.range r.begun) ∧
    r.gateway.permits + r.waiting.length + r.gateway.loops.length = config.server.maxConnections.toNat ∧
    r.gateway.relay.counters.connectionsActive.toNat = r.gateway.loops.length ∧
    r.gateway.loops.length ≤ config.server.maxConnections.toNat ∧
    r.gateway.relay.counters.connectionsTotal = .ofNat r.admitted.length ∧
    (.meanwhile .stop ∉ steps → (TokenFormat.inTurn? config.codec.token = none → (draws steps).Nodup) →
      r.gateway.relay.clients = r.gateway.loops) ∧
    (∀ r', r.step? .call = some r' →
      (∃ e, r'.answers = r.answers ++ [(r.begun, .error e)] ∧ r'.gateway = r.gateway ∧
        (e = .gatewayStopped ∧ r.gateway.phase = .stopped ∨
          e = .connectionLimit ∧ r.gateway.phase ≠ .stopped ∧ r.gateway.permits = 0)) ∨
      r'.waiting = r.begun :: r.waiting ∧ 0 < r.gateway.permits ∧
        r'.gateway = { r.gateway with permits := r.gateway.permits - 1 }) ∧
    (∀ i e r', r.step? (.failed i e) = some r' → r'.answers = r.answers ++ [(i, .error e)] ∧
      r'.gateway = { r.gateway with permits := r.gateway.permits + 1 }) ∧
    ∀ b m r', b.role = .client → Ends b m → r.step? (.meanwhile m) = some r' →
      b.handle ∈ r.gateway.loops ∧ r'.gateway.loops = r.gateway.loops.filter (·.outbox != b.outbox) ∧
        r'.gateway.relay.client? b.id = none ∧ r'.gateway.permits = r.gateway.permits + 1 ∧
        r'.gateway.relay.counters.connectionsActive.toNat + 1 = r.gateway.relay.counters.connectionsActive.toNat ∧
        r'.gateway.relay.counters.connectionsTotal = r.gateway.relay.counters.connectionsTotal ∧
        r'.waiting = r.waiting ∧ r'.answers = r.answers := by
  have hi := (inv_create config).run h
  have hpermits : r.gateway.permits + r.waiting.length + r.gateway.loops.length = _ := hi.balanced.permits
  refine ⟨hi.calls, hpermits, hi.balanced.active, by omega, hi.balanced.total, fun hstop hdraws => ?_, ?_, ?_,
    fun b m r' hr hm hs => ?_⟩
  · have hseated : (create config).ReadersListed steps := ⟨rfl, fun hn => ⟨hdraws hn, fun _ _ => List.not_mem_nil⟩⟩
    exact ((inv_create config).readersListed_run hseated h hstop).table
  · intro r' hr
    cases turn_of_step? hr with
    | stopped hp => exact .inl ⟨_, rfl, rfl, .inl ⟨rfl, hp⟩⟩
    | full hp hn => exact .inl ⟨_, rfl, rfl, .inr ⟨rfl, hp, hn⟩⟩
    | waits hp hn => exact .inr ⟨rfl, hn, rfl⟩
  · intro i e r' hr
    cases turn_of_step? hr
    exact ⟨rfl, rfl⟩
  · obtain ⟨hmem, hwaiting, hanswers, hleft⟩ := hi.client_ends hm hr hs
    have hactive := (hi.step (turn_of_step? hs)).balanced.active
    have hlength := ClientCounts.length_leave hi.balanced.queues hmem
    rw [← hleft] at hlength
    refine ⟨hmem, congrArg ClientCounts.loops hleft, ?_, congrArg ClientCounts.permits hleft, ?_,
      congrArg ClientCounts.total hleft, hwaiting, hanswers⟩
    · refine List.find?_eq_none.mpr fun x hx => ?_
      have hx : x ∈ (r.clientCounts.leave b.handle).table := congrArg ClientCounts.table hleft ▸ hx
      simpa [Attachment.handle] using (List.mem_filter.mp hx).2
    · exact (congrArg (· + 1) hactive).trans (hlength.trans hi.balanced.active.symm)

/-- One permit: while a first call waits, a second is refused; the first fails, and a third lets its
client in. -/
theorem connections_add_up_behind_failures :
    ∃ r, (create { server := { maxConnections := 1 } }).run?
        [.call, .call, .failed 0 .timeout, .call, .wrapped 2 (.ofNat 7) 0] = some r ∧
      r.answers = [(1, .error .connectionLimit), (0, .error .timeout), (2, .ok (.ofNat 7))] ∧
      r.gateway.permits = 0 ∧ r.gateway.loops = [⟨.ofNat 7, ⟨0⟩⟩] ∧
      r.gateway.relay.clients = r.gateway.loops := by
  refine ⟨_, rfl, rfl, rfl, rfl, ?_⟩
  exact (connections_add_up { server := { maxConnections := 1 } }
    [.call, .call, .failed 0 .timeout, .call, .wrapped 2 (.ofNat 7) 0] _ rfl).2.2.2.2.2.1 (by simp)
    fun _ => List.nodup_singleton _

end AttachCalls

end FrameGateway
