import FrameGateway.Proofs.Relay.Routing
import FrameGateway.Relay
import FrameGateway.Proofs.Pool.Turns
/-! What relaying does, apart from the bytes that it carries. An `Effect` says which queues get a copy of
a frame, what is reported, and which pool is left; each stage of the relay acts through an effect that
is fixed before the frame is known, by the sessions alone (`fanOut_eq`, `Acts`). -/

namespace FrameGateway

namespace Outboxes

/-- Why a queue takes no frame now, if it takes none. -/
def refusal? (s : Outboxes) (i : OutboxId) : Option Fault :=
  match s.get? i with
  | none => some .connectionClosed
  | some o =>
    if !o.isOpen then some .connectionClosed
    else if o.capacity ≤ o.frames.length then some .queueFull
    else none

def push (frame : Bytes) (s : Outboxes) (i : OutboxId) : Outboxes :=
  s.modify i fun o => { o with frames := o.frames ++ [frame] }

def pushAll (frame : Bytes) (s : Outboxes) (is : List OutboxId) : Outboxes := is.foldl (push frame) s

variable {s : Outboxes} {i j : OutboxId} {frame : Bytes}

theorem get?_push_self : (s.push frame i).get? i =
    (s.get? i).map fun o => { o with frames := o.frames ++ [frame] } := by
  simp [push, modify, get?]

theorem get?_push_of_ne (h : i ≠ j) : (s.push frame i).get? j = s.get? j := by
  have hi : i.index ≠ j.index := fun hi => h (by cases i; cases j; cases hi; rfl)
  simp [push, modify, get?, hi]

theorem offer_eq : s.offer i frame =
    match s.refusal? i with
    | some e => .error e
    | none => .ok (s.push frame i) := by
  unfold offer refusal?
  cases ho : s.get? i with
  | none => rfl
  | some o =>
    dsimp only
    by_cases hopen : (!o.isOpen) = true
    · rw [Outbox.offer, if_pos hopen, if_pos hopen]; rfl
    · by_cases hfull : o.capacity ≤ o.frames.length
      · rw [Outbox.offer, if_neg hopen, if_neg hopen, if_pos hfull, if_pos hfull]; rfl
      · rw [Outbox.offer, if_neg hopen, if_neg hopen, if_neg hfull, if_neg hfull]
        rw [push, modify, List.modify_eq_set_getElem?, show s.boxes[i.index]? = some o from ho]
        rfl

theorem exists_of_refusal?_eq_none (h : s.refusal? i = none) :
    ∃ o, s.get? i = some o ∧ o.isOpen = true ∧ o.frames.length < o.capacity := by
  unfold refusal? at h
  split at h
  next => cases h
  next o ho =>
    split_ifs at h with hopen hfull
    exact ⟨o, ho, by simpa using hopen, Nat.lt_of_not_le hfull⟩

theorem refusal?_push_of_ne (h : i ≠ j) : (s.push frame i).refusal? j = s.refusal? j := by
  rw [refusal?, get?_push_of_ne h, refusal?]

theorem isClosed_push : (s.push frame i).isClosed j = s.isClosed j := by
  rw [isClosed, isClosed]
  by_cases h : i = j
  · subst h
    rw [get?_push_self]
    cases s.get? i <;> rfl
  · rw [get?_push_of_ne h]

theorem isClosed_pushAll {is : List OutboxId} : (s.pushAll frame is).isClosed j = s.isClosed j := by
  induction is generalizing s with
  | nil => rfl
  | cons i is ih => exact ih.trans isClosed_push

theorem length_pushAll {is : List OutboxId} : (s.pushAll frame is).boxes.length = s.boxes.length := by
  induction is generalizing s with
  | nil => rfl
  | cons i is ih => exact ih.trans (List.length_modify ..)

theorem get?_pushAll_of_not_mem {is : List OutboxId} (h : j ∉ is) :
    (s.pushAll frame is).get? j = s.get? j := by
  induction is generalizing s with
  | nil => rfl
  | cons i is ih =>
    rw [List.mem_cons, not_or] at h
    exact (ih h.2).trans (get?_push_of_ne (Ne.symm h.1))

theorem get?_pushAll_of_mem {is : List OutboxId} (hn : is.Nodup) (h : j ∈ is) :
    (s.pushAll frame is).get? j = (s.get? j).map fun o => { o with frames := o.frames ++ [frame] } := by
  induction is generalizing s with
  | nil => cases h
  | cons i is ih =>
    obtain ⟨hi, hn⟩ := List.nodup_cons.mp hn
    by_cases hij : i = j
    · subst hij
      exact (get?_pushAll_of_not_mem hi).trans get?_push_self
    · refine (ih hn ((List.mem_cons.mp h).resolve_left (Ne.symm hij))).trans ?_
      rw [get?_push_of_ne hij]

end Outboxes

/-- A report that does not name its frame. -/
inductive Note where
  | lost (fault : Fault)
  | left (backend : SessionId)

namespace Note

def event (source : SessionId) (frame : Bytes) : Note → Event
  | lost fault => .dropped source frame fault
  | left backend => .closed backend .backend

def isLost : Note → Bool
  | lost _ => true
  | left _ => false

end Note

structure Effect where
  /-- the queues that get a copy -/
  reached : List OutboxId
  /-- what is reported, in this order -/
  notes : List Note
  pool : Pool

namespace Effect

def losses (e : Effect) : Nat := e.notes.countP Note.isLost

def on (e : Effect) (r : Relay) (source : SessionId) (frame : Bytes) : Relay :=
  { r with boxes := r.boxes.pushAll frame e.reached, pool := e.pool
           counters := { r.counters with framesDropped := r.counters.framesDropped + .ofNat e.losses }
           events := r.events ++ e.notes.map (·.event source frame) }

def andThen (e d : Effect) : Effect := ⟨e.reached ++ d.reached, e.notes ++ d.notes, d.pool⟩

def leave (p : Pool) (id : SessionId) : Effect :=
  if p.contains id then ⟨[], [.left id], (p.remove id).1⟩ else ⟨[], [], p⟩

def offers (s : Outboxes) (p : Pool) (targets : List Handle) : Effect :=
  ⟨(targets.filter fun h => (s.refusal? h.outbox).isNone).map (·.outbox),
    (targets.filterMap fun h => s.refusal? h.outbox).map .lost, p⟩

variable {r : Relay} {source : SessionId} {frame : Bytes}

theorem on_andThen (e d : Effect) :
    (e.andThen d).on r source frame = d.on (e.on r source frame) source frame := by
  simp [on, andThen, losses, Outboxes.pushAll, List.countP_append, UInt64.ofNat_add, UInt64.add_assoc]

theorem on_idle : (⟨[], [], r.pool⟩ : Effect).on r source frame = r := by
  simp [on, losses, Outboxes.pushAll]

theorem on_deliver (i : OutboxId) :
    (⟨[i], [], r.pool⟩ : Effect).on r source frame = { r with boxes := r.boxes.push frame i } := by
  simp [on, losses, Outboxes.pushAll]

theorem on_lose (e : Fault) :
    (⟨[], [.lost e], r.pool⟩ : Effect).on r source frame = r.drop source frame e := by
  simp [on, losses, Note.isLost, Note.event, Outboxes.pushAll, Relay.drop, Relay.report,
    Counters.frameDropped]

theorem offers_cons_of_refused {s : Outboxes} {p : Pool} {h : Handle} {e : Fault}
    (hr : s.refusal? h.outbox = some e) (rest : List Handle) :
    offers s p (h :: rest) = (⟨[], [.lost e], p⟩ : Effect).andThen (offers s p rest) := by
  simp [offers, andThen, hr]

theorem offers_cons_of_open {s : Outboxes} {p : Pool} {h : Handle} (hr : s.refusal? h.outbox = none)
    (rest : List Handle) :
    offers s p (h :: rest) = (⟨[h.outbox], [], p⟩ : Effect).andThen (offers s p rest) := by
  simp [offers, andThen, hr]

/-- What other targets make of a frame does not hang on one that has it already. -/
theorem offers_push {s : Outboxes} {p : Pool} {i : OutboxId} {targets : List Handle}
    (hi : i ∉ targets.map (·.outbox)) : offers (s.push frame i) p targets = offers s p targets := by
  have hr : ∀ h ∈ targets, (s.push frame i).refusal? h.outbox = s.refusal? h.outbox := fun h hh =>
    Outboxes.refusal?_push_of_ne fun e => hi (e ▸ List.mem_map_of_mem hh)
  rw [offers, offers, List.filter_congr fun h hh => congrArg Option.isNone (hr h hh),
    List.filterMap_congr hr]

theorem losses_offers (s : Outboxes) (p : Pool) (targets : List Handle) :
    (offers s p targets).reached.length + (offers s p targets).losses = targets.length := by
  induction targets with
  | nil => rfl
  | cons h rest ih =>
    simp only [offers, losses, List.length_map, List.countP_map] at ih ⊢
    cases hr : s.refusal? h.outbox <;>
      simp_all [Note.isLost, Function.comp_def] <;> omega

end Effect

namespace Relay

variable {r : Relay} {source : SessionId} {frame : Bytes} {target : Handle} {p : Pool}

theorem prune_eq (r : Relay) (id source : SessionId) (frame : Bytes) :
    r.prune id = (Effect.leave r.pool id).on r source frame := by
  rcases Pool.remove_cases r.pool id with ⟨hm, hr⟩ | ⟨a, x, b, hm, rfl, -, hr⟩
  · have hc : ¬ r.pool.contains id = true := Pool.contains_iff.not.mpr hm
    simp only [prune, removeBackend, hr, Effect.leave, if_neg hc]
    exact (Effect.on_idle).symm
  · have hc : r.pool.contains x.id = true := by
      simp [Pool.contains, hm]
    simp only [prune, removeBackend, hr, Effect.leave, if_pos hc]
    simp [Effect.on, Effect.losses, Note.isLost, Note.event, Outboxes.pushAll, report]

theorem fanOut_eq {targets : List Handle} (hn : (targets.map (·.outbox)).Nodup) :
    r.fanOut source frame targets =
      ((Effect.offers r.boxes r.pool targets).on r source frame,
        (Effect.offers r.boxes r.pool targets).reached.length) := by
  induction targets generalizing r with
  | nil => exact congrArg (·, 0) Effect.on_idle.symm
  | cons h rest ih =>
    obtain ⟨hh, hrest⟩ := List.nodup_cons.mp hn
    rw [fanOut, Outboxes.offer_eq]
    cases hr : r.boxes.refusal? h.outbox with
    | some e =>
      dsimp only
      rw [ih hrest, Effect.offers_cons_of_refused hr, Effect.on_andThen, Effect.on_lose]
      rfl
    | none =>
      dsimp only
      rw [ih hrest, Effect.offers_push hh, Effect.offers_cons_of_open hr, Effect.on_andThen,
        Effect.on_deliver]
      simp [Effect.andThen, Nat.add_comm]

/-! ### One target after another -/

theorem forwardNext_of_none (h : r.pool.next? = none) :
    r.forwardNext frame = (r, .error .noSessionsAvailable) := by
  rw [forwardNext]
  split
  next => rfl
  next heq => rw [h] at heq; cases heq

theorem forwardNext_of_some (h : r.pool.next? = some (target, p)) : r.forwardNext frame =
    match r.boxes.offer target.outbox frame with
    | .ok boxes => ({ r with pool := p, boxes }, .ok 1)
    | .error .connectionClosed => ({ r with pool := p }.prune target.id).forwardNext frame
    | .error e => ({ r with pool := p }, .error e) := by
  rw [forwardNext]
  split
  next heq => rw [h] at heq; cases heq
  next heq =>
    rw [h] at heq
    cases heq
    rfl

theorem forwardNext_of_open (h : r.pool.next? = some (target, p))
    (hb : r.boxes.refusal? target.outbox = none) :
    r.forwardNext frame = ({ r with pool := p, boxes := r.boxes.push frame target.outbox }, .ok 1) := by
  simp only [forwardNext_of_some h, Outboxes.offer_eq, hb]

theorem forwardNext_of_closed (h : r.pool.next? = some (target, p))
    (hb : r.boxes.refusal? target.outbox = some .connectionClosed) :
    r.forwardNext frame = ({ r with pool := p }.prune target.id).forwardNext frame := by
  rw [forwardNext_of_some h, Outboxes.offer_eq, hb]

theorem forwardNext_of_refused {e : Fault} (h : r.pool.next? = some (target, p))
    (hb : r.boxes.refusal? target.outbox = some e) (he : e ≠ .connectionClosed) :
    r.forwardNext frame = ({ r with pool := p }, .error e) := by
  simp only [forwardNext_of_some h, Outboxes.offer_eq, hb]

/-- Relays with the same sessions; they may have counted and reported different things. -/
structure SameSessions (a b : Relay) : Prop where
  token : a.token = b.token
  clients : a.clients = b.clients
  pool : a.pool = b.pool
  boxes : a.boxes = b.boxes

end Relay

def deliveries : Except Fault Nat → Nat
  | .ok n => n
  | .error _ => 0

def failures : Except Fault Nat → Nat
  | .ok _ => 0
  | .error _ => 1

/-- Each delivery that a relay owes has reached a queue of its own, or has failed; and at most, backends
have left. -/
structure Effect.Accounts (e : Effect) (r : Relay) (owed : Nat) (result : Except Fault Nat) : Prop where
  nodup : e.reached.Nodup
  taken : ∀ i ∈ e.reached, r.boxes.refusal? i = none
  returned : deliveries result = e.reached.length
  total : e.reached.length + e.losses + failures result = owed
  backends : e.pool.members.Sublist r.pool.members

namespace Effect

variable {r : Relay} {p : Pool} {e : Effect} {result : Except Fault Nat} {owed : Nat}

namespace Accounts

theorem error (hp : p.members.Sublist r.pool.members) (f : Fault) : Accounts ⟨[], [], p⟩ r 1 (.error f) :=
  ⟨.nil, fun _ h => absurd h List.not_mem_nil, rfl, rfl, hp⟩

theorem single {i : OutboxId} (h : r.boxes.refusal? i = none) (hp : p.members.Sublist r.pool.members) :
    Accounts ⟨[i], [], p⟩ r 1 (.ok 1) :=
  ⟨List.nodup_singleton i, fun _ hj => List.mem_singleton.mp hj ▸ h, rfl, rfl, hp⟩

end Accounts

theorem leave_pool_sublist (p : Pool) (id : SessionId) : (leave p id).pool.members.Sublist p.members := by
  unfold leave
  split
  · exact Pool.members_remove_sublist p id
  · exact List.Sublist.refl _

/-- A backend that leaves meanwhile is owed nothing. -/
theorem Accounts.leave (hp : p.members.Sublist r.pool.members) {id : SessionId}
    (h : e.Accounts { r with pool := (leave p id).pool } owed result) :
    ((leave p id).andThen e).Accounts r owed result := by
  have hb := h.backends.trans ((leave_pool_sublist p id).trans hp)
  unfold Effect.leave
  split
  · exact ⟨h.nodup, h.taken, h.returned, h.total, hb⟩
  · exact ⟨h.nodup, h.taken, h.returned, h.total, hb⟩

end Effect

namespace Relay

variable {r r' : Relay} {target : Handle} {p : Pool}

theorem SameSessions.on_leave (h : r'.SameSessions r) (source : SessionId) (frame : Bytes) (p : Pool)
    (id : SessionId) : ((Effect.leave p id).on r' source frame).SameSessions
      { r with pool := (Effect.leave p id).pool } := by
  refine ⟨h.token, h.clients, rfl, ?_⟩
  unfold Effect.leave
  split <;> exact h.boxes

theorem length_leave_lt (hm : target ∈ p.members) :
    (Effect.leave p target.id).pool.members.length < p.members.length := by
  have hc : p.contains target.id = true := Pool.contains_iff.mpr (List.mem_map_of_mem hm)
  rw [Effect.leave, if_pos hc]
  exact Pool.length_remove_lt hm

/-- A stage of the relay does to the sessions of `r` what an effect says that is fixed beforehand, in
every relay that has these sessions and for every frame; and the effect accounts for all that is owed. -/
def Acts (r : Relay) (owed : Nat) (stage : Relay → SessionId → Bytes → Relay × Except Fault Nat) : Prop :=
  ∃ e result, Effect.Accounts e r owed result ∧
    ∀ r' source frame, SameSessions r' r → stage r' source frame = (e.on r' source frame, result)

theorem Acts.of_eq {owed : Nat} {f g : Relay → SessionId → Bytes → Relay × Except Fault Nat}
    (h : r.Acts owed f) (heq : ∀ r' source frame, SameSessions r' r → g r' source frame = f r' source frame) :
    r.Acts owed g := by
  obtain ⟨e, result, hacc, hf⟩ := h
  refine ⟨e, result, hacc, ?_⟩
  intro r' source frame hs
  rw [heq r' source frame hs, hf r' source frame hs]

theorem acts_fault (r : Relay) (f : Fault) : r.Acts 1 fun r' _ _ => (r', .error f) := by
  refine ⟨_, _, .error (List.Sublist.refl r.pool.members) f, ?_⟩
  intro r' source frame hs
  rw [← hs.pool, Effect.on_idle]

theorem acts_offer (r : Relay) (i : OutboxId) : r.Acts 1 fun r' _ frame =>
    match r'.boxes.offer i frame with
    | .ok boxes => ({ r' with boxes }, .ok 1)
    | .error e => (r', .error e) := by
  cases ho : r.boxes.refusal? i with
  | some f =>
    refine (acts_fault r f).of_eq ?_
    intro r' source frame hs
    rw [Outboxes.offer_eq, hs.boxes, ho]
  | none =>
    refine ⟨_, _, .single ho (List.Sublist.refl r.pool.members), ?_⟩
    intro r' source frame hs
    dsimp only
    rw [Outboxes.offer_eq, hs.boxes, ho, ← hs.pool, Effect.on_deliver, hs.boxes]

/-- A closed backend leaves, and the frame goes on in what is left of the pool. -/
theorem Acts.after_leave {g : Relay → SessionId → Bytes → Relay × Except Fault Nat} (id : SessionId)
    (hp : p.members = r.pool.members) (h : Acts { r with pool := (Effect.leave p id).pool } 1 g) :
    r.Acts 1 fun r' source frame => g ({ r' with pool := p }.prune id) source frame := by
  obtain ⟨e, result, hacc, heq⟩ := h
  refine ⟨_, result, hacc.leave (hp ▸ List.Sublist.refl _), ?_⟩
  intro r' source frame hs
  dsimp only
  rw [prune_eq _ _ source frame, Effect.on_andThen]
  exact heq _ source frame (hs.on_leave source frame p id)

theorem acts_forwardNext (r : Relay) : r.Acts 1 fun r' _ frame => r'.forwardNext frame := by
  -- on the size of the pool: each closed backend that is found leaves it
  induction hn : r.pool.members.length using Nat.strong_induction_on generalizing r with
  | _ n ih =>
    cases h : r.pool.next? with
    | none =>
      refine (acts_fault r .noSessionsAvailable).of_eq ?_
      intro r' _ frame hs
      exact forwardNext_of_none (hs.pool ▸ h)
    | some next =>
      obtain ⟨target, p⟩ := next
      obtain ⟨hm, hp⟩ := Pool.members_of_next? h
      have hsub : p.members.Sublist r.pool.members := hp ▸ List.Sublist.refl _
      cases hb : r.boxes.refusal? target.outbox with
      | none =>
        refine ⟨_, _, .single hb hsub, ?_⟩
        intro r' source frame hs
        dsimp only
        rw [forwardNext_of_open (hs.pool ▸ h) (hs.boxes ▸ hb)]
        exact congrArg (·, _) (Effect.on_deliver (r := { r' with pool := p }) _).symm
      | some f =>
        by_cases hf : f = .connectionClosed
        · subst hf
          have hlt := hn ▸ hp ▸ length_leave_lt (hp ▸ hm : target ∈ p.members)
          refine (Acts.after_leave target.id hp (ih _ hlt { r with pool := _ } rfl)).of_eq ?_
          intro r' _ frame hs
          exact forwardNext_of_closed (hs.pool ▸ h) (hs.boxes ▸ hb)
        · refine ⟨_, _, .error hsub f, ?_⟩
          intro r' source frame hs
          dsimp only
          rw [forwardNext_of_refused (hs.pool ▸ h) (hs.boxes ▸ hb) hf]
          exact congrArg (·, _) (Effect.on_idle (r := { r' with pool := p })).symm

theorem acts_forwardTo (r : Relay) (target : Handle) :
    r.Acts 1 fun r' _ frame => r'.forwardTo target frame := by
  by_cases hb : r.boxes.refusal? target.outbox = some .connectionClosed
  · refine (Acts.after_leave (p := r.pool) target.id rfl (acts_forwardNext _)).of_eq ?_
    intro r' _ frame hs
    rw [forwardTo, Outboxes.offer_eq, hs.boxes, hb, ← hs.pool, ← hs.boxes]
  · refine (acts_offer r target.outbox).of_eq ?_
    intro r' _ frame hs
    rw [forwardTo, Outboxes.offer_eq, hs.boxes]
    cases ho : r.boxes.refusal? target.outbox with
    | none => rfl
    | some f =>
      have hf : f ≠ .connectionClosed := fun e => hb (e ▸ ho)
      dsimp only
      split
      next heq => cases heq
      next heq => exact absurd (Except.error.inj heq) hf
      next heq => rw [Except.error.inj heq]

/-! ### All targets at once -/

def leaveAll (p : Pool) : List SessionId → Effect
  | [] => ⟨[], [], p⟩
  | id :: rest => (Effect.leave p id).andThen (leaveAll (Effect.leave p id).pool rest)

theorem foldl_prune_eq (r : Relay) (l : List Handle) (source : SessionId) (frame : Bytes) :
    l.foldl (fun r h => r.prune h.id) r = (leaveAll r.pool (l.map (·.id))).on r source frame := by
  induction l generalizing r with
  | nil => exact Effect.on_idle.symm
  | cons h l ih =>
    rw [List.foldl_cons, ih, prune_eq _ _ source frame, List.map_cons, leaveAll, Effect.on_andThen]
    rfl

theorem leaveAll_quiet (p : Pool) (ids : List SessionId) :
    (leaveAll p ids).reached = [] ∧ (leaveAll p ids).losses = 0 := by
  induction ids generalizing p with
  | nil => exact ⟨rfl, rfl⟩
  | cons id rest ih =>
    rw [leaveAll, Effect.leave]
    split
    · exact ih _
    · exact ih _

theorem leaveAll_pool_sublist (p : Pool) (ids : List SessionId) :
    (leaveAll p ids).pool.members.Sublist p.members := by
  induction ids generalizing p with
  | nil => exact List.Sublist.refl _
  | cons id rest ih => exact (ih _).trans (Effect.leave_pool_sublist p id)

/-- The offers to all targets, and the leaving of backends behind them, account for all targets. -/
theorem accounts_offers {targets : List Handle} (hn : (targets.map (·.outbox)).Nodup) (r : Relay)
    (ids : List SessionId) :
    ((Effect.offers r.boxes r.pool targets).andThen (leaveAll r.pool ids)).Accounts r targets.length
      (.ok (Effect.offers r.boxes r.pool targets).reached.length) := by
  obtain ⟨hreached, hlosses⟩ := leaveAll_quiet r.pool ids
  have hr : ((Effect.offers r.boxes r.pool targets).andThen (leaveAll r.pool ids)).reached =
      (Effect.offers r.boxes r.pool targets).reached := by
    rw [Effect.andThen, hreached, List.append_nil]
  have hl : ((Effect.offers r.boxes r.pool targets).andThen (leaveAll r.pool ids)).losses =
      (Effect.offers r.boxes r.pool targets).losses := by
    rw [Effect.losses, Effect.andThen, List.countP_append, ← Effect.losses, ← Effect.losses, hlosses,
      Nat.add_zero]
  refine ⟨hr ▸ hn.sublist (List.filter_sublist.map _), fun i hi => ?_, congrArg _ hr.symm, ?_,
    leaveAll_pool_sublist r.pool ids⟩
  · rw [hr] at hi
    obtain ⟨h, hh, rfl⟩ := List.mem_map.mp hi
    exact Option.isNone_iff_eq_none.mp (List.mem_filter.mp hh).2
  · rw [hr, hl, Effect.losses_offers]
    rfl

end Relay

end FrameGateway
