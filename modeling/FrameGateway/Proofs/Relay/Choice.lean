import FrameGateway.Proofs.Pool.Fairness
import FrameGateway.Proofs.Relay.Delivery
import Mathlib.Data.List.TakeWhile
/-! Which backend a client's frame goes to. The line in which the backends wait is the pool from its cursor
on; those found closed at its head are passed over and leave, and the first that is open has its turn, even
if its queue is full (`Relay.forwardNext_eq`). A redirect to an open backend touches no turn at all, and one
to a closed backend takes it out of the line first (`Relay.picks_first_open`). -/

namespace FrameGateway

namespace Outboxes

variable {s : Outboxes} {i : OutboxId}

theorem refusal?_of_closed (h : s.isClosed i = true) : s.refusal? i = some .connectionClosed := by
  unfold isClosed at h
  unfold refusal?
  cases ho : s.get? i with
  | none => rfl
  | some o => simp_all

/-- An open queue has room, or it is full. -/
theorem refusal?_of_open (h : s.isClosed i = false) : ∃ o, s.get? i = some o ∧ o.isOpen = true ∧
    (o.frames.length < o.capacity ∧ s.refusal? i = none ∨
      o.capacity ≤ o.frames.length ∧ s.refusal? i = some .queueFull) := by
  unfold isClosed at h
  unfold refusal?
  cases ho : s.get? i with
  | none => simp [ho] at h
  | some o =>
    have hopen : o.isOpen = true := by simpa [ho] using h
    refine ⟨o, rfl, hopen, ?_⟩
    by_cases hfull : o.capacity ≤ o.frames.length
    · right; simp [hopen, hfull]
    · left; simp [hopen, hfull]; omega

end Outboxes

namespace Pool

variable {p q : Pool} {h : Handle} {l : List Handle}

theorem mem_turns : h ∈ p.turns ↔ h ∈ p.members := List.mem_rotate

theorem Valid.nodup_turns (hp : p.Valid) : p.turns.Nodup := by
  unfold turns
  rw [List.nodup_rotate]
  exact hp.nodup.of_map _

theorem Valid.eq_empty (hp : p.Valid) (h : p.members = []) : p = .empty := by
  rcases hp.cursor with hc | ⟨-, hc⟩
  · simp [size, h] at hc
  · cases p
    simp_all [empty]

/-- Who stands at the head of the line is served, and goes to its end. -/
theorem Valid.next?_of_turns (hp : p.Valid) (ht : p.turns = h :: l) :
    ∃ q, p.next? = some (h, q) ∧ q.Valid ∧ q.members = p.members ∧ q.turns = l ++ [h] := by
  cases hn : p.next? with
  | none =>
    have hm := (next?_eq_none_iff hp).mp hn
    rw [turns, hm, List.rotate_nil] at ht
    cases ht
  | some next =>
    obtain ⟨a, q⟩ := next
    obtain ⟨earlier, later, -, hold, hnew⟩ := turns_of_next? hn
    rw [ht, List.cons.injEq] at hold
    obtain ⟨rfl, rfl⟩ := hold
    exact ⟨q, rfl, hp.next hn, (members_of_next? hn).2, hnew⟩

theorem Valid.get_of_turns (hp : p.Valid) (ht : p.turns = l ++ [h]) :
    p.get.2.toOption = (l ++ [h]).head? := by
  obtain ⟨a, l', hl⟩ := List.exists_cons_of_ne_nil (List.append_ne_nil_of_right_ne_nil l (List.cons_ne_nil h []))
  obtain ⟨q, hn, -⟩ := hp.next?_of_turns (ht.trans hl)
  rw [get_of_next?_eq_some hn, hl]
  rfl

/-- In a pool an id tells whose it is. -/
theorem Valid.filter_id (hp : p.Valid) (hh : h ∈ p.members) (hl : l ⊆ p.members) :
    l.filter (·.id != h.id) = l.filter (· ≠ h) := by
  refine List.filter_congr fun a ha => ?_
  rw [Bool.eq_iff_iff, bne_iff_ne, decide_eq_true_iff]
  exact not_congr ⟨List.inj_on_of_nodup_map hp.nodup (hl ha) hh, congrArg _⟩

theorem Valid.members_remove_eq (hp : p.Valid) (hh : h ∈ p.members) :
    (p.remove h.id).1.members = p.members.filter (· ≠ h) := by
  rw [members_remove hp.nodup, hp.filter_id hh (List.Subset.refl _)]

theorem Valid.turns_remove_eq (hp : p.Valid) (hh : h ∈ p.members) :
    (p.remove h.id).1.turns = p.turns.filter (· ≠ h) := by
  rw [turns_remove hp, hp.filter_id hh fun _ ha => mem_turns.mp ha]

end Pool

namespace Relay

variable {r : Relay} {frame : Bytes} {target : Handle}

def isClosed (r : Relay) (h : Handle) : Bool := r.boxes.isClosed h.outbox

/-- These backends have left, each with a report, and that pool is what is left. -/
def withPruned (r : Relay) (p : Pool) (gone : List Handle) : Relay :=
  { r with pool := p, events := r.events ++ gone.map fun h => .closed h.id .backend }

@[simp] theorem withPruned_withPruned (r : Relay) (p q : Pool) (earlier later : List Handle) :
    (r.withPruned p earlier).withPruned q later = r.withPruned q (earlier ++ later) := by
  simp [withPruned]

/-- One target, and no other. -/
def offerTo (r : Relay) (target : Handle) (frame : Bytes) : Relay × Except Fault Nat :=
  match r.boxes.offer target.outbox frame with
  | .ok boxes => ({ r with boxes }, .ok 1)
  | .error e => (r, .error e)

theorem prune_of_mem {p : Pool} (hm : target ∈ p.members) :
    { r with pool := p }.prune target.id = r.withPruned (p.remove target.id).1 [target] := by
  rcases Pool.remove_cases p target.id with ⟨hid, -⟩ | ⟨a, x, b, -, -, -, hr⟩
  · exact absurd (List.mem_map_of_mem hm) hid
  · simp [prune, removeBackend, hr, report, withPruned]

/-- A closed backend whose turn it is leaves, and the turn is that of the next. -/
theorem forwardNext_of_closed_head {l : List Handle} (hp : r.pool.Valid) (ht : r.pool.turns = target :: l)
    (hc : r.isClosed target = true) (frame : Bytes) : ∃ p : Pool, p.Valid ∧ p.turns = l ∧
      p.members = r.pool.members.filter (· ≠ target) ∧
      r.forwardNext frame = (r.withPruned p [target]).forwardNext frame := by
  obtain ⟨q, hn, hq, hm, hturns⟩ := hp.next?_of_turns ht
  have htarget : target ∈ q.members := hm ▸ (Pool.members_of_next? hn).1
  refine ⟨(q.remove target.id).1, hq.remove _, ?_, ?_, ?_⟩
  · have hnot : target ∉ l := (List.nodup_cons.mp (ht ▸ hp.nodup_turns)).1
    have hself : l.filter (· ≠ target) = l :=
      List.filter_eq_self.mpr fun a ha => decide_eq_true fun e => hnot (e ▸ ha)
    rw [hq.turns_remove_eq htarget, hturns, List.filter_append, hself]
    simp
  · rw [hq.members_remove_eq htarget, hm]
  · rw [forwardNext_of_closed hn (Outboxes.refusal?_of_closed hc), prune_of_mem htarget]

theorem forwardNext_of_open_head {l : List Handle} (hp : r.pool.Valid) (ht : r.pool.turns = target :: l)
    (hc : r.isClosed target = false) (frame : Bytes) : ∃ p : Pool, p.Valid ∧ p.turns = l ++ [target] ∧
      p.members = r.pool.members ∧ r.forwardNext frame = { r with pool := p }.offerTo target frame := by
  obtain ⟨q, hn, hq, hm, hturns⟩ := hp.next?_of_turns ht
  refine ⟨q, hq, hturns, hm, ?_⟩
  rw [forwardNext_of_some hn, offerTo]
  obtain ⟨o, -, -, ⟨-, hr⟩ | ⟨-, hr⟩⟩ := Outboxes.refusal?_of_open hc
  · rw [Outboxes.offer_eq, hr]
  · rw [Outboxes.offer_eq, hr]
    rfl

/-- Closed backends at the head of the line are passed over, one after the other. -/
theorem forwardNext_passes {passed rest : List Handle} (hp : r.pool.Valid)
    (ht : r.pool.turns = passed ++ rest) (hc : ∀ h ∈ passed, r.isClosed h = true) (frame : Bytes) :
    ∃ p : Pool, p.Valid ∧ p.turns = rest ∧ p.members = r.pool.members.filter (· ∉ passed) ∧
      r.forwardNext frame = (r.withPruned p passed).forwardNext frame := by
  induction passed generalizing r with
  | nil =>
    refine ⟨r.pool, hp, ht, by simp, ?_⟩
    simp [withPruned]
  | cons h passed ih =>
    obtain ⟨p, hpv, hpt, hpm, hpf⟩ := forwardNext_of_closed_head hp ht (hc h (by simp)) frame
    obtain ⟨q, hq, hqt, hqm, hqf⟩ := ih (r := r.withPruned p [h]) hpv hpt fun a ha => hc a (by simp [ha])
    refine ⟨q, hq, hqt, ?_, ?_⟩
    · rw [hqm, withPruned, hpm, List.filter_filter]
      refine List.filter_congr fun a _ => ?_
      rw [Bool.eq_iff_iff]
      simp [and_comm]
    · rw [hpf, hqf, withPruned_withPruned, List.singleton_append]

/-- The turn goes to the first open backend of the line. -/
theorem forwardNext_eq (hp : r.pool.Valid) (frame : Bytes) : ∃ p : Pool, p.Valid ∧
    p.members = r.pool.members.filter (· ∉ r.pool.turns.takeWhile r.isClosed) ∧
    match r.pool.turns.dropWhile r.isClosed with
    | [] => p = .empty ∧ r.forwardNext frame =
        (r.withPruned p (r.pool.turns.takeWhile r.isClosed), .error .noSessionsAvailable)
    | target :: rest => p.turns = rest ++ [target] ∧ r.isClosed target = false ∧
        r.forwardNext frame = (r.withPruned p (r.pool.turns.takeWhile r.isClosed)).offerTo target frame := by
  have hsplit := (List.takeWhile_append_dropWhile (p := r.isClosed) (l := r.pool.turns)).symm
  have hpassed : ∀ h ∈ r.pool.turns.takeWhile r.isClosed, r.isClosed h = true :=
    fun h hh => List.mem_takeWhile_imp hh
  obtain ⟨p, hpv, hpt, hpm, hpf⟩ := forwardNext_passes hp hsplit hpassed frame
  cases hd : r.pool.turns.dropWhile r.isClosed with
  | nil =>
    have hnil : p.members = [] := by
      rw [hd, Pool.turns, List.rotate_eq_nil_iff] at hpt
      exact hpt
    refine ⟨p, hpv, hpm, hpv.eq_empty hnil, ?_⟩
    rw [hpf, forwardNext_of_none ((Pool.next?_eq_none_iff hpv).mpr hnil)]
  | cons target rest =>
    have hopen : r.isClosed target = false := by
      have hhead := List.head?_dropWhile_not r.isClosed r.pool.turns
      rw [hd] at hhead
      simpa using hhead
    obtain ⟨q, hq, hqt, hqm, hqf⟩ :=
      forwardNext_of_open_head (r := r.withPruned p _) hpv (hpt.trans hd) hopen frame
    exact ⟨q, hq, hqm.trans hpm, hqt, hopen, hpf.trans hqf⟩

/-! ### One frame of a client -/

def Tried (r r' : Relay) (target : Handle) (frame : Bytes) (result : Except Fault Nat) : Prop :=
  ∃ o, r.boxes.get? target.outbox = some o ∧ o.isOpen = true ∧
    (o.frames.length < o.capacity ∧ result = .ok 1 ∧ r'.boxes = r.boxes.push frame target.outbox ∨
      o.capacity ≤ o.frames.length ∧ result = .error .queueFull ∧ r'.boxes = r.boxes)

/-- What is reported of a frame on its own account. -/
def ownReports (source : SessionId) (frame : Bytes) : Except Fault Nat → List Event
  | .ok _ => []
  | .error e => [.dropped source frame e]

/-- What counting and reporting the outcome of a frame leaves alone. -/
theorem finish_eq (source : SessionId) (frame : Bytes) (out : Relay × Except Fault Nat) :
    (finish source frame out).2 = out.2 ∧ (finish source frame out).1.pool = out.1.pool ∧
      (finish source frame out).1.boxes = out.1.boxes ∧
      (finish source frame out).1.events = out.1.events ++ ownReports source frame out.2 := by
  obtain ⟨s, e | n⟩ := out
  · exact ⟨rfl, rfl, rfl, rfl⟩
  · exact ⟨rfl, rfl, rfl, (List.append_nil _).symm⟩

theorem offerTo_of_open (hc : r.isClosed target = false) (frame : Bytes) :
    r.Tried (r.offerTo target frame).1 target frame (r.offerTo target frame).2 ∧
      (r.offerTo target frame).1.pool = r.pool ∧ (r.offerTo target frame).1.events = r.events := by
  unfold offerTo
  obtain ⟨o, ho, hopen, ⟨hroom, hr⟩ | ⟨hfull, hr⟩⟩ := Outboxes.refusal?_of_open hc
  · rw [Outboxes.offer_eq, hr]
    exact ⟨⟨o, ho, hopen, .inl ⟨hroom, rfl, rfl⟩⟩, rfl, rfl⟩
  · rw [Outboxes.offer_eq, hr]
    exact ⟨⟨o, ho, hopen, .inr ⟨hfull, rfl, rfl⟩⟩, rfl, rfl⟩

def named? (r : Relay) (view : FrameView) : Option Handle :=
  (view.token.filter fun _ => view.header.flags.isRedirect).bind r.pool.find?

def others (r : Relay) (view : FrameView) : Pool :=
  (r.named? view).elim r.pool fun target => (r.pool.remove target.id).1

theorem mem_of_named? {view : FrameView} (h : r.named? view = some target) : target ∈ r.pool.members := by
  unfold named? at h
  obtain ⟨id, -, hf⟩ := Option.bind_eq_some_iff.mp h
  exact List.mem_of_find?_eq_some hf

theorem parse_of_view {view : FrameView} (hv : parseFrame r.token frame = .ok view) :
    (r.receive frame).parse frame = (r.receive frame, .ok view) := by
  unfold parse
  rw [show (r.receive frame).token = r.token from rfl, hv]

theorem fromClient_of_view {view : FrameView} (hv : parseFrame r.token frame = .ok view)
    (hb : view.header.flags.isBroadcast = false) (source : SessionId) :
    r.fromClient source frame = finish source frame (match r.named? view with
      | some target => (r.receive frame).forwardTo target frame
      | none => (r.receive frame).forwardNext frame) := by
  unfold fromClient routeFromClient
  rw [parse_of_view hv]
  dsimp only
  rw [hb, if_neg Bool.false_ne_true]
  rfl

theorem forwardTo_of_open (hc : r.isClosed target = false) (frame : Bytes) :
    r.forwardTo target frame = r.offerTo target frame := by
  unfold forwardTo offerTo
  obtain ⟨o, -, -, ⟨-, hr⟩ | ⟨-, hr⟩⟩ := Outboxes.refusal?_of_open hc
  · rw [Outboxes.offer_eq, hr]
  · rw [Outboxes.offer_eq, hr]
    rfl

theorem forwardTo_of_closed (hm : target ∈ r.pool.members) (hc : r.isClosed target = true) (frame : Bytes) :
    r.forwardTo target frame = (r.withPruned (r.pool.remove target.id).1 [target]).forwardNext frame := by
  have hr := Outboxes.refusal?_of_closed hc
  unfold forwardTo
  rw [Outboxes.offer_eq, hr]
  exact congrArg (·.forwardNext frame) (prune_of_mem hm)

/-- Without a backend that stays, the frame goes on in the line. -/
theorem fromClient_of_line {view : FrameView} (hv : parseFrame r.token frame = .ok view)
    (hb : view.header.flags.isBroadcast = false)
    (hn : ∀ target, r.named? view = some target → r.isClosed target = true) (source : SessionId) :
    r.fromClient source frame = finish source frame (((r.receive frame).withPruned (r.others view)
      (r.named? view).toList).forwardNext frame) := by
  rw [fromClient_of_view hv hb]
  unfold others
  cases hname : r.named? view with
  | none => simp [withPruned, receive]
  | some target =>
    exact congrArg (finish source frame)
      (forwardTo_of_closed (r := r.receive frame) (mem_of_named? hname) (hn target hname) frame)

/-- Whoever is named leaves without moving anybody else. -/
theorem others_eq (hp : r.pool.Valid) (view : FrameView) : (r.others view).Valid ∧
    (r.others view).members = r.pool.members.filter (r.named? view ≠ some ·) ∧
    (r.others view).turns = r.pool.turns.filter (r.named? view ≠ some ·) := by
  unfold others
  cases hname : r.named? view with
  | none => simp [hp]
  | some target =>
    have hm := mem_of_named? hname
    have hne : (fun h => decide (some target ≠ some h)) = fun h => decide (h ≠ target) := by
      funext h
      simp [eq_comm]
    rw [hne]
    exact ⟨hp.remove _, hp.members_remove_eq hm, hp.turns_remove_eq hm⟩

/-- Who leaves when a frame is sent on its way: the backend that it names, and those passed over. -/
def gone (r : Relay) (view : FrameView) : List Handle :=
  (r.named? view).toList ++ (r.others view).turns.takeWhile r.isClosed

theorem mem_toList_named {view : FrameView} {h : Handle} :
    h ∈ (r.named? view).toList ↔ r.named? view = some h := Option.mem_toList

theorem mem_others (hp : r.pool.Valid) {view : FrameView} {h : Handle} :
    h ∈ (r.others view).turns ↔ h ∈ r.pool.members ∧ r.named? view ≠ some h := by
  rw [(others_eq hp view).2.2, List.mem_filter, decide_eq_true_iff, Pool.mem_turns]

theorem nodup_gone (hp : r.pool.Valid) (view : FrameView) : (r.gone view).Nodup := by
  unfold gone
  rw [List.nodup_append]
  refine ⟨?_, (others_eq hp view).1.nodup_turns.sublist (List.takeWhile_sublist _), ?_⟩
  · cases r.named? view <;> simp
  · intro a ha b hb hab
    have hnot := ((mem_others hp).mp ((List.takeWhile_subset _) hb)).2
    exact hnot (hab ▸ mem_toList_named.mp ha)

theorem gone_subset (hp : r.pool.Valid) (view : FrameView) : r.gone view ⊆ r.pool.members := by
  intro h hh
  rcases List.mem_append.mp hh with hn | ht
  · exact mem_of_named? (mem_toList_named.mp hn)
  · exact ((mem_others hp).mp ((List.takeWhile_subset _) ht)).1

theorem filter_others (hp : r.pool.Valid) (view : FrameView) :
    (r.others view).members.filter (· ∉ (r.others view).turns.takeWhile r.isClosed) =
      r.pool.members.filter (· ∉ r.gone view) := by
  rw [(others_eq hp view).2.1, List.filter_filter]
  refine List.filter_congr fun h _ => ?_
  rw [Bool.eq_iff_iff]
  unfold gone
  simp only [Bool.and_eq_true, decide_eq_true_iff, List.mem_append, mem_toList_named, not_or]
  exact and_comm

/-- What the line makes of a frame once the backend that it names, if any, has left. -/
theorem forwardNext_others (hp : r.pool.Valid) (view : FrameView) (frame : Bytes) :
    let out := ((r.receive frame).withPruned (r.others view) (r.named? view).toList).forwardNext frame
    out.1.pool.Valid ∧ out.1.pool.members = r.pool.members.filter (· ∉ r.gone view) ∧
      out.1.events = r.events ++ (r.gone view).map (fun h => .closed h.id .backend) ∧
      match (r.others view).turns.dropWhile r.isClosed with
      | [] => out.2 = .error .noSessionsAvailable ∧ out.1.pool = .empty ∧ out.1.boxes = r.boxes
      | target :: rest => r.Tried out.1 target frame out.2 ∧ out.1.pool.turns = rest ++ [target] := by
  intro out
  obtain ⟨p, hpv, hpm, hforward⟩ :=
    forwardNext_eq (r := (r.receive frame).withPruned (r.others view) (r.named? view).toList)
      (others_eq hp view).1 frame
  rw [withPruned_withPruned] at hforward
  replace hpm : p.members = r.pool.members.filter (· ∉ r.gone view) := hpm.trans (filter_others hp view)
  change (match (r.others view).turns.dropWhile r.isClosed with
    | [] => p = .empty ∧ out = ((r.receive frame).withPruned p (r.gone view), .error .noSessionsAvailable)
    | target :: rest => p.turns = rest ++ [target] ∧ r.isClosed target = false ∧
        out = ((r.receive frame).withPruned p (r.gone view)).offerTo target frame) at hforward
  cases hd : (r.others view).turns.dropWhile r.isClosed with
  | nil =>
    rw [hd] at hforward
    obtain ⟨hempty, hout⟩ := hforward
    rw [hout]
    exact ⟨hpv, hpm, rfl, rfl, hempty, rfl⟩
  | cons target rest =>
    rw [hd] at hforward
    obtain ⟨hturns, hopen, hout⟩ := hforward
    obtain ⟨htried, hpool, hevents⟩ :=
      offerTo_of_open (r := (r.receive frame).withPruned p (r.gone view)) hopen frame
    rw [hout, hpool, hevents]
    exact ⟨hpv, hpm, rfl, htried, hturns⟩

/-- Which backend a frame of a client goes to that is no broadcast. An open backend that it names is the only
one that is tried, and no turn is touched. Else the named one, if it is there, is closed, and leaves without
moving anybody else; of the others the first open one in line has its turn, and the closed ones before it
leave. Where nobody is open, nobody is left. Each backend that leaves is reported once. -/
theorem picks_first_open (r : Relay) (hp : r.pool.Valid) (source : SessionId) (frame : Bytes)
    (view : FrameView) (hv : parseFrame r.token frame = .ok view)
    (hb : view.header.flags.isBroadcast = false) :
    let out := r.fromClient source frame
    (∀ target, r.named? view = some target → r.isClosed target = false →
      r.Tried out.1 target frame out.2 ∧ out.1.pool = r.pool ∧
        out.1.events = r.events ++ ownReports source frame out.2) ∧
    ((∀ target, r.named? view = some target → r.isClosed target = true) →
      let line := (r.others view).turns
      let gone := (r.named? view).toList ++ line.takeWhile r.isClosed
      line = r.pool.turns.filter (r.named? view ≠ some ·) ∧
      out.1.pool.Valid ∧ out.1.pool.members = r.pool.members.filter (· ∉ gone) ∧
      gone.Nodup ∧ gone ⊆ r.pool.members ∧
      out.1.events = r.events ++ (gone.map fun h => .closed h.id .backend) ++ ownReports source frame out.2 ∧
      match line.dropWhile r.isClosed with
      | [] => out.2 = .error .noSessionsAvailable ∧ out.1.pool = .empty ∧ out.1.boxes = r.boxes
      | target :: rest => r.Tried out.1 target frame out.2 ∧ out.1.pool.turns = rest ++ [target] ∧
          out.1.pool.get.2.toOption = (rest ++ [target]).head?) := by
  refine ⟨fun target hname hopen => ?_, fun hclosed => ?_⟩
  · rw [fromClient_of_view hv hb, hname]
    dsimp only
    rw [forwardTo_of_open (r := r.receive frame) hopen]
    obtain ⟨hresult, hpool, hboxes, hevents⟩ := finish_eq source frame ((r.receive frame).offerTo target frame)
    obtain ⟨⟨o, ho, hop, htried⟩, hkept, hquiet⟩ := offerTo_of_open (r := r.receive frame) hopen frame
    refine ⟨⟨o, ho, hop, ?_⟩, hpool.trans hkept, ?_⟩
    · rwa [hresult, hboxes]
    · rw [hevents, hquiet, hresult]
      rfl
  · rw [fromClient_of_line hv hb hclosed]
    obtain ⟨hvalid, hmembers, hevents, hout⟩ := forwardNext_others hp view frame
    generalize ((r.receive frame).withPruned (r.others view) (r.named? view).toList).forwardNext frame = out at *
    obtain ⟨hresult, hpool, hboxes, hreported⟩ := finish_eq source frame out
    rw [hpool, hresult, hreported, hevents]
    refine ⟨(others_eq hp view).2.2, hvalid, hmembers, nodup_gone hp view, gone_subset hp view, rfl, ?_⟩
    cases hd : (r.others view).turns.dropWhile r.isClosed with
    | nil =>
      rw [hd] at hout
      rwa [hboxes]
    | cons target rest =>
      rw [hd] at hout
      obtain ⟨⟨o, ho, hopen, htried⟩, hturns⟩ := hout
      refine ⟨⟨o, ho, hopen, ?_⟩, hturns, ?_⟩
      · rwa [hboxes]
      · exact hvalid.get_of_turns hturns

/-- The frame names the third of four, which is closed; of those in line from the second on, the second is
closed too, and the fourth has its turn. -/
theorem picks_first_open_behind_closed :
    let h (n : Nat) := Handle.mk (.ofNat n) ⟨n⟩
    let gone : Outbox := (Outbox.create 1).close
    let r : Relay := { create (some .u32) with
      pool := ⟨[h 1, h 2, h 3, h 4], 1⟩
      boxes := ⟨[.create 1, .create 1, gone, gone, .create 1]⟩ }
    let frame : Bytes := [10, 0, 4, 0, 0, 0, 0, 0, 3, 0, 0, 0]
    let view : FrameView := ⟨⟨10, ⟨4⟩, ⟨0⟩⟩, some (.ofNat 3), []⟩
    let out := r.fromClient (.ofNat 9) frame
    r.pool.Valid ∧ parseFrame r.token frame = .ok view ∧ view.header.flags.isBroadcast = false ∧
      out.1.pool.members = [h 1, h 4] ∧ out.1.pool.turns = [h 1, h 4] ∧
      out.1.pool.get.2.toOption = some (h 1) ∧ r.Tried out.1 (h 4) frame out.2 ∧
      out.1.events = [.closed (.ofNat 3) .backend, .closed (.ofNat 2) .backend] ++
        ownReports (.ofNat 9) frame out.2 := by
  intro h gone r frame view out
  have hp : r.pool.Valid := ⟨by decide, .inl (by decide)⟩
  have hv : parseFrame r.token frame = .ok view := by cbv
  have hb : view.header.flags.isBroadcast = false := by decide
  have hnamed : r.named? view = some (h 3) := by cbv
  have hclosed : ∀ target, r.named? view = some target → r.isClosed target = true := by
    intro target ht
    rw [hnamed, Option.some.injEq] at ht
    rw [← ht]
    decide
  obtain ⟨-, -, hm, -, -, he, hline⟩ := (picks_first_open r hp (.ofNat 9) frame view hv hb).2 hclosed
  have hothers : (r.others view).turns = [h 2, h 4, h 1] := by cbv
  rw [hnamed, hothers] at hm he
  rw [hothers] at hline
  obtain ⟨htried, hturns, hnext⟩ := hline
  exact ⟨hp, hv, hb, hm, hturns, hnext, htried, he⟩

end Relay

end FrameGateway
