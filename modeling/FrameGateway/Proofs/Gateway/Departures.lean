import FrameGateway.Proofs.Gateway.Reports
/-! How often it is reported that a backend has gone. Two can find this out, a frame of a client that meets
its closed queue and its own reader that ends, and each of them reports it without asking for the other.
So there are as many reports as there have been departures of both kinds
(`GatewayState.closed_reports_of_backend`), and a backend whose queue is closed first is reported twice. -/

namespace FrameGateway

namespace GatewayState

variable {s t : GatewayState} {m : Move} {id : SessionId}

/-- How many backends of that id have been opened over streams. -/
def streams (s : GatewayState) (id : SessionId) : Nat := s.opened.countP fun x => x.1.id = id && x.2 = .backend

/-- How many of them are read from. -/
def reads (s : GatewayState) (id : SessionId) : Nat :=
  s.gateway.attached.countP fun a => a.id = id && a.role = .backend

/-- How often the end of one has been reported. -/
def reported (s : GatewayState) (id : SessionId) : Nat := s.gateway.relay.events.count (.closed id .backend)

/-- A client's frames take it out of the pool. -/
def prunes (s : GatewayState) (id : SessionId) (m : Move) (t : GatewayState) : Bool :=
  m.reader?.any (·.role = .client) && (s.gateway.relay.pool.contains id && !t.gateway.relay.pool.contains id)

/-- How often they do, in all. -/
def prunings (s : GatewayState) (id : SessionId) : List Move → Nat
  | [] => 0
  | m :: moves => match s.step? m with
    | none => 0
    | some t => (s.prunes id m t).toNat + t.prunings id moves

def joins (id : SessionId) (moves : List Move) : Nat := (moves.map (Move.joins id)).sum

theorem prunings_cons {moves : List Move} (h : s.step? m = some t) :
    s.prunings id (m :: moves) = (s.prunes id m t).toNat + t.prunings id moves := by
  rw [prunings, h]

/-! ### Who is pruned -/

theorem prunes_of_silent (h : m.reader? = none) : s.prunes id m t = false := by
  unfold prunes
  rw [h]
  rfl

theorem prunes_of_backend {a : Attachment} (h : m.reader? = some a) (hr : a.role = .backend) :
    s.prunes id m t = false := by
  unfold prunes
  simp [h, hr]

theorem count_eq_contains {p : Pool} (hn : p.ids.Nodup) (id : SessionId) :
    p.ids.count id = (p.contains id).toNat := by
  by_cases hc : p.contains id = true
  · rw [hc, List.count_eq_one_of_mem hn (Pool.contains_iff.mp hc)]
    rfl
  · rw [Bool.eq_false_iff.mpr hc, List.count_eq_zero.mpr fun hm => hc (Pool.contains_iff.mpr hm)]
    rfl

/-- Whoever leaves while a client's frames are relayed has been pruned. -/
theorem toNat_prunes (id : SessionId) {a : Attachment} (hn : s.gateway.relay.pool.ids.Nodup)
    (hn' : t.gateway.relay.pool.ids.Nodup) (h : m.reader? = some a) (hr : a.role = .client)
    (hle : t.gateway.relay.pool.ids.count id ≤ s.gateway.relay.pool.ids.count id) :
    t.gateway.relay.pool.ids.count id + (s.prunes id m t).toNat = s.gateway.relay.pool.ids.count id := by
  unfold prunes
  rw [count_eq_contains hn, count_eq_contains hn'] at hle ⊢
  rw [h, Option.any_some, hr]
  cases hs : s.gateway.relay.pool.contains id <;> cases ht : t.gateway.relay.pool.contains id <;> simp_all

/-- Frames of a backend find nobody closed; those of a client report whom they prune. -/
theorem count_news (id : SessionId) {a : Attachment} {frames : List Bytes} {relay : Relay} {news : List Event}
    (hn : s.gateway.relay.pool.ids.Nodup) (hm : m.reader? = some a)
    (htells : s.gateway.relay.Reports a.id frames relay news)
    (hpool : a.role = .backend → relay.pool = s.gateway.relay.pool)
    (ht : a.role = .client → t.gateway.relay.pool = relay.pool) :
    news.count (.closed id .backend) = (s.prunes id m t).toNat := by
  have hl := htells.leavers id
  cases hr : a.role with
  | client =>
    have hn' : t.gateway.relay.pool.ids.Nodup := ht hr ▸ htells.nodup hn
    have hp := toNat_prunes id hn hn' hm hr
    rw [ht hr] at hp
    have := hp (by omega)
    omega
  | backend =>
    rw [prunes_of_backend hm hr]
    rw [hpool hr] at hl
    simpa using hl

/-! ### One move -/

/-- Nobody is read from twice, and whoever is has been opened. -/
structure Counted (s : GatewayState) : Prop where
  queues : (s.gateway.attached.map (·.outbox)).Nodup
  streamed : ∀ id, s.reads id ≤ s.streams id

theorem reported_append {news : List Event} (he : t.gateway.relay.events = s.gateway.relay.events ++ news) :
    t.reported id = s.reported id + news.count (.closed id .backend) := by
  unfold reported
  rw [he, List.count_append]

theorem reads_append {h : Handle} {role : Role} {deadline : Nat}
    (ha : t.gateway.attached = s.gateway.attached ++ [.start h role deadline]) :
    t.reads id = s.reads id + if h.id = id ∧ role = .backend then 1 else 0 := by
  unfold reads
  rw [ha, List.countP_append, List.countP_singleton]
  change _ + (if (decide (h.id = id) && decide (role = .backend)) = true then 1 else 0) = _
  simp

theorem streams_append {h : Handle} {role : Role} (ho : t.opened = s.opened ++ [(h, role)]) :
    t.streams id = s.streams id + if h.id = id ∧ role = .backend then 1 else 0 := by
  unfold streams
  rw [ho, List.countP_append, List.countP_singleton]
  simp

/-- What is kept of a reader while it waits does not matter. -/
theorem reads_keep {i : OutboxId} {unread : Bytes} {deadline : Nat}
    (ht : t.gateway.attached = s.gateway.attached.map fun b =>
      if b.outbox = i then { b with unread, deadline } else b) : t.reads id = s.reads id := by
  unfold reads
  rw [ht, List.countP_map]
  congr 1
  funext b
  dsimp only [Function.comp_apply]
  split <;> rfl

/-- One reader ends. -/
theorem Counted.reads_finish (hc : s.Counted) (id : SessionId) {a : Attachment} (ha : a ∈ s.gateway.attached)
    (ht : t.gateway.attached = s.gateway.attached.filter (·.outbox != a.outbox)) :
    t.reads id + (if a.id = id ∧ a.role = .backend then 1 else 0) = s.reads id := by
  have hrest : s.gateway.attached.filter (·.outbox != a.outbox) = s.gateway.attached.erase a := by
    rw [(hc.queues.of_map _).erase_eq_filter]
    refine List.filter_congr fun b hb => ?_
    rw [Bool.eq_iff_iff, bne_iff_ne, bne_iff_ne]
    exact not_congr ⟨List.inj_on_of_nodup_map hc.queues hb ha, congrArg _⟩
  unfold reads
  rw [ht, hrest, (List.perm_cons_erase ha).countP_eq, List.countP_cons]
  simp only [Bool.and_eq_true, decide_eq_true_iff]

theorem Counted.opens (hc : s.Counted) (hi : s.Inv) (hi' : t.Inv) {h : Handle} {role : Role} {deadline : Nat}
    (attached : t.gateway.attached = s.gateway.attached ++ [.start h role deadline])
    (opened : t.opened = s.opened ++ [(h, role)]) : t.Counted := by
  refine ⟨?_, fun id => ?_⟩
  · rw [attached, List.map_append, List.nodup_append]
    refine ⟨hc.queues, List.nodup_singleton _, fun o ho o' ho' he => ?_⟩
    obtain ⟨a, ha, rfl⟩ := List.mem_map.mp ho
    rw [List.map_singleton, List.mem_singleton] at ho'
    exact hi'.outbox_ne opened _ (hi.readers a ha) (he.trans ho')
  · rw [reads_append attached, streams_append opened]
    exact Nat.add_le_add_right (hc.streamed id) _

theorem Outcome.counted (hc : s.Counted) (hi : s.Inv) (hi' : t.Inv) (h : s.Outcome m t) : t.Counted := by
  have hsame : t.opened = s.opened → ∀ id, t.streams id = s.streams id := fun ho id => by
    unfold streams
    rw [ho]
  cases h with
  | silent m t hm events attached opened pool =>
    refine ⟨?_, fun id => ?_⟩
    · rw [attached]
      exact hc.queues
    · unfold reads
      rw [hsame opened, attached]
      exact hc.streamed id
  | entered fresh now t h backends deadline events attached opened pool =>
    exact hc.opens hi hi' attached opened
  | attached fresh now t h deadline events attached opened pool => exact hc.opens hi hi' attached opened
  | read a bytes ended now t news deadline ha relays fault attached opened pool =>
    refine ⟨?_, fun id => ?_⟩
    · rw [attached, List.map_map]
      convert hc.queues using 2
      funext b
      dsimp only [Function.comp_apply]
      split <;> rfl
    · rw [hsame opened, reads_keep attached]
      exact hc.streamed id
  | ended m a t relay news hm ha relays events attached opened pool pool' =>
    refine ⟨?_, fun id => ?_⟩
    · rw [attached]
      exact hc.queues.sublist (List.filter_sublist.map _)
    · have hone := hc.reads_finish id ha attached
      have hreads := hc.streamed id
      rw [hsame opened]
      omega

/-- What is reported of the backends of an id in one move. -/
theorem Outcome.accounts (hc : s.Counted) (hi : s.Inv) (h : s.Outcome m t) (id : SessionId) :
    t.reported id + t.reads id + s.streams id =
      s.reported id + s.reads id + (s.prunes id m t).toNat + t.streams id := by
  cases h with
  | silent m t hm events attached opened pool =>
    rw [prunes_of_silent hm]
    unfold reported reads streams
    rw [events, attached, opened]
    simp
  | entered fresh now t h backends deadline events attached opened pool =>
    rw [prunes_of_silent rfl, reported_append events, reads_append attached, streams_append opened]
    simp
  | attached fresh now t h deadline events attached opened pool =>
    have hevents : t.reported id = s.reported id := by
      unfold reported
      rw [events]
    rw [prunes_of_silent rfl, hevents, reads_append attached, streams_append opened]
    simp only [Bool.toNat_false]
    omega
  | read a bytes ended now t news deadline ha relays fault attached opened pool =>
    have hstreams : t.streams id = s.streams id := by
      unfold streams
      rw [opened]
    have hnews := count_news id (t := t) (m := .feed a bytes ended now) hi.poolIds rfl relays pool
      fun _ => rfl
    rw [reported_append relays.events, hnews, reads_keep attached, hstreams]
    omega
  | ended m a t relay news hm ha relays events attached opened pool pool' =>
    have hnews := count_news id (t := t) hi.poolIds hm relays pool fun hr => by rw [pool', hr]; rfl
    have hone := hc.reads_finish id ha attached
    have hstreams : t.streams id = s.streams id := by
      unfold streams
      rw [opened]
    rw [relays.events, List.append_assoc] at events
    rw [reported_append events, List.count_append, hnews, List.count_singleton, hstreams, ← hone]
    simp only [beq_iff_eq, Event.closed.injEq]
    omega

/-- A backend is in the pool as often as it has come, less the times it has been pruned, or less often. -/
theorem Outcome.joins (hi : s.Inv) (h : s.Outcome m t) (id : SessionId) :
    t.gateway.relay.pool.ids.count id + (s.prunes id m t).toNat + s.streams id ≤
      s.gateway.relay.pool.ids.count id + m.joins id + t.streams id := by
  cases h with
  | silent m t hm events attached opened pool =>
    have hpool := pool id
    rw [prunes_of_silent hm]
    unfold streams
    rw [opened]
    simp only [Bool.toNat_false]
    omega
  | entered fresh now t h backends deadline events attached opened pool =>
    rw [prunes_of_silent rfl, streams_append opened, pool]
    simp
  | attached fresh now t h deadline events attached opened pool =>
    rw [prunes_of_silent rfl, streams_append opened, pool]
    rcases Pool.add_cases s.gateway.relay.pool h with ⟨-, he⟩ | ⟨-, he⟩
    · rw [he]
      simp only [Bool.toNat_false]
      omega
    · rw [he]
      by_cases hid : h.id = id
      · simp [Pool.ids, hid]
        omega
      · simp [Pool.ids, hid]
  | read a bytes ended now t news deadline ha relays fault attached opened pool =>
    have hnews := count_news id (t := t) (m := .feed a bytes ended now) hi.poolIds rfl relays pool
      fun _ => rfl
    have hleavers := relays.leavers id
    unfold streams
    rw [opened]
    omega
  | ended m a t relay news hm ha relays events attached opened pool pool' =>
    have hnews := count_news id (t := t) hi.poolIds hm relays pool fun hr => by rw [pool', hr]; rfl
    have hleavers := relays.leavers id
    have hle : t.gateway.relay.pool.ids.count id ≤ relay.pool.ids.count id := by
      rw [pool']
      split
      · exact ((Pool.members_remove_sublist relay.pool a.id).map _).count_le id
      · exact Nat.le_refl _
    unfold streams
    rw [opened]
    omega

/-! ### A whole run -/

theorem Inv.departures_run (hi : s.Inv) (hc : s.Counted) {moves : List Move} (hr : s.run? moves = some t)
    (id : SessionId) :
    t.Counted ∧
    t.reported id + t.reads id + s.streams id =
      s.reported id + s.reads id + s.prunings id moves + t.streams id ∧
    t.gateway.relay.pool.ids.count id + s.prunings id moves + s.streams id ≤
      s.gateway.relay.pool.ids.count id + joins id moves + t.streams id := by
  induction moves generalizing s with
  | nil => cases hr; simp [prunings, joins, hc]
  | cons m moves ih =>
    obtain ⟨u, hu, hr⟩ := run?_cons_eq_some.mp hr
    have hiu := hi.step (stepped_of_step? hi.sound hu)
    have hheard := outcome_of_step? hi hu
    have hfirst := hheard.accounts hc hi id
    have hfirst' := hheard.joins hi id
    obtain ⟨hct, hrest, hrest'⟩ := ih hiu (hheard.counted hc hi hiu) hr
    have hjoins : joins id (m :: moves) = m.joins id + joins id moves := by simp [joins]
    rw [prunings_cons hu, hjoins]
    exact ⟨hct, by omega, by omega⟩

/-- The reports that a backend has gone, by its id. There is one for each time that a client's frames have
taken it out of the pool, which is no more often than it has come into it, and one for each reader of that id
that has ended. A backend that has come only once is reported once at most, unless a frame has taken it out
and its reader has ended too; then it is reported twice. -/
theorem closed_reports_of_backend (config : Config) (moves : List Move) (s : GatewayState)
    (h : (create config).run? moves = some s) (id : SessionId) :
    let reports := s.gateway.relay.events.count (.closed id .backend)
    let pruned := (create config).prunings id moves
    let ended := s.streams id - s.reads id
    s.reads id ≤ s.streams id ∧ reports = pruned + ended ∧ pruned ≤ joins id moves + s.streams id ∧
    (joins id moves + s.streams id ≤ 1 → reports ≤ 2 ∧ (reports ≤ 1 ↔ ¬ (pruned = 1 ∧ ended = 1))) := by
  intro reports pruned ended
  have hstart : (create config).Counted := ⟨List.nodup_nil, fun _ => Nat.zero_le _⟩
  obtain ⟨hc, hreports, hjoins⟩ := (inv_create config).departures_run hstart h id
  have hreads := hc.streamed id
  have hnone : (create config).reported id = 0 ∧ (create config).reads id = 0 ∧
      (create config).streams id = 0 ∧ (create config).gateway.relay.pool.ids.count id = 0 := ⟨rfl, rfl, rfl, rfl⟩
  have hsum : reports = pruned + ended := by
    change s.reported id = _
    omega
  have hpruned : pruned ≤ joins id moves + s.streams id := by omega
  exact ⟨hreads, hsum, hpruned, fun honce => ⟨by omega, by omega⟩⟩

/-- The host's worker, which has let go of its queue, is met by a broadcast, and reported once. -/
theorem closed_reports_of_backend_without_reader :
    let b : Handle := ⟨.ofNat 1, ⟨0⟩⟩
    let c : Attachment := .start ⟨.ofNat 2, ⟨1⟩⟩ .client 300000
    let frame : Bytes := [6, 0, 2, 0, 0, 0, 0, 0]
    let moves : List Move := [.host b.id 4, .add b, .connect, .enter c.id 0, .close b.outbox, .feed c frame false 0]
    ∃ s, (create {}).run? moves = some s ∧ joins b.id moves + s.streams b.id = 1 ∧
      (create {}).prunings b.id moves = 1 ∧ s.gateway.relay.events.count (.closed b.id .backend) = 1 := by
  intro b c frame moves
  have hrun : ((create {}).run? moves).map (fun s => (s.opened, s.gateway.relay.events)) =
      some ([(⟨.ofNat 2, ⟨1⟩⟩, .client)],
        [.bound c.id 1, .dropped c.id frame .connectionClosed, .closed b.id .backend]) := by cbv
  obtain ⟨s, hs, he⟩ := Option.map_eq_some_iff.mp hrun
  obtain ⟨hopened, hevents⟩ := Prod.mk.inj he
  have hstreams : s.streams b.id = 0 := by
    unfold streams
    rw [hopened]
    decide
  have hreports : s.gateway.relay.events.count (.closed b.id .backend) = 1 := by
    rw [hevents]
    decide
  have hcount := (closed_reports_of_backend {} moves s hs b.id).2.1
  rw [hstreams, hreports, Nat.zero_sub, Nat.add_zero] at hcount
  refine ⟨s, hs, ?_, hcount.symm, hreports⟩
  rw [hstreams]
  rfl

/-- A backend connects, and then a client. The backend's writer fails, a frame of the client finds its queue
closed, and then its stream ends. Its end is reported twice. -/
theorem backend_closed_twice :
    let b : Handle := ⟨.ofNat 1, ⟨0⟩⟩
    let a : Attachment := .start b .backend 300000
    let c : Attachment := .start ⟨.ofNat 2, ⟨1⟩⟩ .client 300000
    let frame : Bytes := [6, 0, 0, 0, 0, 0, 0, 0]
    ((create {}).run? [.attach b.id 0, .connect, .enter c.id 0, .close b.outbox, .feed c frame false 0,
        .finish a]).map (fun s => (s.known, s.gateway.relay.events)) =
      some ([b, ⟨c.id, c.outbox⟩], [.bound c.id 1, .closed b.id .backend, .dropped c.id frame .noSessionsAvailable,
        .closed b.id .backend]) := by
  cbv

end GatewayState

end FrameGateway
