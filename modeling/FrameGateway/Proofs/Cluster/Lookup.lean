import FrameGateway.Proofs.Cluster.Calls
import FrameGateway.Proofs.Cluster.Trace
/-! Where a service is found. A node is live from the login that gave it its id until its machine gets in
again or the id departs, and a query finds the services of the nodes that are live. A login that is turned
away moves none of them; all that it can leave behind is its nonce, which is used up. -/

namespace FrameGateway

namespace Arrival

def record (a : Arrival) (id : NodeId) : NodeRecord :=
  ⟨id, a.machineId, a.request.publicKey, a.request.services⟩

end Arrival

namespace AnsweredCall

def given? : AnsweredCall → Option NodeId
  | login _ response => response.nodeId
  | _ => none

/-- The login got in, under that id. -/
def Grants (id : NodeId) (a : Arrival) : AnsweredCall → Prop
  | login b response => b = a ∧ response.errorCode = .success ∧ response.nodeId = some id
  | _ => False

/-- The machine got in again, or the id departed. -/
def Ends (id : NodeId) (machineId : String) : AnsweredCall → Prop
  | login b response => b.machineId = machineId ∧ response.errorCode = .success
  | unregister gone _ => gone = id
  | query _ _ => False

end AnsweredCall

def issued (past : List AnsweredCall) : List NodeId := past.filterMap AnsweredCall.given?

/-- The login gave its machine that id, and nothing has ended it since. -/
def IsLive (past : List AnsweredCall) (id : NodeId) (a : Arrival) : Prop :=
  ∃ before x after, past = before ++ x :: after ∧ x.Grants id a ∧ ∀ y ∈ after, ¬y.Ends id a.machineId

/-- A live node whose login lists the service, as its first one of that name. -/
def Offers (past : List AnsweredCall) (name : String) (id : NodeId) (s : Service) : Prop :=
  ∃ a, IsLive past id a ∧ a.request.services.find? (·.name == name) = some s

section History

variable {past : List AnsweredCall} {x : AnsweredCall} {id : NodeId} {a : Arrival}

theorem issued_concat (past : List AnsweredCall) (x : AnsweredCall) :
    issued (past ++ [x]) = issued past ++ x.given?.toList := by
  rw [issued, List.filterMap_append, issued]
  cases h : x.given? <;> simp [h]

theorem issued_append (past later : List AnsweredCall) : issued (past ++ later) = issued past ++ issued later :=
  List.filterMap_append

theorem lt_of_issued_append {past later : List AnsweredCall} {n : Nat}
    (h : (issued (past ++ later)).length < n) : (issued past).length < n := by
  rw [issued_append, List.length_append] at h
  omega

theorem isLive_concat :
    IsLive (past ++ [x]) id a ↔ x.Grants id a ∨ IsLive past id a ∧ ¬x.Ends id a.machineId := by
  constructor
  · rintro ⟨before, y, after, hsplit, hg, hends⟩
    rcases Remembered.concat_eq_append_cons hsplit with ⟨-, rfl, -⟩ | ⟨rest, rfl, rfl⟩
    · exact .inl hg
    · refine .inr ⟨⟨before, y, rest, rfl, hg, fun z hz => ?_⟩, ?_⟩
      · exact hends z (List.mem_append_left _ hz)
      · exact hends x (List.mem_append_right _ List.mem_cons_self)
  · rintro (hg | ⟨⟨before, y, after, rfl, hg, hends⟩, hx⟩)
    · exact ⟨past, x, [], rfl, hg, nofun⟩
    · refine ⟨before, y, after ++ [x], by simp, hg, fun z hz => ?_⟩
      rcases List.mem_append.mp hz with hz | hz
      · exact hends z hz
      · rw [List.mem_singleton.mp hz]
        exact hx

end History

namespace Coordinator

/-- The table has given out the ids of that history, and holds the nodes that are live, each as it logged
in. -/
structure Follows (c : Coordinator) (past : List AnsweredCall) : Prop where
  reached : Roster.Reached ⟨c.nodes, issued past⟩
  isLive : ∀ r, r ∈ c.nodes.nodes ↔ ∃ id a, IsLive past id a ∧ r = a.record id

variable {c d : Coordinator} {past : List AnsweredCall} {a : Arrival} {call : ClusterCall}
  {calls : List ClusterCall} {x : AnsweredCall} {name : String} {id : NodeId} {s : Service}

theorem append_answers_cons (past : List AnsweredCall) (c : Coordinator) (call : ClusterCall)
    (calls : List ClusterCall) : past ++ c.answers (call :: calls) =
      past ++ [(c.answer call).2] ++ (c.answer call).1.answers calls := by
  rw [answers, List.append_assoc, List.singleton_append]

theorem length_answers (c : Coordinator) (calls : List ClusterCall) :
    (c.answers calls).length = calls.length := by
  induction calls generalizing c with
  | nil => rfl
  | cons call calls ih => rw [answers, List.length_cons, List.length_cons, ih]

theorem length_issued_le (c : Coordinator) (calls : List ClusterCall) :
    (issued (c.answers calls)).length ≤ calls.length := by
  rw [← c.length_answers calls]
  exact List.length_filterMap_le ..

theorem follows_create (keys : KeyPair) (config : ClusterConfig) (verifier : Verifier) :
    Follows { create keys config with verifier } [] := by
  refine ⟨⟨config.maxNodes.toNat, [], rfl⟩, fun r => iff_of_false List.not_mem_nil ?_⟩
  rintro ⟨id, a, ⟨before, x, after, hsplit, -⟩, -⟩
  simp at hsplit

theorem Follows.kept (h : c.Follows past) (hlt : (issued past).length < 2 ^ 64 - 1) :
    c.nodes.Kept (issued past) := h.reached.kept hlt

/-- A call that gives out no id and ends nothing. -/
theorem Follows.of_idle (h : c.Follows past) (hnodes : d.nodes = c.nodes) (hgiven : x.given? = none)
    (hgrants : ∀ id a, ¬x.Grants id a) (hends : ∀ id machineId, ¬x.Ends id machineId) :
    d.Follows (past ++ [x]) := by
  refine ⟨?_, fun r => ?_⟩
  · rw [issued_concat, hgiven, hnodes, Option.toList_none, List.append_nil]
    exact h.reached
  · simp only [hnodes, h.isLive, isLive_concat, hgrants, hends, false_or, not_false_eq_true, and_true]

theorem admits_of_success (h : (c.handle a).2.errorCode = .success) :
    c.nodes.Admits a.machineId a.request.publicKey := by
  have hc := c.answered a
  generalize c.handle a = out at hc h
  cases hc with
  | incredible code hn hcode hfirst => exact absurd h (ne_success_of_mem hcode)
  | replayed => cases h
  | mismatch => cases h
  | full => cases h
  | entered hcred hnew hadm => exact hadm

theorem Follows.login (h : c.Follows past) (hlt : (issued past).length < 2 ^ 64 - 1) :
    (c.handle a).1.Follows (past ++ [.login a (c.handle a).2]) := by
  obtain ⟨hanswer, htable⟩ := c.handle_of_errorCode a
  by_cases hs : (c.handle a).2.errorCode = .success
  · rw [if_pos hs] at hanswer htable
    have hid : (c.handle a).2.nodeId = some ⟨c.nodes.nextId⟩ := by rw [hanswer]; rfl
    have hgiven : (AnsweredCall.login a (c.handle a).2).given?.toList = [⟨c.nodes.nextId⟩] := by
      rw [AnsweredCall.given?, hid, Option.toList_some]
    refine ⟨?_, fun r => ?_⟩
    · have hstep := h.reached.step (.register a.machineId a.request.publicKey a.request.services)
      rw [Roster.step, NodeTable.register_of_admits (admits_of_success hs)] at hstep
      rw [issued_concat, hgiven, htable]
      exact hstep
    · rw [htable, (h.kept hlt).nodes_enter, List.mem_append, List.mem_filter, List.mem_singleton, h.isLive]
      simp only [isLive_concat, AnsweredCall.Grants, AnsweredCall.Ends, hs, hid, bne_iff_ne, true_and, and_true]
      constructor
      · rintro (⟨⟨id, b, hb, rfl⟩, hne⟩ | rfl)
        · exact ⟨id, b, .inr ⟨hb, fun hm => hne hm.symm⟩, rfl⟩
        · exact ⟨_, a, .inl ⟨rfl, rfl⟩, rfl⟩
      · rintro ⟨id, b, ⟨rfl, hid'⟩ | ⟨hb, hne⟩, rfl⟩
        · obtain rfl := Option.some.inj hid'
          exact .inr rfl
        · exact .inl ⟨⟨id, b, hb, rfl⟩, fun hm => hne hm.symm⟩
  · rw [if_neg hs] at hanswer
    apply h.of_idle (nodes_of_rejected hs)
    · rw [AnsweredCall.given?, hanswer]
      rfl
    · exact fun id b hg => hs hg.2.1
    · exact fun id machineId he => hs he.2

theorem Follows.unregister (h : c.Follows past) (hlt : (issued past).length < 2 ^ 64 - 1) (id : NodeId) :
    (c.unregister id).1.Follows (past ++ [.unregister id (c.unregister id).2]) := by
  refine ⟨?_, fun r => ?_⟩
  · have hgiven : (AnsweredCall.unregister id (c.unregister id).2).given? = none := rfl
    rw [issued_concat, hgiven, Option.toList_none, List.append_nil]
    exact h.reached.step (.unregister id)
  · rw [Coordinator.unregister, ((h.kept hlt).unregister_eq id).1, List.mem_filter, h.isLive]
    simp only [isLive_concat, AnsweredCall.Grants, AnsweredCall.Ends, bne_iff_ne, false_or]
    constructor
    · rintro ⟨⟨i, b, hb, rfl⟩, hne⟩
      exact ⟨i, b, ⟨hb, fun he => hne he.symm⟩, rfl⟩
    · rintro ⟨i, b, ⟨hb, hne⟩, rfl⟩
      exact ⟨⟨i, b, hb, rfl⟩, fun he => hne he.symm⟩

theorem Follows.answer (h : c.Follows past) (hlt : (issued past).length < 2 ^ 64 - 1) :
    (c.answer call).1.Follows (past ++ [(c.answer call).2]) := by
  cases call with
  | login a => exact h.login hlt
  | unregister id => exact h.unregister hlt id
  | query request => exact h.of_idle rfl rfl (fun _ _ => id) fun _ _ => id

theorem Follows.after (h : c.Follows past)
    (hlt : (issued (past ++ c.answers calls)).length < 2 ^ 64 - 1) :
    (c.after calls).Follows (past ++ c.answers calls) := by
  induction calls generalizing c past with
  | nil =>
    rw [answers, List.append_nil]
    exact h
  | cons call calls ih =>
    have hpast := lt_of_issued_append hlt
    rw [append_answers_cons] at hlt ⊢
    exact ih (h.answer hpast) hlt

/-- The records that offer a service are the nodes that do. -/
theorem Follows.offers_iff (h : c.Follows past) : Offers past name id s ↔
    ∃ r ∈ c.nodes.nodes, r.nodeId = id ∧ r.services.find? (·.name == name) = some s := by
  constructor
  · rintro ⟨a, ha, hs⟩
    exact ⟨a.record id, (h.isLive _).mpr ⟨id, a, ha, rfl⟩, rfl, hs⟩
  · rintro ⟨r, hr, rfl, hs⟩
    obtain ⟨id, a, ha, rfl⟩ := (h.isLive r).mp hr
    exact ⟨a, ha, hs⟩

theorem Follows.findService?_eq_none_iff (h : c.Follows past) :
    c.nodes.findService? name = none ↔ ∀ id s, ¬Offers past name id s := by
  rw [NodeTable.findService?, List.findSome?_eq_none_iff]
  simp only [Option.map_eq_none_iff, h.offers_iff]
  constructor
  · rintro hn id s ⟨r, hr, -, hs⟩
    rw [hn r hr] at hs
    cases hs
  · intro hn r hr
    rw [Option.eq_none_iff_forall_ne_some]
    exact fun s hs => hn r.nodeId s ⟨r, hr, rfl, hs⟩

/-- The table lists its records by their ids, so the first one that offers a service has the least. -/
theorem Follows.findService?_eq_some_iff (h : c.Follows past) (hlt : (issued past).length < 2 ^ 64 - 1) :
    c.nodes.findService? name = some (id, s) ↔
      Offers past name id s ∧ ∀ id' s', Offers past name id' s' → id.toNat ≤ id'.toNat := by
  have hfirst : ∀ id s, c.nodes.findService? name = some (id, s) →
      Offers past name id s ∧ ∀ id' s', Offers past name id' s' → id.toNat ≤ id'.toNat := by
    intro id s hf
    rw [NodeTable.findService?, List.findSome?_eq_some_iff] at hf
    obtain ⟨before, r, after, hsplit, hr, hbefore⟩ := hf
    obtain ⟨s', hs, hpair⟩ := Option.map_eq_some_iff.mp hr
    cases hpair
    have hincreasing := (h.kept hlt).increasing
    rw [hsplit, List.pairwise_append, List.pairwise_cons] at hincreasing
    refine ⟨h.offers_iff.mpr ⟨r, by simp [hsplit], rfl, hs⟩, fun id' s' ho => ?_⟩
    obtain ⟨r', hr', rfl, hs'⟩ := h.offers_iff.mp ho
    rw [hsplit] at hr'
    rcases List.mem_append.mp hr' with hb | hb
    · have := hbefore r' hb
      rw [hs'] at this
      cases this
    · rcases List.mem_cons.mp hb with rfl | hb
      · exact Nat.le_refl _
      · exact Nat.le_of_lt (hincreasing.2.1.1 r' hb)
  refine ⟨hfirst id s, ?_⟩
  rintro ⟨ho, hmin⟩
  cases hf : c.nodes.findService? name with
  | none => exact absurd ho (h.findService?_eq_none_iff.mp hf id s)
  | some found =>
    obtain ⟨id', s'⟩ := found
    obtain ⟨ho', hmin'⟩ := hfirst id' s' hf
    obtain ⟨r, hr, rfl, hs⟩ := h.offers_iff.mp ho
    obtain ⟨r', hr', rfl, hs'⟩ := h.offers_iff.mp ho'
    -- both are the least, so they are one record
    have hid : r'.nodeId = r.nodeId := by
      have hle := Nat.le_antisymm (hmin' _ _ ho) (hmin _ _ ho')
      exact congrArg NodeId.mk (UInt64.toNat_inj.mp hle)
    obtain rfl := (h.kept hlt).eq_of_nodeId hr' hr hid
    rw [hs] at hs'
    cases hs'
    rfl

theorem query_eq_notFound_iff : c.query ⟨name⟩ = .notFound name ↔ c.nodes.findService? name = none := by
  unfold query
  cases h : c.nodes.findService? name with
  | none => simp
  | some found => simp [QueryResponse.notFound]

/-- The service that is found has the name that was asked for. -/
theorem query_eq_success_iff {address : String} {port : UInt16} :
    c.query ⟨name⟩ = ⟨.success, some id, name, address, port⟩ ↔
      ∃ s, c.nodes.findService? name = some (id, s) ∧ s.address = address ∧ s.port = port := by
  unfold query
  cases h : c.nodes.findService? name with
  | none => simp [QueryResponse.notFound]
  | some found =>
    obtain ⟨id', s⟩ := found
    have hname : s.name = name := by
      rw [NodeTable.findService?, List.findSome?_eq_some_iff] at h
      obtain ⟨before, r, after, -, hr, -⟩ := h
      obtain ⟨s', hs, hpair⟩ := Option.map_eq_some_iff.mp hr
      cases hpair
      simpa using List.find?_some hs
    simp [hname, and_assoc]

/-- Turned away, a login is known by its nonce alone. -/
theorem alikeWithNodes_of_rejected {watch : NonceKey → Bool} {l : Timeline} (hl : c.seen.Holds l a.clock)
    (hr : (c.handle a).2.errorCode ≠ .success)
    (hk : (c.handle a).2.errorCode ∉ [.machineKeyMismatch, .registryFull] ∨
      watch a.key = false ∧ ¬c.Evicts a) : AlikeWithNodes watch a.clock (c.handle a).1 c := by
  have halike : Alike watch a.clock c c := ⟨rfl, rfl, hl.alike watch⟩
  refine ⟨halike.handle_left ?_, (c.judgement_handle a).1.symm, (nodes_of_rejected hr).symm⟩
  rcases hk with hcode | hk
  · apply Or.inl
    apply unmarked_of_errorCode
    rw [List.mem_cons, not_or]
    exact ⟨hr, hcode⟩
  · exact .inr hk

/-- A query finds the service of the node that offers it and has the least id, as that node listed it when
it logged in, and it finds none exactly where no node offers it. Queries change nothing, and a login
that is turned away does not change what the queries after it find. Where later logins come in between,
they are answered as if it had not come either, unless it was turned away for its machine's key or for
want of room: then it has used its nonce up, and this holds as long as that nonce is not shown again
and none is forgotten for its sake. -/
theorem lookup_follows_logins (keys : KeyPair) (config : ClusterConfig) (verifier : Verifier)
    (calls : List ClusterCall) :
    let start : Coordinator := { Coordinator.create keys config with verifier }
    let c := start.after calls
    let past := start.answers calls
    ((issued past).length < 2 ^ 64 - 1 →
      (∀ name id address port, c.query ⟨name⟩ = ⟨.success, some id, name, address, port⟩ ↔
        ∃ s, Offers past name id s ∧ s.address = address ∧ s.port = port ∧
          ∀ id' s', Offers past name id' s' → id.toNat ≤ id'.toNat) ∧
      ∀ name, c.query ⟨name⟩ = .notFound name ↔ ∀ id s, ¬Offers past name id s) ∧
    (∀ request, (c.answer (.query request)).1 = c) ∧
    ∀ a, (c.handle a).2.errorCode ≠ .success →
      (∀ request, (c.handle a).1.query request = c.query request) ∧
      ∀ later, (clocks (calls ++ .login a :: later)).Pairwise (· ≤ ·) →
        ((c.handle a).2.errorCode ∉ [.machineKeyMismatch, .registryFull] ∨
          (∀ b, .login b ∈ later → b.key ≠ a.key) ∧ c.HasRoom (.login a :: later) ∧ c.HasRoom later) →
        (c.handle a).1.answers later = c.answers later := by
  intro start c past
  refine ⟨fun hlt => ?_, fun _ => rfl, fun a hr => ⟨fun request => ?_, fun later hclocks hk => ?_⟩⟩
  · have h : c.Follows past := (follows_create keys config verifier).after hlt
    refine ⟨fun name id address port => ?_, fun name => ?_⟩
    · rw [query_eq_success_iff]
      simp only [h.findService?_eq_some_iff hlt]
      constructor
      · rintro ⟨s, ⟨ho, hmin⟩, haddress, hport⟩
        exact ⟨s, ho, haddress, hport, hmin⟩
      · rintro ⟨s, ho, haddress, hport, hmin⟩
        exact ⟨s, ⟨ho, hmin⟩, haddress, hport⟩
    · rw [query_eq_notFound_iff, h.findService?_eq_none_iff]
  · rw [query, query, nodes_of_rejected hr]
  · obtain ⟨now, hc, hclocks'⟩ := remembers_after keys config verifier hclocks
    obtain ⟨hle, hlater⟩ := List.pairwise_cons.mp hclocks'
    obtain ⟨l, hl, -⟩ := hc.lists
    have hl' := hl.of_le (hle a.clock List.mem_cons_self)
    symm
    rcases hk with hcode | ⟨hfresh, hroom, hroom'⟩
    · -- all nonces are watched, and this one had been known before or was not looked at
      have ht : AlikeWithNodes (fun _ => true) a.clock (c.handle a).1 c :=
        alikeWithNodes_of_rejected hl' hr (.inl hcode)
      exact ht.answers hlater (fun _ _ => rfl) (.inl fun _ => rfl)
    · have ht : AlikeWithNodes (fun k => decide (k ≠ a.key)) a.clock (c.handle a).1 c :=
        alikeWithNodes_of_rejected hl' hr (.inr ⟨by simp, hroom.head⟩)
      exact ht.answers hlater (fun b hb => by simpa using hfresh b hb) (.inr ⟨hroom.tail, hroom'⟩)

section Narrow

def mailService : Service := ⟨"mail", "10.0.0.2", 7301⟩

/-- A machine that offers mail logs in, in the first instant. -/
def mailLogin (machineId : String) : Arrival :=
  ⟨{ (default : LoginRequest) with machineId, services := [mailService], timestamp := 10000 }, 10000, 0⟩

/-- There is room for one machine, and any signature will do. -/
def roomForOne : Coordinator :=
  { Coordinator.create ⟨[], 0, [], []⟩ { maxNodes := 1 } with verifier := fun _ _ _ => .ok () }

/-- The room of `roomForOne` is taken. -/
def withOneNode : Coordinator := (roomForOne.handle (mailLogin "machine-a")).1

theorem credible_mailLogin (machineId : String) : roomForOne.Credible (mailLogin machineId) :=
  ⟨(by decide : isFresh 10000 10000 roomForOne.window = true), rfl⟩

theorem credible_withOneNode (machineId : String) : withOneNode.Credible (mailLogin machineId) :=
  (credible_mailLogin machineId).handle

theorem holds_roomForOne : roomForOne.seen.Holds [] 0 := ReplayCache.holds_create ..

theorem roomForOne_success : (roomForOne.handle (mailLogin "machine-a")).2.errorCode = .success := by
  apply success_of_admits (credible_mailLogin _)
  · exact (holds_roomForOne.knows.check ..).2.1
  · exact .inr ⟨rfl, by decide⟩

theorem nodes_withOneNode : withOneNode.nodes = ((NodeTable.create 1).enter "machine-a" [] [mailService]).1 := by
  have h := (roomForOne.handle_of_errorCode (mailLogin "machine-a")).2
  rw [roomForOne_success, if_pos rfl] at h
  exact h

theorem holds_withOneNode : withOneNode.seen.Holds [((mailLogin "machine-a").key, 0)] 0 := by
  rw [withOneNode, (credible_mailLogin _).seen_handle]
  exact holds_roomForOne.check ..

theorem remembers_withOneNode : withOneNode.Remembers { maxNodes := 1 } 1 0 :=
  (remembers_create ..).handle (Nat.le_refl 0)

theorem look_withOneNode : (withOneNode.look (mailLogin "machine-b")).2 = false := by
  apply look_of_not_mem holds_withOneNode
  intro h
  have hkey := congrArg NonceKey.machineId (List.mem_singleton.mp h)
  exact absurd hkey (by decide)

theorem withOneNode_full : (withOneNode.handle (mailLogin "machine-b")).2.errorCode = .registryFull := by
  rw [errorCode_handle, (credible_withOneNode _).objections_eq, look_withOneNode, nodes_withOneNode]
  decide

theorem withOneNode_rejects : (withOneNode.handle (mailLogin "machine-b")).2.errorCode ≠ .success := by
  rw [withOneNode_full]
  decide

/-- Once the machine that took the room has left, `mailLogin "machine-b"` gets in if it has not come before. -/
theorem left_success :
    ((withOneNode.unregister ⟨1⟩).1.handle (mailLogin "machine-b")).2.errorCode = .success := by
  apply success_of_admits
  · exact credible_withOneNode "machine-b"
  · exact look_withOneNode
  · rw [Coordinator.unregister, nodes_withOneNode]
    exact .inr (by decide)

theorem query_left :
    (((withOneNode.unregister ⟨1⟩).1.handle (mailLogin "machine-b")).1.query ⟨"mail"⟩).errorCode = .success := by
  have h := ((withOneNode.unregister ⟨1⟩).1.handle_of_errorCode (mailLogin "machine-b")).2
  rw [left_success, if_pos rfl, Coordinator.unregister, nodes_withOneNode] at h
  rw [query, Coordinator.unregister, nodes_withOneNode, h]
  decide

/-- If it was turned away before, it is taken for a replay. -/
theorem left_replayed :
    (((withOneNode.handle (mailLogin "machine-b")).1.unregister ⟨1⟩).1.handle (mailLogin "machine-b")).2.errorCode =
      .replayDetected := by
  have httl := (remembers_withOneNode.handle (a := mailLogin "machine-b") (Nat.le_refl 0)).ttl
  apply replayed_of_marked
  · exact (credible_withOneNode "machine-b").handle
  · exact marked_handle holds_withOneNode (credible_withOneNode _) look_withOneNode
  · rw [Coordinator.unregister, httl]
    decide

theorem query_replayed :
    (((withOneNode.handle (mailLogin "machine-b")).1.unregister ⟨1⟩).1.handle
      (mailLogin "machine-b")).1.query ⟨"mail"⟩ =
      .notFound "mail" := by
  have hreplayed : (((withOneNode.handle (mailLogin "machine-b")).1.unregister ⟨1⟩).1.handle
      (mailLogin "machine-b")).2.errorCode ≠ .success := by
    rw [left_replayed]
    decide
  rw [query, nodes_of_rejected hreplayed, Coordinator.unregister, nodes_of_rejected withOneNode_rejects,
    nodes_withOneNode]
  rfl

/-- A login that finds no room has used its nonce up. Shown again once there is room, it is a replay, and
the service that it lists is not found. -/
theorem rejected_login_changes_answer : ¬∀ keys config verifier calls a later request,
    let c := Coordinator.after { Coordinator.create keys config with verifier } calls
    (clocks (calls ++ .login a :: later)).Pairwise (· ≤ ·) → (c.handle a).2.errorCode ≠ .success →
      ((c.handle a).1.after later).query request = (c.after later).query request := by
  intro h
  have hq : (((withOneNode.handle (mailLogin "machine-b")).1.unregister ⟨1⟩).1.handle
        (mailLogin "machine-b")).1.query ⟨"mail"⟩ =
      ((withOneNode.unregister ⟨1⟩).1.handle (mailLogin "machine-b")).1.query ⟨"mail"⟩ :=
    h ⟨[], 0, [], []⟩ { maxNodes := 1 } (fun _ _ _ => .ok ()) [.login (mailLogin "machine-a")]
      (mailLogin "machine-b") [.unregister ⟨1⟩, .login (mailLogin "machine-b")] ⟨"mail"⟩ (by decide) withOneNode_rejects
  have hcode := query_left
  rw [← hq, query_replayed] at hcode
  cases hcode

/-- The node that took the room is found, also after another machine was turned away. -/
theorem lookup_follows_logins_when_full :
    let start : Coordinator := { Coordinator.create ⟨[], 0, [], []⟩ { maxNodes := 1 } with
      verifier := fun _ _ _ => .ok () }
    let c := start.after [.login (mailLogin "machine-a")]
    (issued (start.answers [.login (mailLogin "machine-a")])).length < 2 ^ 64 - 1 ∧
      c.query ⟨"mail"⟩ = ⟨.success, some ⟨1⟩, "mail", "10.0.0.2", 7301⟩ ∧
      (c.handle (mailLogin "machine-b")).2.errorCode ≠ .success ∧
      (c.handle (mailLogin "machine-b")).1.answers [.query ⟨"mail"⟩] = c.answers [.query ⟨"mail"⟩] := by
  intro start c
  obtain ⟨hlookup, -, hrejected⟩ := lookup_follows_logins ⟨[], 0, [], []⟩ { maxNodes := 1 }
    (fun _ _ _ => .ok ()) [.login (mailLogin "machine-a")]
  have hlt : (issued (start.answers [.login (mailLogin "machine-a")])).length < 2 ^ 64 - 1 :=
    Nat.lt_of_le_of_lt (length_issued_le ..) (by decide)
  have hid : (roomForOne.handle (mailLogin "machine-a")).2.nodeId = some ⟨1⟩ := by
    rw [(roomForOne.handle_of_errorCode _).1, roomForOne_success]
    rfl
  refine ⟨hlt, ?_, withOneNode_rejects, ?_⟩
  · refine ((hlookup hlt).1 "mail" ⟨1⟩ "10.0.0.2" 7301).mpr ⟨mailService, ?_, rfl, rfl, ?_⟩
    · exact ⟨mailLogin "machine-a", ⟨[], _, [], rfl, ⟨rfl, roomForOne_success, hid⟩, nofun⟩, rfl⟩
    · rintro id s ⟨a, ha, -⟩
      have hpast : IsLive ([] ++ [.login (mailLogin "machine-a") (roomForOne.handle (mailLogin "machine-a")).2]) id a :=
        ha
      rcases isLive_concat.mp hpast with ⟨-, -, hg⟩ | ⟨⟨before, x, after, hsplit, -⟩, -⟩
      · rw [hid] at hg
        obtain rfl := Option.some.inj hg
        exact Nat.le_refl 1
      · simp at hsplit
  · refine (hrejected (mailLogin "machine-b") withOneNode_rejects).2 [.query ⟨"mail"⟩] (by decide) (.inr ⟨?_, ?_, ?_⟩)
    · intro b hb
      simp at hb
    · exact remembers_withOneNode.hasRoom (by decide) (by decide)
    · exact remembers_withOneNode.hasRoom (by decide) (by decide)

end Narrow

end Coordinator

end FrameGateway
