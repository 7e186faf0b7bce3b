import FrameGateway.Proofs.Cluster.Answer
/-! A coordinator under logins, departures and queries in any order. What its nodes are told depends on
its table and on the nonces that it knows; so two coordinators that share both, as far as the nonces
are shown again, give the same answers (`Coordinator.AlikeWithNodes.answers`). -/

namespace FrameGateway

inductive ClusterCall where
  | login (a : Arrival)
  | unregister (id : NodeId)
  | query (request : QueryRequest)

inductive AnsweredCall where
  | login (a : Arrival) (response : LoginResponse)
  | unregister (id : NodeId) (live : Bool)
  | query (request : QueryRequest) (response : QueryResponse)

namespace ClusterCall

def clock? : ClusterCall → Option Nat
  | login a => some a.clock
  | _ => none

end ClusterCall

def clocks (calls : List ClusterCall) : List Nat := calls.filterMap ClusterCall.clock?

namespace Coordinator

def answer (c : Coordinator) : ClusterCall → Coordinator × AnsweredCall
  | .login a => ((c.handle a).1, .login a (c.handle a).2)
  | .unregister id => ((c.unregister id).1, .unregister id (c.unregister id).2)
  | .query request => (c, .query request (c.query request))

def after (c : Coordinator) (calls : List ClusterCall) : Coordinator :=
  calls.foldl (fun c call => (c.answer call).1) c

def answers (c : Coordinator) : List ClusterCall → List AnsweredCall
  | [] => []
  | call :: calls => (c.answer call).2 :: (c.answer call).1.answers calls

/-- A nonce is forgotten early to make room for that of the login. -/
def Evicts (c : Coordinator) (a : Arrival) : Prop :=
  c.Credible a ∧ c.seen.Evicts a.clock a.request.machineId a.request.nonce

/-- There is room for the nonce of every login. -/
def HasRoom (c : Coordinator) (calls : List ClusterCall) : Prop :=
  ∀ before a after, calls = before ++ .login a :: after → ¬(c.after before).Evicts a

/-- Both judge requests alike, and know the same nonces of those that are watched. -/
structure Alike (watch : NonceKey → Bool) (now : Nat) (c d : Coordinator) : Prop where
  verifier : d.verifier = c.verifier
  window : d.window = c.window
  seen : ReplayCache.Alike watch now c.seen d.seen

variable {c d : Coordinator} {a : Arrival} {call : ClusterCall} {calls calls' : List ClusterCall}
  {watch : NonceKey → Bool} {now : Nat} {l : Timeline}

theorem after_append (c : Coordinator) (calls calls' : List ClusterCall) :
    c.after (calls ++ calls') = (c.after calls).after calls' := List.foldl_append

theorem answers_append (c : Coordinator) (calls calls' : List ClusterCall) :
    c.answers (calls ++ calls') = c.answers calls ++ (c.after calls).answers calls' := by
  induction calls generalizing c with
  | nil => rfl
  | cons call calls ih =>
    rw [List.cons_append, answers, answers, ih, List.cons_append]
    rfl

theorem HasRoom.head (h : c.HasRoom (.login a :: calls)) : ¬c.Evicts a := h [] a calls rfl

theorem HasRoom.of_append (h : c.HasRoom (calls ++ calls')) : c.HasRoom calls := by
  rintro before a rest rfl
  exact h before a (rest ++ calls') (by rw [List.append_assoc, List.cons_append])

theorem HasRoom.after (h : c.HasRoom (calls ++ calls')) : (c.after calls).HasRoom calls' := by
  rintro before a rest rfl
  rw [← after_append]
  exact h (calls ++ before) a rest (List.append_assoc ..).symm

theorem HasRoom.tail (h : c.HasRoom (call :: calls)) : (c.answer call).1.HasRoom calls := by
  rw [← List.singleton_append] at h
  exact h.after

/-- No login changes how the coordinator judges and signs. -/
theorem judgement_handle (c : Coordinator) (a : Arrival) : (c.handle a).1.keys = c.keys ∧
    (c.handle a).1.verifier = c.verifier ∧ (c.handle a).1.window = c.window := by
  have h := c.answered a
  generalize c.handle a = out at h
  cases h <;> exact ⟨rfl, rfl, rfl⟩

theorem Credible.handle {b : Arrival} (h : c.Credible a) : (c.handle b).1.Credible a := by
  obtain ⟨-, hverifier, hwindow⟩ := c.judgement_handle b
  rw [Credible, hverifier, hwindow]
  exact h

theorem Credible.after (h : c.Credible a) : (c.after calls).Credible a := by
  induction calls generalizing c with
  | nil => exact h
  | cons call calls ih =>
    cases call with
    | login b => exact ih h.handle
    | unregister id => exact ih (c := (c.unregister id).1) h
    | query request => exact ih h

theorem Credible.seen_handle (h : c.Credible a) : (c.handle a).1.seen = (c.look a).1 := by
  have hc := c.answered a
  generalize c.handle a = out at hc
  cases hc with
  | incredible code hn hcode hfirst => exact absurd h hn
  | replayed => rfl
  | mismatch => rfl
  | full => rfl
  | entered => rfl

theorem seen_handle_of_not (h : ¬c.Credible a) : (c.handle a).1.seen = c.seen := by
  have hc := c.answered a
  generalize c.handle a = out at hc
  cases hc with
  | incredible => rfl
  | replayed hcred => exact absurd hcred h
  | mismatch hcred => exact absurd hcred h
  | full hcred => exact absurd hcred h
  | entered hcred => exact absurd hcred h

/-- The nonce of a login that was turned away before the table of nodes was asked leaves no mark. -/
theorem unmarked_of_errorCode
    (h : (c.handle a).2.errorCode ∉ [.success, .machineKeyMismatch, .registryFull]) :
    ¬c.Credible a ∨ (c.look a).2 = true := by
  have hc := c.answered a
  generalize c.handle a = out at hc h
  cases hc with
  | incredible code hn hcode hfirst => exact .inl hn
  | replayed hcred hseen => exact .inr hseen
  | mismatch => simp at h
  | full => simp at h
  | entered => simp at h

/-- The code of an answer settles the rest of it, and the nodes. -/
theorem handle_of_errorCode (c : Coordinator) (a : Arrival) :
    (c.handle a).2 = c.respond a.request (c.handle a).2.errorCode
        (if (c.handle a).2.errorCode = .success then some ⟨c.nodes.nextId⟩ else none) ∧
      (c.handle a).1.nodes = if (c.handle a).2.errorCode = .success then
        (c.nodes.enter a.machineId a.request.publicKey a.request.services).1 else c.nodes := by
  have hc := c.answered a
  generalize c.handle a = out at hc
  cases hc with
  | incredible code hn hcode hfirst => simp [ne_success_of_mem hcode]
  | replayed => simp
  | mismatch => simp
  | full => simp
  | entered => simp

theorem nodes_of_rejected (h : (c.handle a).2.errorCode ≠ .success) : (c.handle a).1.nodes = c.nodes := by
  rw [(c.handle_of_errorCode a).2, if_neg h]

theorem success_of_admits (h : c.Credible a) (hnew : (c.look a).2 = false)
    (hadm : c.nodes.Admits a.machineId a.request.publicKey) : (c.handle a).2.errorCode = .success := by
  rw [errorCode_handle, h.objections_eq, hnew]
  rcases hadm with ⟨r, hr, hkey⟩ | ⟨hn, hfree⟩
  · simp [hr, hkey]
  · simp [hn, Nat.not_le.mpr hfree]

theorem mismatch_of_record {r : NodeRecord} (h : c.Credible a) (hnew : (c.look a).2 = false)
    (hr : c.nodes.recordOf? a.machineId = some r) (hkey : r.publicKey ≠ a.request.publicKey) :
    (c.handle a).2.errorCode = .machineKeyMismatch := by
  rw [errorCode_handle, h.objections_eq, hnew, hr]
  simp [hkey]

theorem look_of_not_mem (hl : c.seen.Holds l a.clock) (hn : a.key ∉ l.map (·.1)) :
    (c.look a).2 = false := by
  rw [look, (hl.knows.check ..).2.1, Timeline.check_snd, Timeline.lookup_eq_none]
  · rfl
  · intro h
    exact hn (((List.dropWhile_sublist _).map _).subset h)

/-- What has been looked at and not been known is known from now on, whatever the table says to it. -/
theorem marked_handle (hl : c.seen.Holds l a.clock) (h : c.Credible a) (hnew : (c.look a).2 = false) :
    (c.handle a).1.seen.Marked a.key a.clock a.clock := by
  rw [h.seen_handle]
  exact hl.marked_check hnew

theorem replayed_of_marked {t : Nat} (h : c.Credible a) (hm : c.seen.Marked a.key t a.clock)
    (hy : a.clock - t < c.seen.ttl.nanos) : (c.handle a).2.errorCode = .replayDetected := by
  have hseen : (c.look a).2 = true := hm.check_snd hy
  rw [errorCode_handle, h.objections_eq, hseen]
  rfl

theorem Alike.of_le {now' : Nat} (h : Alike watch now c d) (hn : now ≤ now') : Alike watch now' c d :=
  ⟨h.verifier, h.window, h.seen.of_le hn⟩

theorem Alike.credible_iff (h : Alike watch now c d) : d.Credible a ↔ c.Credible a := by
  rw [Credible, Credible, h.verifier, h.window]

/-- A login that leaves no mark, or only one that is not watched. -/
theorem Alike.handle_left (h : Alike watch a.clock c d)
    (hk : (¬c.Credible a ∨ (c.look a).2 = true) ∨ watch a.key = false ∧ ¬c.Evicts a) :
    Alike watch a.clock (c.handle a).1 d := by
  obtain ⟨-, hverifier, hwindow⟩ := c.judgement_handle a
  refine ⟨h.verifier.trans hverifier.symm, h.window.trans hwindow.symm, ?_⟩
  by_cases hcred : c.Credible a
  · rw [hcred.seen_handle]
    refine h.seen.check_left _ _ ?_
    rcases hk with (hn | hknown) | ⟨hw, hev⟩
    · exact absurd hcred hn
    · exact .inl hknown
    · exact .inr ⟨hw, fun he => hev ⟨hcred, he⟩⟩
  · rw [seen_handle_of_not hcred]
    exact h.seen

theorem Alike.handle (h : Alike watch a.clock c d)
    (hroom : (∀ k, watch k = true) ∨ ¬c.Evicts a ∧ ¬d.Evicts a) :
    Alike watch a.clock (c.handle a).1 (d.handle a).1 := by
  obtain ⟨-, hverifier, hwindow⟩ := c.judgement_handle a
  obtain ⟨-, hverifier', hwindow'⟩ := d.judgement_handle a
  refine ⟨hverifier'.trans (h.verifier.trans hverifier.symm), hwindow'.trans (h.window.trans hwindow.symm), ?_⟩
  by_cases hcred : c.Credible a
  · have hcred' := h.credible_iff.mpr hcred
    rw [hcred.seen_handle, hcred'.seen_handle]
    exact h.seen.check _ _ (hroom.imp_right fun ⟨hev, hev'⟩ =>
      ⟨fun he => hev ⟨hcred, he⟩, fun he => hev' ⟨hcred', he⟩⟩)
  · rw [seen_handle_of_not hcred, seen_handle_of_not fun hcred' => hcred (h.credible_iff.mp hcred')]
    exact h.seen

theorem Alike.look_snd (h : Alike watch a.clock c d) (hk : watch a.key = true) :
    (d.look a).2 = (c.look a).2 := h.seen.check_snd _ _ hk

/-- The cache is the one of the configuration, and holds at most `n` nonces. -/
structure Remembers (c : Coordinator) (config : ClusterConfig) (n now : Nat) : Prop where
  ttl : c.seen.ttl = config.replayTtl
  capacity : c.seen.capacity = max config.replayCapacity.toNat 1
  lists : ∃ l, c.seen.Holds l now ∧ l.length ≤ n

theorem remembers_create (keys : KeyPair) (config : ClusterConfig) (verifier : Verifier) :
    Remembers { create keys config with verifier } config 0 0 :=
  ⟨rfl, rfl, [], ReplayCache.holds_create .., Nat.le_refl 0⟩

variable {config : ClusterConfig} {n : Nat}

theorem Remembers.handle (h : c.Remembers config n now) (hn : now ≤ a.clock) :
    (c.handle a).1.Remembers config (n + 1) a.clock := by
  obtain ⟨l, hl, hlen⟩ := h.lists
  have hl' := hl.of_le hn
  by_cases hcred : c.Credible a
  · obtain ⟨-, -, httl, hcapacity⟩ := hl'.knows.check a.clock a.request.machineId a.request.nonce
    refine ⟨?_, ?_, ?_⟩
    all_goals rw [hcred.seen_handle]
    · exact httl.trans h.ttl
    · exact hcapacity.trans h.capacity
    · exact ⟨_, hl'.check _ _, Nat.le_trans (Timeline.length_check_le ..) (Nat.succ_le_succ hlen)⟩
  · refine ⟨?_, ?_, ?_⟩
    all_goals rw [seen_handle_of_not hcred]
    · exact h.ttl
    · exact h.capacity
    · exact ⟨l, hl', Nat.le_succ_of_le hlen⟩

/-- The clock does not go back in the rest of the run either. -/
theorem Remembers.after (h : c.Remembers config n now)
    (hclocks : (now :: clocks (calls ++ calls')).Pairwise (· ≤ ·)) :
    ∃ later, (c.after calls).Remembers config (n + calls.length) later ∧
      (later :: clocks calls').Pairwise (· ≤ ·) := by
  induction calls generalizing c n now with
  | nil => exact ⟨now, h, hclocks⟩
  | cons call calls ih =>
    rw [List.length_cons, ← Nat.add_assoc, Nat.add_right_comm]
    cases call with
    | login a =>
      obtain ⟨hle, hclocks'⟩ := List.pairwise_cons.mp hclocks
      exact ih (h.handle (hle a.clock List.mem_cons_self)) hclocks'
    | unregister id =>
      obtain ⟨l, hl, hlen⟩ := h.lists
      exact ih (c := (c.unregister id).1) ⟨h.ttl, h.capacity, l, hl, Nat.le_succ_of_le hlen⟩ hclocks
    | query request =>
      obtain ⟨l, hl, hlen⟩ := h.lists
      exact ih ⟨h.ttl, h.capacity, l, hl, Nat.le_succ_of_le hlen⟩ hclocks

theorem remembers_after (keys : KeyPair) (config : ClusterConfig) (verifier : Verifier)
    (hclocks : (clocks (calls ++ calls')).Pairwise (· ≤ ·)) :
    ∃ now, (after { create keys config with verifier } calls).Remembers config (0 + calls.length) now ∧
      (now :: clocks calls').Pairwise (· ≤ ·) := by
  apply (remembers_create keys config verifier).after
  exact List.pairwise_cons.mpr ⟨fun _ _ => Nat.zero_le _, hclocks⟩

/-- There is room for as many nonces as the configuration says. -/
theorem Remembers.hasRoom (h : c.Remembers config n now) (hclocks : (now :: clocks calls).Pairwise (· ≤ ·))
    (hlen : n + calls.length ≤ config.replayCapacity.toNat) : c.HasRoom calls := by
  rintro before a rest rfl ⟨-, -, hfull⟩
  obtain ⟨later, hafter, -⟩ := h.after hclocks
  obtain ⟨l, hl, hl'⟩ := hafter.lists
  have hsize := (hl.knows.expire a.clock).1.size
  have hle : (l.recent (c.after before).seen.ttl.nanos a.clock).length ≤ l.length :=
    (List.dropWhile_sublist _).length_le
  rw [hafter.capacity, ReplayCache.size, hsize] at hfull
  rw [List.length_append, List.length_cons] at hlen
  omega

/-- A nonce that is marked stays so for its time, as long as none is forgotten early. -/
theorem marked_after {k : NonceKey} {t : Nat} (h : c.seen.Marked k t now)
    (hclocks : (now :: clocks (calls ++ .login a :: calls')).Pairwise (· ≤ ·))
    (hroom : c.HasRoom calls) (hy : a.clock - t < c.seen.ttl.nanos) :
    (c.after calls).seen.Marked k t a.clock ∧ (c.after calls).seen.ttl = c.seen.ttl := by
  induction calls generalizing c now with
  | nil => exact ⟨h.of_le ((List.pairwise_cons.mp hclocks).1 a.clock List.mem_cons_self), rfl⟩
  | cons call calls ih =>
    cases call with
    | login b =>
      obtain ⟨hle, hclocks'⟩ := List.pairwise_cons.mp hclocks
      have hb := h.of_le (hle b.clock List.mem_cons_self)
      have hba : b.clock ≤ a.clock := (List.pairwise_cons.mp hclocks').1 a.clock (by simp [ClusterCall.clock?])
      obtain ⟨l, hl, -⟩ := id hb
      have hnext : (c.handle b).1.seen.Marked k t b.clock ∧ (c.handle b).1.seen.ttl = c.seen.ttl := by
        by_cases hcred : c.Credible b
        · rw [hcred.seen_handle]
          exact ⟨hb.check (by omega) fun he => hroom.head ⟨hcred, he⟩, (hl.knows.check ..).2.2.1⟩
        · rw [seen_handle_of_not hcred]
          exact ⟨hb, rfl⟩
      rw [← hnext.2] at hy ⊢
      exact ih hnext.1 hclocks' hroom.tail hy
    | unregister id => exact ih (c := (c.unregister id).1) h hclocks hroom.tail hy
    | query request => exact ih h hclocks hroom.tail hy

/-- Alike, and with one table and one pair of keys. -/
structure AlikeWithNodes (watch : NonceKey → Bool) (now : Nat) (c d : Coordinator) : Prop
    extends Alike watch now c d where
  keys : d.keys = c.keys
  nodes : d.nodes = c.nodes

theorem AlikeWithNodes.handle (h : AlikeWithNodes watch a.clock c d) (hk : watch a.key = true)
    (hroom : (∀ k, watch k = true) ∨ ¬c.Evicts a ∧ ¬d.Evicts a) :
    (d.handle a).2 = (c.handle a).2 ∧ AlikeWithNodes watch a.clock (c.handle a).1 (d.handle a).1 := by
  have hcode : (d.handle a).2.errorCode = (c.handle a).2.errorCode := by
    rw [errorCode_handle, errorCode_handle, objections, objections, h.verifier, h.window,
      h.look_snd hk, h.nodes]
  obtain ⟨hanswer, htable⟩ := c.handle_of_errorCode a
  obtain ⟨hanswer', htable'⟩ := d.handle_of_errorCode a
  refine ⟨?_, h.toAlike.handle hroom, ?_, ?_⟩
  · rw [hanswer, hanswer', hcode, h.nodes, respond, respond, h.keys]
  · rw [(c.judgement_handle a).1, (d.judgement_handle a).1, h.keys]
  · rw [htable, htable', hcode, h.nodes]

theorem AlikeWithNodes.answer (h : AlikeWithNodes watch now c d)
    (hclocks : (now :: clocks (call :: calls)).Pairwise (· ≤ ·))
    (hwatch : ∀ a, call = .login a → watch a.key = true)
    (hroom : (∀ k, watch k = true) ∨ c.HasRoom (call :: calls) ∧ d.HasRoom (call :: calls)) :
    (d.answer call).2 = (c.answer call).2 ∧ ∃ later, AlikeWithNodes watch later (c.answer call).1 (d.answer call).1 ∧
      (later :: clocks calls).Pairwise (· ≤ ·) := by
  cases call with
  | login a =>
    obtain ⟨hle, hclocks'⟩ := List.pairwise_cons.mp hclocks
    have ha : AlikeWithNodes watch a.clock c d := ⟨h.toAlike.of_le (hle a.clock List.mem_cons_self), h.keys, h.nodes⟩
    obtain ⟨hanswer, hnext⟩ := ha.handle (hwatch a rfl) (hroom.imp_right fun ⟨hc, hd⟩ => ⟨hc.head, hd.head⟩)
    exact ⟨by rw [Coordinator.answer, Coordinator.answer, hanswer], a.clock, hnext, hclocks'⟩
  | unregister id =>
    rw [Coordinator.answer, Coordinator.answer, unregister, unregister, h.nodes]
    exact ⟨rfl, now, ⟨⟨h.verifier, h.window, h.seen⟩, h.keys, rfl⟩, hclocks⟩
  | query request =>
    rw [Coordinator.answer, Coordinator.answer, query, query, h.nodes]
    exact ⟨rfl, now, h, hclocks⟩

/-- Both give the same answers, as long as the nonces that are shown to them are watched. -/
theorem AlikeWithNodes.answers (h : AlikeWithNodes watch now c d) (hclocks : (now :: clocks calls).Pairwise (· ≤ ·))
    (hwatch : ∀ a, .login a ∈ calls → watch a.key = true)
    (hroom : (∀ k, watch k = true) ∨ c.HasRoom calls ∧ d.HasRoom calls) :
    d.answers calls = c.answers calls := by
  induction calls generalizing c d now with
  | nil => rfl
  | cons call calls ih =>
    obtain ⟨hanswer, later, hnext, hclocks'⟩ := h.answer hclocks
      (fun a ha => hwatch a (ha ▸ List.mem_cons_self)) hroom
    rw [Coordinator.answers, Coordinator.answers, hanswer, ih hnext hclocks'
      (fun a ha => hwatch a (List.mem_cons_of_mem _ ha))
      (hroom.imp_right fun ⟨hc, hd⟩ => ⟨hc.tail, hd.tail⟩)]

end Coordinator

end FrameGateway
