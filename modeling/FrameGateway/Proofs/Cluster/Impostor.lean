import FrameGateway.Proofs.Cluster.Lookup
/-! Logins of a machine under keys that are not its own, put into a run. None of them gets in. Their owner's
answers depend on their nonces alone: one that is turned away for its key has used its nonce up, although
the owner never showed it (`Coordinator.disturbs_by_spent_nonce`). -/

namespace FrameGateway

/-- A login of a run, which may have been put in. -/
structure RunLogin where
  arrival : Arrival
  inserted : Bool

def callsOf (logins : List RunLogin) : List ClusterCall := logins.map fun v => .login v.arrival

def withoutInserted (logins : List RunLogin) : List RunLogin := logins.filter (!·.inserted)

namespace Coordinator

def codeAfter (c : Coordinator) (logins : List RunLogin) (a : Arrival) : ErrorCode :=
  ((c.after (callsOf logins)).handle a).2.errorCode

/-- Some calls have left a machine bound to a key. Logins of the machine under other keys are put into the
run that follows. The clock does not go back, and with those logins and without them no nonce is forgotten
for want of room and the counter of ids does not come round. -/
structure Intrusion (start : Coordinator) (calls : List ClusterCall) (logins : List RunLogin)
    (machineId : String) (key : Bytes) : Prop where
  bound : (start.after calls).nodes.Binds machineId key
  foreign : ∀ v ∈ logins, v.inserted = true →
    v.arrival.machineId = machineId ∧ v.arrival.request.publicKey ≠ key
  clocks : (clocks (calls ++ callsOf logins)).Pairwise (· ≤ ·)
  hasRoom : (start.after calls).HasRoom (callsOf logins)
  hasRoom_withoutInserted : (start.after calls).HasRoom (callsOf (withoutInserted logins))
  few : (issued (start.answers (calls ++ callsOf logins))).length < 2 ^ 64 - 1
  few_withoutInserted : (issued (start.answers (calls ++ callsOf (withoutInserted logins)))).length < 2 ^ 64 - 1

/-- A login that was put in under that nonce was turned away for its key at that time. -/
def Spent (c : Coordinator) (logins : List RunLogin) (nonce : Nonce) (time : Nat) : Prop :=
  ∃ before w after, logins = before ++ w :: after ∧ w.inserted = true ∧ w.arrival.request.nonce = nonce ∧
    w.arrival.clock = time ∧ c.codeAfter before w.arrival = .machineKeyMismatch

variable {start c d : Coordinator} {a : Arrival} {calls : List ClusterCall} {logins before rest : List RunLogin}
  {past : List AnsweredCall} {given : List NodeId} {machineId : String} {key : Bytes} {watch : NonceKey → Bool}
  {now n : Nat} {v : RunLogin}

theorem codeAfter_nil (c : Coordinator) (a : Arrival) : c.codeAfter [] a = (c.handle a).2.errorCode := rfl

theorem callsOf_append (logins rest : List RunLogin) :
    callsOf (logins ++ rest) = callsOf logins ++ callsOf rest := List.map_append

theorem withoutInserted_append (logins rest : List RunLogin) :
    withoutInserted (logins ++ rest) = withoutInserted logins ++ withoutInserted rest := List.filter_append ..

theorem hasRoom_of_callsOf_append (h : c.HasRoom (callsOf (before ++ rest))) : c.HasRoom (callsOf before) := by
  rw [callsOf_append] at h
  exact h.of_append

theorem clocks_upto (h : (now :: clocks (callsOf (before ++ v :: rest))).Pairwise (· ≤ ·)) :
    (now :: clocks (callsOf before ++ [.login v.arrival])).Pairwise (· ≤ ·) := by
  have hsplit : callsOf (before ++ v :: rest) =
      callsOf before ++ [.login v.arrival] ++ callsOf rest := by simp [callsOf]
  rw [hsplit, clocks, List.filterMap_append, ← List.cons_append] at h
  exact (List.pairwise_append.mp h).1

/-- A machine stays bound whoever logs in. -/
theorem binds_handle (hk : c.nodes.Kept given) (hb : c.nodes.Binds machineId key) :
    (c.handle a).1.nodes.Binds machineId key := by
  by_cases hs : (c.handle a).2.errorCode = .success
  · have hstep : Roster.Stepped ⟨c.nodes, given⟩
        (.register a.machineId a.request.publicKey a.request.services) _ :=
      .entered _ _ _ (admits_of_success hs)
    have hkept : Roster.Kept ⟨c.nodes, given⟩ := hk
    rw [(c.handle_of_errorCode a).2, if_pos hs]
    exact hkept.binds_step hstep hb nofun
  · rw [nodes_of_rejected hs]
    exact hb

theorem Follows.binds_callsOf (h : c.Follows past) (hb : c.nodes.Binds machineId key)
    (hlt : (issued (past ++ c.answers (callsOf logins))).length < 2 ^ 64 - 1) :
    (c.after (callsOf logins)).nodes.Binds machineId key := by
  induction logins generalizing c past with
  | nil => exact hb
  | cons v logins ih =>
    have hpast := lt_of_issued_append hlt
    rw [show callsOf (v :: logins) = .login v.arrival :: callsOf logins from rfl, append_answers_cons] at hlt
    exact ih (h.login hpast) (binds_handle (h.kept hpast) hb) hlt

/-- A login under another key than the machine's is turned away, for that reason at the latest. -/
theorem errorCode_of_foreign (hk : c.nodes.Kept given) (hb : c.nodes.Binds a.machineId key)
    (hne : a.request.publicKey ≠ key) : (c.handle a).2.errorCode ∈
      [.staleRequest, .invalidPublicKey, .invalidSignature, .replayDetected, .machineKeyMismatch] := by
  obtain ⟨r, hr, hkey⟩ := hk.binds_iff.mp hb
  have hc := c.answered a
  generalize c.handle a = out at hc
  cases hc with
  | incredible code hn hcode hfirst =>
    exact List.mem_append_left [.replayDetected, .machineKeyMismatch] hcode
  | replayed => simp
  | mismatch => simp
  | full hcred hnew hn hfull =>
    rw [hr] at hn
    cases hn
  | entered hcred hnew hadm =>
    rcases hadm with ⟨r', hr', hkey'⟩ | ⟨hn, -⟩
    · rw [hr] at hr'
      cases hr'
      exact absurd (hkey'.symm.trans hkey) hne
    · rw [hr] at hn
      cases hn

/-- One who shows the machine's key is answered alike wherever the machine is bound to it. -/
theorem Alike.errorCode_of_binds {given' : List NodeId} (h : Alike watch a.clock c d)
    (hw : watch a.key = true) (hk : c.nodes.Kept given) (hk' : d.nodes.Kept given')
    (hb : c.nodes.Binds a.machineId a.request.publicKey)
    (hb' : d.nodes.Binds a.machineId a.request.publicKey) :
    (c.handle a).2.errorCode = (d.handle a).2.errorCode := by
  obtain ⟨r, hr, hkey⟩ := hk.binds_iff.mp hb
  obtain ⟨r', hr', hkey'⟩ := hk'.binds_iff.mp hb'
  rw [errorCode_handle, errorCode_handle, objections, objections, h.verifier, h.window, h.look_snd hw, hr, hr']
  simp [hkey, hkey']

theorem looked_of_mismatch (h : (c.handle a).2.errorCode = .machineKeyMismatch) :
    c.Credible a ∧ (c.look a).2 = false := by
  have hc := c.answered a
  generalize c.handle a = out at hc h
  cases hc with
  | incredible code hn hcode hfirst =>
    rw [show code = .machineKeyMismatch from h] at hcode
    simp at hcode
  | replayed => cases h
  | mismatch hcred hnew => exact ⟨hcred, hnew⟩
  | full => cases h
  | entered => cases h

/-- The two runs stay alike, as long as what is put in leaves no mark under a nonce that is watched. -/
theorem Alike.callsOf (h : Alike watch now c d)
    (hclocks : (now :: clocks (callsOf logins ++ [.login a])).Pairwise (· ≤ ·))
    (hroom : c.HasRoom (callsOf logins)) (hroom' : d.HasRoom (callsOf (withoutInserted logins)))
    (hunmarked : ∀ before w after, logins = before ++ w :: after → w.inserted = true →
      (¬(c.after (callsOf before)).Credible w.arrival ∨
        ((c.after (callsOf before)).look w.arrival).2 = true) ∨ watch w.arrival.key = false) :
    Alike watch a.clock (c.after (callsOf logins)) (d.after (callsOf (withoutInserted logins))) := by
  induction logins generalizing c d now with
  | nil => exact h.of_le ((List.pairwise_cons.mp hclocks).1 a.clock List.mem_cons_self)
  | cons v logins ih =>
    obtain ⟨hle, hclocks'⟩ := List.pairwise_cons.mp hclocks
    have hv := h.of_le (hle v.arrival.clock List.mem_cons_self)
    have hunmarked' := fun before w after (he : logins = before ++ w :: after) =>
      hunmarked (v :: before) w after (by rw [he, List.cons_append])
    cases hin : v.inserted with
    | true =>
      -- the run without it does not move
      have hrun : withoutInserted (v :: logins) = withoutInserted logins := by simp [withoutInserted, hin]
      rw [hrun] at hroom' ⊢
      refine ih (hv.handle_left ?_) hclocks' hroom.tail hroom' hunmarked'
      exact (hunmarked [] v logins rfl hin).imp_right fun hw => ⟨hw, hroom.head⟩
    | false =>
      have hrun : withoutInserted (v :: logins) = v :: withoutInserted logins := by simp [withoutInserted, hin]
      rw [hrun] at hroom' ⊢
      exact ih (hv.handle (.inr ⟨hroom.head, hroom'.head⟩)) hclocks' hroom.tail hroom'.tail hunmarked'

variable {keys : KeyPair} {config : ClusterConfig} {verifier : Verifier}

/-- The machine is bound all along a run that does not exhaust the ids. -/
theorem bound_after (hstart : start.Follows []) (hb : (start.after calls).nodes.Binds machineId key)
    (hfew : (issued (start.answers (calls ++ callsOf (before ++ rest)))).length < 2 ^ 64 - 1) :
    ∃ given, ((start.after calls).after (callsOf before)).nodes.Kept given ∧
      ((start.after calls).after (callsOf before)).nodes.Binds machineId key := by
  rw [callsOf_append, ← List.append_assoc, answers_append] at hfew
  have hbefore := lt_of_issued_append hfew
  rw [answers_append] at hbefore
  have hcalls := hstart.after (lt_of_issued_append hbefore)
  exact ⟨_, (hcalls.after hbefore).kept hbefore, hcalls.binds_callsOf hb hbefore⟩

/-- A nonce that was spent is known for its time. -/
theorem Spent.errorCode {time : Nat} (hc : c.Remembers config n now)
    (hclocks : (now :: clocks (callsOf before ++ [.login a])).Pairwise (· ≤ ·))
    (hroom : c.HasRoom (callsOf before)) (hs : c.Spent before a.request.nonce time)
    (hforeign : ∀ v ∈ before, v.inserted = true → v.arrival.machineId = a.machineId)
    (hy : a.clock - time < config.replayTtl.nanos)
    (hcred : (c.after (callsOf before)).Credible a) : c.codeAfter before a = .replayDetected := by
  obtain ⟨first, w, between, rfl, hin, hnonce, rfl, hcode⟩ := hs
  have hkey : w.arrival.key = a.key := by
    rw [Arrival.key, Arrival.key, hnonce]
    exact congrArg (NonceKey.mk · _) (hforeign w (by simp) hin)
  rw [callsOf_append, List.append_assoc] at hclocks
  rw [callsOf_append] at hroom hcred
  obtain ⟨later, hw, hclocks'⟩ := hc.after hclocks
  obtain ⟨hle, hclocks''⟩ := List.pairwise_cons.mp hclocks'
  obtain ⟨l, hl, -⟩ := hw.lists
  have hle' := hle w.arrival.clock List.mem_cons_self
  obtain ⟨hlooked, hnew⟩ := looked_of_mismatch hcode
  have hmarked := marked_handle (hl.of_le hle') hlooked hnew
  have httl := (hw.handle hle').ttl
  rw [codeAfter, callsOf_append, after_append]
  rw [after_append] at hcred
  obtain ⟨hstill, httl'⟩ := marked_after hmarked hclocks'' hroom.after.tail (by rw [httl]; exact hy)
  rw [hkey] at hstill
  exact replayed_of_marked hcred hstill
    (Nat.lt_of_lt_of_eq hy (congrArg Duration.nanos (httl'.trans httl)).symm)

/-- What has been put in and spent no nonce of the owner's left no mark under it. -/
theorem unmarked_of_not_spent {nonce : Nonce} (hk : c.nodes.Kept given) (hb : c.nodes.Binds a.machineId key)
    (hne : a.request.publicKey ≠ key)
    (hns : a.request.nonce = nonce → (c.handle a).2.errorCode ≠ .machineKeyMismatch) :
    (¬c.Credible a ∨ (c.look a).2 = true) ∨ decide (a.key = ⟨machineId, nonce⟩) = false := by
  by_cases hn : a.request.nonce = nonce
  · have hcode := errorCode_of_foreign hk hb hne
    have hmismatch := hns hn
    refine .inl (unmarked_of_errorCode ?_)
    simp only [List.mem_cons, List.not_mem_nil, or_false] at hcode ⊢
    rintro (h | h | h)
    · simp [h] at hcode
    · exact hmismatch h
    · simp [h] at hcode
  · refine .inr (decide_eq_false fun h => hn ?_)
    exact congrArg NonceKey.nonce h

theorem Intrusion.codeAfter_eq
    (h : Intrusion { create keys config with verifier } calls (before ++ v :: rest) machineId key)
    (hm : v.arrival.machineId = machineId) (hkey : v.arrival.request.publicKey = key)
    (hns : ∀ time, ¬(after { create keys config with verifier } calls).Spent before
      v.arrival.request.nonce time) :
    (after { create keys config with verifier } calls).codeAfter before v.arrival =
      (after { create keys config with verifier } calls).codeAfter (withoutInserted before) v.arrival := by
  have hstart := follows_create keys config verifier
  obtain ⟨now, hc, hclocks⟩ := remembers_after keys config verifier h.clocks
  obtain ⟨l, hl, -⟩ := hc.lists
  have hroom' := h.hasRoom_withoutInserted
  have hfew' := h.few_withoutInserted
  rw [withoutInserted_append] at hroom' hfew'
  -- of all nonces, only the one that the owner shows is watched
  have hsame : Alike (fun k => decide (k = ⟨machineId, v.arrival.request.nonce⟩)) now
      (after { create keys config with verifier } calls)
      (after { create keys config with verifier } calls) := ⟨rfl, rfl, hl.alike _⟩
  have halike := hsame.callsOf (clocks_upto hclocks) (hasRoom_of_callsOf_append h.hasRoom)
    (hasRoom_of_callsOf_append hroom') <| by
      rintro first w between rfl hin
      obtain ⟨hw, hne⟩ := h.foreign w (by simp) hin
      have hfew := h.few
      rw [List.append_assoc] at hfew
      obtain ⟨given, hk, hb⟩ := bound_after hstart h.bound hfew
      exact unmarked_of_not_spent hk (hw ▸ hb) hne fun hn hcode =>
        hns _ ⟨first, w, between, rfl, hin, hn, rfl, hcode⟩
  obtain ⟨given, hk, hb⟩ := bound_after hstart h.bound h.few
  obtain ⟨given', hk', hb'⟩ := bound_after hstart h.bound hfew'
  rw [← hm, ← hkey] at hb hb'
  exact halike.errorCode_of_binds (by simp [Arrival.key, ← hm, Arrival.machineId]) hk hk' hb hb'

/-- A machine is bound to a key, and logins of it under other keys are put into a run. They are turned away.
A login under the machine's key is answered as without them, unless one before it was turned away for
its key under the same nonce: then for its time that nonce is known, and the owner's login is taken for
a replay. -/
theorem disturbs_by_spent_nonce
    (h : Intrusion { create keys config with verifier } calls logins machineId key) :
    let c := after { create keys config with verifier } calls
    ∀ before v rest, logins = before ++ v :: rest →
      (v.inserted = true → c.codeAfter before v.arrival ∈
        [.staleRequest, .invalidPublicKey, .invalidSignature, .replayDetected, .machineKeyMismatch]) ∧
      (v.inserted = false → v.arrival.machineId = machineId → v.arrival.request.publicKey = key →
        ((∀ time, ¬c.Spent before v.arrival.request.nonce time) →
          c.codeAfter before v.arrival = c.codeAfter (withoutInserted before) v.arrival) ∧
        ∀ time, c.Spent before v.arrival.request.nonce time →
          v.arrival.clock - time < config.replayTtl.nanos →
          (c.after (callsOf before)).Credible v.arrival →
          c.codeAfter before v.arrival = .replayDetected) := by
  rintro c before v rest rfl
  refine ⟨fun hin => ?_, fun hown hm hkey => ⟨fun hns => ?_, fun time hs hy hcred => ?_⟩⟩
  · obtain ⟨given, hk, hb⟩ := bound_after (follows_create keys config verifier) h.bound h.few
    obtain ⟨hm, hne⟩ := h.foreign v (by simp) hin
    exact errorCode_of_foreign hk (hm ▸ hb) hne
  · exact h.codeAfter_eq hm hkey hns
  · obtain ⟨now, hc, hclocks⟩ := remembers_after keys config verifier h.clocks
    refine Spent.errorCode hc (clocks_upto hclocks) (hasRoom_of_callsOf_append h.hasRoom) hs ?_ hy hcred
    intro w hw hin
    rw [hm]
    exact (h.foreign w (List.mem_append_left _ hw) hin).1

section Taken

/-- The machine that took the room comes again, or another one in its name. -/
def returning (nonce : Nonce) (key : Bytes) : Arrival :=
  ⟨{ (mailLogin "machine-a").request with nonce, publicKey := key }, 10000, 0⟩

variable {nonce : Nonce}

theorem credible_returning (nonce : Nonce) (key : Bytes) : withOneNode.Credible (returning nonce key) := by
  have h : roomForOne.Credible (returning nonce key) :=
    ⟨(by decide : isFresh 10000 10000 roomForOne.window = true), rfl⟩
  exact h.handle

theorem look_returning (hne : nonce ≠ (mailLogin "machine-a").request.nonce) (key : Bytes) :
    (withOneNode.look (returning nonce key)).2 = false := by
  apply look_of_not_mem holds_withOneNode
  intro h
  exact hne (congrArg NonceKey.nonce (List.mem_singleton.mp h))

theorem recordOf?_withOneNode :
    withOneNode.nodes.recordOf? "machine-a" = some ⟨⟨1⟩, "machine-a", [], [mailService]⟩ := by
  rw [nodes_withOneNode]
  decide

theorem returning_success (hne : nonce ≠ (mailLogin "machine-a").request.nonce) :
    (withOneNode.handle (returning nonce [])).2.errorCode = .success := by
  apply success_of_admits (credible_returning nonce []) (look_returning hne [])
  exact .inl ⟨_, recordOf?_withOneNode, rfl⟩

theorem returning_mismatch (hne : nonce ≠ (mailLogin "machine-a").request.nonce) :
    (withOneNode.handle (returning nonce [1])).2.errorCode = .machineKeyMismatch :=
  mismatch_of_record (credible_returning nonce [1]) (look_returning hne [1]) recordOf?_withOneNode nofun

/-- Anybody may come in the name of that machine. -/
theorem intrusion_withOneNode (hforeign : ∀ v ∈ logins, v.inserted = true →
      v.arrival.machineId = "machine-a" ∧ v.arrival.request.publicKey ≠ [])
    (hclocks : (0 :: clocks (callsOf logins)).Pairwise (· ≤ ·)) (hlen : logins.length < 9999) :
    Intrusion roomForOne [.login (mailLogin "machine-a")] logins "machine-a" [] := by
  have hsub : (callsOf (withoutInserted logins)).Sublist (callsOf logins) := List.filter_sublist.map _
  have hcapacity : ({ maxNodes := 1 } : ClusterConfig).replayCapacity.toNat = 10000 := by decide
  have hlength : (callsOf logins).length = logins.length := List.length_map ..
  have hle := hsub.length_le
  refine ⟨?_, hforeign, hclocks, remembers_withOneNode.hasRoom hclocks (by omega),
    remembers_withOneNode.hasRoom (hclocks.sublist ((hsub.filterMap _).cons_cons _)) (by omega), ?_, ?_⟩
  · have hb : withOneNode.nodes.Binds "machine-a" [] := by
      rw [nodes_withOneNode]
      exact ⟨⟨⟨1⟩, "machine-a", [], [mailService]⟩, by decide, rfl, rfl⟩
    exact hb
  · refine Nat.lt_of_le_of_lt (length_issued_le ..) ?_
    rw [List.length_append, List.length_singleton]
    omega
  · refine Nat.lt_of_le_of_lt (length_issued_le ..) ?_
    rw [List.length_append, List.length_singleton]
    omega

/-- The impostor shows the nonce first. -/
theorem spent_returning (hne : nonce ≠ (mailLogin "machine-a").request.nonce) (later : List RunLogin) :
    withOneNode.Spent (⟨returning nonce [1], true⟩ :: later) nonce 0 := by
  refine ⟨[], ⟨returning nonce [1], true⟩, later, rfl, rfl, rfl, rfl, ?_⟩
  rw [codeAfter_nil]
  dsimp only
  exact returning_mismatch hne

/-- An impostor has shown the nonce that the owner of a machine then logs in with, and the owner is
taken for a replay. -/
theorem impostor_disturbs_owner : ¬∀ keys config verifier calls logins machineId key,
    Intrusion { create keys config with verifier } calls logins machineId key →
      ∀ before v rest, logins = before ++ v :: rest → v.inserted = false →
        v.arrival.machineId = machineId → v.arrival.request.publicKey = key →
        (after { create keys config with verifier } calls).codeAfter before v.arrival =
          (after { create keys config with verifier } calls).codeAfter (withoutInserted before) v.arrival := by
  intro h
  have hne : Nonce.ofBytes [1] ≠ (mailLogin "machine-a").request.nonce := by decide
  have hin : Intrusion roomForOne [.login (mailLogin "machine-a")]
      [⟨returning (.ofBytes [1]) [1], true⟩, ⟨returning (.ofBytes [1]) [], false⟩] "machine-a" [] :=
    intrusion_withOneNode (by decide) (by decide) (by decide)
  have hsame := h _ _ _ _ _ _ _ hin [⟨returning (.ofBytes [1]) [1], true⟩]
    ⟨returning (.ofBytes [1]) [], false⟩ [] rfl rfl rfl rfl
  have hreplayed : withOneNode.codeAfter [⟨returning (.ofBytes [1]) [1], true⟩] (returning (.ofBytes [1]) []) =
      .replayDetected := by
    apply Spent.errorCode remembers_withOneNode (by decide) hin.hasRoom.of_append (spent_returning hne [])
    · intro v hv _
      rw [List.mem_singleton.mp hv]
      rfl
    · decide
    · exact (credible_returning _ _).after
  have hsuccess : withOneNode.codeAfter [] (returning (.ofBytes [1]) []) = .success := by
    rw [codeAfter_nil]
    exact returning_success hne
  cases hreplayed.symm.trans (hsame.trans hsuccess)

/-- An impostor has shown one nonce. Under another one the owner gets in as before, and under this one no more. -/
theorem disturbs_by_spent_nonce_when_full :
    let impostor : RunLogin := ⟨returning (.ofBytes [1]) [1], true⟩
    let owner : RunLogin := ⟨returning (.ofBytes [2]) [], false⟩
    let again : RunLogin := ⟨returning (.ofBytes [1]) [], false⟩
    Intrusion roomForOne [.login (mailLogin "machine-a")] [impostor, owner, again] "machine-a" [] ∧
      withOneNode.codeAfter [impostor] owner.arrival = withOneNode.codeAfter [] owner.arrival ∧
      withOneNode.codeAfter [impostor, owner] again.arrival = .replayDetected := by
  intro impostor owner again
  have hne : Nonce.ofBytes [1] ≠ (mailLogin "machine-a").request.nonce := by decide
  have hin : Intrusion roomForOne [.login (mailLogin "machine-a")] [impostor, owner, again] "machine-a" [] :=
    intrusion_withOneNode (by decide) (by decide) (by decide)
  have h := disturbs_by_spent_nonce hin
  refine ⟨hin, ?_, ?_⟩
  · refine ((h [impostor] owner [again] rfl).2 rfl rfl rfl).1 ?_
    rintro time ⟨first, w, later, hsplit, -, hnonce, -⟩
    have hw : w ∈ [impostor] := hsplit ▸ List.mem_append_right _ List.mem_cons_self
    rw [List.mem_singleton.mp hw] at hnonce
    exact absurd hnonce (by decide)
  · refine ((h [impostor, owner] again [] rfl).2 rfl rfl rfl).2 0 (spent_returning hne [owner]) (by decide) ?_
    exact (credible_returning _ _).after

end Taken

end Coordinator

end FrameGateway
