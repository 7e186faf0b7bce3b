import FrameGateway.Cluster.Node
import FrameGateway.Proofs.Cluster.Calls
import FrameGateway.Proofs.Cluster.SignedBytes
/-! A node and a coordinator agree on what became of a login. The node takes every genuine answer as the
coordinator means it, and takes an id from no other; what is signed leaves no doubt, so the id was given out
in an answer to a request with the node's nonce (`ClusterNode.agrees_with_coordinator`). -/

namespace FrameGateway

/-- No two of these byte strings have one digest. -/
def NoCollision (texts : List Bytes) : Prop := ∀ t ∈ texts, ∀ t' ∈ texts, sha256 t = sha256 t' → t = t'

theorem noCollision_twice (t : Bytes) : NoCollision [t, t] := by
  intro s hs s' hs' _
  simp only [List.mem_cons, List.not_mem_nil, or_false, or_self] at hs hs'
  rw [hs, hs']

/-- What is signed under a coordinator's keys: the answers to logins, each by the coordinator as it was then,
and requests, should the owner of the keys join a cluster as well. -/
structure SigningLog where
  answered : List (Coordinator × Arrival)
  requests : List LoginRequest

namespace SigningLog

def texts (log : SigningLog) : List Bytes :=
  log.answered.map (fun (c, a) => (c.handle a).2.signedBytes a.request.nonce) ++
    log.requests.map (·.signedBytes)

/-- Whatever has the digest of something signed is an answer that was signed, to the nonce that was asked. -/
theorem answered_of_payload {log : SigningLog} {r : LoginResponse} {nonce : Nonce}
    (hsigned : r.payload nonce ∈ log.texts.map sha256) (hnc : NoCollision (r.signedBytes nonce :: log.texts)) :
    ∃ c a, (c, a) ∈ log.answered ∧ a.request.nonce = nonce ∧ (c.handle a).2.errorCode = r.errorCode ∧
      (c.handle a).2.nodeId = r.nodeId ∧ c.keys.publicKey = r.publicKey := by
  obtain ⟨t, ht, hdigest⟩ := List.mem_map.mp hsigned
  have heq := hnc t (List.mem_cons_of_mem _ ht) _ List.mem_cons_self hdigest
  rcases List.mem_append.mp ht with ht | ht
  · obtain ⟨⟨c, a⟩, hmem, rfl⟩ := List.mem_map.mp ht
    obtain ⟨hcode, hid, hkey, hnonce⟩ := LoginResponse.signedBytes_inj heq
    exact ⟨c, a, hmem, hnonce, hcode, hid, (c.signed_handle a).1.symm.trans hkey⟩
  · obtain ⟨q, -, rfl⟩ := List.mem_map.mp ht
    exact absurd heq.symm (r.signedBytes_ne nonce q)

end SigningLog

namespace NodeTable

variable {t : NodeTable} {given : List NodeId} {machineId : String} {publicKey : Bytes}
  {services : List Service}

theorem Kept.get?_next (h : t.Kept given) : t.get? ⟨t.nextId⟩ = none :=
  get?_eq_none_iff.mpr fun r hr => h.next_ne (h.issued r hr)

end NodeTable

namespace ClusterNode

variable {n : ClusterNode} {request : LoginRequest} {response : LoginResponse} {id : NodeId}

/-- The table has the node under that id, with its machine, its key and its services. -/
def ListedIn (n : ClusterNode) (t : NodeTable) (id : NodeId) : Prop :=
  ∃ r, t.get? id = some r ∧ r.machineId = n.machineId ∧ r.publicKey = n.keys.publicKey ∧
    r.services = n.services

/-- A node that is entered is listed anew under the next id, and under no other. -/
theorem listedIn_enter_iff {t : NodeTable} {given : List NodeId} (h : t.Kept given) :
    (n.ListedIn (t.enter n.machineId n.keys.publicKey n.services).1 id ∧ ¬n.ListedIn t id) ↔
      id = ⟨t.nextId⟩ := by
  constructor
  · rintro ⟨⟨r, hr, hm, -, -⟩, -⟩
    have hid : r.nodeId = id := by simpa using List.find?_some hr
    have hmem := List.mem_of_find?_eq_some hr
    rw [h.nodes_enter] at hmem
    rcases List.mem_append.mp hmem with hold | hnew
    · simp [hm] at hold
    · rw [← hid, List.mem_singleton.mp hnew]
  · rintro rfl
    refine ⟨⟨_, h.get?_enter_next, rfl, rfl, rfl⟩, ?_⟩
    rintro ⟨r, hr, -⟩
    rw [h.get?_next] at hr
    cases hr

/-- The answer bears the key that is pinned, if any, and a signature over itself and the nonce. -/
structure Trusts (n : ClusterNode) (request : LoginRequest) (response : LoginResponse) : Prop where
  pinned : ∀ key, n.coordinatorKey = some key → response.publicKey = key
  verified : n.verifier response.publicKey (response.payload request.nonce) response.signature = .ok ()

def outcomeOf (response : LoginResponse) : Except Fault LoginOutcome :=
  if response.errorCode ≠ .success then .ok (.rejected response.errorCode)
  else match response.nodeId with
    | none => .error .missingNodeId
    | some id => .ok (.registered id)

theorem outcome_of_trusts (h : n.Trusts request response) : n.outcome request response = outcomeOf response := by
  have hpinned : n.coordinatorKey.any (· ≠ response.publicKey) = false := by
    cases hkey : n.coordinatorKey with
    | none => rfl
    | some key => simp [h.pinned key hkey]
  rw [outcome, hpinned, if_neg Bool.false_ne_true, h.verified]
  rfl

theorem trusts_of_outcome {o : LoginOutcome} (h : n.outcome request response = .ok o) :
    n.Trusts request response := by
  rw [outcome] at h
  split at h
  next => cases h
  next hkey =>
    refine ⟨fun key hp => ?_, ?_⟩
    · rw [hp, Option.any_some, decide_eq_true_eq] at hkey
      exact (not_not.mp hkey).symm
    · cases hv : n.verifier response.publicKey (response.payload request.nonce) response.signature with
      | ok => rfl
      | error e =>
        rw [hv] at h
        cases h

theorem accept_snd : (n.accept request response).2 = n.outcome request response := by
  rw [accept]
  rcases n.outcome request response with e | ⟨id⟩ | ⟨code⟩
  · rfl
  · rfl
  · rfl

/-- Only an id that is taken changes the node. -/
theorem accept_fst : (n.accept request response).1 = match n.outcome request response with
    | .ok (.registered id) => { n with nodeId := some id }
    | _ => n := by
  rw [accept]
  rcases n.outcome request response with e | ⟨id⟩ | ⟨code⟩
  · rfl
  · rfl
  · rfl

theorem outcomeOf_eq_registered_iff : outcomeOf response = .ok (.registered id) ↔
    response.errorCode = .success ∧ response.nodeId = some id := by
  rw [outcomeOf]
  by_cases hc : response.errorCode = .success
  · cases hid : response.nodeId with
    | none => simp [hc]
    | some id' => simp [hc]
  · simp [hc]

/-- When an id is taken: from a success with that id, under the pinned key and well signed. -/
theorem outcome_eq_registered_iff : n.outcome request response = .ok (.registered id) ↔
    n.Trusts request response ∧ response.errorCode = .success ∧ response.nodeId = some id := by
  constructor
  · intro h
    have ht := trusts_of_outcome h
    rw [outcome_of_trusts ht] at h
    exact ⟨ht, outcomeOf_eq_registered_iff.mp h⟩
  · rintro ⟨ht, htold⟩
    rw [outcome_of_trusts ht]
    exact outcomeOf_eq_registered_iff.mpr htold

section Genuine

variable {c : Coordinator} {a : Arrival}

/-- What a node makes of a genuine answer. -/
theorem outcome_of_handle (ht : n.Trusts a.request (c.handle a).2) :
    n.outcome a.request (c.handle a).2 = if (c.handle a).2.errorCode = .success then
      .ok (.registered ⟨c.nodes.nextId⟩) else .ok (.rejected (c.handle a).2.errorCode) := by
  have hanswer := (c.handle_of_errorCode a).1
  rw [outcome_of_trusts ht, outcomeOf]
  by_cases hs : (c.handle a).2.errorCode = .success
  · have hid : (c.handle a).2.nodeId = some ⟨c.nodes.nextId⟩ := by
      rw [if_pos hs] at hanswer
      rw [hanswer]
      rfl
    rw [if_neg (not_not_intro hs), if_pos hs, hid]
  · rw [if_pos hs, if_neg hs]

theorem exists_outcome_of_handle (ht : n.Trusts a.request (c.handle a).2) :
    ∃ outcome, n.outcome a.request (c.handle a).2 = .ok outcome ∧
      (outcome = .rejected (c.handle a).2.errorCode ∨ ∃ id, outcome = .registered id) := by
  rw [outcome_of_handle ht]
  split
  next => exact ⟨_, rfl, .inr ⟨_, rfl⟩⟩
  next => exact ⟨_, rfl, .inl rfl⟩

theorem registered_of_handle_iff (ht : n.Trusts a.request (c.handle a).2) :
    n.outcome a.request (c.handle a).2 = .ok (.registered id) ↔
      (c.handle a).2.errorCode = .success ∧ id = ⟨c.nodes.nextId⟩ := by
  rw [outcome_of_handle ht]
  by_cases hs : (c.handle a).2.errorCode = .success
  · simp [hs, eq_comm]
  · simp [hs]

/-- Under which ids a login lists the node anew: under the next one if it succeeds, and under none else. -/
theorem listedIn_handle_iff {given : List NodeId} (h : c.nodes.Kept given)
    (hm : a.request.machineId = n.machineId) (hkey : a.request.publicKey = n.keys.publicKey)
    (hs : a.request.services = n.services) (id : NodeId) :
    (n.ListedIn (c.handle a).1.nodes id ∧ ¬n.ListedIn c.nodes id) ↔
      (c.handle a).2.errorCode = .success ∧ id = ⟨c.nodes.nextId⟩ := by
  rw [(c.handle_of_errorCode a).2]
  by_cases hcode : (c.handle a).2.errorCode = .success
  · rw [if_pos hcode, Arrival.machineId, hm, hkey, hs, listedIn_enter_iff h]
    exact (and_iff_right hcode).symm
  · rw [if_neg hcode]
    exact iff_of_false (fun h => h.2 h.1) fun h => hcode h.1

end Genuine

/-- A node and a coordinator agree. The node takes every genuine answer to a login of its own: it is
registered under an id exactly where the login has listed it under that id, and rejected with the
coordinator's code otherwise. Of all answers whatsoever, only one that registers the node changes its id.
Such an answer bears the pinned key and a signature over success, the id, that key and the nonce of the
request; so where signatures are not forged and digests do not collide, a coordinator with that key has given
the id out in an answer to a request with that nonce. -/
theorem agrees_with_coordinator (n : ClusterNode) :
    (∀ (timestamp : UInt64) (nonce : Nonce) (c : Coordinator) (now : UInt64) (clock : Nat),
      let request := n.request timestamp nonce
      let d := (c.login request now clock).1
      let response := (c.login request now clock).2
      (∀ key, n.coordinatorKey = some key → key = c.keys.publicKey) →
      n.verifier c.keys.publicKey (response.payload nonce) (c.keys.sign (response.payload nonce)) = .ok () →
      ∃ outcome, (n.accept request response).2 = .ok outcome ∧
        (outcome = .rejected response.errorCode ∨ ∃ id, outcome = .registered id) ∧
        ∀ s : Roster, s.Reached → c.nodes = s.table → s.given.length < 2 ^ 64 - 1 →
          ∀ id, outcome = .registered id ↔ n.ListedIn d.nodes id ∧ ¬n.ListedIn c.nodes id) ∧
    ∀ (request : LoginRequest) (response : LoginResponse),
      ((n.accept request response).1.nodeId ≠ n.nodeId →
        ∃ id, (n.accept request response).2 = .ok (.registered id)) ∧
      ∀ id, (n.accept request response).2 = .ok (.registered id) →
        let signed : LoginResponse := ⟨.success, [], response.publicKey, some id⟩
        (n.accept request response).1.nodeId = some id ∧
        (∀ key, n.coordinatorKey = some key → response.publicKey = key) ∧
        n.verifier response.publicKey (signed.payload request.nonce) response.signature = .ok () ∧
        ∀ log : SigningLog,
          (n.verifier response.publicKey (signed.payload request.nonce) response.signature = .ok () →
            signed.payload request.nonce ∈ log.texts.map sha256) →
          NoCollision (signed.signedBytes request.nonce :: log.texts) →
          ∃ c a, (c, a) ∈ log.answered ∧ c.keys.publicKey = response.publicKey ∧
            a.request.nonce = request.nonce ∧ (c.handle a).2.errorCode = .success ∧
            (c.handle a).2.nodeId = some id := by
  refine ⟨fun timestamp nonce c now clock => ?_, fun request response => ⟨fun hchanged => ?_, fun id h => ?_⟩⟩
  · intro request d response hpinned hverified
    let a : Arrival := ⟨request, now, clock⟩
    obtain ⟨hkey, hsignature⟩ := c.signed_handle a
    have ht : n.Trusts a.request (c.handle a).2 :=
      ⟨fun key hk => hkey.trans (hpinned key hk).symm, by rw [hsignature, hkey]; exact hverified⟩
    obtain ⟨outcome, hout, hcases⟩ := exists_outcome_of_handle ht
    refine ⟨outcome, accept_snd.trans hout, hcases, fun s hs htable hlt id => ?_⟩
    have hk : c.nodes.Kept s.given := htable ▸ hs.kept hlt
    have hlisted := listedIn_handle_iff (n := n) (a := a) hk rfl rfl rfl id
    rw [← registered_of_handle_iff ht, hout] at hlisted
    exact ⟨fun he => hlisted.mpr (congrArg _ he), fun hin => Except.ok.inj (hlisted.mp hin)⟩
  · rw [accept_fst] at hchanged
    rw [accept_snd]
    split at hchanged
    next id h => exact ⟨id, h⟩
    next => exact absurd rfl hchanged
  · intro signed
    rw [accept_snd] at h
    obtain ⟨⟨hpinned, hverified⟩, hcode, hid⟩ := outcome_eq_registered_iff.mp h
    rw [LoginResponse.payload, LoginResponse.signedBytes_eq_of hcode hid] at hverified
    refine ⟨by rw [accept_fst, h], hpinned, hverified, fun log hunforged hnc => ?_⟩
    obtain ⟨c, a, hmem, hnonce, hcode, hid, hkey⟩ := SigningLog.answered_of_payload (hunforged hverified) hnc
    exact ⟨c, a, hmem, hkey, hnonce, hcode, hid⟩

def trustingCoordinator : Coordinator :=
  { Coordinator.create ⟨[], 0, [], []⟩ {} with verifier := fun _ _ _ => .ok () }

/-- Takes the signatures of one pair of keys for good, and no others. -/
def signedBy (keys : KeyPair) : Verifier := fun _ msg sig =>
  if sig = keys.sign msg then .ok () else .error .verifyFailed

theorem signedBy_sign (keys : KeyPair) (key msg : Bytes) : signedBy keys key msg (keys.sign msg) = .ok () :=
  if_pos rfl

def pinnedNode : ClusterNode where
  keys := ⟨[], 0, [], [1]⟩
  machineId := "machine-a"
  services := [⟨"chat", "10.0.0.1", 7300⟩]
  verifier := signedBy trustingCoordinator.keys
  coordinatorKey := some trustingCoordinator.keys.publicKey

theorem verifier_pinnedNode : pinnedNode.verifier = signedBy trustingCoordinator.keys := rfl

abbrev firstLogin : Arrival := ⟨pinnedNode.request 10000 (.replicate 16 0), 10000, 0⟩

theorem credible_firstLogin : trustingCoordinator.Credible firstLogin :=
  ⟨(by decide : isFresh 10000 10000 trustingCoordinator.window = true), rfl⟩

theorem look_firstLogin : (trustingCoordinator.look firstLogin).2 = false :=
  ((ReplayCache.knows_create ({} : ClusterConfig).replayTtl
    ({} : ClusterConfig).replayCapacity.toNat).check 0 firstLogin.machineId firstLogin.request.nonce).2.1

theorem handle_firstLogin : (trustingCoordinator.handle firstLogin).2.errorCode = .success :=
  Coordinator.success_of_admits credible_firstLogin look_firstLogin (.inr ⟨rfl, by decide⟩)

theorem listedIn_firstLogin :
    pinnedNode.ListedIn (trustingCoordinator.handle firstLogin).1.nodes ⟨trustingCoordinator.nodes.nextId⟩ ∧
    ¬pinnedNode.ListedIn trustingCoordinator.nodes ⟨trustingCoordinator.nodes.nextId⟩ :=
  (listedIn_handle_iff (NodeTable.kept_create 4096) rfl rfl rfl _).mpr ⟨handle_firstLogin, rfl⟩

/-- Two machines have registered by now, and that of `pinnedNode` is the second of them. -/
def twoMachines : Roster := (Roster.create 4096).run [.register "machine-b" [2] [], .register "machine-a" [1] []]

/-- The machine of `pinnedNode` comes back, with a service, and gets a third id. -/
theorem agrees_with_coordinator_on_return :
    let c : Coordinator := { trustingCoordinator with nodes := twoMachines.table }
    let request := firstLogin.request
    let d := (c.handle firstLogin).1
    let response := (c.handle firstLogin).2
    twoMachines.Reached ∧ twoMachines.given = [⟨1⟩, ⟨2⟩] ∧
      (pinnedNode.accept request response).2 = .ok (.registered ⟨3⟩) ∧ pinnedNode.ListedIn d.nodes ⟨3⟩ ∧
      ∃ c' a, (c', a) ∈ [(c, firstLogin)] ∧ c'.keys.publicKey = response.publicKey ∧
        a.request.nonce = request.nonce ∧ (c'.handle a).2.errorCode = .success ∧
        (c'.handle a).2.nodeId = some ⟨3⟩ := by
  intro c request d response
  have hreached : twoMachines.Reached := ⟨4096, _, rfl⟩
  have hgiven : twoMachines.given = [⟨1⟩, ⟨2⟩] := by decide
  have hfew : twoMachines.given.length < 2 ^ 64 - 1 := by rw [hgiven]; decide
  have hrecord : c.nodes.recordOf? firstLogin.machineId = some ⟨⟨2⟩, "machine-a", [1], []⟩ := by decide
  have hsuccess : (c.handle firstLogin).2.errorCode = .success :=
    Coordinator.success_of_admits credible_firstLogin look_firstLogin (.inl ⟨_, hrecord, rfl⟩)
  have hkept : c.nodes.Kept twoMachines.given := hreached.kept hfew
  have hlisted : pinnedNode.ListedIn d.nodes ⟨3⟩ ∧ ¬pinnedNode.ListedIn c.nodes ⟨3⟩ :=
    (listedIn_handle_iff hkept rfl rfl rfl _).mpr ⟨hsuccess, by decide⟩
  obtain ⟨hgenuine, hany⟩ := agrees_with_coordinator pinnedNode
  obtain ⟨outcome, hout, -, hiff⟩ := hgenuine 10000 (.replicate 16 0) c 10000 0
    (fun key hk => (Option.some.inj hk).symm) (by rw [verifier_pinnedNode]; exact signedBy_sign ..)
  have hregistered := (hiff twoMachines hreached rfl hfew _).mpr hlisted
  rw [hregistered] at hout
  obtain ⟨-, hcode, hid⟩ := outcome_eq_registered_iff.mp (accept_snd.symm.trans hout)
  obtain ⟨-, -, -, hissued⟩ := (hany request response).2 _ hout
  have hbytes : response.signedBytes request.nonce = _ := LoginResponse.signedBytes_eq_of hcode hid _
  have htexts : SigningLog.texts ⟨[(c, firstLogin)], []⟩ = [response.signedBytes request.nonce] := rfl
  have hanswer := hissued ⟨[(c, firstLogin)], []⟩
  rw [htexts, hbytes] at hanswer
  exact ⟨hreached, hgiven, hout, hlisted.1, hanswer (fun _ => List.mem_cons_self) (noCollision_twice _)⟩

/-- A login that comes again is rejected, although the node is listed from the first time on. -/
theorem listed_but_rejected : ¬∀ (n : ClusterNode) (timestamp : UInt64) (nonce : Nonce) (c : Coordinator)
    (now : UInt64) (clock : Nat) (s : Roster), s.Reached → c.nodes = s.table →
      s.given.length < 2 ^ 64 - 1 → (∀ key, n.coordinatorKey = some key → key = c.keys.publicKey) →
      (∀ msg, n.verifier c.keys.publicKey msg (c.keys.sign msg) = .ok ()) →
      ∀ id, (n.accept (n.request timestamp nonce) (c.login (n.request timestamp nonce) now clock).2).2 =
          .ok (.registered id) ↔
        n.ListedIn (c.login (n.request timestamp nonce) now clock).1.nodes id := by
  intro h
  let c := (trustingCoordinator.handle firstLogin).1
  let s : Roster := (Roster.create 4096).step (.register "machine-a" [1] pinnedNode.services)
  have hreached : s.Reached := ⟨4096, [.register "machine-a" [1] pinnedNode.services], rfl⟩
  have hnodes : c.nodes = s.table := by
    rw [(trustingCoordinator.handle_of_errorCode firstLogin).2, if_pos handle_firstLogin]
    rfl
  have hkeys : c.keys = trustingCoordinator.keys := (trustingCoordinator.judgement_handle firstLogin).1
  have hcode : (c.handle firstLogin).2.errorCode = .replayDetected := by
    have httl : c.seen.ttl = ({} : ClusterConfig).replayTtl :=
      ((Coordinator.remembers_create ⟨[], 0, [], []⟩ {} fun _ _ _ => .ok ()).handle (Nat.le_refl 0)).ttl
    refine Coordinator.replayed_of_marked credible_firstLogin.handle
      (Coordinator.marked_handle (ReplayCache.holds_create ..) credible_firstLogin look_firstLogin) ?_
    rw [httl]
    decide
  have hlisted : pinnedNode.ListedIn (c.handle firstLogin).1.nodes ⟨trustingCoordinator.nodes.nextId⟩ := by
    rw [Coordinator.nodes_of_rejected (by rw [hcode]; decide)]
    exact listedIn_firstLogin.1
  have hregistered := (h pinnedNode 10000 (.replicate 16 0) c 10000 0 s hreached hnodes (by decide)
    (fun key hk => by rw [hkeys]; exact (Option.some.inj hk).symm)
    (fun msg => by rw [hkeys, verifier_pinnedNode]; exact signedBy_sign ..) _).mpr hlisted
  obtain ⟨-, hsuccess, -⟩ := outcome_eq_registered_iff.mp (accept_snd.symm.trans hregistered)
  exact absurd (hcode.symm.trans hsuccess) (by decide)

end ClusterNode

end FrameGateway
