import FrameGateway.Proofs.Cluster.Likeness
import FrameGateway.Proofs.Cluster.Roster
/-! The answer to a login. Whatever becomes of it is said once (`Coordinator.answered`); that it is the
first objection in the order of the checks, and what it leaves behind, is read off there
(`Coordinator.answers_first_objection`). -/

namespace FrameGateway

/-- A login as it comes to a coordinator, and what the clocks read then. -/
structure Arrival where
  request : LoginRequest
  /-- milliseconds since 1970 -/
  now : UInt64
  /-- nanoseconds of the steady clock -/
  clock : Nat

namespace Arrival

def machineId (a : Arrival) : String := a.request.machineId

def key (a : Arrival) : NonceKey := ⟨a.request.machineId, a.request.nonce⟩

end Arrival

namespace Coordinator

def handle (c : Coordinator) (a : Arrival) : Coordinator × LoginResponse := c.login a.request a.now a.clock

/-- The cache's look at the nonce of a login: the cache afterwards, and whether it has known the nonce. -/
def look (c : Coordinator) (a : Arrival) : ReplayCache × Bool :=
  c.seen.check a.clock a.request.machineId a.request.nonce

/-- The request is fresh, and signed under its key: its nonce is looked at. -/
def Credible (c : Coordinator) (a : Arrival) : Prop :=
  isFresh a.request.timestamp a.now c.window = true ∧
    c.verifier a.request.publicKey a.request.payload a.request.signature = .ok ()

/-- All that speaks against a login, in the order of the checks: its age, its key or its signature, its
nonce, another key of the machine, and want of room for the machine. -/
def objections (c : Coordinator) (a : Arrival) : List ErrorCode :=
  (if isFresh a.request.timestamp a.now c.window then [] else [.staleRequest]) ++
  ((match c.verifier a.request.publicKey a.request.payload a.request.signature with
    | .ok _ => []
    | .error (.invalidPublicKey _) => [.invalidPublicKey]
    | .error _ => [.invalidSignature]) ++
  ((if (c.look a).2 then [.replayDetected] else []) ++
  ((if (c.nodes.recordOf? a.machineId).any (·.publicKey ≠ a.request.publicKey) then [.machineKeyMismatch]
    else []) ++
  if (c.nodes.recordOf? a.machineId).isNone ∧ c.nodes.capacity ≤ c.nodes.size then [.registryFull] else [])))

inductive Answered (c : Coordinator) (a : Arrival) : Coordinator × LoginResponse → Prop
  | incredible (code : ErrorCode) (h : ¬c.Credible a)
      (hcode : code ∈ [.staleRequest, .invalidPublicKey, .invalidSignature])
      (hfirst : (c.objections a).head? = some code) :
    Answered c a ({ c with counters := c.counters.loginRejected }, c.respond a.request code none)
  | replayed (h : c.Credible a) (hseen : (c.look a).2 = true) :
    Answered c a ({ c with seen := (c.look a).1, counters := c.counters.loginRejected },
      c.respond a.request .replayDetected none)
  | mismatch (h : c.Credible a) (hnew : (c.look a).2 = false) (r : NodeRecord)
      (hr : c.nodes.recordOf? a.machineId = some r) (hkey : r.publicKey ≠ a.request.publicKey) :
    Answered c a ({ c with seen := (c.look a).1, counters := c.counters.loginRejected },
      c.respond a.request .machineKeyMismatch none)
  | full (h : c.Credible a) (hnew : (c.look a).2 = false) (hn : c.nodes.recordOf? a.machineId = none)
      (hfull : c.nodes.capacity ≤ c.nodes.size) :
    Answered c a ({ c with seen := (c.look a).1, counters := c.counters.loginRejected },
      c.respond a.request .registryFull none)
  | entered (h : c.Credible a) (hnew : (c.look a).2 = false)
      (hadm : c.nodes.Admits a.machineId a.request.publicKey) :
    Answered c a
      ({ c with
          seen := (c.look a).1
          nodes := (c.nodes.enter a.machineId a.request.publicKey a.request.services).1
          counters := c.counters.loginAccepted },
        c.respond a.request .success (some ⟨c.nodes.nextId⟩))

@[simp] theorem errorCode_respond (c : Coordinator) (request : LoginRequest) (code : ErrorCode)
    (id : Option NodeId) : (c.respond request code id).errorCode = code := rfl

theorem ne_success_of_mem {code : ErrorCode}
    (h : code ∈ [.staleRequest, .invalidPublicKey, .invalidSignature]) : code ≠ .success := by
  rintro rfl
  simp at h

theorem answered (c : Coordinator) (a : Arrival) : c.Answered a (c.handle a) := by
  rw [handle, login_eq]
  by_cases hf : isFresh a.request.timestamp a.now c.window
  · cases hv : c.verifier a.request.publicKey a.request.payload a.request.signature with
    | error e =>
      have hn : ¬c.Credible a := by
        rintro ⟨-, hok⟩
        rw [hv] at hok
        cases hok
      rw [validate, if_neg (by simp [hf]), hv]
      cases e with
      | invalidPublicKey t =>
        exact .incredible .invalidPublicKey hn (by decide) (by simp [objections, hf, hv])
      | malformedSignature n m =>
        exact .incredible .invalidSignature hn (by decide) (by simp [objections, hf, hv])
      | verifyFailed =>
        exact .incredible .invalidSignature hn (by decide) (by simp [objections, hf, hv])
    | ok _ =>
      rw [validate_of_fresh hf hv]
      cases hseen : (c.look a).2 with
      | true =>
        rw [look] at hseen
        rw [hseen, if_pos rfl]
        exact .replayed ⟨hf, hv⟩ hseen
      | false =>
        have hreg := c.nodes.registered a.machineId a.request.publicKey a.request.services
        have hs := hseen
        rw [look] at hs
        rw [hs, if_neg Bool.false_ne_true]
        dsimp only [conclude]
        rw [Arrival.machineId] at hreg
        generalize c.nodes.register a.request.machineId a.request.publicKey a.request.services = out at hreg
        cases hreg with
        | mismatch r hr hkey => exact .mismatch ⟨hf, hv⟩ hseen r hr hkey
        | full hn hfull => exact .full ⟨hf, hv⟩ hseen hn hfull
        | entered hadm => exact .entered ⟨hf, hv⟩ hseen hadm
  · have hn : ¬c.Credible a := fun h => hf h.1
    rw [validate, if_pos (by simp [hf])]
    exact .incredible .staleRequest hn (by decide) (by simp [objections, hf])

theorem Credible.objections_eq {c : Coordinator} {a : Arrival} (h : c.Credible a) : c.objections a =
    (if (c.look a).2 then [.replayDetected] else []) ++
    ((if (c.nodes.recordOf? a.machineId).any (·.publicKey ≠ a.request.publicKey) then [.machineKeyMismatch]
      else []) ++
    if (c.nodes.recordOf? a.machineId).isNone ∧ c.nodes.capacity ≤ c.nodes.size then [.registryFull]
      else []) := by
  rw [objections, if_pos h.1, h.2, List.nil_append, List.nil_append]

theorem head?_objections (c : Coordinator) (a : Arrival) :
    (c.objections a).head? = if (c.handle a).2.errorCode = .success then none else some (c.handle a).2.errorCode := by
  have h := c.answered a
  generalize c.handle a = out at h
  cases h with
  | incredible code h hcode hfirst => simp [hfirst, ne_success_of_mem hcode]
  | replayed h hseen => simp [h.objections_eq, hseen]
  | mismatch h hnew r hr hkey => simp [h.objections_eq, hnew, hr, hkey]
  | full h hnew hn hfull => simp [h.objections_eq, hnew, hn, hfull]
  | entered h hnew hadm =>
    rcases hadm with ⟨r, hr, hkey⟩ | ⟨hn, hfree⟩
    · simp [h.objections_eq, hnew, hr, hkey]
    · simp [h.objections_eq, hnew, hn, hfree]

/-- Every answer bears the coordinator's key, and its signature over the outcome and the nonce. -/
theorem signed_respond (c : Coordinator) (request : LoginRequest) (code : ErrorCode) (id : Option NodeId) :
    (c.respond request code id).publicKey = c.keys.publicKey ∧
      (c.respond request code id).signature =
        c.keys.sign ((c.respond request code id).payload request.nonce) := ⟨rfl, rfl⟩

theorem signed_handle (c : Coordinator) (a : Arrival) : (c.handle a).2.publicKey = c.keys.publicKey ∧
    (c.handle a).2.signature = c.keys.sign ((c.handle a).2.payload a.request.nonce) := by
  have h := c.answered a
  generalize c.handle a = out at h
  cases h <;> exact signed_respond ..

theorem errorCode_handle (c : Coordinator) (a : Arrival) :
    (c.handle a).2.errorCode = (c.objections a).headD .success := by
  have h := c.head?_objections a
  rw [List.headD_eq_head?_getD, h]
  split
  next hs => exact hs
  next => rfl

/-- The answer to a login is the first objection in the order of the checks, and success where there is none.
It is signed over its outcome and the nonce. A login that is turned away gets no id, is counted as
rejected and leaves the nodes as they were, and the nonces too if its own was not looked at. One that
gets in is counted as accepted. It gets an id that has never been given out, as long as fewer than
`2 ^ 64 - 1` have been, and its record takes the place of the machine's record before it. -/
theorem answers_first_objection (c : Coordinator) (a : Arrival) :
    let d := (c.handle a).1
    let r := (c.handle a).2
    (r.errorCode = (c.objections a).headD .success ∧ (r.errorCode = .success ↔ c.objections a = [])) ∧
    (r.publicKey = c.keys.publicKey ∧ r.signature = c.keys.sign (r.payload a.request.nonce)) ∧
    (r.errorCode ≠ .success → r.nodeId = none ∧ d.nodes = c.nodes ∧
      d.counters = { c.counters with loginsRejected := c.counters.loginsRejected + 1 }) ∧
    (r.errorCode ∈ [.staleRequest, .invalidPublicKey, .invalidSignature] → d.seen = c.seen) ∧
    (r.errorCode = .success →
      d.counters = { c.counters with loginsAccepted := c.counters.loginsAccepted + 1 } ∧
      ∃ id, r.nodeId = some id ∧ d.nodes.nextId = c.nodes.nextId + 1 ∧
        d.nodes.capacity = c.nodes.capacity ∧
        (∀ m, d.nodes.nodeOf? m = if m = a.machineId then some id else c.nodes.nodeOf? m) ∧
        ∀ s : Roster, s.Reached → c.nodes = s.table → s.given.length < 2 ^ 64 - 1 →
          id ∉ s.given ∧ d.nodes.nodes = c.nodes.nodes.filter (·.machineId != a.machineId) ++
            [⟨id, a.machineId, a.request.publicKey, a.request.services⟩]) := by
  have hnone : (c.handle a).2.errorCode = .success ↔ c.objections a = [] := by
    rw [← List.head?_eq_none_iff, head?_objections]
    split
    next hs => exact iff_of_true hs rfl
    next hs => exact iff_of_false hs nofun
  refine ⟨⟨c.errorCode_handle a, hnone⟩, c.signed_handle a, ?_⟩
  have h := c.answered a
  generalize c.handle a = out at h
  cases h with
  | incredible code h hcode hfirst =>
    exact ⟨fun _ => ⟨rfl, rfl, rfl⟩, fun _ => rfl, fun hs => absurd hs (ne_success_of_mem hcode)⟩
  | replayed h hseen => exact ⟨fun _ => ⟨rfl, rfl, rfl⟩, fun hm => by simp at hm, nofun⟩
  | mismatch h hnew r hr hkey => exact ⟨fun _ => ⟨rfl, rfl, rfl⟩, fun hm => by simp at hm, nofun⟩
  | full h hnew hn hfull => exact ⟨fun _ => ⟨rfl, rfl, rfl⟩, fun hm => by simp at hm, nofun⟩
  | entered h hnew hadm =>
    refine ⟨fun hs => absurd rfl hs, fun hm => by simp at hm, fun _ => ⟨rfl, ⟨c.nodes.nextId⟩, rfl,
      NodeTable.nextId_enter .., NodeTable.capacity_enter .., fun m => NodeTable.nodeOf?_enter ..,
      fun s hs ht hlt => ?_⟩⟩
    have hk := hs.kept hlt
    rw [ht]
    exact ⟨fun hm => NodeTable.Kept.next_ne hk hm rfl, NodeTable.Kept.nodes_enter hk⟩

/-- A machine that is known comes back under its key: it gets a third id, and its new record stands behind the others,
in the place of the old one. -/
theorem answers_first_objection_on_return :
    let s : Roster := (Roster.create 4096).run [.register "machine-a" [1] [], .register "machine-b" [2] []]
    let c : Coordinator :=
      { Coordinator.create ⟨[], 0, [], []⟩ {} with verifier := fun _ _ _ => .ok (), nodes := s.table }
    let a : Arrival :=
      ⟨⟨[], [1], "machine-a", [⟨"chat", "10.0.0.1", 7300⟩], 10000, .replicate 16 0⟩, 10000, 0⟩
    s.Reached ∧ s.given = [⟨1⟩, ⟨2⟩] ∧ (c.handle a).2.errorCode = .success ∧
      ∃ id, (c.handle a).2.nodeId = some id ∧ id ∉ [⟨1⟩, ⟨2⟩] ∧ (c.handle a).1.nodes.nodeOf? "machine-a" = some id ∧
        (c.handle a).1.nodes.nodes = [⟨⟨2⟩, "machine-b", [2], []⟩,
          ⟨id, "machine-a", [1], [⟨"chat", "10.0.0.1", 7300⟩]⟩] := by
  intro s c a
  have hreached : s.Reached := ⟨4096, _, rfl⟩
  have hgiven : s.given = [⟨1⟩, ⟨2⟩] := by decide
  have hnodes : c.nodes.nodes = [⟨⟨1⟩, "machine-a", [1], []⟩, ⟨⟨2⟩, "machine-b", [2], []⟩] := by decide
  have hrecord : c.nodes.recordOf? a.machineId = some ⟨⟨1⟩, "machine-a", [1], []⟩ := by decide
  have hnew : (c.look a).2 = false :=
    ((ReplayCache.knows_create ({} : ClusterConfig).replayTtl
      ({} : ClusterConfig).replayCapacity.toNat).check 0 a.machineId a.request.nonce).2.1
  have hcred : c.Credible a := ⟨by decide, rfl⟩
  have hnone : c.objections a = [] := by
    rw [hcred.objections_eq, hnew, hrecord]
    rfl
  obtain ⟨⟨-, hiff⟩, -, -, -, hin⟩ := answers_first_objection c a
  have hs := hiff.mpr hnone
  obtain ⟨-, id, hid, -, -, hindex, hentered⟩ := hin hs
  obtain ⟨hfresh, hlisted⟩ := hentered s hreached rfl (by rw [hgiven]; decide)
  refine ⟨hreached, hgiven, hs, id, hid, hgiven ▸ hfresh, ?_, ?_⟩
  · exact (hindex a.machineId).trans (if_pos rfl)
  · rw [hlisted, hnodes]
    rfl

end Coordinator

end FrameGateway
