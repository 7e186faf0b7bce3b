import FrameGateway.Cluster.Coordinator
/-! The two halves of a login: the checks, which touch the cache alone, and the registration, which touches
the nodes alone. Other logins may come in between. -/

namespace FrameGateway

namespace Coordinator

/-- The end of a login that has passed its checks. -/
def conclude (c : Coordinator) (request : LoginRequest) : Coordinator × LoginResponse :=
  match c.nodes.register request.machineId request.publicKey request.services with
  | (nodes, .ok id) =>
    ({ c with nodes, counters := c.counters.loginAccepted }, c.respond request .success (some id))
  | (nodes, .error e) =>
    ({ c with nodes, counters := c.counters.loginRejected }, c.respond request e.errorCode none)

theorem login_eq (c : Coordinator) (request : LoginRequest) (now : UInt64) (clock : Nat) :
    c.login request now clock = match c.validate request now clock with
      | (d, .ok ()) => d.conclude request
      | (d, .error code) =>
        ({ d with counters := d.counters.loginRejected }, d.respond request code none) := by
  unfold login enroll
  rcases c.validate request now clock with ⟨d, code | _⟩
  · rfl
  · dsimp only [conclude]
    rcases d.nodes.register request.machineId request.publicKey request.services with ⟨nodes, e | id⟩
    · rfl
    · rfl

theorem validate_of_fresh {c : Coordinator} {request : LoginRequest} {now : UInt64}
    (hf : isFresh request.timestamp now c.window)
    (hv : c.verifier request.publicKey request.payload request.signature = .ok ()) (clock : Nat) :
    c.validate request now clock =
      ({ c with seen := (c.seen.check clock request.machineId request.nonce).1 },
        if (c.seen.check clock request.machineId request.nonce).2 then .error .replayDetected
        else .ok ()) := by
  rw [validate, if_neg (by simp [hf]), hv]

/-- A request that is not fresh or not signed leaves no trace; any other one is up to its nonce. -/
theorem validate_cases (c : Coordinator) (request : LoginRequest) (now : UInt64) (clock : Nat) :
    (∃ code, code ≠ .success ∧ c.validate request now clock = (c, .error code)) ∨
      (isFresh request.timestamp now c.window ∧
        c.validate request now clock =
          ({ c with seen := (c.seen.check clock request.machineId request.nonce).1 },
            if (c.seen.check clock request.machineId request.nonce).2 then .error .replayDetected
            else .ok ())) := by
  by_cases hf : isFresh request.timestamp now c.window
  · cases hv : c.verifier request.publicKey request.payload request.signature with
    | ok _ => exact .inr ⟨hf, validate_of_fresh hf hv clock⟩
    | error e =>
      rw [validate, if_neg (by simp [hf]), hv]
      cases e with
      | invalidPublicKey t => exact .inl ⟨.invalidPublicKey, by decide, rfl⟩
      | malformedSignature n m => exact .inl ⟨.invalidSignature, by decide, rfl⟩
      | verifyFailed => exact .inl ⟨.invalidSignature, by decide, rfl⟩
  · rw [validate, if_pos (by simp [hf])]
    exact .inl ⟨.staleRequest, by decide, rfl⟩

end Coordinator

namespace NodeTable

variable {t : NodeTable} {machineId : String} {publicKey : Bytes} {services : List Service}

theorem register_of_none (h : (t.nodeOf? machineId).bind t.get? = none) (hroom : t.size < t.capacity) :
    t.register machineId publicKey services =
      ((t.enter machineId publicKey services).1, .ok (t.enter machineId publicKey services).2) := by
  rw [register, h]
  exact if_neg (by omega)

theorem register_of_some {r : NodeRecord} (h : (t.nodeOf? machineId).bind t.get? = some r)
    (hkey : r.publicKey = publicKey) :
    t.register machineId publicKey services =
      ((t.enter machineId publicKey services).1, .ok (t.enter machineId publicKey services).2) := by
  rw [register, h]
  exact if_neg (not_not_intro hkey)

end NodeTable

end FrameGateway
