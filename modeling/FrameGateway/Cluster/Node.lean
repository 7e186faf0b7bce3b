import FrameGateway.Cluster.Signing
import FrameGateway.Fault
/-! The joining side of a login. A node takes an id only from an answer that is signed over that id and
the nonce of the node's own request. -/

namespace FrameGateway

structure ClusterNode where
  keys : KeyPair
  machineId : String
  services : List Service
  verifier : Verifier := Ed25519.verify
  /-- the only coordinator that is trusted; any, if there is none -/
  coordinatorKey : Option Bytes := none
  nodeId : Option NodeId := none

inductive LoginOutcome where
  | registered (id : NodeId)
  | rejected (code : ErrorCode)
  deriving DecidableEq

namespace ClusterNode

def request (n : ClusterNode) (timestamp : UInt64) (nonce : Nonce) : LoginRequest :=
  LoginRequest.signed ⟨[], n.keys.publicKey, n.machineId, n.services, timestamp, nonce⟩ n.keys

/-- The outcome that an answer stands for, once its key and its signature are trusted. -/
def outcome (n : ClusterNode) (request : LoginRequest) (response : LoginResponse) :
    Except Fault LoginOutcome :=
  if n.coordinatorKey.any (· ≠ response.publicKey) then .error .coordinatorKey
  else match n.verifier response.publicKey (response.payload request.nonce) response.signature with
    | .error _ => .error .coordinatorSignature
    | .ok () =>
      if response.errorCode ≠ .success then .ok (.rejected response.errorCode)
      else match response.nodeId with
        | none => .error .missingNodeId
        | some id => .ok (.registered id)

def accept (n : ClusterNode) (request : LoginRequest) (response : LoginResponse) :
    ClusterNode × Except Fault LoginOutcome :=
  match n.outcome request response with
  | .ok (.registered id) => ({ n with nodeId := some id }, .ok (.registered id))
  | r => (n, r)

end ClusterNode

end FrameGateway
