import FrameGateway.Cluster.Freshness
import FrameGateway.Cluster.NodeTable
import FrameGateway.Cluster.ReplayCache
import FrameGateway.Cluster.Signing
import FrameGateway.Config.Settings
import FrameGateway.Counters
/-! The coordinator of a cluster, which alone gives out node ids. A login is checked for its age, its
signature, its nonce and its machine, in this order; every answer is signed over its outcome and the
nonce of the request. -/

namespace FrameGateway

structure Coordinator where
  keys : KeyPair
  verifier : Verifier
  nodes : NodeTable
  seen : ReplayCache
  /-- how old a request may be -/
  window : Duration
  counters : Counters

namespace Coordinator

def create (keys : KeyPair) (config : ClusterConfig) : Coordinator where
  keys := keys
  verifier := Ed25519.verify
  nodes := .create config.maxNodes.toNat
  seen := .create config.replayTtl config.replayCapacity.toNat
  window := config.timestampWindow
  counters := {}

def respond (c : Coordinator) (request : LoginRequest) (code : ErrorCode) (nodeId : Option NodeId) :
    LoginResponse :=
  LoginResponse.signed ⟨code, [], c.keys.publicKey, nodeId⟩ c.keys request.nonce

/-- The checks before the registration. The nonce comes last, so that nobody can fill the cache
without a valid signature. -/
def validate (c : Coordinator) (request : LoginRequest) (now : UInt64) (clock : Nat) :
    Coordinator × Except ErrorCode Unit :=
  if !isFresh request.timestamp now c.window then (c, .error .staleRequest)
  else match c.verifier request.publicKey request.payload request.signature with
    | .error (.invalidPublicKey _) => (c, .error .invalidPublicKey)
    | .error _ => (c, .error .invalidSignature)
    | .ok () =>
      let (seen, replayed) := c.seen.check clock request.machineId request.nonce
      ({ c with seen }, if replayed then .error .replayDetected else .ok ())

def enroll (c : Coordinator) (request : LoginRequest) (now : UInt64) (clock : Nat) :
    Coordinator × Except ErrorCode NodeId :=
  match c.validate request now clock with
  | (c, .error code) => (c, .error code)
  | (c, .ok ()) =>
    let (nodes, r) := c.nodes.register request.machineId request.publicKey request.services
    ({ c with nodes }, r.mapError (·.errorCode))

def login (c : Coordinator) (request : LoginRequest) (now : UInt64) (clock : Nat) :
    Coordinator × LoginResponse :=
  match c.enroll request now clock with
  | (c, .ok id) => ({ c with counters := c.counters.loginAccepted }, c.respond request .success (some id))
  | (c, .error code) => ({ c with counters := c.counters.loginRejected }, c.respond request code none)

/-- What becomes of a login by the wall clock, which may be unreadable: before the epoch, say. -/
def loginByClock (c : Coordinator) (request : LoginRequest) (now : Option UInt64) (clock : Nat) :
    Coordinator × LoginResponse :=
  match now with
  | none => (c, c.respond request .internalError none)
  | some now => c.login request now clock

def query (c : Coordinator) (request : QueryRequest) : QueryResponse :=
  match c.nodes.findService? request.serviceName with
  | some (id, s) => ⟨.success, some id, s.name, s.address, s.port⟩
  | none => .notFound request.serviceName

/-- Takes a node out of the cluster; was it live? -/
def unregister (c : Coordinator) (id : NodeId) : Coordinator × Bool :=
  let (nodes, r) := c.nodes.unregister id
  ({ c with nodes }, r.isSome)

end Coordinator

end FrameGateway
