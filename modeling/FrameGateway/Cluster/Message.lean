import FrameGateway.Digest.Sha256
import FrameGateway.Text.Utf8
/-! The messages of the cluster: nodes log in at a coordinator and look services up. What is signed is
the digest of a byte string that holds every field but the signature, each text behind its length. -/

namespace FrameGateway

inductive ErrorCode where
  | success | invalidSignature | invalidPublicKey | staleRequest | replayDetected | serviceNotFound
  | internalError | machineKeyMismatch | registryFull
  deriving DecidableEq, Repr, Inhabited

namespace ErrorCode

def all : List ErrorCode := [success, invalidSignature, invalidPublicKey, staleRequest, replayDetected,
  serviceNotFound, internalError, machineKeyMismatch, registryFull]

def name : ErrorCode → String
  | success => "Success"
  | invalidSignature => "InvalidSignature"
  | invalidPublicKey => "InvalidPublicKey"
  | staleRequest => "StaleRequest"
  | replayDetected => "ReplayDetected"
  | serviceNotFound => "ServiceNotFound"
  | internalError => "InternalError"
  | machineKeyMismatch => "MachineKeyMismatch"
  | registryFull => "RegistryFull"

/-- The byte that stands for the code in what is signed; also its case number. -/
def tag : ErrorCode → Nat
  | success => 0
  | invalidSignature => 1
  | invalidPublicKey => 2
  | staleRequest => 3
  | replayDetected => 4
  | serviceNotFound => 5
  | internalError => 6
  | machineKeyMismatch => 7
  | registryFull => 8

def ofTag? (n : Nat) : Option ErrorCode := all[n]?

theorem ofTag?_tag (c : ErrorCode) : ofTag? c.tag = some c := by cases c <;> rfl

end ErrorCode

/-- Names one registration of a node; never given out twice. -/
structure NodeId where
  val : UInt64
  deriving DecidableEq, Repr, Inhabited

namespace NodeId

def ofNat (n : Nat) : NodeId := ⟨UInt64.ofNat n⟩

def toNat (n : NodeId) : Nat := n.val.toNat

def text (n : NodeId) : String := s!"node-{n.toNat}"

end NodeId

structure Service where
  name : String
  address : String
  port : UInt16
  deriving DecidableEq, Repr, Inhabited

abbrev Nonce := Vector UInt8 16

/-- The nonce that a byte string is cut or filled up to. -/
def Nonce.ofBytes (bs : Bytes) : Nonce := Vector.ofFn fun i => bs.getD i.val 0

structure LoginRequest where
  signature : Bytes
  publicKey : Bytes
  machineId : String
  services : List Service
  /-- milliseconds since 1970 -/
  timestamp : UInt64
  nonce : Nonce
  deriving DecidableEq, Inhabited

structure LoginResponse where
  errorCode : ErrorCode
  signature : Bytes
  publicKey : Bytes
  nodeId : Option NodeId
  deriving DecidableEq, Inhabited

structure QueryRequest where
  serviceName : String
  deriving DecidableEq

structure QueryResponse where
  errorCode : ErrorCode
  nodeId : Option NodeId
  serviceName : String
  serviceAddress : String
  servicePort : UInt16
  deriving DecidableEq

def QueryResponse.notFound (name : String) : QueryResponse := ⟨.serviceNotFound, none, name, "", 0⟩

def counted (bs : Bytes) : Bytes := leBytes 4 bs.length ++ bs

def Service.signedBytes (s : Service) : Bytes :=
  counted (utf8 s.name) ++ (counted (utf8 s.address) ++ leBytes 2 s.port.toNat)

namespace LoginRequest

def domain : Bytes := utf8 "packet-gateway/node-login-req/v1"

/-- All fields but the signature. -/
def signedBytes (r : LoginRequest) : Bytes :=
  domain ++ (counted (utf8 r.machineId) ++ (counted r.publicKey ++ (leBytes 4 r.services.length ++
    (r.services.flatMap Service.signedBytes ++ (leBytes 8 r.timestamp.toNat ++ r.nonce.toList)))))

def payload (r : LoginRequest) : Bytes := sha256 r.signedBytes

end LoginRequest

namespace LoginResponse

def domain : Bytes := utf8 "packet-gateway/node-login-resp/v1"

/-- All fields but the signature, and the nonce of the request that is answered. -/
def signedBytes (r : LoginResponse) (nonce : Nonce) : Bytes :=
  let node := match r.nodeId with
    | some id => 1 :: leBytes 8 id.toNat
    | none => [0]
  domain ++ (leBytes 1 r.errorCode.tag ++ (node ++ (counted r.publicKey ++ nonce.toList)))

def payload (r : LoginResponse) (nonce : Nonce) : Bytes := sha256 (r.signedBytes nonce)

end LoginResponse

end FrameGateway
