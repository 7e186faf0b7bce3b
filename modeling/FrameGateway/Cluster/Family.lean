import FrameGateway.Cluster.Message
import FrameGateway.Codec.Packet
/-! The cluster's messages as a family of message types, with their data forms. -/

namespace FrameGateway

inductive ClusterType where
  | loginRequest | loginResponse | queryRequest | queryResponse
  deriving DecidableEq, Repr

namespace ClusterType

/-- The order in which the types are registered. -/
def all : List ClusterType := [loginRequest, loginResponse, queryRequest, queryResponse]

@[reducible] def Carrier : ClusterType → Type
  | loginRequest => LoginRequest
  | loginResponse => LoginResponse
  | queryRequest => QueryRequest
  | queryResponse => QueryResponse

instance : MessageFamily ClusterType where
  Msg := Carrier
  name
    | loginRequest => "cluster.NodeLoginReq"
    | loginResponse => "cluster.NodeLoginResp"
    | queryRequest => "cluster.QueryServiceReq"
    | queryResponse => "cluster.QueryServiceResp"
  customFields _ := []
  field? _ _ _ := none
  setField? _ _ _ _ := none

def byteSeq : Schema := .seq (.int .u8)
def codeSchema : Schema := .enum (ErrorCode.all.map fun c => (c.name, .unit))
def nodeIdSchema : Schema := .option (.int .u64)
def serviceSchema : Schema := .record [("name", .str), ("address", .str), ("port", .int .u16)]

def codeDatum (c : ErrorCode) : Datum := .variant c.tag c.name .unit
def nodeIdDatum : Option NodeId → Datum
  | some id => .some (.int .u64 id.toNat)
  | none => .none
def serviceDatum (s : Service) : Datum :=
  .record [("name", .str s.name), ("address", .str s.address), ("port", .int .u16 s.port.toNat)]

def code? : Datum → Option ErrorCode
  | .variant i _ _ => ErrorCode.ofTag? i
  | _ => none
def nodeId? : Datum → Option (Option NodeId)
  | .some (.int _ i) => some (some (.ofNat i.toNat))
  | .none => some none
  | _ => none
def service? : Datum → Option Service
  | .record [(_, .str n), (_, .str a), (_, .int _ p)] => some ⟨n, a, .ofNat p.toNat⟩
  | _ => none

instance : DataFamily ClusterType where
  schema
    | loginRequest => .record [("signature", byteSeq), ("public_key", byteSeq), ("machine_id", .str),
        ("services", .seq serviceSchema), ("timestamp", .int .u64),
        ("nonce", .tuple (List.replicate 16 (.int .u8)))]
    | loginResponse => .record [("error_code", codeSchema), ("signature", byteSeq),
        ("public_key", byteSeq), ("node_id", nodeIdSchema)]
    | queryRequest => .record [("service_name", .str)]
    | queryResponse => .record [("error_code", codeSchema), ("node_id", nodeIdSchema),
        ("service_name", .str), ("service_address", .str), ("service_port", .int .u16)]
  datum
    | loginRequest, r => .record [("signature", .seq (Datum.ofBytes r.signature)),
        ("public_key", .seq (Datum.ofBytes r.publicKey)), ("machine_id", .str r.machineId),
        ("services", .seq (r.services.map serviceDatum)), ("timestamp", .int .u64 r.timestamp.toNat),
        ("nonce", .tuple (Datum.ofBytes r.nonce.toList))]
    | loginResponse, r => .record [("error_code", codeDatum r.errorCode),
        ("signature", .seq (Datum.ofBytes r.signature)), ("public_key", .seq (Datum.ofBytes r.publicKey)),
        ("node_id", nodeIdDatum r.nodeId)]
    | queryRequest, r => .record [("service_name", .str r.serviceName)]
    | queryResponse, r => .record [("error_code", codeDatum r.errorCode), ("node_id", nodeIdDatum r.nodeId),
        ("service_name", .str r.serviceName), ("service_address", .str r.serviceAddress),
        ("service_port", .int .u16 r.servicePort.toNat)]
  ofDatum?
    | loginRequest, d => do match d with
      | .record [(_, .seq sig), (_, .seq key), (_, .str m), (_, .seq ss), (_, .int _ t), (_, .tuple n)] =>
        return ⟨← Datum.bytes? sig, ← Datum.bytes? key, m, ← ss.mapM service?, .ofNat t.toNat,
          .ofBytes (← Datum.bytes? n)⟩
      | _ => none
    | loginResponse, d => do match d with
      | .record [(_, c), (_, .seq sig), (_, .seq key), (_, n)] =>
        return ⟨← code? c, ← Datum.bytes? sig, ← Datum.bytes? key, ← nodeId? n⟩
      | _ => none
    | queryRequest, d => match d with
      | .record [(_, .str s)] => some ⟨s⟩
      | _ => none
    | queryResponse, d => do match d with
      | .record [(_, c), (_, n), (_, .str s), (_, .str a), (_, .int _ p)] =>
        return ⟨← code? c, ← nodeId? n, s, a, .ofNat p.toNat⟩
      | _ => none

end ClusterType

abbrev WithCluster (α : Type) := ClusterType ⊕ α

/-- Makes the cluster's types readable, up to the first that fails. -/
def Codec.registerCluster {α : Type} [DecidableEq α] [MessageFamily α] (c : Codec (WithCluster α))
    (m : TypeTable (WithCluster α)) :
    (Codec (WithCluster α) × TypeTable (WithCluster α)) × Except Fault (List PacketId) :=
  ClusterType.all.foldl (fun ((c, m), r) t => match r with
    | .error e => ((c, m), .error e)
    | .ok ids =>
      let ((c, m), r) := c.register m (.inl t)
      ((c, m), r.map fun id => ids ++ [id])) ((c, m), .ok [])

end FrameGateway
