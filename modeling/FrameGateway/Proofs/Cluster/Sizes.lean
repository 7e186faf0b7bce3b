import FrameGateway.Cluster.Family
import FrameGateway.Cluster.Signing
import FrameGateway.Proofs.Format.Size
/-! How many bytes the messages of the cluster take. An answer to a query can be larger than the query: it
tells its outcome next to the name asked for (`ClusterType.size_notFound`). But a service that came with a
login takes less in an answer than the login did (`ClusterType.size_found_le`). -/

namespace FrameGateway

open BodyFormat

namespace Ed25519

theorem length_sign (k : KeyPair) (msg : Bytes) : (k.sign msg).length = signatureSize := by
  simp [KeyPair.sign, Curve.Point.encode, signatureSize]

theorem length_publicKey (secret : Bytes) : (KeyPair.ofSecret secret).publicKey.length = keySize := by
  simp [KeyPair.ofSecret, Curve.Point.encode, keySize]

end Ed25519

/-- By how many bytes the answer that no node offers a service outgrows the query. -/
def BodyFormat.margin : BodyFormat → Nat
  | bincode => 15
  | messagePack => 19
  | json => 84

namespace ClusterType

variable (f : BodyFormat)

theorem keySize_json : ["error_code", "node_id", "service_name", "service_address", "service_port", "signature",
      "public_key", "machine_id", "services", "timestamp", "nonce", "name", "address", "port"].map
        (keySize json) = [14, 11, 16, 19, 16, 13, 14, 14, 12, 13, 9, 8, 11, 8] := by
  simp [keySize, Json.quoted]
  decide

/-- Bytes beside the name of a code; a code that is written by its number has no name. -/
theorem size_code (c : ErrorCode) : f.size (codeDatum c) =
    match f with
    | bincode => 4
    | messagePack => c.name.utf8ByteSize + 1
    | json => c.name.utf8ByteSize + 2 := by
  cases f with
  | bincode => simp [size, encode, codeDatum, Bincode.encode]
  | messagePack =>
    simp only [size, encode, codeDatum, MessagePack.encode, MessagePack.text, List.length_append, length_utf8]
    cases c <;> decide
  | json =>
    rw [size, encode, codeDatum, Json.encode, length_utf8]
    cases c <;> simp [Json.quoted, ErrorCode.name] <;> decide

theorem size_code_le (c : ErrorCode) : f.size (codeDatum c) ≤ 20 := by
  have hname : c.name.utf8ByteSize ≤ 18 := by cases c <;> decide
  rw [size_code]
  cases f with
  | bincode => dsimp only; omega
  | messagePack => dsimp only; omega
  | json => dsimp only; omega

theorem size_nodeId_le (id : Option NodeId) : f.size (nodeIdDatum id) ≤ f.numberSize + 1 := by
  cases id with
  | none =>
    cases f with
    | bincode => simp [size, encode, nodeIdDatum, Bincode.encode]
    | messagePack => simp [size, encode, nodeIdDatum, MessagePack.encode]
    | json =>
      rw [size, encode, nodeIdDatum, Json.encode, length_utf8]
      decide
  | some id =>
    have h := size_int_le (f := f) (t := .u64) (by decide) id.val.toNat_lt
    cases f with
    | bincode => exact Nat.succ_le_succ h
    | messagePack => exact Nat.le_succ_of_le h
    | json => exact Nat.le_succ_of_le h

theorem size_bytes_le (bs : Bytes) : f.size (.seq (Datum.ofBytes bs)) ≤ 8 + 4 * bs.length := by
  have hsum : ((Datum.ofBytes bs).map fun d => f.size d + 1).sum ≤ 4 * bs.length := by
    rw [Datum.ofBytes]
    induction bs with
    | nil => exact Nat.le_refl 0
    | cons b bs ih =>
      have := size_byte_le (f := f) b
      simp only [List.map_cons, List.sum_cons, List.length_cons]
      omega
  exact (size_seq_le _).trans (Nat.add_le_add_left hsum 8)

theorem datum_loginRequest (r : LoginRequest) : DataFamily.datum loginRequest r = .record [
    ("signature", .seq (Datum.ofBytes r.signature)), ("public_key", .seq (Datum.ofBytes r.publicKey)),
    ("machine_id", .str r.machineId), ("services", .seq (r.services.map serviceDatum)),
    ("timestamp", .int .u64 r.timestamp.toNat), ("nonce", .tuple (Datum.ofBytes r.nonce.toList))] := rfl

theorem datum_loginResponse (r : LoginResponse) : DataFamily.datum loginResponse r = .record [
    ("error_code", codeDatum r.errorCode), ("signature", .seq (Datum.ofBytes r.signature)),
    ("public_key", .seq (Datum.ofBytes r.publicKey)), ("node_id", nodeIdDatum r.nodeId)] := rfl

theorem datum_queryRequest (r : QueryRequest) :
    DataFamily.datum queryRequest r = .record [("service_name", .str r.serviceName)] := rfl

theorem datum_queryResponse (r : QueryResponse) : DataFamily.datum queryResponse r = .record [
    ("error_code", codeDatum r.errorCode), ("node_id", nodeIdDatum r.nodeId),
    ("service_name", .str r.serviceName), ("service_address", .str r.serviceAddress),
    ("service_port", .int .u16 r.servicePort.toNat)] := rfl

theorem size_notFound (name : String) :
    f.size (DataFamily.datum queryResponse (QueryResponse.notFound name)) =
      f.size (DataFamily.datum queryRequest (QueryRequest.mk name)) + f.margin := by
  rw [datum_queryResponse, datum_queryRequest, size_record (List.cons_ne_nil _ _),
    size_record (List.cons_ne_nil _ _)]
  simp only [QueryResponse.notFound, List.map_cons, List.map_nil, List.sum_cons, List.sum_nil, List.length_cons,
    List.length_nil]
  have hcode := size_code f .serviceNotFound
  have hname : ErrorCode.serviceNotFound.name.utf8ByteSize = 15 := by decide
  rw [hname] at hcode
  cases f with
  | bincode =>
    have hrest : size bincode (nodeIdDatum none) = 1 ∧ size bincode (.str "") = 8 ∧
        size bincode (.int .u16 (0 : UInt16).toNat) = 2 := by
      simp [size, encode, nodeIdDatum, Bincode.encode, Bincode.text, IntType.bytes, IntType.u16]
    simp only [keySize, braceSize, margin] at hcode ⊢
    omega
  | messagePack =>
    have hrest : size messagePack (nodeIdDatum none) = 1 ∧ size messagePack (.str "") = 1 ∧
        size messagePack (.int .u16 (0 : UInt16).toNat) = 1 := by
      simp [size, encode, nodeIdDatum, MessagePack.encode, MessagePack.text, MessagePack.integer,
        MessagePack.natural]
    have hfive : (MessagePack.arrayMark 5).length = (MessagePack.arrayMark 1).length := rfl
    simp only [keySize, braceSize, margin, Nat.zero_add, hfive] at hcode ⊢
    omega
  | json =>
    have hrest : size json (nodeIdDatum none) = 4 ∧ size json (.str "") = 2 ∧
        size json (.int .u16 (0 : UInt16).toNat) = 1 := by
      simp [size, encode, nodeIdDatum, Json.encode, Json.quoted, length_utf8]
      decide
    have hkeys := keySize_json
    simp only [List.map_cons, List.map_nil, List.cons.injEq] at hkeys
    simp only [braceSize, margin] at hcode ⊢
    omega

theorem size_service_le {s : Service} {services : List Service} (hs : s ∈ services) :
    f.size (serviceDatum s) ≤ f.size (.seq (services.map serviceDatum)) := by
  refine le_trans ?_ (sum_le_size_seq _)
  rw [List.map_map]
  exact List.single_le_sum (fun _ _ => Nat.zero_le _) _ (List.mem_map_of_mem (f := f.size ∘ serviceDatum) hs)

/-- Each byte of a nonce takes one at least. -/
theorem le_size_nonce (nonce : Nonce) : 16 ≤ f.size (.tuple (Datum.ofBytes nonce.toList)) := by
  refine le_trans ?_ (sum_le_size_tuple _)
  have hone : ∀ n ∈ (Datum.ofBytes nonce.toList).map f.size, 1 ≤ n := by
    intro n hn
    obtain ⟨d, hd, rfl⟩ := List.mem_map.mp hn
    obtain ⟨b, -, rfl⟩ := List.mem_map.mp hd
    exact size_int_pos (by decide) _
  have hsum := List.card_nsmul_le_sum _ 1 hone
  simpa [Datum.ofBytes] using hsum

/-- A service that came with a login takes less in an answer than the login did. -/
theorem size_found_le {r : LoginRequest} {s : Service} (hs : s ∈ r.services) (id : NodeId) :
    f.size (DataFamily.datum queryResponse (QueryResponse.mk .success (some id) s.name s.address s.port)) ≤
      f.size (DataFamily.datum loginRequest r) := by
  have hservice := size_service_le (f := f) hs
  have hnonce := le_size_nonce (f := f) r.nonce
  have htime : 0 < f.size (.int .u64 r.timestamp.toNat) := size_int_pos (by decide) _
  have hcode := size_code f .success
  have hname : ErrorCode.success.name.utf8ByteSize = 7 := by decide
  have hid := size_nodeId_le f (some id)
  rw [hname] at hcode
  rw [datum_queryResponse, datum_loginRequest, size_record (List.cons_ne_nil _ _),
    size_record (List.cons_ne_nil _ _)]
  rw [serviceDatum, size_record (List.cons_ne_nil _ _)] at hservice
  simp only [List.map_cons, List.map_nil, List.sum_cons, List.sum_nil, List.length_cons, List.length_nil]
    at hservice ⊢
  cases f with
  | bincode =>
    simp only [keySize, braceSize, numberSize] at hcode hservice hid ⊢
    omega
  | messagePack =>
    have hmarks : (MessagePack.arrayMark 5).length = 1 ∧ (MessagePack.arrayMark 6).length = 1 ∧
        (MessagePack.arrayMark 3).length = 1 := ⟨rfl, rfl, rfl⟩
    simp only [keySize, braceSize, numberSize, Nat.zero_add, Nat.reduceAdd] at hcode hservice hid ⊢
    omega
  | json =>
    have hkeys := keySize_json
    simp only [List.map_cons, List.map_nil, List.cons.injEq] at hkeys
    simp only [braceSize, numberSize] at hcode hservice hid ⊢
    omega

/-- An answer to a login under keys of the usual length is small. -/
theorem size_loginResponse_le {r : LoginResponse} (hs : r.signature.length = Ed25519.signatureSize)
    (hk : r.publicKey.length = Ed25519.keySize) : f.size (DataFamily.datum loginResponse r) ≤ 1000 := by
  have hcode := size_code_le f r.errorCode
  have hsignature := size_bytes_le f r.signature
  have hkey := size_bytes_le f r.publicKey
  have hid := size_nodeId_le f r.nodeId
  rw [hs, Ed25519.signatureSize] at hsignature
  rw [hk, Ed25519.keySize] at hkey
  rw [datum_loginResponse, size_record (List.cons_ne_nil _ _)]
  simp only [List.map_cons, List.map_nil, List.sum_cons, List.sum_nil, List.length_cons, List.length_nil]
  cases f with
  | bincode =>
    simp only [keySize, braceSize, numberSize] at hid ⊢
    omega
  | messagePack =>
    have hmark : (MessagePack.arrayMark 4).length = 1 := rfl
    simp only [keySize, braceSize, numberSize, Nat.zero_add, Nat.reduceAdd] at hid ⊢
    omega
  | json =>
    have hkeys := keySize_json
    simp only [List.map_cons, List.map_nil, List.cons.injEq] at hkeys
    simp only [braceSize, numberSize] at hid ⊢
    omega

end ClusterType

end FrameGateway
