import FrameGateway.Cluster.Service
import FrameGateway.Proofs.Cluster.Answer
import FrameGateway.Proofs.Cluster.Sizes
import FrameGateway.Proofs.Codec.Assembly
import FrameGateway.Proofs.Dispatcher.Answering
import FrameGateway.Proofs.Format.Bincode
/-! What a coordinator behind a dispatcher sends back. Every login is answered. A query is answered if its
answer makes a frame, and else the query fails, although it was a frame itself
(`ClockedCoordinator.answers_what_fits`): so it is with queries for names that are almost as long as a
frame can hold, and that no node offers (`ClockedCoordinator.unanswered_query`). -/

namespace FrameGateway

open BodyFormat (size)
open Assembly (dispatcher)

namespace ClusterType

theorem bytes?_ofBytes (bs : Bytes) : Datum.bytes? (Datum.ofBytes bs) = some bs := by
  rw [Datum.bytes?, Datum.ofBytes]
  induction bs with
  | nil => rfl
  | cons b bs ih => simp [ih]

theorem code?_codeDatum (c : ErrorCode) : code? (codeDatum c) = some c := ErrorCode.ofTag?_tag c

theorem nodeId?_nodeIdDatum (id : Option NodeId) : nodeId? (nodeIdDatum id) = some id := by
  cases id with
  | none => rfl
  | some id => simp [nodeIdDatum, nodeId?, NodeId.ofNat, NodeId.toNat]

theorem service?_serviceDatum (s : Service) : service? (serviceDatum s) = some s := by
  simp [serviceDatum, service?]

/-- Every message is the one that its data stand for. -/
theorem ofDatum?_datum (t : ClusterType) (msg : Msg t) :
    DataFamily.ofDatum? t (DataFamily.datum t msg) = some msg := by
  cases t with
  | loginRequest =>
    obtain ⟨signature, publicKey, machineId, services, timestamp, nonce⟩ := msg
    have hs : (services.map serviceDatum).mapM service? = some services := by
      induction services with
      | nil => rfl
      | cons s services ih => simp [service?_serviceDatum, ih]
    have hn : Nonce.ofBytes nonce.toList = nonce := by
      ext i hi
      simp [Nonce.ofBytes]
    simp [DataFamily.datum, DataFamily.ofDatum?, bytes?_ofBytes, hs, hn]
  | loginResponse =>
    cases msg
    simp [DataFamily.datum, DataFamily.ofDatum?, bytes?_ofBytes, code?_codeDatum, nodeId?_nodeIdDatum]
  | queryRequest => rfl
  | queryResponse =>
    cases msg
    simp [DataFamily.datum, DataFamily.ofDatum?, code?_codeDatum, nodeId?_nodeIdDatum]

theorem composed {α : Type} [MessageFamily α] (t : ClusterType) :
    Composed (τ := WithCluster α) (.inl t) fun a b => a = b :=
  ⟨fun _ _ _ _ _ h => absurd h List.not_mem_nil, fun _ _ h _ => h⟩

end ClusterType

namespace Bincode

variable {whole : Schema} {n : Nat} {r : Bytes}

theorem read_code (c : ErrorCode) :
    read whole (n + 2) ClusterType.codeSchema (leBytes 4 c.tag ++ r) = some (ClusterType.codeDatum c, r) := by
  have htag : c.tag < 256 ^ 4 := by cases c <;> decide
  rw [ClusterType.codeSchema, read, number_leBytes htag]
  cases c <;> rfl

theorem read_nodeId (id : Option NodeId) :
    read whole (n + 2) ClusterType.nodeIdSchema (encode (ClusterType.nodeIdDatum id) ++ r) =
      some (ClusterType.nodeIdDatum id, r) := by
  cases id with
  | none =>
    have h := number_leBytes (w := 1) (k := 0) (by decide) r
    rw [ClusterType.nodeIdSchema, read, show encode (ClusterType.nodeIdDatum none) = leBytes 1 0 from rfl, h]
    rfl
  | some id =>
    have h := number_leBytes (w := 1) (k := 1) (by decide) (encode (.int .u64 id.toNat) ++ r)
    have hid : id.toNat < IntType.u64.bound := id.val.toNat_lt
    rw [ClusterType.nodeIdSchema, read, show encode (ClusterType.nodeIdDatum (some id)) ++ r =
      leBytes 1 1 ++ (encode (.int .u64 id.toNat) ++ r) from rfl, h]
    exact congrArg (Option.map fun p : Datum × Bytes => (Datum.some p.1, p.2)) (read_natural rfl hid)

end Bincode

def maxFrame : Nat := lengthSize + maxDeclared

namespace Codec

variable {α : Type} [MessageFamily α] {c : Codec (WithCluster α)} {f : BodyFormat} {t : ClusterType}
  {msg : Msg t}

/-- The bodies of the cluster's messages are in a body format, without serializers of their own. -/
structure Speaks [DataFamily α] (c : Codec (WithCluster α)) (f : BodyFormat) : Prop where
  body : c.body = f.codec
  whole : ∀ t : ClusterType, c.overrides.find? (MessageFamily.name t) none = none

def ReadsBack (f : BodyFormat) (t : ClusterType) (msg : Msg t) : Prop :=
  f.decode (DataFamily.schema t) (f.encode (DataFamily.datum t msg)) = .ok (DataFamily.datum t msg)

/-- What the format writes of a datum, it reads back however much it may nest. -/
theorem readsBack_of_read {t : ClusterType} {msg : Msg t} {k : Nat} (hk : k ≤ 64)
    (h : ∀ n, Bincode.read (DataFamily.schema t) (n + k) (DataFamily.schema t)
      (Bincode.encode (DataFamily.datum t msg)) = some (DataFamily.datum t msg, [])) :
    ReadsBack .bincode t msg := by
  have hd : Bincode.decode (DataFamily.schema t) (Bincode.encode (DataFamily.datum t msg)) =
      some (DataFamily.datum t msg) := by
    have hn := h (8 * (Bincode.encode (DataFamily.datum t msg)).length + (64 - k))
    rw [Nat.add_assoc, Nat.sub_add_cancel hk] at hn
    rw [Bincode.decode, hn, Option.map_some]
  rw [ReadsBack, BodyFormat.encode, BodyFormat.decode, hd]

theorem readsBack_queryRequest {r : QueryRequest} (h : r.serviceName.utf8ByteSize < 2 ^ 64) :
    ReadsBack .bincode .queryRequest r :=
  readsBack_of_read (k := 2) (by decide) fun n =>
    Bincode.read_record [("service_name", .str)]
      (Reading.each_cons (Bincode.read_str (r := []) h) rfl)

theorem readsBack_queryResponse {r : QueryResponse} (hn : r.serviceName.utf8ByteSize < 2 ^ 64)
    (ha : r.serviceAddress.utf8ByteSize < 2 ^ 64) : ReadsBack .bincode .queryResponse r :=
  have hport : r.servicePort.toNat < IntType.u16.bound := r.servicePort.toNat_lt
  readsBack_of_read (k := 3) (by decide) fun n =>
    Bincode.read_record
      [("error_code", ClusterType.codeSchema), ("node_id", ClusterType.nodeIdSchema),
        ("service_name", .str), ("service_address", .str), ("service_port", .int .u16)]
      (Reading.each_cons (Bincode.read_code r.errorCode)
      (Reading.each_cons (Bincode.read_nodeId r.nodeId)
      (Reading.each_cons (Bincode.read_str hn)
      (Reading.each_cons (Bincode.read_str ha)
      (Reading.each_cons (Bincode.read_natural (r := []) rfl hport) rfl)))))

def span (c : Codec (WithCluster α)) (f : BodyFormat) (t : ClusterType) (msg : Msg t) : Nat :=
  c.overhead + f.size (DataFamily.datum t msg)

theorem overhead_le (c : Codec (WithCluster α)) : c.overhead ≤ headerSize + 16 := by
  rw [overhead]
  cases c.token with
  | none => exact Nat.le_add_right _ _
  | some format => cases format <;> decide

variable [DataFamily α]

theorem Speaks.encodeBody (hc : c.Speaks f) (t : ClusterType) (msg : Msg t) :
    c.encodeBody (.inl t) msg = .ok (f.encode (DataFamily.datum t msg)) := by
  rw [Codec.encodeBody, show MessageFamily.name (Sum.inl t : WithCluster α) = MessageFamily.name t from rfl,
    hc.whole, hc.body]
  rfl

theorem Speaks.sound (hc : c.Speaks f) (hr : ReadsBack f t msg) :
    c.Sound (.inl t) (fun a b => a = b) msg := by
  refine ⟨fun place s p hs hp => ?_, fun _ => ClusterType.composed t, fun _ b hb => ⟨msg, ?_, rfl⟩⟩
  · cases place with
    | none =>
      rw [show MessageFamily.name (Sum.inl t : WithCluster α) = MessageFamily.name t from rfl, hc.whole] at hs
      cases hs
    | some field => cases hp
  · rw [hc.body] at hb ⊢
    cases hb
    have hdatum := ClusterType.ofDatum?_datum t msg
    refine bind_eq_ok_iff.mpr ⟨_, hr, ?_⟩
    rw [show DataFamily.ofDatum? (Sum.inl t : WithCluster α) = DataFamily.ofDatum? t from rfl, hdatum]
    rfl

variable [DecidableEq α] {m : TypeTable (WithCluster α)} {id : PacketId} {token : SessionId} {routing : Bytes}

theorem Speaks.encodeFrame_eq (hc : c.Speaks f) (hid : m.id? (.inl t) = some id)
    (hr : routingBytes c.token token = .ok routing) (flags : Flags) (msg : Msg t) :
    c.encodeFrame m (.inl t) msg flags token =
      assemble flags id (routing ++ f.encode (DataFamily.datum t msg)) :=
  Codec.encodeFrame_eq hid hr (hc.encodeBody t msg)

/-- A message makes a frame exactly if its span is one of a frame. -/
theorem Speaks.encodeFrame_cases (hc : c.Speaks f) (hid : m.id? (.inl t) = some id)
    (hr : routingBytes c.token token = .ok routing) (flags : Flags) (msg : Msg t) :
    (c.span f t msg ≤ maxFrame → ∃ frame, c.encodeFrame m (.inl t) msg flags token = .ok frame) ∧
    (maxFrame < c.span f t msg →
      c.encodeFrame m (.inl t) msg flags token = .error (.messageTooLarge (c.span f t msg))) := by
  have hspan : lengthSize + (minDeclared + (routing ++ f.encode (DataFamily.datum t msg)).length) =
      c.span f t msg := by
    rw [span, Codec.overhead_eq hr, List.length_append, size, headerSize, lengthSize, minDeclared]
    omega
  rw [hc.encodeFrame_eq hid hr, assemble, hspan, ← hspan, maxFrame]
  refine ⟨fun hfit => ⟨_, if_neg (by omega)⟩, fun hfit => if_pos (by omega)⟩

end Codec

namespace Dispatcher

variable {α σ : Type} [MessageFamily α] [DecidableEq α] [DataFamily α] {d : Dispatcher (WithCluster α) σ}
  {m : TypeTable (WithCluster α)} {f : BodyFormat} {t : ClusterType} {id : PacketId}

/-- A reply to a request that was read is a frame with the message, as long as its span is one of a frame. -/
theorem encodeReply_cases (hc : d.codec.Speaks f) (hid : m.id? (.inl t) = some id) {frame body : Bytes}
    {header : Header} {token : Option SessionId}
    (hview : d.codec.decodeHeader frame = .ok ⟨header, token, body⟩) (msg : Msg t) :
    (d.codec.span f t msg ≤ maxFrame → ∃ reply, d.encodeReply m (.inl t) msg token = .ok reply ∧ IsFrame reply ∧
      (Codec.ReadsBack f t msg →
        d.codec.Delivers m reply (some id) .serverToClient token (.inl t) msg)) ∧
    (maxFrame < d.codec.span f t msg →
      d.encodeReply m (.inl t) msg token = .error (.messageTooLarge (d.codec.span f t msg))) := by
  obtain ⟨htoken, routing, hr⟩ := Codec.routing_of_decodeHeader hview
  obtain ⟨hfits, hlarge⟩ := hc.encodeFrame_cases hid hr .serverToClient msg
  rw [encodeReply_eq htoken]
  refine ⟨fun hfit => ?_, hlarge⟩
  obtain ⟨reply, hok⟩ := hfits hfit
  refine ⟨reply, hok, Codec.isFrame_encodeFrame hok, fun hread => ?_⟩
  have hd := Codec.delivers_encodeFrame (hc.sound hread) rfl rfl rfl (.inl .refl) hok
  rw [hid, htoken] at hd
  exact hd

end Dispatcher

namespace ClockedCoordinator

variable {α : Type} [MessageFamily α] [DecidableEq α] {d : Dispatcher (WithCluster α) ClockedCoordinator}
  {m : TypeTable (WithCluster α)}

/-- Logins and queries at this dispatcher go to the coordinator. -/
structure Installed (d : Dispatcher (WithCluster α) ClockedCoordinator) (m : TypeTable (WithCluster α)) :
    Prop where
  wired : d.Wired m
  login : ∃ id, d.handlers.lookup id = some loginHandler
  query : ∃ id, d.handlers.lookup id = some queryHandler

variable {ι κ : Type} [DecidableEq ι] [DecidableEq κ] {a : Assembly ι κ (WithCluster α) ClockedCoordinator}
  {k : κ}

/-- To install the coordinator is to register its two handlers. -/
theorem steps_of_install (hi : install (a.dispatcher k) a.table = ((d, m), .ok ())) : ∃ b e i j,
    a.step (.handler k loginHandler) = (b, .ok i) ∧ b.step (.handler k queryHandler) = (e, .ok j) ∧
      e.dispatcher k = d ∧ e.table = m := by
  rw [install] at hi
  rcases hl : (a.dispatcher k).register a.table loginHandler with ⟨⟨d₁, m₁⟩, e | i⟩
  · rw [hl] at hi
    cases hi
  rw [hl] at hi
  rcases hq : d₁.register m₁ queryHandler with ⟨⟨d₂, m₂⟩, e | j⟩
  · dsimp only at hi
    rw [hq] at hi
    cases hi
  dsimp only at hi
  rw [hq] at hi
  cases hi
  have hb : (a.step (.handler k loginHandler)).1.dispatcher k = d₁ := by rw [a.dispatcher_step_handler, hl]
  have hm : (a.step (.handler k loginHandler)).1.table = m₁ := congrArg (fun out => out.1.2) hl
  rw [← hb, ← hm] at hq
  have he := (a.step (.handler k loginHandler)).1.dispatcher_step_handler k queryHandler
  rw [hq] at he
  exact ⟨_, _, i, j, Prod.ext rfl (congrArg (fun out => out.2) hl),
    Prod.ext rfl (congrArg (fun out => out.2) hq), he, congrArg (fun out => out.1.2) hq⟩

/-- Both handlers are in their places: their request types differ, and so do the ids of these. -/
theorem installed (ha : a.Reached) (hi : install (a.dispatcher k) a.table = ((d, m), .ok ())) : Installed d m := by
  obtain ⟨b, e, i, j, hb, he, rfl, rfl⟩ := steps_of_install hi
  have hbr := ha.step (.handler k loginHandler)
  have hlogs : (a.step (.handler k loginHandler)).2 = .ok i := by rw [hb]
  obtain ⟨-, hlogin⟩ := ha.inv.step_handler_ok hlogs
  rw [hb] at hbr hlogin
  have her := hbr.step (.handler k queryHandler)
  have hqueries : (b.step (.handler k queryHandler)).2 = .ok j := by rw [he]
  obtain ⟨hg, hquery⟩ := hbr.inv.step_handler_ok hqueries
  rw [he] at her hg hquery
  have hi : b.table.id? (.inl .loginRequest) = some i :=
    ((hbr.inv.wired k).request i loginHandler (by rw [dispatcher, hlogin, lookup_cons_ite, if_pos rfl])).1
  have hj : e.table.id? (.inl .queryRequest) = some j :=
    ((her.inv.wired k).request j queryHandler (by rw [dispatcher, hquery, lookup_cons_ite, if_pos rfl])).1
  have hne : i ≠ j := by
    rintro rfl
    exact absurd (her.inv.matched.eq_of_id? (hg.id?_eq_some hi) hj) (by simp)
  refine ⟨her.inv.wired k, ⟨i, ?_⟩, ⟨j, ?_⟩⟩
  · rw [dispatcher, hquery, lookup_cons_ite, if_neg hne, hlogin, lookup_cons_ite, if_pos rfl]
  · rw [dispatcher, hquery, lookup_cons_ite, if_pos rfl]

/-- Both types of answers have their ids. -/
theorem Installed.replies (h : Installed d m) :
    ∃ i j, m.id? (.inl .loginResponse) = some i ∧ m.id? (.inl .queryResponse) = some j := by
  obtain ⟨i, hlogin⟩ := h.login
  obtain ⟨i', hi, -⟩ := h.wired.reply i loginHandler hlogin
  obtain ⟨j, hquery⟩ := h.query
  obtain ⟨j', hj, -⟩ := h.wired.reply j queryHandler hquery
  exact ⟨i', j', hi, hj⟩

variable {f : BodyFormat} {c : ClockedCoordinator}

def loginAnswer (c : ClockedCoordinator) (r : LoginRequest) : ClockedCoordinator × LoginResponse :=
  let (coordinator, response) := c.coordinator.loginByClock r c.now c.clock
  ({ c with coordinator }, response)

theorem Installed.dispatch_login (h : Installed d m) {frame : Bytes}
    {q : Packet (WithCluster α) (.inl .loginRequest)} (hq : d.codec.decode m (.inl .loginRequest) frame = .ok q) :
    d.dispatch m frame c = ((c.loginAnswer q.message).1,
      d.encodeReply m (.inl .loginResponse) (c.loginAnswer q.message).2 q.token) := by
  obtain ⟨id, hh⟩ := h.login
  exact h.wired.dispatch_of_decode hh hq c

theorem Installed.dispatch_query (h : Installed d m) {frame : Bytes}
    {q : Packet (WithCluster α) (.inl .queryRequest)} (hq : d.codec.decode m (.inl .queryRequest) frame = .ok q) :
    d.dispatch m frame c =
      (c, d.encodeReply m (.inl .queryResponse) (c.coordinator.query q.message) q.token) := by
  obtain ⟨id, hh⟩ := h.query
  exact h.wired.dispatch_of_decode hh hq c

theorem loginAnswer_signed (c : ClockedCoordinator) (r : LoginRequest) :
    (c.loginAnswer r).2.publicKey = c.coordinator.keys.publicKey ∧
      (c.loginAnswer r).2.signature.length = Ed25519.signatureSize := by
  obtain ⟨coordinator, now, clock⟩ := c
  cases now with
  | none => exact ⟨rfl, Ed25519.length_sign _ _⟩
  | some now =>
    obtain ⟨hkey, hsignature⟩ := coordinator.signed_handle ⟨r, now, clock⟩
    exact ⟨hkey, (congrArg List.length hsignature).trans (Ed25519.length_sign _ _)⟩

theorem query_of_unknown (c : Coordinator) {r : QueryRequest}
    (h : c.nodes.findService? r.serviceName = none) : c.query r = .notFound r.serviceName := by
  rw [Coordinator.query, h]

omit [DecidableEq α] in
theorem span_of_unknown {r : QueryRequest} (h : c.coordinator.nodes.findService? r.serviceName = none) :
    d.codec.span f .queryResponse (c.coordinator.query r) = d.codec.span f .queryRequest r + f.margin := by
  rw [query_of_unknown _ h, Codec.span, Codec.span, ClusterType.size_notFound]
  exact (Nat.add_assoc ..).symm

variable [DataFamily α]

/-- The answer to a query goes out where it makes a frame. -/
theorem Installed.query_cases (h : Installed d m) (hc : d.codec.Speaks f) (c : ClockedCoordinator)
    {frame : Bytes} {q : Packet (WithCluster α) (.inl .queryRequest)}
    (hq : d.codec.decode m (.inl .queryRequest) frame = .ok q) :
    (d.codec.span f .queryResponse (c.coordinator.query q.message) ≤ maxFrame → ∃ reply,
      d.dispatch m frame c = (c, .ok reply) ∧ IsFrame reply ∧
      (Codec.ReadsBack f .queryResponse (c.coordinator.query q.message) →
        d.codec.Delivers m reply (m.id? (.inl .queryResponse)) .serverToClient q.token
          (.inl .queryResponse) (c.coordinator.query q.message))) ∧
    (maxFrame < d.codec.span f .queryResponse (c.coordinator.query q.message) →
      d.dispatch m frame c = (c, .error (.messageTooLarge
        (d.codec.span f .queryResponse (c.coordinator.query q.message))))) := by
  obtain ⟨-, j, -, hj⟩ := h.replies
  obtain ⟨body, hview, -, -⟩ := Codec.decode_eq_ok_iff.mp hq
  obtain ⟨hfits, hlarge⟩ :=
    Dispatcher.encodeReply_cases hc hj hview (t := .queryResponse) (c.coordinator.query q.message)
  rw [h.dispatch_query hq, hj]
  refine ⟨fun hfit => ?_, fun h => Prod.ext rfl (hlarge h)⟩
  obtain ⟨reply, hreply, hframe, hread⟩ := hfits hfit
  exact ⟨reply, Prod.ext rfl hreply, hframe, hread⟩

/-- Every login is answered. A query is answered exactly if the answer makes a frame: so it does if it tells
of a service that came with a login that was a frame; and if no node offers the service, the answer is
larger than the query by a margin of the format. -/
theorem answers_what_fits (ha : a.Reached) (hi : install (a.dispatcher k) a.table = ((d, m), .ok ()))
    (hc : d.codec.Speaks f) {secret : Bytes} (hkeys : c.coordinator.keys = .ofSecret secret) :
    (∀ frame (q : Packet (WithCluster α) (.inl .loginRequest)),
      d.codec.decode m (.inl .loginRequest) frame = .ok q → ∃ reply,
        d.dispatch m frame c = ((c.loginAnswer q.message).1, .ok reply) ∧ IsFrame reply ∧
        (Codec.ReadsBack f .loginResponse (c.loginAnswer q.message).2 →
          d.codec.Delivers m reply (m.id? (.inl .loginResponse)) .serverToClient q.token
            (.inl .loginResponse) (c.loginAnswer q.message).2)) ∧
    (∀ frame (q : Packet (WithCluster α) (.inl .queryRequest)),
      d.codec.decode m (.inl .queryRequest) frame = .ok q →
        (d.codec.span f .queryResponse (c.coordinator.query q.message) ≤ maxFrame → ∃ reply,
          d.dispatch m frame c = (c, .ok reply) ∧ IsFrame reply ∧
          (Codec.ReadsBack f .queryResponse (c.coordinator.query q.message) →
            d.codec.Delivers m reply (m.id? (.inl .queryResponse)) .serverToClient q.token
              (.inl .queryResponse) (c.coordinator.query q.message))) ∧
        (maxFrame < d.codec.span f .queryResponse (c.coordinator.query q.message) →
          d.dispatch m frame c = (c, .error (.messageTooLarge
            (d.codec.span f .queryResponse (c.coordinator.query q.message)))))) ∧
    (∀ r id s, c.coordinator.nodes.findService? r.serviceName = some (id, s) →
      ∀ login : LoginRequest, s ∈ login.services →
        d.codec.span f .queryResponse (c.coordinator.query r) ≤ d.codec.span f .loginRequest login) ∧
    ∀ r, c.coordinator.nodes.findService? r.serviceName = none →
      d.codec.span f .queryResponse (c.coordinator.query r) = d.codec.span f .queryRequest r + f.margin := by
  have hinstalled := installed ha hi
  obtain ⟨i, -, hli, -⟩ := hinstalled.replies
  refine ⟨fun frame q hq => ?_, fun frame q hq => ?_, fun r id s hs login hmem => ?_, fun r hr => ?_⟩
  · obtain ⟨body, hview, -, -⟩ := Codec.decode_eq_ok_iff.mp hq
    have hfits : d.codec.span f .loginResponse (c.loginAnswer q.message).2 ≤ maxFrame := by
      obtain ⟨hkey, hsignature⟩ := c.loginAnswer_signed q.message
      rw [hkeys] at hkey
      have hsmall := ClusterType.size_loginResponse_le f hsignature
        ((congrArg List.length hkey).trans (Ed25519.length_publicKey secret))
      exact (Nat.add_le_add d.codec.overhead_le hsmall).trans (by decide)
    obtain ⟨reply, hreply, hframe, hread⟩ := (Dispatcher.encodeReply_cases hc hli hview _).1 hfits
    rw [hinstalled.dispatch_login hq, hli]
    exact ⟨reply, Prod.ext rfl hreply, hframe, hread⟩
  · exact hinstalled.query_cases hc c hq
  · rw [Coordinator.query, hs]
    exact Nat.add_le_add_left (ClusterType.size_found_le f hmem id) _
  · exact span_of_unknown hr

def onlyCluster : Assembly Unit Unit (WithCluster (RecordKey [])) ClockedCoordinator :=
  (Assembly.mk .empty (fun _ => .create BodyFormat.bincode.codec none .empty) id fun _ => []).run [
    .decoder () (.inl .loginRequest) (some ⟨1⟩), .decoder () (.inl .loginResponse) (some ⟨2⟩),
    .decoder () (.inl .queryRequest) (some ⟨3⟩), .decoder () (.inl .queryResponse) (some ⟨4⟩)]

theorem reached_onlyCluster : onlyCluster.Reached := ⟨_, _, ⟨rfl, fun _ => rfl, fun _ => rfl⟩, rfl⟩

def server : Dispatcher (WithCluster (RecordKey [])) ClockedCoordinator :=
  (install (onlyCluster.dispatcher ()) onlyCluster.table).1.1

theorem install_onlyCluster :
    install (onlyCluster.dispatcher ()) onlyCluster.table = ((server, onlyCluster.table), .ok ()) := rfl

theorem speaks_server : server.codec.Speaks .bincode := ⟨rfl, fun _ => rfl⟩

theorem installed_server : Installed server onlyCluster.table := installed reached_onlyCluster install_onlyCluster

def withoutNodes : ClockedCoordinator := ⟨.create (.ofSecret (List.replicate 32 9)) {}, some 0, 0⟩

theorem span_query (r : QueryRequest) :
    server.codec.span .bincode .queryRequest r = 16 + r.serviceName.utf8ByteSize := by
  have hbody : Bincode.encode (DataFamily.datum ClusterType.queryRequest r) = Bincode.text r.serviceName :=
    List.append_nil _
  rw [Codec.span, size, BodyFormat.encode, hbody, Bincode.text, List.length_append, length_leBytes, length_utf8,
    ← Nat.add_assoc]
  rfl

/-- A query that makes a frame is read from it. -/
theorem query_frame {r : QueryRequest} (hr : 16 + r.serviceName.utf8ByteSize ≤ maxFrame) : ∃ frame q,
    IsFrame frame ∧ server.codec.decode onlyCluster.table (.inl .queryRequest) frame = .ok q ∧ q.message = r := by
  have hsmall : r.serviceName.utf8ByteSize < 2 ^ 64 := by
    rw [maxFrame, lengthSize, maxDeclared] at hr
    omega
  have hid : onlyCluster.table.id? (.inl .queryRequest) = some ⟨3⟩ := rfl
  have hrouting : routingBytes server.codec.token .nil = .ok [] := rfl
  obtain ⟨frame, hframe⟩ :=
    (speaks_server.encodeFrame_cases hid hrouting .none r).1 ((span_query r).trans_le hr)
  obtain ⟨header, -, -, -, hdec⟩ := Codec.delivers_encodeFrame
    (speaks_server.sound (Codec.readsBack_queryRequest hsmall)) rfl rfl rfl (.inl .refl) hframe
  exact ⟨frame, _, Codec.isFrame_encodeFrame hframe, hdec, rfl⟩

theorem answers_what_fits_of_chat : onlyCluster.Reached ∧
    install (onlyCluster.dispatcher ()) onlyCluster.table = ((server, onlyCluster.table), .ok ()) ∧
    server.codec.Speaks .bincode ∧
    ∃ frame q reply, server.codec.decode onlyCluster.table (.inl .queryRequest) frame = .ok q ∧
      q.message = QueryRequest.mk "chat" ∧
      server.dispatch onlyCluster.table frame withoutNodes = (withoutNodes, .ok reply) ∧
      server.codec.Delivers onlyCluster.table reply (some ⟨4⟩) .serverToClient q.token (.inl .queryResponse)
        (QueryResponse.notFound "chat") := by
  have hsize : "chat".utf8ByteSize = 4 := rfl
  obtain ⟨frame, q, -, hq, hname⟩ := query_frame (r := QueryRequest.mk "chat") (by decide)
  obtain ⟨-, hquery, -, hunknown⟩ :=
    answers_what_fits (c := withoutNodes) reached_onlyCluster install_onlyCluster speaks_server rfl
  have hspan := hunknown q.message rfl
  rw [span_query, hname, hsize] at hspan
  have hanswer : withoutNodes.coordinator.query q.message = .notFound "chat" := by rw [hname]; rfl
  have hback : Codec.ReadsBack .bincode .queryResponse (QueryResponse.notFound "chat") :=
    Codec.readsBack_queryResponse (by decide) (by decide)
  obtain ⟨reply, hreply, -, hdelivers⟩ := (hquery frame q hq).1 (by rw [hname, hspan]; decide)
  rw [hanswer] at hdelivers
  exact ⟨reached_onlyCluster, install_onlyCluster, speaks_server, frame, q, reply, hq, hname, hreply, hdelivers hback⟩

/-- The query is a frame, and its answer would have been one byte too long. -/
theorem unanswered_query : onlyCluster.Reached ∧
    install (onlyCluster.dispatcher ()) onlyCluster.table = ((server, onlyCluster.table), .ok ()) ∧
    server.codec.Speaks .bincode ∧
    ∃ frame q, IsFrame frame ∧ server.codec.decode onlyCluster.table (.inl .queryRequest) frame = .ok q ∧
      server.dispatch onlyCluster.table frame withoutNodes = (withoutNodes, .error (.messageTooLarge 65538)) := by
  obtain ⟨name, hsize⟩ : ∃ name : String, name.utf8ByteSize = 65507 :=
    ⟨_, (utf8ByteSize_replicate 'a' 65507).trans (Nat.mul_one 65507)⟩
  obtain ⟨frame, q, hframe, hq, hname⟩ := query_frame (r := QueryRequest.mk name) (by rw [hsize]; decide)
  have hspan := span_of_unknown (d := server) (f := .bincode) (c := withoutNodes) (r := q.message) rfl
  rw [span_query, hname, hsize] at hspan
  have hlarge := (installed_server.query_cases speaks_server withoutNodes hq).2
  rw [hname, hspan] at hlarge
  exact ⟨reached_onlyCluster, install_onlyCluster, speaks_server, frame, q, hframe, hq, hlarge (by decide)⟩

end ClockedCoordinator

end FrameGateway
