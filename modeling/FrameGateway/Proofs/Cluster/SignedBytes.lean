import FrameGateway.Cluster.Message
import FrameGateway.Proofs.Frame.Layout
import FrameGateway.Proofs.Text.Utf8
/-! What is signed leaves no doubt. In an answer to a login, code, id, key and nonce can be told from it
(`LoginResponse.signedBytes_inj`); in a request all fields but the signature can, as long as four bytes hold
each length (`LoginRequest.signedBytes_inj`); and what is signed in the one is never what is signed in the
other (`LoginRequest.signed_bytes_unambiguous`). -/

namespace FrameGateway

theorem counted_append_inj {bs bs' rest rest' : Bytes} (hlen : rest.length = rest'.length)
    (h : counted bs ++ rest = counted bs' ++ rest') : bs = bs' ∧ rest = rest' := by
  obtain ⟨hcounted, hrest⟩ := List.append_inj' h hlen
  rw [counted, counted] at hcounted
  exact ⟨(List.append_inj hcounted (by rw [length_leBytes, length_leBytes])).2, hrest⟩

theorem leBytes_append_inj {w m n : Nat} {rest rest' : Bytes} (hm : m < 256 ^ w) (hn : n < 256 ^ w)
    (h : leBytes w m ++ rest = leBytes w n ++ rest') : m = n ∧ rest = rest' := by
  obtain ⟨hnum, hrest⟩ := List.append_inj h (by rw [length_leBytes, length_leBytes])
  have hnat := congrArg leNat hnum
  rw [leNat_leBytes_of_lt w hm, leNat_leBytes_of_lt w hn] at hnat
  exact ⟨hnat, hrest⟩

/-- A byte string whose length four bytes hold is told from whatever stands behind it. -/
theorem counted_append_inj_of_lt {bs bs' rest rest' : Bytes} (hl : bs.length < 2 ^ 32)
    (hl' : bs'.length < 2 ^ 32) (h : counted bs ++ rest = counted bs' ++ rest') : bs = bs' ∧ rest = rest' := by
  rw [counted, counted, List.append_assoc, List.append_assoc] at h
  obtain ⟨hlen, h⟩ := leBytes_append_inj hl hl' h
  exact List.append_inj h hlen

namespace ErrorCode

theorem tag_lt (c : ErrorCode) : c.tag < 256 ^ 1 := by cases c <;> decide

theorem tag_injective : Function.Injective tag := fun c c' h => by
  have hc := ofTag?_tag c
  rw [h, ofTag?_tag] at hc
  exact (Option.some.inj hc).symm

end ErrorCode

namespace LoginResponse

def nodeField : Option NodeId → Bytes
  | some id => 1 :: leBytes 8 id.toNat
  | none => [0]

theorem nodeField_append_inj {id id' : Option NodeId} {rest rest' : Bytes}
    (h : nodeField id ++ rest = nodeField id' ++ rest') : id = id' ∧ rest = rest' := by
  cases id with
  | none =>
    cases id' with
    | none => exact ⟨rfl, (List.cons.inj h).2⟩
    | some id' => exact absurd (List.cons.inj h).1 (by decide)
  | some id =>
    cases id' with
    | none => exact absurd (List.cons.inj h).1 (by decide)
    | some id' =>
      obtain ⟨hid, hrest⟩ := leBytes_append_inj id.val.toNat_lt id'.val.toNat_lt (List.cons.inj h).2
      obtain ⟨id⟩ := id
      obtain ⟨id'⟩ := id'
      exact ⟨congrArg (fun v => some (NodeId.mk v)) (UInt64.toNat_inj.mp hid), hrest⟩

theorem signedBytes_eq (r : LoginResponse) (nonce : Nonce) : r.signedBytes nonce =
    domain ++ (leBytes 1 r.errorCode.tag ++ (nodeField r.nodeId ++ (counted r.publicKey ++ nonce.toList))) := by
  rw [signedBytes]
  cases r.nodeId <;> rfl

/-- The signature itself is not signed. -/
theorem signedBytes_eq_of {r : LoginResponse} {code : ErrorCode} {id : Option NodeId} (hcode : r.errorCode = code)
    (hid : r.nodeId = id) (nonce : Nonce) :
    r.signedBytes nonce = signedBytes ⟨code, [], r.publicKey, id⟩ nonce := by
  rw [signedBytes_eq, signedBytes_eq, hcode, hid]

/-- What is signed tells the code, the id, the key and the nonce. -/
theorem signedBytes_inj {r r' : LoginResponse} {nonce nonce' : Nonce}
    (h : r.signedBytes nonce = r'.signedBytes nonce') :
    r.errorCode = r'.errorCode ∧ r.nodeId = r'.nodeId ∧ r.publicKey = r'.publicKey ∧ nonce = nonce' := by
  rw [signedBytes_eq, signedBytes_eq] at h
  obtain ⟨htag, h⟩ := leBytes_append_inj (ErrorCode.tag_lt _) (ErrorCode.tag_lt _) (List.append_cancel_left h)
  obtain ⟨hid, h⟩ := nodeField_append_inj h
  -- a nonce has sixteen bytes, so the length of the key is known as well
  obtain ⟨hkey, hnonce⟩ := counted_append_inj (by simp) h
  exact ⟨ErrorCode.tag_injective htag, hid, hkey, Vector.toList_inj.mp hnonce⟩

/-- Requests and responses are signed in domains of their own. -/
theorem signedBytes_ne (r : LoginResponse) (nonce : Nonce) (q : LoginRequest) :
    r.signedBytes nonce ≠ q.signedBytes := by
  intro h
  -- behind what the two domains share, an `s` stands against a `q`
  have hr : domain[28]? = some 115 := by rw [domain, utf8_eq]; rfl
  have hq : LoginRequest.domain[28]? = some 113 := by rw [LoginRequest.domain, utf8_eq]; rfl
  obtain ⟨hlen, -⟩ := List.getElem?_eq_some_iff.mp hr
  obtain ⟨hlen', -⟩ := List.getElem?_eq_some_iff.mp hq
  have hbyte : (r.signedBytes nonce)[28]? = q.signedBytes[28]? := by rw [h]
  rw [signedBytes_eq, LoginRequest.signedBytes, List.getElem?_append_left hlen,
    List.getElem?_append_left hlen', hr, hq] at hbyte
  exact absurd (Option.some.inj hbyte) (by decide)

end LoginResponse

namespace Service

/-- Four bytes hold the length of each text. -/
structure Countable (s : Service) : Prop where
  name : (utf8 s.name).length < 2 ^ 32
  address : (utf8 s.address).length < 2 ^ 32

theorem signedBytes_append_inj {s s' : Service} (hs : s.Countable) (hs' : s'.Countable) {rest rest' : Bytes}
    (h : s.signedBytes ++ rest = s'.signedBytes ++ rest') : s = s' ∧ rest = rest' := by
  simp only [signedBytes, List.append_assoc] at h
  obtain ⟨hname, h⟩ := counted_append_inj_of_lt hs.name hs'.name h
  obtain ⟨haddress, h⟩ := counted_append_inj_of_lt hs.address hs'.address h
  obtain ⟨hport, hrest⟩ := leBytes_append_inj s.port.toNat_lt s'.port.toNat_lt h
  obtain ⟨name, address, port⟩ := s
  obtain ⟨name', address', port'⟩ := s'
  obtain rfl : name = name' := utf8_injective hname
  obtain rfl : address = address' := utf8_injective haddress
  obtain rfl : port = port' := UInt16.toNat_inj.mp hport
  exact ⟨rfl, hrest⟩

/-- Services stand one behind the other with nothing between them, and only their number is known. -/
theorem flatMap_signedBytes_append_inj {ss ss' : List Service} (hs : ∀ s ∈ ss, s.Countable)
    (hs' : ∀ s ∈ ss', s.Countable) (hl : ss.length = ss'.length) {rest rest' : Bytes}
    (h : ss.flatMap signedBytes ++ rest = ss'.flatMap signedBytes ++ rest') : ss = ss' ∧ rest = rest' := by
  induction ss generalizing ss' with
  | nil =>
    obtain rfl : ss' = [] := List.length_eq_zero_iff.mp hl.symm
    exact ⟨rfl, h⟩
  | cons s ss ih =>
    cases ss' with
    | nil => cases hl
    | cons s' ss' =>
      rw [List.flatMap_cons, List.flatMap_cons, List.append_assoc, List.append_assoc] at h
      obtain ⟨hfirst, h⟩ := signedBytes_append_inj (hs s List.mem_cons_self) (hs' s' List.mem_cons_self) h
      obtain ⟨hothers, hrest⟩ := ih (fun t ht => hs t (List.mem_cons_of_mem _ ht))
        (fun t ht => hs' t (List.mem_cons_of_mem _ ht)) (Nat.succ.inj hl) h
      exact ⟨by rw [hfirst, hothers], hrest⟩

end Service

namespace LoginRequest

/-- Four bytes hold each length and the number of services. -/
structure Countable (q : LoginRequest) : Prop where
  machineId : (utf8 q.machineId).length < 2 ^ 32
  publicKey : q.publicKey.length < 2 ^ 32
  number : q.services.length < 2 ^ 32
  services : ∀ s ∈ q.services, s.Countable

/-- What is signed tells every field but the signature. -/
theorem signedBytes_inj {q q' : LoginRequest} (hq : q.Countable) (hq' : q'.Countable)
    (h : q.signedBytes = q'.signedBytes) :
    q.machineId = q'.machineId ∧ q.publicKey = q'.publicKey ∧ q.services = q'.services ∧
      q.timestamp = q'.timestamp ∧ q.nonce = q'.nonce := by
  rw [signedBytes, signedBytes] at h
  obtain ⟨hmachine, h⟩ := counted_append_inj_of_lt hq.machineId hq'.machineId (List.append_cancel_left h)
  obtain ⟨hkey, h⟩ := counted_append_inj_of_lt hq.publicKey hq'.publicKey h
  obtain ⟨hnumber, h⟩ := leBytes_append_inj hq.number hq'.number h
  obtain ⟨hservices, h⟩ := Service.flatMap_signedBytes_append_inj hq.services hq'.services hnumber h
  obtain ⟨htime, hnonce⟩ := leBytes_append_inj q.timestamp.toNat_lt q'.timestamp.toNat_lt h
  exact ⟨utf8_injective hmachine, hkey, hservices, UInt64.toNat_inj.mp htime, Vector.toList_inj.mp hnonce⟩

/-- What is signed in a request, and what in an answer, is a byte string from which each of its fields can be
told, the services with their number and their order, as long as four bytes hold each length in the request.
No signature goes into it, and none of the one kind is one of the other. -/
theorem signed_bytes_unambiguous :
    (∀ q : LoginRequest, q.payload = sha256 q.signedBytes ∧
      ∀ signature, ({ q with signature } : LoginRequest).signedBytes = q.signedBytes) ∧
    (∀ q q' : LoginRequest, q.Countable → q'.Countable → (q.signedBytes = q'.signedBytes ↔
      q.machineId = q'.machineId ∧ q.publicKey = q'.publicKey ∧ q.services = q'.services ∧
        q.timestamp = q'.timestamp ∧ q.nonce = q'.nonce)) ∧
    (∀ (r : LoginResponse) (nonce : Nonce), r.payload nonce = sha256 (r.signedBytes nonce) ∧
      ∀ signature, ({ r with signature } : LoginResponse).signedBytes nonce = r.signedBytes nonce) ∧
    (∀ (r r' : LoginResponse) (nonce nonce' : Nonce), r.signedBytes nonce = r'.signedBytes nonce' ↔
      r.errorCode = r'.errorCode ∧ r.nodeId = r'.nodeId ∧ r.publicKey = r'.publicKey ∧ nonce = nonce') ∧
    ∀ (q : LoginRequest) (r : LoginResponse) (nonce : Nonce), q.signedBytes ≠ r.signedBytes nonce := by
  refine ⟨fun q => ⟨rfl, fun _ => rfl⟩, fun q q' hq hq' => ⟨signedBytes_inj hq hq', ?_⟩,
    fun r nonce => ⟨rfl, fun _ => rfl⟩, fun r r' nonce nonce' => ⟨LoginResponse.signedBytes_inj, ?_⟩,
    fun q r nonce h => LoginResponse.signedBytes_ne r nonce q h.symm⟩
  · rintro ⟨hmachine, hkey, hservices, htime, hnonce⟩
    rw [signedBytes, signedBytes, hmachine, hkey, hservices, htime, hnonce]
  · rintro ⟨hcode, hid, hkey, rfl⟩
    rw [LoginResponse.signedBytes_eq, LoginResponse.signedBytes_eq, hcode, hid, hkey]

/-- Two services that differ only in where the name ends and the address begins are not signed alike. -/
theorem signed_bytes_unambiguous_between_texts :
    let q : Service → LoginRequest := fun s => ⟨[], [7], "machine-a", [s], 1700000000000, .ofBytes [3]⟩
    (q ⟨"chat", "10.0.0.5", 7300⟩).Countable ∧ (q ⟨"chat1", "0.0.0.5", 7300⟩).Countable ∧
      (q ⟨"chat", "10.0.0.5", 7300⟩).signedBytes ≠ (q ⟨"chat1", "0.0.0.5", 7300⟩).signedBytes := by
  intro q
  have hmachine : (utf8 "machine-a").length < 2 ^ 32 := by rw [length_utf8]; decide
  have hone : 1 < 2 ^ 32 := by decide
  have hq : ∀ s : Service, s.Countable → (q s).Countable := fun s hs =>
    ⟨hmachine, hone, hone, fun t ht => List.mem_singleton.mp ht ▸ hs⟩
  have hchat : (q ⟨"chat", "10.0.0.5", 7300⟩).Countable :=
    hq _ ⟨by rw [length_utf8]; decide, by rw [length_utf8]; decide⟩
  have hchat1 : (q ⟨"chat1", "0.0.0.5", 7300⟩).Countable :=
    hq _ ⟨by rw [length_utf8]; decide, by rw [length_utf8]; decide⟩
  refine ⟨hchat, hchat1, fun h => ?_⟩
  have hservices := ((signed_bytes_unambiguous.2.1 _ _ hchat hchat1).mp h).2.2.1
  exact absurd hservices (by decide)

end LoginRequest

end FrameGateway
