import FrameGateway.Codec.Packet
import FrameGateway.Proofs.Frame.Grammar
/-! What can go wrong between messages and frames, where the serializers of fields are the built-in one. A
frame that cannot be read is at fault itself, unless its type has a field without a serializer
(`Codec.decodeAny_fault`); a message that cannot be written is never taken for a frame at fault
(`Codec.encodeFrame_fault`). -/

namespace FrameGateway

/-- A chain of steps fails with the first fault there is. -/
theorem bind_eq_error_iff {ε α β : Type} {x : Except ε α} {f : α → Except ε β} {e : ε} :
    (x >>= f) = .error e ↔ x = .error e ∨ ∃ a, x = .ok a ∧ f a = .error e := by
  cases x with
  | ok a => simp [bind, Except.bind]
  | error e' => simp [bind, Except.bind]

theorem parseFrame_fault {format : Option TokenFormat} {frame : Bytes} {e : Fault}
    (h : parseFrame format frame = .error e) : e.isFrameFault = true := by
  rw [parseFrame_eq] at h
  split_ifs at h
  · cases h; rfl
  · cases h; rfl
  · cases h; rfl
  · cases h; rfl

variable {τ : Type} [MessageFamily τ]

/-- A body codec that fails only to write a message or to read one. -/
structure BodyCodec.Plain (b : BodyCodec τ) : Prop where
  encode : ∀ t msg e, b.encode t msg = .error e → ∃ reason, e = .serialize reason
  decode : ∀ t bs e, b.decode t bs = .error e → ∃ reason, e = .deserialize reason

theorem BodyFormat.decode_fault {f : BodyFormat} {s : Schema} {bs : Bytes} {e : Fault}
    (h : f.decode s bs = .error e) : ∃ reason, e = .deserialize reason := by
  unfold decode at h
  dsimp only at h
  split at h
  · cases h
  · cases h; exact ⟨_, rfl⟩

theorem BodyFormat.plain_codec [DataFamily τ] (f : BodyFormat) : (f.codec : BodyCodec τ).Plain := by
  refine ⟨nofun, fun t bs e h => ?_⟩
  rcases bind_eq_error_iff.mp h with h | ⟨d, -, h⟩
  · exact decode_fault h
  · split at h
    · cases h
    · cases h; exact ⟨_, rfl⟩

def Overrides.BuiltIn (o : Overrides τ) : Prop := ∀ e ∈ o.entries, e.2 = .uuid

theorem Overrides.BuiltIn.find? {o : Overrides τ} (ho : o.BuiltIn) {typeName : String}
    {field : Option String} {s : CustomSerializer τ} (h : o.find? typeName field = some s) : s = .uuid := by
  obtain ⟨before, after, he, -⟩ := List.lookup_eq_some_iff.mp h
  exact ho (_, s) (he ▸ List.mem_append_right _ List.mem_cons_self)

namespace CustomSerializer

theorem uuid_encode_fault {p : Parcel τ} {e : Fault} (h : uuid.encode p = .error e) :
    ∃ reason, e = .serialize reason := by
  simp only [uuid] at h
  split at h
  · cases h
  · cases h; exact ⟨_, rfl⟩

theorem uuid_decode_fault {bs : Bytes} {e : Fault} (h : (uuid : CustomSerializer τ).decode bs = .error e) :
    ∃ reason, e = .deserialize reason := by
  simp only [uuid] at h
  split at h
  · cases h; exact ⟨_, rfl⟩
  · cases h

end CustomSerializer

namespace Codec

variable {c : Codec τ} {t : τ} {e : Fault}

/-- A body that cannot be read is malformed, or has a field without a serializer. -/
def Unreadable (e : Fault) : Prop :=
  (∃ reason, e = .deserialize reason) ∨ ∃ typeName field, e = .missingFieldCodec typeName field

theorem decodeFields_fault (ho : c.overrides.BuiltIn) {fields : List String} {bs : Bytes}
    (h : c.decodeFields t fields bs = .error e) : Unreadable e := by
  induction fields generalizing bs with
  | nil => cases h
  | cons field fields ih =>
    rw [decodeFields] at h
    cases hs : c.overrides.find? (MessageFamily.name t) (some field) with
    | none => rw [hs] at h; cases h; exact .inr ⟨_, _, rfl⟩
    | some s =>
      rw [hs] at h
      rcases bind_eq_error_iff.mp h with h | ⟨⟨v, bs'⟩, -, h⟩
      · rw [ho.find? hs] at h
        exact .inl (CustomSerializer.uuid_decode_fault h)
      · rcases bind_eq_error_iff.mp h with h | ⟨⟨vs, rest⟩, -, h⟩
        · exact ih h
        · cases h

theorem setFields_fault {msg : Msg t} {vs : List (String × Parcel τ)}
    (h : setFields t msg vs = .error e) : Unreadable e := by
  induction vs generalizing msg with
  | nil => cases h
  | cons v vs ih =>
    unfold setFields at h
    dsimp only at h
    split at h
    · exact ih h
    · cases h; exact .inl ⟨_, rfl⟩

theorem encodeFields_fault (ho : c.overrides.BuiltIn) {msg : Msg t} {fields : List String}
    (h : c.encodeFields t msg fields = .error e) : e.isFrameFault = false := by
  induction fields with
  | nil => cases h
  | cons field fields ih =>
    rw [encodeFields] at h
    cases hs : c.overrides.find? (MessageFamily.name t) (some field) with
    | none => rw [hs] at h; cases h; rfl
    | some s =>
      cases hv : MessageFamily.field? t msg field with
      | none => rw [hs, hv] at h; cases h; rfl
      | some v =>
        rw [hs, hv] at h
        rcases bind_eq_error_iff.mp h with h | ⟨b, -, h⟩
        · rw [ho.find? hs] at h
          obtain ⟨reason, rfl⟩ := CustomSerializer.uuid_encode_fault h
          rfl
        · rcases bind_eq_error_iff.mp h with h | ⟨b', -, h⟩
          · exact ih h
          · cases h

theorem encodeBody_fault (ho : c.overrides.BuiltIn) (hb : c.body.Plain) {msg : Msg t}
    (h : c.encodeBody t msg = .error e) : e.isFrameFault = false := by
  rw [encodeBody] at h
  cases hs : c.overrides.find? (MessageFamily.name t) none with
  | some s =>
    rw [hs, ho.find? hs] at h
    obtain ⟨reason, rfl⟩ := CustomSerializer.uuid_encode_fault h
    rfl
  | none =>
    rw [hs] at h
    rcases bind_eq_error_iff.mp h with h | ⟨b, -, h⟩
    · exact encodeFields_fault ho h
    · rcases bind_eq_error_iff.mp h with h | ⟨b', -, h⟩
      · obtain ⟨reason, rfl⟩ := hb.encode t msg e h
        rfl
      · cases h

variable [DecidableEq τ] {m : TypeTable τ}

theorem decodeBody_fault (ho : c.overrides.BuiltIn) (hb : c.body.Plain) {bs : Bytes}
    (h : c.decodeBody t bs = .error e) : Unreadable e := by
  rw [decodeBody] at h
  cases hs : c.overrides.find? (MessageFamily.name t) none with
  | some s =>
    rw [hs, ho.find? hs] at h
    rcases bind_eq_error_iff.mp h with h | ⟨⟨v, rest⟩, -, h⟩
    · exact .inl (CustomSerializer.uuid_decode_fault h)
    · dsimp only at h
      split at h
      · split at h
        · cases h
        · cases h; exact .inl ⟨_, rfl⟩
      · cases h; exact .inl ⟨_, rfl⟩
  | none =>
    rw [hs] at h
    rcases bind_eq_error_iff.mp h with h | ⟨⟨fields, bs'⟩, -, h⟩
    · exact decodeFields_fault ho h
    · rcases bind_eq_error_iff.mp h with h | ⟨msg, -, h⟩
      · exact .inl (hb.decode t bs' e h)
      · exact setFields_fault h

/-- A frame that cannot be read is at fault itself, unless a field of its type has no serializer. -/
theorem decodeAny_fault (ho : c.overrides.BuiltIn) (hb : c.body.Plain) {frame : Bytes}
    (h : c.decodeAny m frame = .error e) :
    e.isFrameFault = true ∨ ∃ typeName field, e = .missingFieldCodec typeName field := by
  rw [decodeAny] at h
  rcases bind_eq_error_iff.mp h with h | ⟨view, -, h⟩
  · exact .inl (parseFrame_fault h)
  · dsimp only at h
    cases hd : c.decoders.lookup view.header.packetId with
    | none => rw [hd] at h; cases h; exact .inl rfl
    | some t =>
      rw [hd] at h
      rcases bind_eq_error_iff.mp h with h | ⟨entry, -, h⟩
      · rw [TypeTable.getType] at h
        split at h
        · cases h
        · cases h; exact .inl rfl
      · rcases bind_eq_error_iff.mp h with h | ⟨msg, -, h⟩
        · rcases decodeBody_fault ho hb h with ⟨reason, rfl⟩ | hmissing
          · exact .inl rfl
          · exact .inr hmissing
        · cases h

/-- A message of a type that has an id is never taken for a frame at fault, whatever is wrong with it. -/
theorem encodeFrame_fault (ho : c.overrides.BuiltIn) (hb : c.body.Plain) {id : PacketId}
    (ht : m.id? t = some id) {msg : Msg t} {flags : Flags} {token : SessionId}
    (h : c.encodeFrame m t msg flags token = .error e) : e.isFrameFault = false := by
  have hid : m.getId t = .ok id := by rw [TypeTable.getId, ht]
  have hrouting : ∀ routing : Bytes, (c.encodeBody t msg >>= fun body => assemble flags id (routing ++ body)) =
      .error e → e.isFrameFault = false := by
    intro routing h
    rcases bind_eq_error_iff.mp h with h | ⟨body, -, h⟩
    · exact encodeBody_fault ho hb h
    · rw [assemble] at h
      split at h
      · cases h; rfl
      · cases h
  rcases bind_eq_error_iff.mp h with h | ⟨id', hid', h⟩
  · rw [hid] at h
    cases h
  rw [hid] at hid'
  cases hid'
  cases hf : c.token with
  | none =>
    rw [hf] at h
    exact hrouting [] h
  | some f =>
    rw [hf] at h
    rcases bind_eq_error_iff.mp h with h | ⟨routing, -, h⟩
    · rw [TokenFormat.bytes] at h
      split at h
      · cases h
      · cases h; rfl
    · exact hrouting routing h

end Codec

end FrameGateway
