import FrameGateway.Proofs.Codec.Growth
import FrameGateway.Proofs.Frame.Layout
import FrameGateway.Record
/-! What one codec writes, another one with the same settings reads. The fields written apart come one after
the other and then the body, with nothing between them; each serializer stops where its field ends
(`Reads`), and that alone puts the next one at its place. -/

namespace FrameGateway

variable {τ : Type} [MessageFamily τ]

/-- The serializer reads back what it has written of a value, and of what follows it takes nothing. -/
def CustomSerializer.Reads (s : CustomSerializer τ) (p : Parcel τ) : Prop :=
  ∀ b, s.encode p = .ok b → ∀ rest, s.decode (b ++ rest) = .ok (p, rest)

theorem CustomSerializer.uuid_reads (p : Parcel τ) : (uuid : CustomSerializer τ).Reads p := by
  intro b hb rest
  match p, hb with
  | .field (.uuid v), hb =>
    cases hb
    have hl : ¬(leBytes 16 v.toNat ++ rest).length < 16 := by
      rw [List.length_append, length_leBytes]; omega
    have hv : leNat (leBytes 16 v.toNat) = v.toNat := leNat_leBytes_of_lt 16 v.isLt
    simp only [uuid]
    rw [if_neg hl, List.take_left' (length_leBytes ..), List.drop_left' (length_leBytes ..), hv,
      BitVec.ofNat_toNat, BitVec.setWidth_eq]

/-- What stands at a place that may have a serializer: one field, or the whole message. -/
def parcel? (t : τ) (msg : Msg t) : Option String → Option (Parcel τ)
  | some field => (MessageFamily.field? t msg field).map .field
  | none => some (.message t msg)

/-- Messages are made of a body, which `Same` compares, and the fields written apart: each of these can be
set to what another message has there, and this changes nothing else. -/
structure Composed (t : τ) (Same : Msg t → Msg t → Prop) : Prop where
  set : ∀ a b field v, Same a b → field ∈ MessageFamily.customFields t →
    MessageFamily.field? t b field = some v → ∃ c, MessageFamily.setField? t a field v = some c ∧
      Same c b ∧ MessageFamily.field? t c field = some v ∧
      ∀ g ≠ field, MessageFamily.field? t c g = MessageFamily.field? t a g
  eq : ∀ a b, Same a b → (∀ field ∈ MessageFamily.customFields t,
    MessageFamily.field? t a field = MessageFamily.field? t b field) → a = b

namespace RecordKey

variable {table : List (String × RecordType)}

def uuids (k : RecordKey table) (f : String → BitVec 128) : List (String × BitVec 128) :=
  k.type.apart.map fun name => (name, f name)

/-- Two records with the same body, each with all uuid fields of its type. -/
def Same (k : RecordKey table) (a b : Record) : Prop :=
  a.body = b.body ∧ (∃ f, a.apart = k.uuids f) ∧ ∃ g, b.apart = k.uuids g

theorem lookup_map {β : Type} (names : List String) (f : String → β) (name : String) :
    (names.map fun x => (x, f x)).lookup name = if name ∈ names then some (f name) else none := by
  induction names with
  | nil => rfl
  | cons x names ih =>
    rw [List.map_cons, List.lookup_cons, ih]
    by_cases hx : name = x
    · subst hx
      simp
    · simp [hx, beq_eq_false_iff_ne.mpr hx]

theorem field?_eq {k : RecordKey table} (hr : k.type.readable) {r : Record} {f : String → BitVec 128}
    (hf : r.apart = k.uuids f) (name : String) : MessageFamily.field? k r name =
      if name ∈ k.type.apart then some (.uuid (f name)) else none := by
  simp only [MessageFamily.field?, hr, if_true, hf, uuids, lookup_map]
  split
  · rfl
  · rfl

theorem composed {k : RecordKey table} (hr : k.type.readable) (hw : k.type.writable) :
    Composed k k.Same := by
  refine ⟨?_, ?_⟩
  · rintro a b name v ⟨hbody, ⟨f, hf⟩, g, hg⟩ hname hv
    have hname : name ∈ k.type.apart := hname
    rw [field?_eq hr hg, if_pos hname, Option.some.injEq] at hv
    subst hv
    let h : String → BitVec 128 := fun x => if x = name then g name else f x
    have hset : (a.apart.map fun e => if e.1 = name then (name, g name) else e) = k.uuids h := by
      rw [hf, uuids, List.map_map]
      refine List.map_congr_left fun x _ => ?_
      by_cases hx : x = name
      · simp [h, hx]
      · simp [h, hx]
    refine ⟨⟨a.body, k.uuids h⟩, ?_, ⟨hbody, ⟨h, rfl⟩, g, hg⟩, ?_, fun x hx => ?_⟩
    · simp only [MessageFamily.setField?]
      rw [hw, hset, if_pos (by simp [hname])]
    · rw [field?_eq hr rfl, if_pos hname]
      simp [h]
    · rw [field?_eq hr rfl, field?_eq hr hf]
      simp [h, hx]
  · rintro ⟨body, apart⟩ ⟨body', apart'⟩ ⟨hbody, ⟨f, hf⟩, g, hg⟩ heq
    dsimp only at hbody hf hg
    subst hbody hf hg
    have hfg : ∀ x ∈ k.type.apart, (x, f x) = (x, g x) := by
      intro x hx
      have hx' := heq x hx
      rw [field?_eq hr rfl, field?_eq hr rfl, if_pos hx, if_pos hx] at hx'
      simpa using hx'
    rw [uuids, List.map_congr_left hfg, ← uuids]

end RecordKey

namespace Codec

/-- The parts of a codec are sound for a message: every serializer reads back what it writes of it; and
where none is there for the whole type, the body codec reads the body back, whatever it puts for the
fields written apart. -/
structure Sound (c : Codec τ) (t : τ) (Same : Msg t → Msg t → Prop) (msg : Msg t) : Prop where
  custom : ∀ place s p, c.overrides.find? (MessageFamily.name t) place = some s →
    parcel? t msg place = some p → s.Reads p
  composed : c.overrides.find? (MessageFamily.name t) none = none → Composed t Same
  body : c.overrides.find? (MessageFamily.name t) none = none → ∀ b, c.body.encode t msg = .ok b →
    ∃ m, c.body.decode t b = .ok m ∧ Same m msg

variable {c d : Codec τ} {t : τ} {Same : Msg t → Msg t → Prop} {msg : Msg t}

theorem encodeFields_cons {field : String} {fields : List String} {b : Bytes}
    (h : c.encodeFields t msg (field :: fields) = .ok b) :
    ∃ s v b₁ b₂, c.overrides.find? (MessageFamily.name t) (some field) = some s ∧
      MessageFamily.field? t msg field = some v ∧ s.encode (.field v) = .ok b₁ ∧
      c.encodeFields t msg fields = .ok b₂ ∧ b = b₁ ++ b₂ := by
  rw [encodeFields] at h
  cases hs : c.overrides.find? (MessageFamily.name t) (some field) with
  | none => rw [hs] at h; cases h
  | some s =>
    cases hv : MessageFamily.field? t msg field with
    | none => rw [hs, hv] at h; cases h
    | some v =>
      rw [hs, hv] at h
      obtain ⟨b₁, h₁, h⟩ := bind_eq_ok_iff.mp h
      obtain ⟨b₂, h₂, h⟩ := bind_eq_ok_iff.mp h
      cases h
      exact ⟨s, v, b₁, b₂, rfl, rfl, h₁, h₂, rfl⟩

theorem decodeFields_encodeFields (hs : c.Sound t Same msg) (ho : d.overrides = c.overrides)
    {fields : List String} {b : Bytes} (h : c.encodeFields t msg fields = .ok b) :
    ∃ vs : List (String × FieldValue), vs.map (·.1) = fields ∧
      (∀ e ∈ vs, MessageFamily.field? t msg e.1 = some e.2) ∧
      ∀ rest, d.decodeFields t fields (b ++ rest) = .ok (vs.map fun e => (e.1, .field e.2), rest) := by
  induction fields generalizing b with
  | nil =>
    cases h
    exact ⟨[], rfl, nofun, fun _ => rfl⟩
  | cons field fields ih =>
    obtain ⟨s, v, b₁, b₂, hf, hv, h₁, h₂, rfl⟩ := encodeFields_cons h
    obtain ⟨vs, hnames, hvs, hrest⟩ := ih h₂
    refine ⟨(field, v) :: vs, by rw [List.map_cons, hnames], ?_, fun rest => ?_⟩
    · intro e he
      rcases List.mem_cons.mp he with rfl | he
      · exact hv
      · exact hvs e he
    · have hread := hs.custom _ s (.field v) hf (by rw [parcel?, hv]; rfl) b₁ h₁ (b₂ ++ rest)
      rw [decodeFields, ho, hf, List.append_assoc]
      simp only [hread, hrest, bind, Except.bind]
      rfl

/-- The fields are set one after the other; in the end they all are what they were. -/
theorem setFields_eq_ok (hc : Composed t Same) {m : Msg t} (hm : Same m msg)
    {vs : List (String × FieldValue)} (hvs : ∀ e ∈ vs, MessageFamily.field? t msg e.1 = some e.2)
    (hcustom : ∀ e ∈ vs, e.1 ∈ MessageFamily.customFields t) :
    ∃ m', setFields t m (vs.map fun e => (e.1, .field e.2)) = .ok m' ∧ Same m' msg ∧
      ∀ field, field ∈ vs.map (·.1) ∨ MessageFamily.field? t m field = MessageFamily.field? t msg field →
        MessageFamily.field? t m' field = MessageFamily.field? t msg field := by
  induction vs generalizing m with
  | nil => exact ⟨m, rfl, hm, fun field h => h.resolve_left List.not_mem_nil⟩
  | cons e vs ih =>
    obtain ⟨field, v⟩ := e
    have hv := hvs (field, v) List.mem_cons_self
    obtain ⟨m₁, hset, hsame, hnew, hold⟩ :=
      hc.set m msg field v hm (hcustom (field, v) List.mem_cons_self) hv
    obtain ⟨m', hok, hm', hfields⟩ := ih hsame (fun e he => hvs e (List.mem_cons_of_mem _ he))
      fun e he => hcustom e (List.mem_cons_of_mem _ he)
    refine ⟨m', ?_, hm', fun g hg => hfields g ?_⟩
    · rw [List.map_cons, setFields]
      simp only [hset]
      exact hok
    · by_cases hgf : g = field
      · subst hgf
        exact .inr (hnew.trans hv.symm)
      · rcases hg with hg | hg
        · exact .inl ((List.mem_cons.mp hg).resolve_left hgf)
        · exact .inr ((hold g hgf).trans hg)

variable [DecidableEq τ]

theorem decodeBody_encodeBody (hs : c.Sound t Same msg)
    (ho : d.overrides = c.overrides) (hb : d.body = c.body) {b : Bytes}
    (h : c.encodeBody t msg = .ok b) : d.decodeBody t b = .ok msg := by
  rw [encodeBody] at h
  rw [decodeBody, ho, hb]
  cases hw : c.overrides.find? (MessageFamily.name t) none with
  | some s =>
    rw [hw] at h
    have hread := hs.custom none s (.message t msg) hw rfl b h []
    rw [List.append_nil] at hread
    simp only [hread, bind, Except.bind]
    exact dif_pos trivial
  | none =>
    rw [hw] at h
    obtain ⟨b₁, h₁, h⟩ := bind_eq_ok_iff.mp h
    obtain ⟨b₂, h₂, h⟩ := bind_eq_ok_iff.mp h
    cases h
    obtain ⟨vs, hnames, hvs, hrest⟩ := decodeFields_encodeFields hs ho h₁
    obtain ⟨m, hm, hsame⟩ := hs.body hw b₂ h₂
    have hc := hs.composed hw
    obtain ⟨m', hok, hsame', hfields⟩ := setFields_eq_ok hc hsame hvs fun e he => by
      rw [← hnames]
      exact List.mem_map_of_mem he
    obtain rfl := hc.eq m' msg hsame' fun field hf => hfields field (.inl (hnames ▸ hf))
    simp only [hrest, hm, bind, Except.bind]
    exact hok

/-- The frame as it lies on the wire, part by part. -/
theorem encodeFrame_eq_ok {m : TypeTable τ} {flags : Flags} {token : SessionId} {frame : Bytes}
    (h : c.encodeFrame m t msg flags token = .ok frame) :
    ∃ (header : Header) (routing body : Bytes), m.id? t = some header.packetId ∧ header.flags = flags ∧
      routingBytes c.token token = .ok routing ∧ c.encodeBody t msg = .ok body ∧
      header.length.toNat = minDeclared + (routing ++ body).length ∧
      frame = header.bytes ++ (routing ++ body) := by
  obtain ⟨id, hid, h⟩ := bind_eq_ok_iff.mp h
  have hr : ∃ routing, routingBytes c.token token = .ok routing ∧
      (c.encodeBody t msg >>= fun body => assemble flags id (routing ++ body)) = .ok frame := by
    cases hf : c.token with
    | none => rw [hf] at h; exact ⟨[], rfl, h⟩
    | some f => rw [hf] at h; exact bind_eq_ok_iff.mp h
  obtain ⟨routing, hr, h⟩ := hr
  obtain ⟨body, hb, h⟩ := bind_eq_ok_iff.mp h
  rw [assemble] at h
  split at h
  · cases h
  next hfit =>
    cases h
    refine ⟨_, routing, body, TypeTable.getId_eq_ok_iff.mp hid, rfl, hr, hb, ?_, rfl⟩
    exact UInt16.toNat_ofNat_of_lt' (by rw [maxDeclared] at hfit; exact Nat.lt_succ_of_le (by omega))

/-- The frame brings the message to a reader, with its flags and its token, under the packet id given and
under the length that it has. -/
def Delivers (d : Codec τ) (m : TypeTable τ) (frame : Bytes) (id : Option PacketId) (flags : Flags)
    (token : Option SessionId) (t : τ) (msg : Msg t) : Prop :=
  ∃ header : Header, header.flags = flags ∧ id = some header.packetId ∧
    header.length.toNat + lengthSize = frame.length ∧ d.decode m t frame = .ok ⟨header, token, msg⟩

theorem delivers_encodeFrame (hs : c.Sound t Same msg) (hb : d.body = c.body)
    (ho : d.overrides = c.overrides) (ht : d.token = c.token) {m m' : TypeTable τ} (hm : m.Agree m' t)
    {flags : Flags} {token : SessionId} {frame : Bytes}
    (h : c.encodeFrame m t msg flags token = .ok frame) :
    d.Delivers m' frame (m.id? t) flags (c.token.map fun _ => token) t msg := by
  obtain ⟨header, routing, body, hid, hflags, hr, hbody, hl, rfl⟩ := encodeFrame_eq_ok h
  refine ⟨header, hflags, hid, Header.length_bytes_append_of_length hl, ?_⟩
  have hview := parseFrame_append hr hl
  have hid' := TypeTable.getId_eq_ok_iff.mpr (hm.id?_eq_some hid)
  have hmsg := decodeBody_encodeBody hs ho hb hbody
  simp only [decode, decodeHeader, ht, hview, hid', hmsg, bind, Except.bind]
  rw [if_neg (not_not_intro rfl)]
  rfl

/-- Whatever a codec encodes, with a token or without one, a codec with the same settings decodes to the
same message, whichever way its type is written. -/
theorem round_trip (hs : c.Sound t Same msg) (hb : d.body = c.body)
    (ho : d.overrides = c.overrides) (ht : d.token = c.token) {m m' : TypeTable τ} (hm : m.Agree m' t)
    (flags : Flags) :
    (∀ frame, c.encode m t msg flags = .ok frame →
      d.Delivers m' frame (m.id? t) flags (c.token.map fun _ => .nil) t msg) ∧
    ∀ token frame, c.encodeRouted m t msg flags token = .ok frame →
      d.Delivers m' frame (m.id? t) flags (some token) t msg := by
  refine ⟨fun frame h => delivers_encodeFrame hs hb ho ht hm h, fun token frame h => ?_⟩
  rw [encodeRouted] at h
  cases hf : c.token with
  | none => rw [hf] at h; cases h
  | some f =>
    rw [hf] at h
    have hd := delivers_encodeFrame hs hb ho ht hm h
    rw [hf] at hd
    exact hd

def joinedTypes : List (String × RecordType) :=
  [("joined", {
    name := "game.Joined", schema := .record [("level", .int .u32)], apart := ["player", "session"] })]

def joined : RecordKey joinedTypes := ⟨"joined"⟩

/-- The uuids have their serializer, and the rest goes into a packed body. -/
def joinedCodec (decoders : List (PacketId × RecordKey joinedTypes)) :
    Codec (RecordKey joinedTypes) where
  body := BodyFormat.bincode.codec
  token := some .u32
  overrides := (Overrides.empty.insert "game.Joined" (some "player") .uuid).insert "game.Joined"
    (some "session") .uuid
  decoders := decoders

def aJoin : Record := ⟨.record [("level", .int .u32 3)], [("player", 5), ("session", 9)]⟩

/-- Under the id 7. -/
def joinedTable : TypeTable (RecordKey joinedTypes) :=
  ⟨[(joined, ⟨⟨7⟩, "game.Joined", joined⟩)], [(⟨7⟩, ⟨⟨7⟩, "game.Joined", joined⟩)]⟩

theorem round_trip_joined : ∃ frame,
    (joinedCodec []).encodeRouted joinedTable joined aJoin ⟨0xffffffff⟩ (.ofNat 77) = .ok frame ∧
    (joinedCodec [(⟨7⟩, joined)]).Delivers joinedTable frame (some ⟨7⟩) ⟨0xffffffff⟩
      (some (.ofNat 77)) joined aJoin := by
  have hs : (joinedCodec []).Sound joined joined.Same aJoin := by
    refine ⟨fun place s p hf _ => ?_, fun _ => RecordKey.composed rfl rfl, fun _ b hb => ?_⟩
    · obtain ⟨l₁, l₂, he, -⟩ := List.lookup_eq_some_iff.mp hf
      have hm : (("game.Joined", place), s) ∈ (joinedCodec []).overrides.entries := by
        rw [he]
        exact List.mem_append_right _ List.mem_cons_self
      have hu : s = .uuid := by
        simp only [joinedCodec, Overrides.insert, Overrides.empty, List.mem_cons, Prod.mk.injEq,
          List.not_mem_nil, or_false] at hm
        rcases hm with ⟨-, h⟩ | ⟨-, h⟩
        · exact h
        · exact h
      exact hu ▸ CustomSerializer.uuid_reads p
    · cases hb
      exact ⟨⟨.record [("level", .int .u32 3)], joined.uuids fun _ => 0⟩, rfl, rfl,
        ⟨fun _ => 0, rfl⟩, fun name => if name = "player" then 5 else 9, rfl⟩
  obtain ⟨frame, hf⟩ : ∃ frame, (joinedCodec []).encodeRouted joinedTable joined aJoin ⟨0xffffffff⟩
      (.ofNat 77) = .ok frame := ⟨_, rfl⟩
  have hm : joinedTable.Agree joinedTable joined := .inl .refl
  exact ⟨frame, hf, (round_trip (d := joinedCodec [(⟨7⟩, joined)]) hs rfl rfl rfl hm
    ⟨0xffffffff⟩).2 (.ofNat 77) frame hf⟩

end Codec

end FrameGateway
