import FrameGateway.Proofs.Codec.RoundTrip
import FrameGateway.Proofs.Frame.Chunks
import FrameGateway.Proofs.Frame.Grammar
/-! What frames have room for. A frame counts in 16 bits what follows its length field, and this bound is
exact: a message whose type has an id becomes a frame if its token fits, all of its parts can be written, and
header, routing field and body together stay within the bound, and only then (`Codec.encodes_what_fits`). -/

namespace FrameGateway

variable {τ : Type} [MessageFamily τ]

namespace Codec

variable {c : Codec τ} {m : TypeTable τ} {t : τ} {msg : Msg t} {id : PacketId} {flags : Flags}
  {token : SessionId} {frame : Bytes}

/-! ### Bodies -/

/-- A field written apart: it can be read, it has a serializer, and this one succeeds. -/
def WritesField (c : Codec τ) (t : τ) (msg : Msg t) (field : String) (piece : Bytes) : Prop :=
  ∃ s v, c.overrides.find? (MessageFamily.name t) (some field) = some s ∧
    MessageFamily.field? t msg field = some v ∧ s.encode (.field v) = .ok piece

/-- The body of a message, either as the serializer of its whole type writes it or piece by piece: every
field written apart, in order, and then what the body codec makes of the rest. -/
inductive Writes (c : Codec τ) (t : τ) (msg : Msg t) : Bytes → Prop
  | whole (s : CustomSerializer τ) (body : Bytes)
      (hs : c.overrides.find? (MessageFamily.name t) none = some s)
      (hbody : s.encode (.message t msg) = .ok body) : Writes c t msg body
  | apart (pieces : List Bytes) (rest : Bytes)
      (hs : c.overrides.find? (MessageFamily.name t) none = none)
      (hpieces : List.Forall₂ (c.WritesField t msg) (MessageFamily.customFields t) pieces)
      (hrest : c.body.encode t msg = .ok rest) : Writes c t msg (pieces.flatten ++ rest)

theorem encodeFields_eq_ok_iff {fields : List String} {b : Bytes} :
    c.encodeFields t msg fields = .ok b ↔
      ∃ pieces, List.Forall₂ (c.WritesField t msg) fields pieces ∧ b = pieces.flatten := by
  constructor
  · intro h
    induction fields generalizing b with
    | nil =>
      cases h
      exact ⟨[], .nil, rfl⟩
    | cons field fields ih =>
      obtain ⟨s, v, piece, b', hs, hv, hpiece, hb', rfl⟩ := encodeFields_cons h
      obtain ⟨pieces, hpieces, rfl⟩ := ih hb'
      exact ⟨piece :: pieces, .cons ⟨s, v, hs, hv, hpiece⟩ hpieces, rfl⟩
  · rintro ⟨pieces, h, rfl⟩
    induction h with
    | nil => rfl
    | cons hfield _ ih =>
      obtain ⟨s, v, hs, hv, hpiece⟩ := hfield
      rw [encodeFields, hs, hv]
      simp only [hpiece, ih, bind, Except.bind]
      rfl

theorem encodeBody_eq_ok_iff {body : Bytes} : c.encodeBody t msg = .ok body ↔ c.Writes t msg body := by
  rw [encodeBody]
  constructor
  · intro h
    cases hs : c.overrides.find? (MessageFamily.name t) none with
    | some s =>
      rw [hs] at h
      exact .whole s body hs h
    | none =>
      rw [hs] at h
      obtain ⟨b, hb, h⟩ := bind_eq_ok_iff.mp h
      obtain ⟨rest, hrest, h⟩ := bind_eq_ok_iff.mp h
      cases h
      obtain ⟨pieces, hpieces, rfl⟩ := encodeFields_eq_ok_iff.mp hb
      exact .apart pieces rest hs hpieces hrest
  · intro h
    cases h with
    | whole s body hs hbody =>
      rw [hs]
      exact hbody
    | apart pieces rest hs hpieces hrest =>
      rw [hs]
      simp only [encodeFields_eq_ok_iff.mpr ⟨pieces, hpieces, rfl⟩, hrest, bind, Except.bind]
      rfl

/-! ### Frames -/

/-- All that stands in front of a body is the header and the routing field. -/
theorem overhead_eq {routing : Bytes} (hr : routingBytes c.token token = .ok routing) :
    c.overhead = headerSize + routing.length := by
  rw [length_routingBytes hr]
  rfl

variable [DecidableEq τ]

/-- A frame is put together as soon as its body is written. -/
theorem encodeFrame_eq_bind {routing : Bytes} (hid : m.id? t = some id)
    (hr : routingBytes c.token token = .ok routing) : c.encodeFrame m t msg flags token =
      (c.encodeBody t msg).bind fun body => assemble flags id (routing ++ body) := by
  rw [encodeFrame, TypeTable.getId_eq_ok_iff.mpr hid]
  cases hf : c.token with
  | none =>
    rw [hf] at hr
    cases hr
    rfl
  | some format =>
    rw [hf] at hr
    have hr : format.bytes token = .ok routing := hr
    simp only [bind, Except.bind, hr]

/-- A frame from the parts that are known to be writable. -/
theorem encodeFrame_eq {routing body : Bytes} (hid : m.id? t = some id)
    (hr : routingBytes c.token token = .ok routing) (hbody : c.encodeBody t msg = .ok body) :
    c.encodeFrame m t msg flags token = assemble flags id (routing ++ body) := by
  rw [encodeFrame_eq_bind hid hr, hbody]
  rfl

theorem isFrame_encodeFrame (h : c.encodeFrame m t msg flags token = .ok frame) : IsFrame frame := by
  obtain ⟨header, routing, body, -, -, -, -, hl, rfl⟩ := encodeFrame_eq_ok h
  exact Header.exists_parse_iff.mp ⟨header, Header.parse_bytes_append hl⟩

/-- With a format for tokens, frames are encoded with any. -/
theorem encodeRouted_eq {format : TokenFormat} (hf : c.token = some format) :
    c.encodeRouted m t msg flags token = c.encodeFrame m t msg flags token := by
  unfold encodeRouted
  simp [hf]

omit [DecidableEq τ] in
/-- Parts that a frame has room for are put together, and for others the size that it would have is told. -/
theorem assemble_eq {routing : Bytes} (hr : routing.length = tokenWidth c.token) (body : Bytes) :
    assemble flags id (routing ++ body) =
      if maxDeclared < minDeclared + tokenWidth c.token + body.length then
        .error (.messageTooLarge (c.overhead + body.length))
      else .ok ((Header.mk (.ofNat (minDeclared + tokenWidth c.token + body.length)) flags id).bytes ++
        (routing ++ body)) := by
  have hcount : minDeclared + (routing ++ body).length = minDeclared + tokenWidth c.token + body.length := by
    rw [List.length_append, hr, Nat.add_assoc]
  have hsize : lengthSize + (minDeclared + tokenWidth c.token + body.length) = c.overhead + body.length := by
    rw [show c.overhead = headerSize + tokenWidth c.token from rfl, headerSize_eq]
    omega
  rw [assemble, hcount, hsize]

/-- The message can be written, and a frame has room for it. -/
def Fits (c : Codec τ) (t : τ) (msg : Msg t) : Prop :=
  ∃ body, c.encodeBody t msg = .ok body ∧ c.overhead + body.length ≤ lengthSize + maxDeclared

theorem Fits.encodeFrame (h : c.Fits t msg) {routing : Bytes} (hid : m.id? t = some id)
    (hr : routingBytes c.token token = .ok routing) (flags : Flags) :
    ∃ frame, c.encodeFrame m t msg flags token = .ok frame := by
  obtain ⟨body, hbody, hfit⟩ := h
  have hw := overhead_eq hr
  rw [encodeFrame_eq hid hr hbody, assemble, if_neg]
  · exact ⟨_, rfl⟩
  · rw [List.length_append]
    simp only [headerSize, lengthSize, minDeclared] at *
    omega

/-! ### Both ways to encode -/

/-- A frame under a token of the caller's, or, where none is given, under the nil token if there is a field for
tokens at all. -/
def encodeUnder (c : Codec τ) (m : TypeTable τ) (t : τ) (msg : Msg t) (flags : Flags) :
    Option SessionId → Except Fault Bytes
  | none => c.encode m t msg flags
  | some token => c.encodeRouted m t msg flags token

/-- There is a field for the caller's token, and it fits. -/
def Carries (c : Codec τ) : Option SessionId → Prop
  | none => True
  | some token => ∃ f, c.token = some f ∧ f.fits token = true

variable {under : Option SessionId}

omit [DecidableEq τ] in
theorem Carries.exists_routing (h : c.Carries under) :
    ∃ routing, routingBytes c.token (under.getD .nil) = .ok routing := by
  refine exists_routingBytes fun f hf => ?_
  cases under with
  | none => cases f <;> rfl
  | some token =>
    obtain ⟨f', hf', hfits⟩ := h
    rw [hf, Option.some.injEq] at hf'
    rw [hf']
    exact hfits

theorem Carries.encodeUnder_eq (h : c.Carries under) :
    c.encodeUnder m t msg flags under = c.encodeFrame m t msg flags (under.getD .nil) := by
  cases under with
  | none => rfl
  | some token =>
    obtain ⟨f, hf, -⟩ := h
    exact encodeRouted_eq hf

/-- A token that cannot be carried is refused before anything is written. -/
theorem encodeUnder_of_not_carries (msg : Msg t) (flags : Flags) (hid : m.id? t = some id) (h : ¬c.Carries under) :
    ∃ e, c.encodeUnder m t msg flags under = .error e ∧ ∀ n, e ≠ .messageTooLarge n := by
  cases under with
  | none => exact absurd trivial h
  | some token =>
    cases hf : c.token with
    | none =>
      refine ⟨.noTokenFormat, ?_, fun n hn => by cases hn⟩
      rw [encodeUnder, encodeRouted, hf]
      rfl
    | some f =>
      have hfits : ¬f.fits token = true := fun hfits => h ⟨f, hf, hfits⟩
      refine ⟨.serialize s!"session {token.text} does not fit a {f.name} prefix", ?_, by simp⟩
      rw [encodeUnder, encodeRouted_eq hf, encodeFrame, TypeTable.getId_eq_ok_iff.mpr hid, hf]
      simp only [bind, Except.bind, TokenFormat.bytes, if_neg hfits]

/-- What becomes of a message under a token that can be carried. -/
theorem Carries.encodeUnder_of_writes (h : c.Carries under) (flags : Flags) (hid : m.id? t = some id) {body : Bytes}
    (hbody : c.Writes t msg body) : ∃ routing, routing.length = tokenWidth c.token ∧
      c.encodeUnder m t msg flags under =
        if maxDeclared < minDeclared + tokenWidth c.token + body.length then
          .error (.messageTooLarge (c.overhead + body.length))
        else .ok ((Header.mk (.ofNat (minDeclared + tokenWidth c.token + body.length)) flags id).bytes ++
          (routing ++ body)) := by
  obtain ⟨routing, hr⟩ := h.exists_routing
  have hlength := length_routingBytes hr
  refine ⟨routing, hlength, ?_⟩
  rw [h.encodeUnder_eq, encodeFrame_eq hid hr (encodeBody_eq_ok_iff.mpr hbody), assemble_eq hlength]

/-- Where a body cannot be written, its fault is the answer. -/
theorem Carries.encodeUnder_of_fault (h : c.Carries under) (hid : m.id? t = some id) {e : Fault}
    (he : c.encodeBody t msg = .error e) : c.encodeUnder m t msg flags under = .error e := by
  obtain ⟨routing, hr⟩ := h.exists_routing
  rw [h.encodeUnder_eq, encodeFrame_eq_bind hid hr, he]
  rfl

/-- What a frame that has been made consists of. -/
theorem parts_of_encodeUnder (hid : m.id? t = some id) (h : c.encodeUnder m t msg flags under = .ok frame) :
    c.Carries under ∧ ∃ length routing body, routing.length = tokenWidth c.token ∧ c.Writes t msg body ∧
      length.toNat = minDeclared + (routing ++ body).length ∧
      frame = (Header.mk length flags id).bytes ++ (routing ++ body) := by
  by_cases hc : c.Carries under
  · rw [hc.encodeUnder_eq] at h
    obtain ⟨⟨length, flags', id'⟩, routing, body, hid', hflags, hr, hbody, hl, rfl⟩ := encodeFrame_eq_ok h
    obtain rfl : flags' = flags := hflags
    obtain rfl : id = id' := Option.some.inj (hid.symm.trans hid')
    exact ⟨hc, length, routing, body, length_routingBytes hr, encodeBody_eq_ok_iff.mp hbody, hl, rfl⟩
  · obtain ⟨e, he, -⟩ := encodeUnder_of_not_carries msg flags hid hc
    rw [he] at h
    cases h

/-- A size is told of the frame that a body would make, unless a serializer tells one of its own. -/
theorem size_of_encodeUnder (hid : m.id? t = some id) {n : Nat}
    (h : c.encodeUnder m t msg flags under = .error (.messageTooLarge n)) : c.Carries under ∧
      ((∃ body, c.Writes t msg body ∧ n = c.overhead + body.length ∧
        maxDeclared < minDeclared + tokenWidth c.token + body.length) ∨
      c.encodeBody t msg = .error (.messageTooLarge n)) := by
  by_cases hc : c.Carries under
  · refine ⟨hc, ?_⟩
    cases hb : c.encodeBody t msg with
    | error e =>
      rw [hc.encodeUnder_of_fault hid hb] at h
      exact .inr h
    | ok body =>
      have hbody := encodeBody_eq_ok_iff.mp hb
      obtain ⟨routing, -, heq⟩ := hc.encodeUnder_of_writes flags hid hbody
      rw [heq] at h
      split at h
      next hover =>
        cases h
        exact .inl ⟨body, hbody, rfl, hover⟩
      · cases h
  · obtain ⟨e, he, hne⟩ := encodeUnder_of_not_carries msg flags hid hc
    rw [he, Except.error.injEq] at h
    exact absurd h (hne n)

/-- A message whose type has an id becomes a frame exactly if its token can be carried, its body can be written,
and what follows the length field can be counted in it. If only the last of these fails, the size of the whole
frame is told; a size that is told in any other case comes from a serializer. A frame that is made has the
body that is written of the message and nothing more besides header and routing field; its length field counts
all that follows; and it is accepted by the reader of headers and by both directions of a stream, as one frame
with nothing left over. -/
theorem encodes_what_fits (c : Codec τ) (hid : m.id? t = some id) (msg : Msg t) (flags : Flags)
    (under : Option SessionId) :
    ((∃ frame, c.encodeUnder m t msg flags under = .ok frame) ↔ c.Carries under ∧ ∃ body,
      c.Writes t msg body ∧ minDeclared + tokenWidth c.token + body.length ≤ maxDeclared) ∧
    ((∃ body, c.Writes t msg body ∧
        c.encodeUnder m t msg flags under = .error (.messageTooLarge (c.overhead + body.length))) ↔
      c.Carries under ∧ ∃ body,
        c.Writes t msg body ∧ maxDeclared < minDeclared + tokenWidth c.token + body.length) ∧
    (∀ n, c.encodeUnder m t msg flags under = .error (.messageTooLarge n) →
      (∃ body, c.Writes t msg body ∧ n = c.overhead + body.length) ∨
        c.encodeBody t msg = .error (.messageTooLarge n)) ∧
    ∀ frame, c.encodeUnder m t msg flags under = .ok frame →
      (∃ body, c.Writes t msg body ∧ frame.length = c.overhead + body.length) ∧
      announced frame = frame.length - lengthSize ∧
      (∃ length, Header.parse frame = .ok ⟨length, flags, id⟩) ∧
      FrameStream.encode frame = .ok frame ∧
      FrameStream.next? frame = .ok (some (frame, [])) := by
  refine ⟨⟨?_, ?_⟩, ⟨?_, ?_⟩, fun n h => ?_, fun frame h => ?_⟩
  · rintro ⟨frame, h⟩
    obtain ⟨hc, length, routing, body, hr, hbody, hl, -⟩ := parts_of_encodeUnder hid h
    have hmost : length.toNat ≤ maxDeclared := Nat.le_of_lt_succ length.toNat_lt
    rw [hl, List.length_append, hr, ← Nat.add_assoc] at hmost
    exact ⟨hc, body, hbody, hmost⟩
  · rintro ⟨hc, body, hbody, hfit⟩
    obtain ⟨routing, -, heq⟩ := hc.encodeUnder_of_writes flags hid hbody
    rw [if_neg (Nat.not_lt.mpr hfit)] at heq
    exact ⟨_, heq⟩
  · rintro ⟨body, hbody, h⟩
    obtain ⟨hc, ⟨body', hbody', -, hover⟩ | he⟩ := size_of_encodeUnder hid h
    · exact ⟨hc, body', hbody', hover⟩
    · rw [encodeBody_eq_ok_iff.mpr hbody] at he
      cases he
  · rintro ⟨hc, body, hbody, hover⟩
    obtain ⟨routing, -, heq⟩ := hc.encodeUnder_of_writes flags hid hbody
    rw [if_pos hover] at heq
    exact ⟨body, hbody, heq⟩
  · obtain ⟨-, ⟨body, hbody, hn, -⟩ | he⟩ := size_of_encodeUnder hid h
    · exact .inl ⟨body, hbody, hn⟩
    · exact .inr he
  · obtain ⟨-, length, routing, body, hr, hbody, hl, rfl⟩ := parts_of_encodeUnder hid h
    have hsize := Header.length_bytes_append_of_length (h := ⟨length, flags, id⟩) hl
    have hparse := Header.parse_bytes_append (h := ⟨length, flags, id⟩) hl
    have hwhole := Header.exists_parse_iff.mp ⟨_, hparse⟩
    refine ⟨⟨body, hbody, ?_⟩, ?_, ⟨length, hparse⟩, ?_, ?_⟩
    · rw [List.length_append, List.length_append, Header.length_bytes, hr, ← Nat.add_assoc]
      rfl
    · rw [← hsize, Nat.add_sub_cancel, Header.announced_bytes_append]
    · exact FrameStream.encode_eq_ok_iff.mpr ⟨hwhole, rfl⟩
    · exact FrameStream.next?_eq_some_iff.mpr ⟨hwhole, (List.append_nil _).symm⟩

/-- Two uuids are written apart, and so many zeros for the rest. -/
def zeroCodec (n : Nat) : Codec (RecordKey joinedTypes) where
  body := ⟨"zeros", "Zeros", fun _ _ => .ok (List.replicate n 0), fun _ _ => .error (.deserialize "zeros")⟩
  token := some .u32
  overrides := (joinedCodec []).overrides
  decoders := []

theorem writes_zeros (n : Nat) :
    (zeroCodec n).Writes joined aJoin ([leBytes 16 5, leBytes 16 9].flatten ++ List.replicate n 0) :=
  .apart _ _ rfl (.cons ⟨.uuid, .uuid 5, rfl, rfl, rfl⟩ (.cons ⟨.uuid, .uuid 9, rfl, rfl, rfl⟩ .nil)) rfl

/-- Behind a token of four bytes and two uuids there is room for 65493 bytes and for no more. -/
theorem encodes_what_fits_at_the_limit : joinedTable.id? joined = some ⟨7⟩ ∧
    (∃ frame, (zeroCodec 65493).encodeUnder joinedTable joined aJoin .none (some (.ofNat 77)) = .ok frame ∧
      frame.length = 65537) ∧
    (zeroCodec 65494).encodeUnder joinedTable joined aJoin .none (some (.ofNat 77)) =
      .error (.messageTooLarge 65538) := by
  have hid : joinedTable.id? joined = some ⟨7⟩ := rfl
  have hlength : ∀ n body, (zeroCodec n).Writes joined aJoin body → body.length = 32 + n := by
    intro n body h
    have hsame := (encodeBody_eq_ok_iff.mpr h).symm.trans (encodeBody_eq_ok_iff.mpr (writes_zeros n))
    rw [Except.ok.inj hsame, List.length_append, List.length_replicate]
    rfl
  have hcarries : ∀ n, (zeroCodec n).Carries (some (.ofNat 77)) := fun n => ⟨.u32, rfl, rfl⟩
  refine ⟨hid, ?_, ?_⟩
  · obtain ⟨hmade, -, -, hframes⟩ := encodes_what_fits (zeroCodec 65493) hid aJoin .none (some (.ofNat 77))
    obtain ⟨frame, h⟩ := hmade.mpr ⟨hcarries _, _, writes_zeros _, by rw [hlength _ _ (writes_zeros _)]; decide⟩
    obtain ⟨⟨body, hbody, hsize⟩, -⟩ := hframes frame h
    exact ⟨frame, h, by rw [hsize, hlength _ _ hbody]; rfl⟩
  · obtain ⟨-, htold, -, -⟩ := encodes_what_fits (zeroCodec 65494) hid aJoin .none (some (.ofNat 77))
    obtain ⟨body, hbody, h⟩ := htold.mpr
      ⟨hcarries _, _, writes_zeros _, by rw [hlength _ _ (writes_zeros _)]; decide⟩
    rw [hlength _ _ hbody] at h
    exact h

end Codec

end FrameGateway
