import FrameGateway.Proofs.Frame.Token
/-! The grammar of a frame: a length that counts what follows it, flags, a packet id, the routing field if there
is one, and a body. Byte strings of this form are taken apart and no others, what is wrong with the others is
told by their lengths alone, and nothing is lost on the way in either direction (`frame_grammar`). Three checks
keep every position that is read within the frame; this is proved of a reader that looks each of them up. -/

namespace FrameGateway

def tokenWidth (format : Option TokenFormat) : Nat := (format.map (·.width)).getD 0

variable {format : Option TokenFormat} {s : SessionId} {frame routing : Bytes}

theorem length_routingBytes (h : routingBytes format s = .ok routing) : routing.length = tokenWidth format := by
  cases format with
  | none => cases h; rfl
  | some f => exact TokenFormat.length_of_bytes h

theorem exists_routingBytes (h : ∀ f, format = some f → f.fits s = true) :
    ∃ routing, routingBytes format s = .ok routing := by
  cases format with
  | none => exact ⟨[], rfl⟩
  | some f => exact ⟨_, TokenFormat.bytes_eq_ok_iff.mpr ⟨h f rfl, rfl⟩⟩

def FrameView.cut (format : Option TokenFormat) (frame : Bytes) : FrameView where
  header := ⟨.ofNat (announced frame), ⟨.ofNat (leNat ((frame.drop 2).take 4))⟩,
    .ofNat (leNat ((frame.drop 6).take 2))⟩
  token := format.map fun f => .ofNat (leNat ((frame.drop headerSize).take f.width))
  body := frame.drop (headerSize + tokenWidth format)

/-- Lengths decide whether a frame is taken apart, and if not, what is said to be wrong with it. -/
theorem parseFrame_eq (format : Option TokenFormat) (frame : Bytes) : parseFrame format frame =
    if frame.length < lengthSize then .error .truncatedHeader
    else if announced frame ≠ frame.length - lengthSize then
      .error (.invalidFrame (announced frame) (frame.length - lengthSize))
    else if announced frame < minDeclared then .error .truncatedHeader
    else if announced frame < minDeclared + tokenWidth format then .error .tokenOutOfBounds
    else .ok (.cut format frame) := by
  have hsizes := headerSize_eq
  rw [parseFrame, Header.parse_eq]
  split_ifs with h2 hd h6 hw
  · rfl
  · rfl
  · rfl
  · cases format with
    | none => exact absurd hw h6
    | some f =>
      have hw : announced frame < minDeclared + f.width := hw
      have hshort : f.resolve frame headerSize = .error .tokenOutOfBounds := if_neg (by omega)
      simp only [bind, Except.bind, hshort]
  · cases format with
    | none => rfl
    | some f =>
      have hw : ¬ announced frame < minDeclared + f.width := hw
      have hfound : f.resolve frame headerSize =
          .ok (.ofNat (leNat ((frame.drop headerSize).take f.width)), headerSize + f.width) := if_pos (by omega)
      simp only [bind, Except.bind, hfound]
      rfl

/-- What is taken apart is what has been put together: a header that counts a routing field and a body. -/
theorem parseFrame_eq_ok_iff {v : FrameView} : parseFrame format frame = .ok v ↔
    ∃ routing, routingBytes format (v.token.getD .nil) = .ok routing ∧
      (format.map fun _ => v.token.getD .nil) = v.token ∧
      v.header.length.toNat = minDeclared + (routing ++ v.body).length ∧
      frame = v.header.bytes ++ (routing ++ v.body) := by
  constructor
  · intro h
    obtain ⟨header, hp, h⟩ := bind_eq_ok_iff.mp h
    obtain ⟨rest, rfl, hl⟩ := Header.bytes_append_of_parse hp
    have hrest : (header.bytes ++ rest).drop headerSize = rest := List.drop_left' header.length_bytes
    cases format with
    | none =>
      cases h
      rw [hrest]
      exact ⟨[], rfl, rfl, hl, rfl⟩
    | some f =>
      obtain ⟨⟨token, cursor⟩, hr, h⟩ := bind_eq_ok_iff.mp h
      cases h
      obtain ⟨rfl, -, hbytes⟩ := TokenFormat.resolve_eq_ok_iff.mp hr
      rw [hrest] at hbytes
      rw [← List.drop_drop, hrest]
      refine ⟨rest.take f.width, hbytes, rfl, ?_, ?_⟩
      · rw [List.take_append_drop]
        exact hl
      · rw [List.take_append_drop]
  · rintro ⟨routing, hr, htoken, hl, rfl⟩
    rw [parseFrame_append hr hl, htoken]

/-! ### Reading by positions -/

/-- So many bytes from a position on; `none` where one of them would lie past the end. -/
def Bytes.at? (bs : Bytes) (position count : Nat) : Option Bytes :=
  if position + count ≤ bs.length then some ((bs.drop position).take count) else none

/-- All bytes from a position on; `none` where it lies past the end. -/
def Bytes.from? (bs : Bytes) (position : Nat) : Option Bytes :=
  if position ≤ bs.length then some (bs.drop position) else none

def Header.read? (frame : Bytes) : Option (Except Fault Header) :=
  if frame.length < lengthSize then some (.error .truncatedHeader)
  else (frame.at? 0 2).bind fun length =>
    let declared := leNat length
    let available := frame.length - lengthSize
    if declared ≠ available then some (.error (.invalidFrame declared available))
    else if declared < minDeclared then some (.error .truncatedHeader)
    else (frame.at? 2 4).bind fun flags => (frame.at? 6 2).bind fun packetId =>
      some (.ok ⟨.ofNat declared, ⟨.ofNat (leNat flags)⟩, .ofNat (leNat packetId)⟩)

/-- The token at a cursor. That its field lies within the data is asked first, and then each of its bytes is
looked up. -/
def TokenFormat.read? (f : TokenFormat) (data : Bytes) (cursor : Nat) : Option (Except Fault (SessionId × Nat)) :=
  match data.at? cursor f.width with
  | none => some (.error .tokenOutOfBounds)
  | some raw => (raw.at? 0 f.width).bind fun word => some (.ok (.ofNat (leNat word), cursor + f.width))

/-- A frame, each part at its position; `none` where one of these lies past the end. -/
def FrameView.read? (format : Option TokenFormat) (frame : Bytes) : Option (Except Fault FrameView) :=
  (Header.read? frame).bind fun
    | .error e => some (.error e)
    | .ok header => match format with
      | none => (frame.from? headerSize).bind fun body => some (.ok ⟨header, none, body⟩)
      | some f => (f.read? frame headerSize).bind fun
        | .error e => some (.error e)
        | .ok (token, cursor) => (frame.from? cursor).bind fun body => some (.ok ⟨header, some token, body⟩)

theorem Header.read?_eq (frame : Bytes) : read? frame = some (parse frame) := by
  rw [read?, parse_eq]
  by_cases h2 : frame.length < lengthSize
  · rw [if_pos h2, if_pos h2]
  have hlength : frame.at? 0 2 = some (frame.take lengthSize) := if_pos (by simp only [lengthSize] at h2; omega)
  rw [if_neg h2, if_neg h2, hlength, Option.bind_some]
  dsimp only
  rw [← announced]
  split_ifs with hd h6
  · rfl
  · rfl
  · -- flags and packet id stand within the six bytes that are counted at least
    have h8 : 8 ≤ frame.length := by
      simp only [lengthSize, minDeclared] at h2 hd h6
      omega
    have hflags : frame.at? 2 4 = some ((frame.drop 2).take 4) := if_pos (by omega)
    have hid : frame.at? 6 2 = some ((frame.drop 6).take 2) := if_pos (by omega)
    rw [hflags, hid]
    rfl

theorem TokenFormat.read?_eq (f : TokenFormat) (data : Bytes) (cursor : Nat) :
    f.read? data cursor = some (f.resolve data cursor) := by
  rw [read?, resolve, Bytes.at?]
  by_cases h : cursor + f.width ≤ data.length
  · have hword : ((data.drop cursor).take f.width).length = f.width := by
      rw [List.length_take, List.length_drop]
      omega
    have hall : Bytes.at? ((data.drop cursor).take f.width) 0 f.width = some ((data.drop cursor).take f.width) := by
      rw [Bytes.at?, if_pos (by omega), List.drop_zero, List.take_take, Nat.min_self]
    rw [if_pos h, if_pos h]
    dsimp only
    rw [hall]
    rfl
  · rw [if_neg h, if_neg h]

/-- No position that is read lies past the end of the frame. -/
theorem FrameView.read?_eq (format : Option TokenFormat) (frame : Bytes) :
    read? format frame = some (parseFrame format frame) := by
  rw [read?, Header.read?_eq, Option.bind_some, parseFrame]
  cases hp : Header.parse frame with
  | error e => rfl
  | ok header =>
    obtain ⟨rest, rfl, -⟩ := Header.bytes_append_of_parse hp
    have hbody : ∀ n ≤ (header.bytes ++ rest).length,
        (header.bytes ++ rest).from? n = some ((header.bytes ++ rest).drop n) := fun n hn => if_pos hn
    cases format with
    | none =>
      dsimp only
      rw [hbody headerSize (by simp)]
      rfl
    | some f =>
      dsimp only
      rw [TokenFormat.read?_eq, Option.bind_some]
      cases hr : f.resolve (header.bytes ++ rest) headerSize with
      | error e => rfl
      | ok r =>
        obtain ⟨token, cursor⟩ := r
        have hcursor := (TokenFormat.resolve_eq_ok_iff.mp hr).2.1
        dsimp only
        rw [hbody cursor hcursor]
        rfl

/-- Which byte strings are frames, with a routing field of some width or without one. No position past the end is
ever read. A byte string is taken apart exactly if it has a length field, that field counts the bytes behind it, and
these have room for flags, packet id and routing field. Else the first of these that fails is told: no length field,
a count that differs, or no room for the header or for the routing field. A frame that is taken apart is put together
again from header, token and body, byte for byte; and whatever header, token and body are put together, if the
token fits and the header counts what is behind it, they are taken apart again. -/
theorem frame_grammar (format : Option TokenFormat) :
    (∀ frame, FrameView.read? format frame = some (parseFrame format frame)) ∧
    (∀ frame, (∃ v, parseFrame format frame = .ok v) ↔ lengthSize ≤ frame.length ∧
      announced frame = frame.length - lengthSize ∧ minDeclared + tokenWidth format ≤ announced frame) ∧
    (∀ frame, frame.length < lengthSize → parseFrame format frame = .error .truncatedHeader) ∧
    (∀ frame, lengthSize ≤ frame.length → announced frame ≠ frame.length - lengthSize →
      parseFrame format frame = .error (.invalidFrame (announced frame) (frame.length - lengthSize))) ∧
    (∀ frame, lengthSize ≤ frame.length → announced frame = frame.length - lengthSize →
      announced frame < minDeclared + tokenWidth format → parseFrame format frame =
        .error (if announced frame < minDeclared then .truncatedHeader else .tokenOutOfBounds)) ∧
    (∀ frame v, parseFrame format frame = .ok v → ∃ routing,
      routingBytes format (v.token.getD .nil) = .ok routing ∧ v.token.isSome = format.isSome ∧
        v.header.bytes ++ (routing ++ v.body) = frame) ∧
    ∀ (h : Header) (s : SessionId) (body : Bytes), (∀ f, format = some f → f.fits s = true) →
      h.length.toNat = minDeclared + tokenWidth format + body.length → ∃ routing,
        routingBytes format s = .ok routing ∧
          parseFrame format (h.bytes ++ (routing ++ body)) = .ok ⟨h, format.map fun _ => s, body⟩ := by
  refine ⟨FrameView.read?_eq format, fun frame => ?_, fun frame h2 => ?_, fun frame h2 hd => ?_,
    fun frame h2 hd hw => ?_, fun frame v h => ?_, fun h s body hs hl => ?_⟩
  · rw [parseFrame_eq]
    constructor
    · rintro ⟨v, h⟩
      split_ifs at h with h2 hd h6 hw
      exact ⟨Nat.not_lt.mp h2, not_not.mp hd, Nat.not_lt.mp hw⟩
    · rintro ⟨h2, hd, hw⟩
      rw [if_neg (Nat.not_lt.mpr h2), if_neg (not_not.mpr hd), if_neg (by omega), if_neg (Nat.not_lt.mpr hw)]
      exact ⟨_, rfl⟩
  · rw [parseFrame_eq, if_pos h2]
  · rw [parseFrame_eq, if_neg (Nat.not_lt.mpr h2), if_pos hd]
  · rw [parseFrame_eq, if_neg (Nat.not_lt.mpr h2), if_neg (not_not.mpr hd)]
    split_ifs
    · rfl
    · rfl
  · obtain ⟨routing, hr, htoken, -, hframe⟩ := parseFrame_eq_ok_iff.mp h
    exact ⟨routing, hr, htoken ▸ Option.isSome_map, hframe.symm⟩
  · obtain ⟨routing, hr⟩ := exists_routingBytes hs
    refine ⟨routing, hr, parseFrame_append hr ?_⟩
    rw [List.length_append, length_routingBytes hr, hl, Nat.add_assoc]

/-- A frame for session 7 with all reserved flag bits set and one byte of body; it has room for a token of four
bytes and not for one of eight, and one byte less is no frame. -/
theorem frame_grammar_of_narrow_token :
    (∃ routing, routingBytes (some .u32) (.ofNat 7) = .ok routing ∧
      parseFrame (some .u32) ((⟨11, ⟨0xFFFFFFF8⟩, ⟨42⟩⟩ : Header).bytes ++ (routing ++ [0xEE])) =
        .ok ⟨⟨11, ⟨0xFFFFFFF8⟩, ⟨42⟩⟩, some (.ofNat 7), [0xEE]⟩) ∧
    parseFrame (some .u64) [11, 0, 0xF8, 0xFF, 0xFF, 0xFF, 42, 0, 7, 0, 0, 0, 0xEE] = .error .tokenOutOfBounds ∧
    parseFrame (some .u32) [11, 0, 0xF8, 0xFF, 0xFF, 0xFF, 42, 0, 7, 0, 0, 0] = .error (.invalidFrame 11 10) := by
  refine ⟨?_, ?_, ?_⟩
  · obtain ⟨-, -, -, -, -, -, hwritten⟩ := frame_grammar (some .u32)
    refine hwritten ⟨11, ⟨0xFFFFFFF8⟩, ⟨42⟩⟩ (.ofNat 7) [0xEE] (fun f hf => ?_) rfl
    cases hf
    decide
  · exact (frame_grammar (some .u64)).2.2.2.2.1 _ (by decide) (by decide) (by decide)
  · exact (frame_grammar (some .u32)).2.2.2.1 _ (by decide) (by decide)

end FrameGateway
