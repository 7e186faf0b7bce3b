import FrameGateway.Frame.Stream
import Mathlib.Tactic.Common
/-! Which byte strings are one frame. The reader that takes a whole frame apart and the one that cuts
frames off a buffer agree on them: both go by the length field alone. -/

namespace FrameGateway

/-- A chain of steps succeeds where each of them does. -/
theorem bind_eq_ok_iff {ε α β : Type} {x : Except ε α} {f : α → Except ε β} {b : β} :
    (x >>= f) = .ok b ↔ ∃ a, x = .ok a ∧ f a = .ok b := by
  cases x with
  | ok a => simp [bind, Except.bind]
  | error e => simp [bind, Except.bind]

theorem headerSize_eq : headerSize = lengthSize + minDeclared := rfl

/-- What the length field at the start of the bytes announces. -/
def announced (bs : Bytes) : Nat := leNat (bs.take lengthSize)

/-- One frame and nothing else: the length field counts what follows it, and a header is there. -/
def IsFrame (bs : Bytes) : Prop := bs.length = lengthSize + announced bs ∧ headerSize ≤ bs.length

theorem leNat_leBytes_of_lt (w : Nat) {n : Nat} (h : n < 256 ^ w) : leNat (leBytes w n) = n := by
  rw [leNat_leBytes, Nat.mod_eq_of_lt h]

theorem announced_append {a : Bytes} (b : Bytes) (h : lengthSize ≤ a.length) :
    announced (a ++ b) = announced a := by
  rw [announced, List.take_append_of_le_length h, announced]

namespace Header

@[simp] theorem length_bytes (h : Header) : h.bytes.length = headerSize := by
  simp [bytes, headerSize]

theorem announced_bytes_append (h : Header) (rest : Bytes) :
    announced (h.bytes ++ rest) = h.length.toNat := by
  have hl := h.length.toNat_lt
  rw [announced_append rest (by simp [headerSize, lengthSize]), announced, bytes, List.append_assoc,
    List.take_left' (by simp [lengthSize]), leNat_leBytes]
  omega

/-- A header that counts the bytes behind it is read back. -/
theorem parse_bytes_append {h : Header} {rest : Bytes}
    (hl : h.length.toNat = minDeclared + rest.length) : parse (h.bytes ++ rest) = .ok h := by
  have el := leNat_leBytes_of_lt 2 h.length.toNat_lt
  have ef := leNat_leBytes_of_lt 4 h.flags.bits.toNat_lt
  have ep := leNat_leBytes_of_lt 2 h.packetId.val.toNat_lt
  simp only [leBytes] at el ef ep
  simp only [bytes, PacketId.toNat, leBytes, List.cons_append, List.nil_append, parse, el, ef, ep,
    List.length_cons]
  rw [if_neg (by simp only [minDeclared] at hl; omega)]
  simp [PacketId.ofNat]

/-- The header of a whole frame, by the places of its fields. -/
theorem parse_eq (bs : Bytes) : parse bs =
    if bs.length < lengthSize then .error .truncatedHeader
    else if announced bs ≠ bs.length - lengthSize then
      .error (.invalidFrame (announced bs) (bs.length - lengthSize))
    else if announced bs < minDeclared then .error .truncatedHeader
    else .ok ⟨.ofNat (announced bs), ⟨.ofNat (leNat ((bs.drop 2).take 4))⟩,
      .ofNat (leNat ((bs.drop 6).take 2))⟩ := by
  match bs with
  | [] => rfl
  | [_] => rfl
  | l₀ :: l₁ :: rest =>
    have ha : announced (l₀ :: l₁ :: rest) = leNat [l₀, l₁] := rfl
    have hl : (l₀ :: l₁ :: rest).length - lengthSize = rest.length := rfl
    rw [if_neg (by simp [lengthSize]), ha, hl]
    by_cases hd : leNat [l₀, l₁] = rest.length
    · rw [if_neg (not_not.mpr hd)]
      refine (if_neg (not_not.mpr hd)).trans ?_
      rw [hd]
      rcases rest with _ | ⟨f₀, _ | ⟨f₁, _ | ⟨f₂, _ | ⟨f₃, _ | ⟨p₀, _ | ⟨p₁, rest⟩⟩⟩⟩⟩⟩
      · rfl
      · rfl
      · rfl
      · rfl
      · rfl
      · rfl
      · rw [if_neg (by simp only [List.length_cons, minDeclared]; omega)]
        rfl
    · rw [if_pos hd]
      exact if_pos hd

theorem bytes_append_of_parse {bs : Bytes} {h : Header} (hp : parse bs = .ok h) :
    ∃ rest, bs = h.bytes ++ rest ∧ h.length.toNat = minDeclared + rest.length := by
  unfold parse at hp
  split at hp
  next l₀ l₁ r =>
    dsimp only at hp
    split at hp
    · cases hp
    next hlen =>
      split at hp
      next f₀ f₁ f₂ f₃ p₀ p₁ rest =>
        cases hp
        have hl := leNat_lt [l₀, l₁]
        have hf := leNat_lt [f₀, f₁, f₂, f₃]
        have hp := leNat_lt [p₀, p₁]
        have el := leBytes_leNat [l₀, l₁]
        have ef := leBytes_leNat [f₀, f₁, f₂, f₃]
        have ep := leBytes_leNat [p₀, p₁]
        simp only [List.length_cons, List.length_nil] at hl hf hp el ef ep
        refine ⟨rest, ?_, ?_⟩
        · simp only [bytes, PacketId.toNat, PacketId.ofNat]
          rw [UInt16.toNat_ofNat_of_lt' (by exact hl), UInt32.toNat_ofNat_of_lt' (by exact hf),
            UInt16.toNat_ofNat_of_lt' (by exact hp), el, ef, ep]
          rfl
        · rw [UInt16.toNat_ofNat_of_lt' (by exact hl)]
          simp only [List.length_cons] at hlen
          simp only [minDeclared]
          omega
      · cases hp
  · cases hp

theorem exists_parse_of_isFrame {bs : Bytes} (hf : IsFrame bs) : ∃ h, parse bs = .ok h := by
  obtain ⟨hl, h8⟩ := hf
  have hsizes := headerSize_eq
  rw [parse_eq, if_neg (by omega), if_neg (by omega), if_neg (by omega)]
  exact ⟨_, rfl⟩

theorem exists_parse_iff {bs : Bytes} : (∃ h, parse bs = .ok h) ↔ IsFrame bs := by
  refine ⟨?_, exists_parse_of_isFrame⟩
  rintro ⟨h, hp⟩
  obtain ⟨rest, rfl, hl⟩ := bytes_append_of_parse hp
  refine ⟨?_, by simp⟩
  rw [announced_bytes_append, hl, List.length_append, length_bytes]
  simp only [headerSize, lengthSize, minDeclared]
  omega

theorem length_bytes_append_of_length {h : Header} {rest : Bytes}
    (hl : h.length.toNat = minDeclared + rest.length) :
    h.length.toNat + lengthSize = (h.bytes ++ rest).length := by
  rw [List.length_append, length_bytes, hl]
  simp only [headerSize, minDeclared, lengthSize]
  omega

end Header

/-- A token that was written behind some bytes is found there. -/
theorem TokenFormat.resolve_append {f : TokenFormat} {s : SessionId} {routing : Bytes}
    (h : f.bytes s = .ok routing) (before rest : Bytes) :
    f.resolve (before ++ (routing ++ rest)) before.length =
      .ok (s, before.length + routing.length) := by
  unfold bytes at h
  split at h
  next hfit =>
    cases h
    have hlt : s.val < 256 ^ f.width := by
      have hpos := Nat.pow_pos (n := f.width) (show 0 < 256 by decide)
      have hle : s.val ≤ f.maxToken := of_decide_eq_true hfit
      rw [maxToken] at hle
      omega
    rw [resolve, if_pos (by simp only [List.length_append, length_leBytes]; omega), List.drop_left,
      List.take_left' (length_leBytes ..), leNat_leBytes_of_lt f.width hlt, SessionId.ofNat_val,
      length_leBytes]
  next => cases h

def routingBytes (format : Option TokenFormat) (s : SessionId) : Except Fault Bytes :=
  match format with
  | some f => f.bytes s
  | none => .ok []

/-- A frame is taken apart as it was put together. -/
theorem parseFrame_append {format : Option TokenFormat} {s : SessionId} {routing body : Bytes}
    {h : Header} (hr : routingBytes format s = .ok routing)
    (hl : h.length.toNat = minDeclared + (routing ++ body).length) :
    parseFrame format (h.bytes ++ (routing ++ body)) = .ok ⟨h, format.map fun _ => s, body⟩ := by
  rw [parseFrame, Header.parse_bytes_append hl]
  cases format with
  | none =>
    cases hr
    have hd : (h.bytes ++ ([] ++ body)).drop headerSize = body := List.drop_left' h.length_bytes
    simp only [bind, Except.bind, hd]
    rfl
  | some f =>
    have ht := TokenFormat.resolve_append hr h.bytes body
    rw [h.length_bytes] at ht
    have hd : (h.bytes ++ (routing ++ body)).drop (headerSize + routing.length) = body := by
      rw [← List.append_assoc]
      exact List.drop_left' (by rw [List.length_append, h.length_bytes])
    simp only [bind, Except.bind, ht, hd]
    rfl

namespace FrameStream

/-- What the first two bytes decide. -/
theorem next?_eq (buf : Bytes) : next? buf =
    if buf.length < lengthSize then .ok none
    else if announced buf < minDeclared then .error .truncatedHeader
    else if buf.length < lengthSize + announced buf then .ok none
    else .ok (some (buf.take (lengthSize + announced buf), buf.drop (lengthSize + announced buf))) := by
  match buf with
  | [] => rfl
  | [_] => rfl
  | l₀ :: l₁ :: rest =>
    have ha : announced (l₀ :: l₁ :: rest) = leNat [l₀, l₁] := rfl
    rw [if_neg (by simp [lengthSize])]
    simp only [next?, ha, List.splitAt_eq, List.length_take]
    congr 1
    by_cases hc : (l₀ :: l₁ :: rest).length < lengthSize + leNat [l₀, l₁]
    · rw [if_pos hc, if_pos (by omega)]
    · rw [if_neg hc, if_neg (by omega)]

/-- A frame comes off the front of a buffer exactly where the buffer starts with it. -/
theorem next?_eq_some_iff {buf frame rest : Bytes} :
    next? buf = .ok (some (frame, rest)) ↔ IsFrame frame ∧ buf = frame ++ rest := by
  rw [next?_eq]
  constructor
  · intro h
    split_ifs at h with h2 h6 hlen
    · cases h
    · cases h
    · cases h
      have htake : (buf.take (lengthSize + announced buf)).length = lengthSize + announced buf := by
        rw [List.length_take]; omega
      refine ⟨⟨?_, ?_⟩, (List.take_append_drop _ _).symm⟩
      · rw [htake]
        conv_rhs => rw [announced, List.take_take, Nat.min_eq_left (by omega), ← announced]
      · rw [htake]
        simp only [minDeclared, headerSize, lengthSize] at h6 ⊢
        omega
  · rintro ⟨⟨hl, h8⟩, rfl⟩
    have h2 : lengthSize ≤ frame.length := by simp only [headerSize, lengthSize] at h8 ⊢; omega
    have h6 : minDeclared ≤ announced frame := by
      simp only [minDeclared, headerSize, lengthSize] at hl h8 ⊢; omega
    rw [announced_append rest h2, ← hl, if_neg (by rw [List.length_append]; omega),
      if_neg (by omega), if_neg (by rw [List.length_append]; omega), List.take_left, List.drop_left]

/-- A buffer is given up for its first two bytes alone. -/
theorem next?_eq_error_iff {buf : Bytes} {e : Fault} :
    next? buf = .error e ↔
      lengthSize ≤ buf.length ∧ announced buf < minDeclared ∧ e = .truncatedHeader := by
  rw [next?_eq]
  split_ifs with h2 h6 hlen
  · simp; omega
  · simp [eq_comm, h6]; omega
  · simp [h6]
  · simp [h6]

end FrameStream

end FrameGateway
