import FrameGateway.Proofs.Frame.Layout
/-! A stream cut into chunks gives the frames of the whole stream. A frame comes off a buffer whatever
stands behind it; so taking all frames off after each chunk ends where taking them off the whole
stream does (`feedAll_eq_drain`). No byte is lost, and what was written as frames comes back as these
frames. -/

namespace FrameGateway.FrameStream

theorem next?_append_of_some {a frame rest : Bytes} (b : Bytes)
    (h : next? a = .ok (some (frame, rest))) : next? (a ++ b) = .ok (some (frame, rest ++ b)) := by
  rw [next?_eq_some_iff] at h ⊢
  obtain ⟨hf, rfl⟩ := h
  exact ⟨hf, List.append_assoc ..⟩

/-- What taking frames off gives once some of them have been taken off before. -/
def Drained.after (frames : List Bytes) (d : Drained) : Drained := { d with frames := frames ++ d.frames }

theorem drain_of_none {buf : Bytes} (h : next? buf = .ok none) : drain buf = ⟨[], buf, none⟩ := by
  rw [drain]; split <;> simp_all

theorem drain_of_some {buf frame rest : Bytes} (h : next? buf = .ok (some (frame, rest))) :
    drain buf = (drain rest).after [frame] := by
  rw [drain]; split <;> simp_all [Drained.after]

/-- A frame in front of a buffer comes off first. -/
theorem drain_frame_append {frame : Bytes} (hf : IsFrame frame) (rest : Bytes) :
    drain (frame ++ rest) = (drain rest).after [frame] :=
  drain_of_some (next?_eq_some_iff.mpr ⟨hf, rfl⟩)

/-- Taking frames off stops only where the reader waits for bytes or gives up. -/
theorem next?_rest_drain (buf : Bytes) :
    next? (drain buf).rest = (drain buf).fault.elim (.ok none) .error := by
  fun_induction drain buf with
  | case1 buf e h => exact h
  | case2 buf h => exact h
  | case3 buf frame rest h _ d ih => exact ih

theorem fault_drain (buf : Bytes) :
    (drain buf).fault = none ∨ (drain buf).fault = some .truncatedHeader := by
  cases hf : (drain buf).fault with
  | none => exact .inl rfl
  | some e =>
    have h := next?_rest_drain buf
    rw [hf] at h
    exact .inr (congrArg some (next?_eq_error_iff.mp h).2.2)

theorem flatten_frames_drain (buf : Bytes) :
    (drain buf).frames.flatten ++ (drain buf).rest = buf := by
  fun_induction drain buf with
  | case1 buf e h => rfl
  | case2 buf h => rfl
  | case3 buf frame rest h _ d ih =>
    rw [List.flatten_cons, List.append_assoc, ih, (next?_eq_some_iff.mp h).2]

theorem isFrame_of_mem_drain {buf frame : Bytes} (hm : frame ∈ (drain buf).frames) :
    IsFrame frame := by
  fun_induction drain buf with
  | case1 buf e h => simp at hm
  | case2 buf h => simp at hm
  | case3 buf f rest h _ d ih =>
    rcases List.mem_cons.mp hm with rfl | hm
    · exact (next?_eq_some_iff.mp h).1
    · exact ih hm

/-- What has come off stays off, and what was left is taken up with what arrives next. -/
theorem drain_append (a b : Bytes) :
    drain (a ++ b) = (drain ((drain a).rest ++ b)).after (drain a).frames := by
  fun_induction drain a with
  | case1 a e h => rfl
  | case2 a h => rfl
  | case3 a frame rest h _ d ih =>
    rw [drain_of_some (next?_append_of_some b h), ih]
    rfl

theorem drain_flatten {frames : List Bytes} (hf : ∀ f ∈ frames, IsFrame f) :
    drain frames.flatten = ⟨frames, [], none⟩ := by
  induction frames with
  | nil => exact drain_of_none rfl
  | cons f fs ih =>
    rw [List.flatten_cons, drain_frame_append (hf f (by simp)), ih fun g hg => hf g (by simp [hg])]
    rfl

/-- A chunk arrives, and all frames that are whole then are taken off. -/
def feed (d : Drained) (chunk : Bytes) : Drained := (drain (d.rest ++ chunk)).after d.frames

def feedAll (chunks : List Bytes) : Drained := chunks.foldl feed ⟨[], [], none⟩

theorem feed_drain (stream chunk : Bytes) : feed (drain stream) chunk = drain (stream ++ chunk) :=
  (drain_append stream chunk).symm

theorem foldl_feed_drain (stream : Bytes) (chunks : List Bytes) :
    chunks.foldl feed (drain stream) = drain (stream ++ chunks.flatten) := by
  induction chunks generalizing stream with
  | nil => rw [List.foldl_nil, List.flatten_nil, List.append_nil]
  | cons c cs ih => rw [List.foldl_cons, feed_drain, ih, List.flatten_cons, List.append_assoc]

theorem feedAll_eq_drain (chunks : List Bytes) : feedAll chunks = drain chunks.flatten := by
  have h : drain [] = ⟨[], [], none⟩ := drain_of_none rfl
  rw [feedAll, ← h, foldl_feed_drain, List.nil_append]

theorem encode_eq_ok_iff {frame bs : Bytes} : encode frame = .ok bs ↔ IsFrame frame ∧ bs = frame := by
  rw [← Header.exists_parse_iff]
  cases h : Header.parse frame with
  | error e => simp [encode, h, bind, Except.bind]
  | ok hd => simp [encode, h, bind, Except.bind, pure, Except.pure, eq_comm]

/-- The cuts of a stream make no difference to the frames, the bytes left over and the fault, which then
stands at the same place of the stream. Frames and left-over bytes are the whole stream, every frame
is one that may be written, and whatever was written as frames comes back as these. -/
theorem reassembly :
    (∀ chunks : List Bytes, feedAll chunks = drain chunks.flatten) ∧
    (∀ stream : Bytes,
      (drain stream).frames.flatten ++ (drain stream).rest = stream ∧
      next? (drain stream).rest = (drain stream).fault.elim (.ok none) .error ∧
      ((drain stream).fault = none ∨ (drain stream).fault = some .truncatedHeader) ∧
      ∀ f ∈ (drain stream).frames, (∃ h, Header.parse f = .ok h) ∧ encode f = .ok f) ∧
    (∀ frames : List Bytes, (∀ f ∈ frames, ∃ bs, encode f = .ok bs) →
      drain frames.flatten = ⟨frames, [], none⟩) := by
  refine ⟨feedAll_eq_drain, fun stream => ?_, fun frames hf => ?_⟩
  · refine ⟨flatten_frames_drain stream, next?_rest_drain stream, fault_drain stream, ?_⟩
    intro f hm
    have hf := isFrame_of_mem_drain hm
    exact ⟨Header.exists_parse_of_isFrame hf, encode_eq_ok_iff.mpr ⟨hf, rfl⟩⟩
  · refine drain_flatten fun f hm => ?_
    obtain ⟨bs, hb⟩ := hf f hm
    exact (encode_eq_ok_iff.mp hb).1

/-- Two frames, cut inside the first length field, inside the first header and inside the second one. -/
theorem reassembly_two_frames :
    let frames : List Bytes := [[7, 0, 1, 0, 0, 0, 5, 0, 0xAB], [6, 0, 0, 0, 0, 0, 6, 0]]
    (∀ f ∈ frames, ∃ bs, encode f = .ok bs) ∧
      feedAll [[7], [], [0, 1, 0, 0], [0, 5, 0, 0xAB, 6, 0, 0], [0, 0, 0, 6, 0]] =
        ⟨frames, [], none⟩ := by
  intro frames
  have hf : ∀ f ∈ frames, ∃ bs, encode f = .ok bs := by
    intro f hm
    simp only [frames, List.mem_cons, List.not_mem_nil, or_false] at hm
    rcases hm with rfl | rfl
    · exact ⟨_, rfl⟩
    · exact ⟨_, rfl⟩
  refine ⟨hf, ?_⟩
  rw [reassembly.1]
  exact reassembly.2.2 frames hf

end FrameGateway.FrameStream
