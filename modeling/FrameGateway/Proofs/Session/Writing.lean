import FrameGateway.Proofs.Frame.Chunks
import FrameGateway.Session.Live
/-! The writer of a session one step at a time: it takes up the oldest frame, or writes some of what is left of the
one it took up last. Whatever it does at a stretch is a run of such steps (`LiveSession.settle_eq_foldl_work`), so
what every step keeps holds wherever the other parties get their turns. -/

namespace FrameGateway

namespace Pipe

theorem write_of_isOpen {p : Pipe} (h : p.isOpen = true) (bs : Bytes) :
    (p.write bs).1 = { p with held := p.held ++ bs.take p.room } := by
  unfold write
  by_cases hbs : bs.isEmpty = true
  · rw [if_pos hbs, List.isEmpty_iff.mp hbs, List.take_nil, List.append_nil]
  · rw [if_neg hbs, if_neg (by simp [h])]

end Pipe

theorem IsFrame.ne_nil {bs : Bytes} (h : IsFrame bs) : bs ≠ [] := by
  have hl : headerSize ≤ bs.length := h.2
  exact List.ne_nil_of_length_pos (Nat.lt_of_lt_of_le (by decide) hl)

namespace Link

/-- One step of the writer, of at most `n` bytes. Once it has ended, all that is left is to let go of the stream. -/
def work (l : Link) (box : Outbox) (isHeld : Bool) (n : Nat) : Link × Outbox :=
  match l.writer with
  | .ended => (l.release, box)
  | .running [] =>
    match box.frames with
    | [] =>
      if isHeld then (l, box)
      else (release { l with outward := l.outward.close, writer := .ended }, box.close)
    | frame :: frames =>
      match FrameStream.encode frame with
      | .error _ => (release { l with writer := .ended }, box.close)
      | .ok bs => ({ l with writer := .running bs }, { box with frames })
  | .running rest =>
    if l.outward.isOpen then
      ({ l with
          outward := (l.outward.write (rest.take n)).1
          writer := .running (rest.drop (min n l.outward.room)) }, box)
    else (release { l with writer := .ended }, box.close)

/-- A run of the writer. Each step may write one byte at least, and so many more. -/
def works (isHeld : Bool) (s : Link × Outbox) (steps : List Nat) : Link × Outbox :=
  steps.foldl (fun s n => s.1.work s.2 isHeld (n + 1)) s

variable {l : Link} {box : Outbox} {isHeld : Bool} {rest rest' : Bytes}

@[simp] theorem writer_release (l : Link) : l.release.writer = l.writer := by
  unfold release; split_ifs <;> rfl

@[simp] theorem held_outward_release (l : Link) : l.release.outward.held = l.outward.held := by
  unfold release; split_ifs <;> rfl

@[simp] theorem capacity_outward_release (l : Link) : l.release.outward.capacity = l.outward.capacity := by
  unfold release; split_ifs <;> rfl

theorem isOpen_outward_release (h : l.outward.isOpen = false) : l.release.outward.isOpen = false := by
  unfold release
  split_ifs
  · rfl
  · exact h

theorem work_of_ended (box : Outbox) (isHeld : Bool) (n : Nat) (hw : l.writer = .ended) :
    l.work box isHeld n = (l.release, box) := by
  simp [work, hw]

theorem work_of_held (n : Nat) (hw : l.writer = .running []) (hf : box.frames = []) :
    l.work box true n = (l, box) := by
  simp [work, hw, hf]

theorem work_of_refused {frame : Bytes} {frames : List Bytes} {e : Fault} (n : Nat) (hw : l.writer = .running [])
    (hf : box.frames = frame :: frames) (he : FrameStream.encode frame = .error e) :
    l.work box isHeld n = (release { l with writer := .ended }, box.close) := by
  simp [work, hw, hf, he]

theorem work_of_taken {frame bs : Bytes} {frames : List Bytes} (n : Nat) (hw : l.writer = .running [])
    (hf : box.frames = frame :: frames) (he : FrameStream.encode frame = .ok bs) :
    l.work box isHeld n = ({ l with writer := .running bs }, { box with frames }) := by
  simp [work, hw, hf, he]

theorem work_of_rest (n : Nat) (hw : l.writer = .running rest) (hr : rest ≠ []) (ho : l.outward.isOpen = true) :
    l.work box isHeld n =
      ({ l with
          outward := { l.outward with held := l.outward.held ++ rest.take (min n l.outward.room) }
          writer := .running (rest.drop (min n l.outward.room)) }, box) := by
  cases rest with
  | nil => exact absurd rfl hr
  | cons b bs =>
    simp only [work, hw, if_pos ho, Pipe.write_of_isOpen ho, List.take_take, Nat.min_comm l.outward.room]

theorem work_of_full (n : Nat) (hw : l.writer = .running rest) (hr : rest ≠ []) (ho : l.outward.isOpen = true)
    (hroom : l.outward.room = 0) : l.work box isHeld n = (l, box) := by
  rw [work_of_rest n hw hr ho, hroom, Nat.min_zero, List.take_zero, List.append_nil, List.drop_zero, ← hw]

theorem work_of_broken (n : Nat) (hw : l.writer = .running rest) (hr : rest ≠ []) (ho : l.outward.isOpen = false) :
    l.work box isHeld n = (release { l with writer := .ended }, box.close) := by
  cases rest with
  | nil => exact absurd rfl hr
  | cons b bs => simp [work, hw, ho]

theorem work_of_done (n : Nat) (hw : l.writer = .running []) (hf : box.frames = []) :
    l.work box false n = (release { l with outward := l.outward.close, writer := .ended }, box.close) := by
  simp [work, hw, hf]

theorem works_singleton (s : Link × Outbox) (n : Nat) : works isHeld s [n] = s.1.work s.2 isHeld (n + 1) := rfl

theorem works_append (isHeld : Bool) (s : Link × Outbox) (before after : List Nat) :
    works isHeld s (before ++ after) = works isHeld (works isHeld s before) after :=
  List.foldl_append

/-- What the writer has when it stops: the link and the queue as a flush leaves them. -/
def flushed (l : Link) (box : Outbox) (f : Writer.Flushed) : Link × Outbox :=
  let l := { l with outward := { l.outward with held := l.outward.held ++ f.written }, writer := f.writer }
  match f.writer with
  | .ended => (l.release, box.close)
  | .running _ => (l, { box with frames := f.waiting })

/-- If all of what is left fits, it is written. -/
theorem exists_works_rest (isHeld : Bool) (box : Outbox) (hw : l.writer = .running rest)
    (ho : l.outward.isOpen = true) (hr : rest.length ≤ l.outward.room) :
    ∃ steps, works isHeld (l, box) steps =
      ({ l with outward := { l.outward with held := l.outward.held ++ rest }, writer := .running [] }, box) := by
  by_cases hrest : rest = []
  · subst hrest
    exact ⟨[], by simp [works, ← hw]⟩
  · refine ⟨[rest.length], ?_⟩
    rw [works, List.foldl_cons, List.foldl_nil, work_of_rest _ hw hrest ho, List.take_of_length_le (by omega),
      List.drop_of_length_le (by omega)]

theorem exists_works_flush (box : Outbox) (isHeld : Bool) (hw : l.writer = .running rest)
    (ho : l.outward.isOpen = true) :
    ∃ steps, works isHeld (l, box) steps = flushed l box (Writer.flush l.outward.room rest box.frames) := by
  generalize hroom : l.outward.room = room
  generalize hframes : box.frames = frames
  fun_induction Writer.flush room rest frames generalizing l box with
  | case1 room rest hle =>
    subst hroom
    obtain ⟨steps, h⟩ := exists_works_rest isHeld box hw ho hle
    exact ⟨steps, h.trans (by simp [flushed, ← hframes])⟩
  | case2 room rest hle frame frames e he =>
    subst hroom
    obtain ⟨steps, h⟩ := exists_works_rest isHeld box hw ho hle
    refine ⟨steps ++ [0], ?_⟩
    rw [works_append, h, works, List.foldl_cons, List.foldl_nil, work_of_refused 1 rfl hframes he]
    rfl
  | case3 room rest hle frame frames bs he f =>
    rename_i ih
    subst hroom
    obtain ⟨steps, h⟩ := exists_works_rest isHeld box hw ho hle
    obtain ⟨more, hm⟩ := @ih
      { l with outward := { l.outward with held := l.outward.held ++ rest }, writer := .running bs }
      { box with frames } rfl ho (by simp only [Pipe.room, List.length_append]; omega) rfl
    refine ⟨steps ++ 0 :: more, ?_⟩
    rw [works_append, h, works, List.foldl_cons, work_of_taken 1 rfl hframes he, ← works, hm]
    simp only [flushed, List.append_assoc]
    rfl
  | case4 frames room rest hlt =>
    subst hroom
    have hr : rest ≠ [] := fun h => hlt (by simp [h])
    refine ⟨[l.outward.room], ?_⟩
    rw [works, List.foldl_cons, List.foldl_nil, work_of_rest _ hw hr ho, Nat.min_eq_right (Nat.le_succ _)]
    simp [flushed, ← hframes]

theorem settle_of_isOpen (hw : l.writer = .running rest) (ho : l.outward.isOpen = true) :
    l.settle box isHeld =
      let s := flushed l box (Writer.flush l.outward.room rest box.frames)
      if s.1.writer = .running [] ∧ s.2.frames = [] ∧ isHeld = false then
        (release { s.1 with outward := s.1.outward.close, writer := .ended }, s.2.close)
      else s := by
  cases hf : (Writer.flush l.outward.room rest box.frames).writer with
  | ended => simp [settle, flushed, hw, ho, hf]
  | running rest' => simp [settle, flushed, hw, ho, hf, and_assoc]

theorem settle_of_closed (hw : l.writer = .running rest) (ho : l.outward.isOpen = false)
    (hr : rest ≠ [] ∨ box.frames ≠ []) : l.settle box isHeld = (release { l with writer := .ended }, box.close) := by
  have hany : (!(rest.isEmpty && box.frames.isEmpty)) = true := by
    rcases hr with hr | hr
    · simp [hr]
    · simp [hr]
  simp [settle, hw, ho, hany]

theorem settle_of_idle (isHeld : Bool) (hw : l.writer = .running []) (hf : box.frames = []) :
    l.settle box isHeld = if isHeld then (l, box) else
      (release { l with outward := l.outward.close, writer := .ended }, box.close) := by
  obtain ⟨outward, inward, writer, isRead⟩ := l
  obtain ⟨capacity, frames, isOpen⟩ := box
  subst hw hf
  cases isHeld with
  | true => simp [settle, Writer.flush]
  | false => simp [settle, Writer.flush, Outbox.close]

/-- Doing all that it can is a run of the writer. -/
theorem exists_works_settle (l : Link) (box : Outbox) (isHeld : Bool) :
    ∃ steps, works isHeld (l, box) steps = l.settle box isHeld := by
  cases hw : l.writer with
  | ended => exact ⟨[0], by simp [works, work, settle, hw]⟩
  | running rest =>
    cases ho : l.outward.isOpen with
    | true =>
      obtain ⟨steps, h⟩ := exists_works_flush box isHeld hw ho
      rw [settle_of_isOpen hw ho]
      dsimp only
      split_ifs with hdone
      · obtain ⟨hw', hf', rfl⟩ := hdone
        exact ⟨steps ++ [0], by rw [works_append, h, works_singleton, work_of_done 1 hw' hf']⟩
      · exact ⟨steps, h⟩
    | false =>
      cases rest with
      | cons b bs =>
        refine ⟨[0], ?_⟩
        rw [works_singleton, work_of_broken 1 hw (by simp) ho, settle_of_closed hw ho (.inl (by simp))]
      | nil =>
        match hf : box.frames with
        | [] =>
          cases isHeld with
          | true => exact ⟨[], (settle_of_idle true hw hf).symm⟩
          | false => exact ⟨[0], (work_of_done 1 hw hf).trans (settle_of_idle false hw hf).symm⟩
        | frame :: frames =>
          rw [settle_of_closed hw ho (.inr (by simp [hf]))]
          match he : FrameStream.encode frame with
          | .error e => exact ⟨[0], work_of_refused 1 hw hf he⟩
          | .ok bs =>
            obtain ⟨hframe, rfl⟩ := FrameStream.encode_eq_ok_iff.mp he
            refine ⟨[0, 0], ?_⟩
            rw [works, List.foldl_cons, work_of_taken 1 hw hf he]
            exact work_of_broken 1 rfl hframe.ne_nil ho

/-- Where a flush stops there is nothing left, or no room for it. -/
theorem rest_flush {room : Nat} {frames : List Bytes} (h : (Writer.flush room rest frames).writer = .running rest') :
    rest' = [] ∧ (Writer.flush room rest frames).waiting = [] ∨
      rest' ≠ [] ∧ (Writer.flush room rest frames).written.length = room := by
  fun_induction Writer.flush room rest frames with
  | case1 room rest hle => cases h; exact .inl ⟨rfl, rfl⟩
  | case2 => cases h
  | case3 room rest hle frame frames bs he f ih =>
    refine (ih h).imp_right fun ⟨hne, hlength⟩ => ⟨hne, ?_⟩
    rw [List.length_append, hlength]
    omega
  | case4 frames room rest hlt =>
    cases h
    refine .inr ⟨fun he => hlt (List.drop_eq_nil_iff.mp he), ?_⟩
    rw [List.length_take]
    omega

theorem release_release (l : Link) : l.release.release = l.release := by
  by_cases hr : (l.writer = .ended && !l.isRead) = true
  · simp only [release, if_pos hr]
    rfl
  · rw [show l.release = l from if_neg hr, show l.release = l from if_neg hr]

/-- A writer that has ended has nothing to do but to let go of the stream, once. -/
theorem work_release (box : Outbox) (n : Nat) (hw : l.writer = .ended) :
    l.release.work box isHeld n = (l.release, box) := by
  rw [work_of_ended _ _ _ (by rwa [writer_release]), release_release]

/-- After it has done all that it can, the writer can do nothing. -/
theorem work_settle (l : Link) (box : Outbox) (isHeld : Bool) (n : Nat) :
    (l.settle box isHeld).1.work (l.settle box isHeld).2 isHeld n = l.settle box isHeld := by
  cases hw : l.writer with
  | ended =>
    rw [show l.settle box isHeld = (l.release, box) by simp [settle, hw]]
    exact work_release box n hw
  | running rest =>
    cases ho : l.outward.isOpen with
    | false =>
      by_cases hleft : rest ≠ [] ∨ box.frames ≠ []
      · rw [settle_of_closed hw ho hleft]
        exact work_release _ n rfl
      · simp only [ne_eq, not_or, not_not] at hleft
        obtain ⟨rfl, hf⟩ := hleft
        rw [settle_of_idle isHeld hw hf]
        cases isHeld with
        | true => exact work_of_held n hw hf
        | false => exact work_release _ n rfl
    | true =>
      rw [settle_of_isOpen hw ho]
      dsimp only
      split_ifs with hdone
      · exact work_release _ n rfl
      · cases hf : (Writer.flush l.outward.room rest box.frames).writer with
        | ended =>
          simp only [flushed, hf]
          exact work_release _ n rfl
        | running rest' =>
          simp only [flushed, hf] at hdone ⊢
          rcases rest_flush hf with ⟨rfl, hwaiting⟩ | ⟨hne, hlength⟩
          · have hheld : isHeld = true := by simpa [hwaiting] using hdone
            rw [hheld]
            exact work_of_held n rfl hwaiting
          · -- whatever is left finds no room
            refine work_of_full n rfl hne ho ?_
            change l.outward.capacity - (l.outward.held ++ _).length = 0
            rw [List.length_append, hlength, Pipe.room]
            omega

end Link

namespace LiveSession

def work (s : LiveSession) (n : Nat) : LiveSession :=
  match s.link with
  | none => s
  | some k =>
    let (k, outbox) := k.work s.outbox s.isHeld n
    { s with link := some k, outbox }

theorem work_of_link {s : LiveSession} {k : Link} (hk : s.link = some k) (n : Nat) :
    s.work n = { s with
      link := some (k.work s.outbox s.isHeld n).1
      outbox := (k.work s.outbox s.isHeld n).2 } := by
  simp [work, hk]

theorem foldl_work_of_link {s : LiveSession} {k : Link} (hk : s.link = some k) (steps : List Nat) :
    steps.foldl (fun s n => s.work (n + 1)) s = { s with
      link := some (Link.works s.isHeld (k, s.outbox) steps).1
      outbox := (Link.works s.isHeld (k, s.outbox) steps).2 } := by
  induction steps generalizing s k with
  | nil => simp [Link.works, ← hk]
  | cons n steps ih =>
    rw [List.foldl_cons, work_of_link hk, ih rfl]
    rfl

theorem settle_eq_foldl_work (s : LiveSession) :
    ∃ steps : List Nat, s.settle = steps.foldl (fun s n => s.work (n + 1)) s := by
  cases hk : s.link with
  | none => exact ⟨[], by simp [settle, hk]⟩
  | some k =>
    obtain ⟨steps, h⟩ := k.exists_works_settle s.outbox s.isHeld
    refine ⟨steps, ?_⟩
    rw [foldl_work_of_link hk, h, settle, hk]

theorem work_settle (s : LiveSession) (n : Nat) : s.settle.work n = s.settle := by
  cases hk : s.link with
  | none =>
    have hs : s.settle = s := by simp [settle, hk]
    rw [hs]
    simp [work, hk]
  | some k =>
    have hs : s.settle = { s with
        link := some (k.settle s.outbox s.isHeld).1
        outbox := (k.settle s.outbox s.isHeld).2 } := by simp [settle, hk]
    rw [hs, work_of_link rfl]
    dsimp only
    rw [k.work_settle s.outbox s.isHeld n]

end LiveSession

end FrameGateway
