import FrameGateway.Proofs.Frame.Chunks
import FrameGateway.Session.Reader
/-! What the reader of a session hands out. Its outcome depends on the bytes that wait for it and not on how they
are divided: between what it has gathered and what is still in the pipe, or into the pieces in which they
arrived (`Reader.answers_next`). -/

namespace FrameGateway

namespace FrameStream

theorem next?_append_of_error {a : Bytes} {e : Fault} (b : Bytes) (h : next? a = .error e) :
    next? (a ++ b) = .error e := by
  rw [next?_eq_error_iff] at h ⊢
  obtain ⟨hl, ha, he⟩ := h
  exact ⟨by rw [List.length_append]; omega, by rwa [announced_append b hl], he⟩

theorem fault_drain_of_error {buf : Bytes} {e : Fault} (h : next? buf = .error e) :
    (drain buf).fault = some e := by
  rw [drain]; split <;> simp_all

theorem finish?_of_error {buf : Bytes} {e : Fault} (h : next? buf = .error e) : finish? buf = .error e := by
  simp [finish?, h, bind, Except.bind]

theorem finish?_of_some {buf : Bytes} {r : Bytes × Bytes} (h : next? buf = .ok (some r)) :
    finish? buf = .ok (some r) := by
  simp [finish?, h, bind, Except.bind, pure, Except.pure]

theorem finish?_of_none {buf : Bytes} (h : next? buf = .ok none) :
    finish? buf = if buf.isEmpty then .ok none else .error .bytesRemaining := by
  simp [finish?, h, bind, Except.bind, pure, Except.pure, throw, throwThe, MonadExceptOf.throw]

end FrameStream

namespace Pipe

variable {p p' : Pipe} {n : Nat} {bs : Bytes}

theorem eq_of_read_eq_nothing (h : p.read n = (p', .nothing)) : p = p' ∧ p.held = [] ∧ p.isOpen = true := by
  unfold read at h
  split_ifs at h with hp ho
  · cases h
    exact ⟨rfl, by simpa using hp, ho⟩
  · cases h
  · cases h

theorem eq_of_read_eq_ended (h : p.read n = (p', .ended)) : p = p' ∧ p.held = [] ∧ p.isOpen = false := by
  unfold read at h
  split_ifs at h with hp ho
  · cases h
  · cases h
    exact ⟨rfl, by simpa using hp, by simpa using ho⟩
  · cases h

theorem eq_of_read_eq_bytes (h : p.read n = (p', .bytes bs)) :
    { p with held := p.held.drop n } = p' ∧ p.held.take n = bs ∧ p.held ≠ [] := by
  unfold read at h
  split_ifs at h with hp ho
  · cases h
  · cases h
  · cases h
    exact ⟨rfl, rfl, by simpa using hp⟩

end Pipe

namespace Reader

open FrameStream

/-- All bytes that wait: those gathered, and those still in the pipe. -/
def waiting (r : Reader) (p : Pipe) : Bytes := r.buffer ++ p.held

/-- What is due when such bytes wait, and the bytes that wait then. -/
def due (waiting : Bytes) (isOpen : Bool) : Outcome × Bytes :=
  match (if isOpen then next? waiting else finish? waiting) with
  | .error e => (.fault e, waiting)
  | .ok (some (frame, rest)) => (.frame frame, rest)
  | .ok none => (if isOpen then .pending else .ended, waiting)

theorem due_of_error {bs : Bytes} {e : Fault} (isOpen : Bool) (h : next? bs = .error e) :
    due bs isOpen = (.fault e, bs) := by
  cases isOpen with
  | true => simp [due, h]
  | false => simp [due, finish?_of_error h]

theorem due_of_some {bs frame rest : Bytes} (isOpen : Bool) (h : next? bs = .ok (some (frame, rest))) :
    due bs isOpen = (.frame frame, rest) := by
  cases isOpen with
  | true => simp [due, h]
  | false => simp [due, finish?_of_some h]

theorem due_of_none {bs : Bytes} (h : next? bs = .ok none) : due bs true = (.pending, bs) := by
  simp [due, h]

theorem due_of_remains {bs : Bytes} (h : next? bs = .ok none) (hbs : bs ≠ []) :
    due bs false = (.fault .bytesRemaining, bs) := by
  simp [due, finish?_of_none h, hbs]

theorem due_nil : due [] false = (.ended, []) := by
  simp [due, finish?_of_none (show next? [] = .ok none from rfl)]

@[simp] theorem buffer_reserve (r : Reader) (n : Nat) : (r.reserve n).buffer = r.buffer := by
  unfold reserve; dsimp only; split_ifs <;> rfl

@[simp] theorem ended_reserve (r : Reader) (n : Nat) : (r.reserve n).ended = r.ended := by
  unfold reserve; dsimp only; split_ifs <;> rfl

@[simp] theorem readable_reserve (r : Reader) (n : Nat) : (r.reserve n).readable = r.readable := by
  unfold reserve; dsimp only; split_ifs <;> rfl

@[simp] theorem failed_reserve (r : Reader) (n : Nat) : (r.reserve n).failed = r.failed := by
  unfold reserve; dsimp only; split_ifs <;> rfl

/-- A reader that has met no fault. It looks at its buffer unless no frame is there, and has been told the end
only of a pipe that was closed and empty. -/
structure Sound (r : Reader) (p : Pipe) : Prop where
  intact : r.failed = false
  idle : r.readable = false → next? r.buffer = .ok none
  finished : r.ended = true → p.isOpen = false ∧ p.held = [] ∧ r.buffer = []

/-- The reader has answered what is due; bytes have left the pipe at its front alone. -/
structure Answers (r : Reader) (p : Pipe) (a : (Reader × Pipe) × Outcome) : Prop where
  outcome : a.2 = (due (r.waiting p) p.isOpen).1
  left : a.1.1.waiting a.1.2 = (due (r.waiting p) p.isOpen).2
  suffix : a.1.2.held <:+ p.held
  emptied : a.2 = .pending → a.1.2.held = []
  isOpen : a.1.2.isOpen = p.isOpen
  capacity : a.1.2.capacity = p.capacity
  sound : (∀ e, a.2 ≠ .fault e) → Sound a.1.1 a.1.2

variable {r : Reader} {p : Pipe}

/-- Bytes that move from the pipe to the buffer make no difference to what is due. -/
theorem Answers.of_moved {r₀ : Reader} {p₀ : Pipe} {a : (Reader × Pipe) × Outcome} (h : Answers r p a)
    (hw : r.waiting p = r₀.waiting p₀) (hs : p.held <:+ p₀.held) (ho : p.isOpen = p₀.isOpen)
    (hc : p.capacity = p₀.capacity) : Answers r₀ p₀ a where
  outcome := by rw [← hw, ← ho]; exact h.outcome
  left := by rw [← hw, ← ho]; exact h.left
  suffix := h.suffix.trans hs
  emptied := h.emptied
  isOpen := h.isOpen.trans ho
  capacity := h.capacity.trans hc
  sound := h.sound

/-- A frame at the front of the buffer is handed out at once. -/
theorem answers_frame {frame rest : Bytes} (h : next? r.buffer = .ok (some (frame, rest))) (hf : r.failed = false)
    (hr : r.readable = true) (he : r.ended = false) :
    Answers r p (({ r with buffer := rest, spent := r.spent + frame.length }, p), .frame frame) := by
  have hdue := due_of_some p.isOpen (next?_append_of_some p.held h)
  refine ⟨congrArg Prod.fst hdue.symm, congrArg Prod.snd hdue.symm, List.suffix_refl _, nofun, rfl, rfl, fun _ => ?_⟩
  exact ⟨hf, by simp [hr], by simp [he]⟩

theorem answers_fault {e : Fault} (h : next? r.buffer = .error e) :
    Answers r p (({ r with failed := true }, p), .fault e) := by
  have hdue := due_of_error p.isOpen (next?_append_of_error p.held h)
  exact ⟨congrArg Prod.fst hdue.symm, congrArg Prod.snd hdue.symm, List.suffix_refl _, nofun, rfl, rfl,
    fun hne => absurd rfl (hne e)⟩

/-- Nothing is left of a stream that has ended. -/
theorem answers_ended {r' : Reader} (hb : r.buffer = []) (hb' : r'.buffer = r.buffer) (hf : r'.failed = false)
    (hp : p.held = []) (ho : p.isOpen = false) : Answers r p ((r', p), .ended) := by
  have hdue : due (r.waiting p) p.isOpen = (.ended, []) := by rw [waiting, hb, hp, ho, List.nil_append, due_nil]
  refine ⟨congrArg Prod.fst hdue.symm, ?_, List.suffix_refl _, fun _ => hp, rfl, rfl, fun _ => ⟨hf, fun _ => ?_, ?_⟩⟩
  · rw [hdue]
    simp [waiting, hb', hb, hp]
  · rw [hb', hb]
    rfl
  · exact fun _ => ⟨ho, hp, hb'.trans hb⟩

/-- At the end of the stream what is left over is a fault. -/
theorem answers_end (h : next? r.buffer = .ok none) (hf : r.failed = false) (hp : p.held = [])
    (ho : p.isOpen = false) :
    Answers r p ((({ r with ended := true, readable := true }.fromBuffer).1, p),
      ({ r with ended := true, readable := true }.fromBuffer).2.getD .ended) := by
  by_cases hb : r.buffer = []
  · have hfin : finish? r.buffer = .ok none := by rw [hb]; rfl
    simp only [fromBuffer, hfin]
    exact answers_ended hb (by simp) (by simpa using hf) hp ho
  · have hfin : finish? r.buffer = .error .bytesRemaining := by simp [finish?_of_none h, hb]
    have hdue : due (r.waiting p) p.isOpen = (.fault .bytesRemaining, r.waiting p) := by
      rw [waiting, hp, List.append_nil, ho, due_of_remains h hb]
    simp only [fromBuffer, hfin]
    exact ⟨congrArg Prod.fst hdue.symm, congrArg Prod.snd hdue.symm, List.suffix_refl _, fun _ => hp, rfl, rfl,
      fun hne => absurd rfl (hne .bytesRemaining)⟩

theorem fromBuffer_of_error {e : Fault} (hr : r.readable = true) (he : r.ended = false)
    (h : next? r.buffer = .error e) : r.fromBuffer = ({ r with failed := true }, some (.fault e)) := by
  simp [fromBuffer, hr, he, h]

theorem fromBuffer_of_some {frame rest : Bytes} (hr : r.readable = true) (he : r.ended = false)
    (h : next? r.buffer = .ok (some (frame, rest))) : r.fromBuffer =
      ({ r with buffer := rest, spent := r.spent + frame.length }, some (.frame frame)) := by
  simp [fromBuffer, hr, he, h]

theorem fromBuffer_of_none (hr : r.readable = true) (he : r.ended = false) (h : next? r.buffer = .ok none) :
    r.fromBuffer = ({ r with readable := false }.reserve (missing r.buffer), none) := by
  simp [fromBuffer, hr, he, h]

/-- What the buffer alone gives is what is due. -/
theorem answers_fromBuffer {r' : Reader} {o : Outcome} (hf : r.failed = false) (hr : r.readable = true)
    (he : r.ended = false) (h : r.fromBuffer = (r', some o)) : Answers r p ((r', p), o) := by
  match hn : next? r.buffer with
  | .error e =>
    cases (fromBuffer_of_error hr he hn).symm.trans h
    exact answers_fault hn
  | .ok (some (frame, rest)) =>
    cases (fromBuffer_of_some hr he hn).symm.trans h
    exact answers_frame hn hf hr he
  | .ok none => cases (fromBuffer_of_none hr he hn).symm.trans h

theorem next?_of_fromBuffer_eq_none {r' : Reader} (hr : r.readable = true) (he : r.ended = false)
    (h : r.fromBuffer = (r', none)) :
    next? r.buffer = .ok none ∧ { r with readable := false }.reserve (missing r.buffer) = r' := by
  match hn : next? r.buffer with
  | .error e => cases (fromBuffer_of_error hr he hn).symm.trans h
  | .ok (some (frame, rest)) => cases (fromBuffer_of_some hr he hn).symm.trans h
  | .ok none =>
    cases (fromBuffer_of_none hr he hn).symm.trans h
    exact ⟨rfl, rfl⟩

theorem answers_gather (h : next? r.buffer = .ok none) (hs : Sound r p) : Answers r p (r.gather p) := by
  fun_induction gather r p with
  | case1 r p p' hread =>
    obtain ⟨rfl, hp, ho⟩ := Pipe.eq_of_read_eq_nothing hread
    have hw : r.waiting p = r.buffer := by rw [waiting, hp, List.append_nil]
    have hdue : due (r.waiting p) p.isOpen = (.pending, r.waiting p) := by rw [hw, ho, due_of_none h]
    refine ⟨congrArg Prod.fst hdue.symm, ?_, List.suffix_refl _, fun _ => hp, rfl, rfl, fun _ => ?_⟩
    · rw [hdue]
      simp [waiting]
    · exact ⟨by simpa using hs.intact, by simpa using hs.idle, by simpa using hs.finished⟩
  | case2 r p p' hread r' he =>
    obtain ⟨rfl, hp, ho⟩ := Pipe.eq_of_read_eq_ended hread
    have he : r.ended = true := by simpa [r'] using he
    exact answers_ended (hs.finished he).2.2 (by simp [r']) (by simpa [r'] using hs.intact) hp ho
  | case3 r p p' hread r₁ he r₂ o hbuf =>
    obtain ⟨rfl, hp, ho⟩ := Pipe.eq_of_read_eq_ended hread
    have ha := answers_end (r := r₁) (by simpa [r₁] using h) (by simpa [r₁] using hs.intact) hp ho
    rw [hbuf] at ha
    exact ha.of_moved (by simp [waiting, r₁]) (List.suffix_refl _) rfl rfl
  | case4 r p p' bs hread _ r₁ r₂ o hbuf =>
    obtain ⟨rfl, rfl, -⟩ := Pipe.eq_of_read_eq_bytes hread
    refine (answers_fromBuffer (by simpa [r₁] using hs.intact) rfl rfl hbuf).of_moved ?_ (List.drop_suffix ..) rfl rfl
    simp [waiting, r₁]
  | case5 r p p' bs hread _ r₁ r₂ hbuf ih =>
    obtain ⟨rfl, rfl, -⟩ := Pipe.eq_of_read_eq_bytes hread
    obtain ⟨hn, rfl⟩ := next?_of_fromBuffer_eq_none rfl rfl hbuf
    refine (ih (by simpa using hn) ?_).of_moved ?_ (List.drop_suffix ..) rfl rfl
    · exact ⟨by simpa [r₁] using hs.intact, by simpa using hn, by simp⟩
    · simp [waiting, r₁]

/-- A reader hands out what is due, and is sound again unless that is a fault. -/
theorem answers_next (hs : Sound r p) : Answers r p (r.next p) := by
  rw [next, if_neg (by simp [hs.intact])]
  cases hr : r.readable with
  | false =>
    have hbuf : r.fromBuffer = (r, none) := by simp [fromBuffer, hr]
    rw [hbuf]
    exact answers_gather (hs.idle hr) hs
  | true =>
    cases he : r.ended with
    | true =>
      obtain ⟨ho, hp, hb⟩ := hs.finished he
      have hfin : finish? r.buffer = .ok none := by rw [hb]; rfl
      simp only [fromBuffer, hr, he, hfin]
      exact answers_ended hb (by simp) (by simpa using hs.intact) hp ho
    | false =>
      cases hbuf : r.fromBuffer with
      | mk r' o =>
        cases o with
        | some o => exact answers_fromBuffer hs.intact hr he hbuf
        | none =>
          obtain ⟨hn, rfl⟩ := next?_of_fromBuffer_eq_none hr he hbuf
          refine (answers_gather (by simpa using hn) ?_).of_moved (by simp [waiting]) (List.suffix_refl _) rfl rfl
          exact ⟨by simpa using hs.intact, by simpa using hn, by simp [he]⟩

end Reader

end FrameGateway
