import FrameGateway.Proofs.Session.Gathering
import FrameGateway.Proofs.Session.Writing
/-! Two sessions joined by a pipe that loses no byte and keeps their order. Whoever queues at the one, its writer, the
pipe and the reader of the other take turns in any order and of any size. The reader hands out what was queued as
far as it is well-formed: nothing else, nothing out of order, and all of it once each of them has had enough turns. -/

namespace FrameGateway

instance : DecidablePred IsFrame := fun bs =>
  inferInstanceAs (Decidable (bs.length = lengthSize + announced bs ∧ headerSize ≤ bs.length))

/-- The byte strings in front of the first that is not one whole frame. -/
def leadingFrames (queued : List Bytes) : List Bytes := queued.takeWhile fun bs => decide (IsFrame bs)

/-- What is left of the frame that the writer took up last. -/
def Writer.rest : Writer → Bytes
  | .running rest => rest
  | .ended => []

@[simp] theorem Writer.rest_running (rest : Bytes) : (Writer.running rest).rest = rest := rfl

@[simp] theorem Writer.rest_ended : Writer.ended.rest = [] := rfl

/-- A session that queues, and one that reads what arrives. -/
structure SessionPair where
  near : LiveSession
  far : LiveSession
  /-- all that the queue has accepted -/
  queued : List Bytes
  /-- all bytes that have left the near stream -/
  carried : Bytes
  /-- all frames that the reader has handed out -/
  received : List Bytes

namespace SessionPair

inductive Party where
  | writer | pipe | reader
  deriving DecidableEq

/-- A turn of one of the parties. Writer and pipe move one byte at least, if there is room, and so many more; or the
writer does all that it can. -/
inductive Move where
  | offer (frame : Bytes)
  | send (frame : Bytes)
  | letGo
  | stopReading
  | write (more : Nat)
  | settle
  | carry (more : Nat)
  | read

namespace Move

def party : Move → Option Party
  | write _ | settle => some .writer
  | carry _ => some .pipe
  | read => some .reader
  | _ => none

def queues : Move → Bool
  | offer _ | send _ => true
  | _ => false

end Move

def start (near far : LiveSession) : SessionPair := ⟨near, far, [], [], []⟩

def enqueue (p : SessionPair) (frame : Bytes) (near : LiveSession) (isQueued : Bool) : SessionPair :=
  { p with near, queued := if isQueued then p.queued ++ [frame] else p.queued }

/-- At most `n` bytes pass, and no more than there is room for; so does the end of the stream. -/
def carry (p : SessionPair) (n : Nat) : SessionPair :=
  match p.near.receive (min n (p.far.link.elim 0 (·.inward.room))) with
  | (near, .bytes bs) => { p with near, far := (p.far.write bs).1, carried := p.carried ++ bs }
  | (near, .nothing) => { p with near }
  | (near, .ended) =>
    { p with near, far := { p.far with link := p.far.link.map fun k => { k with inward := k.inward.close } } }

def read (p : SessionPair) : SessionPair :=
  match p.far.next with
  | (far, .frame frame) => { p with far, received := p.received ++ [frame] }
  | (far, _) => { p with far }

/-- Only who holds the handle can queue. A frame that would have to wait for room is not queued yet. -/
def apply (p : SessionPair) : Move → SessionPair
  | .offer frame =>
    if p.near.isHeld then
      let (near, r) := p.near.offer frame
      p.enqueue frame near (r matches .ok ())
    else p
  | .send frame =>
    if p.near.isHeld then
      let (near, r) := p.near.send frame
      p.enqueue frame near (r matches .ok true)
    else p
  | .letGo => { p with near := p.near.dropHandle.1 }
  | .stopReading => { p with near := p.near.dropReader.1 }
  | .write more => { p with near := p.near.work (more + 1) }
  | .settle => { p with near := p.near.settle }
  | .carry more => p.carry (more + 1)
  | .read => p.read

def run (p : SessionPair) (moves : List Move) : SessionPair := moves.foldl apply p

/-- What is under way, by the place where it is. -/
structure Stock where
  queue : List Bytes
  rest : Bytes
  outward : Bytes
  inward : Bytes
  buffer : Bytes

namespace Stock

/-- The work that is left: a byte counts as often as it has to be moved on, and a frame that waits once more. -/
def load (s : Stock) : Nat :=
  s.queue.length + 4 * s.queue.flatten.length + 4 * s.rest.length + 3 * s.outward.length + 2 * s.inward.length +
    s.buffer.length

/-- There is something that only this party can do. -/
def Awaits (s : Stock) : Party → Prop
  | .writer => s.outward = [] ∧ (s.rest ≠ [] ∨ s.queue ≠ [])
  | .pipe => s.inward = [] ∧ s.outward ≠ []
  | .reader => s.inward ≠ [] ∨ ∃ r, FrameStream.next? s.buffer = .ok (some r)

end Stock

def stock (p : SessionPair) : Stock where
  queue := p.near.outbox.frames
  rest := p.near.link.elim [] (·.writer.rest)
  outward := p.near.link.elim [] (·.outward.held)
  inward := p.far.link.elim [] (·.inward.held)
  buffer := p.far.reader.buffer

/-- All bytes that were ever written to the near stream. -/
def written (p : SessionPair) : Bytes := p.carried ++ p.stock.outward

def HasEnded (p : SessionPair) : Prop := ∃ k, p.near.link = some k ∧ k.writer = .ended

/-- How far the writer has come: what it has sent, what still waits, and what it stopped at. -/
inductive Sending (queued : List Bytes) (box : Outbox) (k : Link) (sent : List Bytes) : Prop
  | running (rest : Bytes) (writer : k.writer = .running rest) (box_isOpen : box.isOpen = true)
      (outward_isOpen : k.outward.isOpen = true) (split : queued = sent ++ box.frames)
  | ended (lost : List Bytes) (writer : k.writer = .ended) (box_isOpen : box.isOpen = false)
      (box_empty : box.frames = [])
      (split : queued = sent ++ lost) (stopped : leadingFrames lost = [])

theorem Sending.congr {queued sent : List Bytes} {box : Outbox} {k k' : Link} (h : Sending queued box k sent)
    (hw : k'.writer = k.writer) (ho : k'.outward.isOpen = k.outward.isOpen) : Sending queued box k' sent := by
  rcases h with ⟨rest, hw', hbox, ho', hs⟩ | ⟨lost, hw', hbox, hempty, hs, hlost⟩
  · exact .running rest (hw.trans hw') hbox (ho.trans ho') hs
  · exact .ended lost (hw.trans hw') hbox hempty hs hlost

/-- Where all bytes are. What has been sent has arrived, is in one of the pipes, or is still to be written. -/
structure Flow (p : SessionPair) (k j : Link) (sent : List Bytes) : Prop where
  near : p.near.link = some k
  far : p.far.link = some j
  sending : Sending p.queued p.near.outbox k sent
  sent_isFrame : ∀ f ∈ sent, IsFrame f
  stream : sent.flatten = p.carried ++ k.outward.held ++ k.writer.rest
  arrived : p.carried = p.received.flatten ++ p.far.reader.waiting j.inward
  received_isFrame : ∀ f ∈ p.received, IsFrame f
  sound : p.far.reader.Sound j.inward
  spent : j.inward.isOpen = false → k.outward.isOpen = false ∧ k.outward.held = []
  room : 0 < k.outward.capacity ∧ 0 < j.inward.capacity

variable {p : SessionPair} {k j : Link} {sent : List Bytes}

namespace Flow

theorem stock_eq (h : Flow p k j sent) :
    p.stock = ⟨p.near.outbox.frames, k.writer.rest, k.outward.held, j.inward.held, p.far.reader.buffer⟩ := by
  simp [stock, h.near, h.far]

theorem near_eq (h : Flow p k j sent) : { p.near with link := some k } = p.near := by
  rw [← h.near]

/-- What is still under way is the frames that have been sent and not been handed out. -/
theorem drain_under_way (h : Flow p k j sent) : ∃ pending, sent = p.received ++ pending ∧
    FrameStream.drain (p.far.reader.waiting j.inward ++ (k.outward.held ++ k.writer.rest)) = ⟨pending, [], none⟩ := by
  have hall := FrameStream.drain_flatten h.sent_isFrame
  rw [h.stream, h.arrived, List.append_assoc, List.append_assoc, FrameStream.drain_append,
    FrameStream.drain_flatten h.received_isFrame, List.nil_append] at hall
  refine ⟨_, congrArg FrameStream.Drained.frames hall.symm, ?_⟩
  have hrest := congrArg FrameStream.Drained.rest hall
  have hfault := congrArg FrameStream.Drained.fault hall
  exact congrArg₂ (FrameStream.Drained.mk _) hrest hfault

theorem received_le (h : Flow p k j sent) : p.received <+: sent := by
  obtain ⟨pending, hp, -⟩ := h.drain_under_way
  exact ⟨pending, hp.symm⟩

theorem next?_ne_error (h : Flow p k j sent) (e : Fault) :
    FrameStream.next? (p.far.reader.waiting j.inward) ≠ .error e := by
  intro he
  obtain ⟨pending, -, hd⟩ := h.drain_under_way
  have hfault := FrameStream.fault_drain_of_error
    (FrameStream.next?_append_of_error (k.outward.held ++ k.writer.rest) he)
  rw [hd] at hfault
  cases hfault

/-- The reader waits for more only if there is more to come, or nothing left. -/
theorem waiting_eq_nil (h : Flow p k j sent) (hn : FrameStream.next? (p.far.reader.waiting j.inward) = .ok none)
    (ho : k.outward.held = []) (hr : k.writer.rest = []) :
    p.far.reader.waiting j.inward = [] ∧ sent = p.received := by
  obtain ⟨pending, hs, hd⟩ := h.drain_under_way
  rw [ho, hr, List.append_nil, List.append_nil, FrameStream.drain_of_none hn] at hd
  obtain ⟨hp, hw, -⟩ := FrameStream.Drained.mk.injEq .. ▸ hd
  exact ⟨hw, by rw [hs, ← hp, List.append_nil]⟩

/-- What the near session does changes nothing at the far end. -/
theorem with_near {near : LiveSession} {k' : Link} {sent' : List Bytes} (h : Flow p k j sent)
    (hl : near.link = some k') (hs : Sending p.queued near.outbox k' sent') (hf : ∀ f ∈ sent', IsFrame f)
    (hb : sent'.flatten = p.carried ++ k'.outward.held ++ k'.writer.rest)
    (ho : k.outward.isOpen = false → k'.outward.isOpen = false ∧ k'.outward.held = k.outward.held)
    (hc : k'.outward.capacity = k.outward.capacity) : Flow { p with near } k' j sent' where
  near := hl
  far := h.far
  sending := hs
  sent_isFrame := hf
  stream := hb
  arrived := h.arrived
  received_isFrame := h.received_isFrame
  sound := h.sound
  spent hj := by
    obtain ⟨hk, he⟩ := h.spent hj
    exact ⟨(ho hk).1, (ho hk).2.trans he⟩
  room := ⟨by rw [hc]; exact h.room.1, h.room.2⟩

/-- What the far session does changes nothing at the near end. -/
theorem with_far {far : LiveSession} {j' : Link} {received : List Bytes} (h : Flow p k j sent)
    (hl : far.link = some j')
    (hb : p.received.flatten ++ p.far.reader.waiting j.inward = received.flatten ++ far.reader.waiting j'.inward)
    (hf : ∀ f ∈ received, IsFrame f) (hs : far.reader.Sound j'.inward)
    (ho : j'.inward.isOpen = false → k.outward.isOpen = false ∧ k.outward.held = [])
    (hc : j'.inward.capacity = j.inward.capacity) : Flow { p with far, received } k j' sent where
  near := h.near
  far := hl
  sending := h.sending
  sent_isFrame := h.sent_isFrame
  stream := h.stream
  arrived := h.arrived.trans hb
  received_isFrame := hf
  sound := hs
  spent := ho
  room := ⟨h.room.1, by rw [hc]; exact h.room.2⟩

/-- A writer that ends between two frames leaves what it has written. -/
theorem with_ended {near : LiveSession} {k' : Link} {lost : List Bytes} (h : Flow p k j sent)
    (hw : k.writer = .running []) (hs : p.queued = sent ++ lost) (hl : leadingFrames lost = [])
    (hn : near.link = some k') (hb : near.outbox = p.near.outbox.close) (hw' : k'.writer = .ended)
    (ho : k.outward.isOpen = false → k'.outward.isOpen = false) (hh : k'.outward.held = k.outward.held)
    (hc : k'.outward.capacity = k.outward.capacity) : Flow { p with near } k' j sent := by
  have hstream := h.stream
  rw [hw] at hstream
  refine h.with_near hn (.ended lost hw' (by rw [hb]; rfl) (by rw [hb]; rfl) hs hl) h.sent_isFrame ?_
    (fun hk => ⟨ho hk, hh⟩) hc
  rw [hstream, hh, hw']
  rfl

end Flow

/-- After a turn of a party either there is less work left, or nothing has changed and nothing awaited it. -/
structure Turn (x : Party) (p p' : SessionPair) : Prop where
  flow : ∃ k j sent, Flow p' k j sent
  less : p'.stock = p.stock ∧ ¬ p.stock.Awaits x ∨ p'.stock.load < p.stock.load

theorem Flow.turn {p' : SessionPair} {k' j' : Link} {sent' : List Bytes} {x : Party} (h : Flow p k j sent)
    (h' : Flow p' k' j' sent')
    (hl : let s : Stock := ⟨p.near.outbox.frames, k.writer.rest, k.outward.held, j.inward.held, p.far.reader.buffer⟩
      let s' : Stock :=
        ⟨p'.near.outbox.frames, k'.writer.rest, k'.outward.held, j'.inward.held, p'.far.reader.buffer⟩
      s' = s ∧ ¬ s.Awaits x ∨ s'.load < s.load) : Turn x p p' :=
  ⟨⟨_, _, _, h'⟩, by rw [h.stock_eq, h'.stock_eq]; exact hl⟩

section

variable {near : LiveSession}

theorem Flow.turn_idle (h : Flow p k j sent) (hw : k.writer = .running []) (hf : p.near.outbox.frames = [])
    (hl : near.link = some k) (hb : near.outbox = p.near.outbox) : Turn .writer p { p with near } := by
  have hflow := h.with_near hl (by rw [hb]; exact h.sending) h.sent_isFrame h.stream (fun ho => ⟨ho, rfl⟩) rfl
  refine h.turn hflow (.inl ⟨by rw [hb], ?_⟩)
  simp [Stock.Awaits, hw, hf]

theorem Flow.turn_done (h : Flow p k j sent) (hw : k.writer = .running []) (hf : p.near.outbox.frames = [])
    (hs : p.queued = sent)
    (hl : near.link = some (Link.release { k with outward := k.outward.close, writer := .ended }))
    (hb : near.outbox = p.near.outbox.close) : Turn .writer p { p with near } := by
  have hall : p.queued = sent ++ [] := by rw [hs, List.append_nil]
  have hflow := h.with_ended hw hall rfl hl hb (by simp)
    (fun _ => Link.isOpen_outward_release rfl) (by simp [Pipe.close]) (by simp [Pipe.close])
  refine h.turn hflow (.inl ⟨?_, ?_⟩)
  · simp [hb, hw, hf, Outbox.close, Pipe.close]
  · simp [Stock.Awaits, hw, hf]

theorem Flow.turn_refused {frame : Bytes} {frames : List Bytes} (h : Flow p k j sent) (hw : k.writer = .running [])
    (hf : p.near.outbox.frames = frame :: frames) (hs : p.queued = sent ++ frame :: frames) (hno : ¬ IsFrame frame)
    (hl : near.link = some (Link.release { k with writer := .ended })) (hb : near.outbox = p.near.outbox.close) :
    Turn .writer p { p with near } := by
  have hflow := h.with_ended hw hs (by simp [leadingFrames, hno]) hl hb (by simp)
    (fun ho => Link.isOpen_outward_release ho) (by simp) (by simp)
  refine h.turn hflow (.inr ?_)
  simp only [hb, hw, hf, Outbox.close, Stock.load, Link.writer_release,
    Link.held_outward_release, Writer.rest_running, Writer.rest_ended, List.length_nil, List.length_cons,
    List.flatten_nil]
  omega

theorem Flow.turn_taken {frame : Bytes} {frames : List Bytes} (h : Flow p k j sent) (hw : k.writer = .running [])
    (ho : k.outward.isOpen = true) (hbox : p.near.outbox.isOpen = true)
    (hf : p.near.outbox.frames = frame :: frames) (hs : p.queued = sent ++ frame :: frames) (hframe : IsFrame frame)
    (hl : near.link = some { k with writer := .running frame })
    (hb : near.outbox = { p.near.outbox with frames }) : Turn .writer p { p with near } := by
  have hsent : ∀ f ∈ sent ++ [frame], IsFrame f := by
    simpa [or_imp, forall_and] using ⟨h.sent_isFrame, hframe⟩
  have hflow := h.with_near hl (.running frame rfl (by rw [hb]; exact hbox) ho (by rw [hb]; simpa using hs)) hsent
    (by simp [h.stream, hw]) (fun ho => ⟨ho, rfl⟩) rfl
  refine h.turn hflow (.inr ?_)
  simp only [hb, hw, hf, Stock.load, Writer.rest_running, List.length_cons, List.flatten_cons,
    List.length_append, List.length_nil]
  omega

theorem Flow.turn_rest {rest : Bytes} {n more : Nat} (h : Flow p k j sent) (hw : k.writer = .running rest)
    (hr : rest ≠ []) (ho : k.outward.isOpen = true) (hbox : p.near.outbox.isOpen = true)
    (hs : p.queued = sent ++ p.near.outbox.frames) (hn : n = min (more + 1) k.outward.room)
    (hl : near.link = some { k with
      outward := { k.outward with held := k.outward.held ++ rest.take n }
      writer := .running (rest.drop n) })
    (hb : near.outbox = p.near.outbox) : Turn .writer p { p with near } := by
  have hstream := h.stream
  rw [hw, Writer.rest_running, ← List.take_append_drop n rest] at hstream
  have hflow := h.with_near hl (.running _ rfl (by rw [hb]; exact hbox) ho (by rw [hb]; exact hs)) h.sent_isFrame
    (by simpa using hstream) (fun hc => absurd hc (by simp [ho])) rfl
  refine h.turn hflow ?_
  have hlen : 0 < rest.length := List.length_pos_iff.mpr hr
  rcases Nat.eq_zero_or_pos n with h0 | hpos
  -- no room, so nothing is written; then bytes wait in the pipe
  · refine .inl ⟨by simp [hb, hw, h0], ?_⟩
    rintro ⟨hempty, -⟩
    have hroom : 0 < k.outward.capacity := h.room.1
    rw [Pipe.room, show k.outward.held = [] from hempty, List.length_nil] at hn
    omega
  · right
    simp only [hb, hw, Stock.load, Writer.rest_running, List.length_append,
      List.length_take, List.length_drop]
    omega

theorem Flow.turn_ended (h : Flow p k j sent) (hw : k.writer = .ended) (hl : near.link = some k.release)
    (hb : near.outbox = p.near.outbox) : Turn .writer p { p with near } := by
  obtain ⟨rest, hw', -⟩ | ⟨lost, -, hbox, hempty, hs, hlost⟩ := h.sending
  · cases hw.symm.trans hw'
  · have hsending : Sending p.queued near.outbox k.release sent := by
      rw [hb]
      exact .ended lost (by simpa using hw) hbox hempty hs hlost
    have hflow := h.with_near hl hsending h.sent_isFrame (by simpa using h.stream)
      (fun ho => ⟨Link.isOpen_outward_release ho, by simp⟩) (by simp)
    refine h.turn hflow (.inl ⟨by simp [hb], ?_⟩)
    simp [Stock.Awaits, hw, hempty]

end

theorem Flow.turn_write (h : Flow p k j sent) (more : Nat) : Turn .writer p (p.apply (.write more)) := by
  have hwork := LiveSession.work_of_link h.near (more + 1)
  have hl := congrArg LiveSession.link hwork
  have hb := congrArg LiveSession.outbox hwork
  dsimp only at hl hb
  rcases h.sending with ⟨rest, hw, hbox, ho, hs⟩ | ⟨lost, hw, -⟩
  · by_cases hr : rest = []
    · subst hr
      match hf : p.near.outbox.frames with
      | [] =>
        cases hheld : p.near.isHeld with
        | true =>
          rw [hheld, Link.work_of_held _ hw hf] at hl hb
          exact h.turn_idle hw hf hl hb
        | false =>
          rw [hheld, Link.work_of_done _ hw hf] at hl hb
          exact h.turn_done hw hf (by rw [hs, hf, List.append_nil]) hl hb
      | frame :: frames =>
        rw [hf] at hs
        match he : FrameStream.encode frame with
        | .error e =>
          rw [Link.work_of_refused _ hw hf he] at hl hb
          refine h.turn_refused hw hf hs (fun hframe => ?_) hl hb
          rw [FrameStream.encode_eq_ok_iff.mpr ⟨hframe, rfl⟩] at he
          cases he
        | .ok bs =>
          obtain ⟨hframe, rfl⟩ := FrameStream.encode_eq_ok_iff.mp he
          rw [Link.work_of_taken _ hw hf he] at hl hb
          exact h.turn_taken hw ho hbox hf hs hframe hl hb
    · rw [Link.work_of_rest _ hw hr ho] at hl hb
      exact h.turn_rest hw hr ho hbox hs rfl hl hb
  · rw [Link.work_of_ended _ _ _ hw] at hl hb
    exact h.turn_ended hw hl hb

theorem run_writes (p : SessionPair) (steps : List Nat) :
    p.run (steps.map .write) = { p with near := steps.foldl (fun s n => s.work (n + 1)) p.near } := by
  induction steps generalizing p with
  | nil => rfl
  | cons n steps ih =>
    rw [List.map_cons, show p.run (.write n :: steps.map .write) = (p.apply (.write n)).run _ from rfl, ih]
    rfl

/-- A writer that does all that it can writes until no step of it would change anything. -/
theorem apply_settle (p : SessionPair) : (∃ steps : List Nat, p.apply .settle = p.run (steps.map .write)) ∧
    ∀ more, (p.apply .settle).apply (.write more) = p.apply .settle := by
  refine ⟨?_, fun more => ?_⟩
  · obtain ⟨steps, hs⟩ := p.near.settle_eq_foldl_work
    exact ⟨steps, by rw [run_writes, ← hs]; rfl⟩
  · change { p with near := p.near.settle.work (more + 1) } = { p with near := p.near.settle }
    rw [LiveSession.work_settle]

theorem Flow.run_writes (h : Flow p k j sent) (steps : List Nat) :
    (∃ k j sent, Flow (p.run (steps.map .write)) k j sent) ∧
      ((p.run (steps.map .write)).stock = p.stock ∨ (p.run (steps.map .write)).stock.load < p.stock.load) := by
  induction steps generalizing p k j sent with
  | nil => exact ⟨⟨k, j, sent, h⟩, .inl rfl⟩
  | cons n steps ih =>
    have hfirst := h.turn_write n
    obtain ⟨k', j', sent', h'⟩ := hfirst.flow
    obtain ⟨hflow, hrest⟩ := ih h'
    refine ⟨hflow, ?_⟩
    rcases hrest with hs | hl
    · exact hfirst.less.imp (fun hsame => hs.trans hsame.1) fun hlt => hs ▸ hlt
    · rcases hfirst.less with ⟨hs', -⟩ | hl'
      · exact .inr (hs' ▸ hl)
      · exact .inr (Nat.lt_trans hl hl')

theorem Flow.turn_settle (h : Flow p k j sent) : Turn .writer p (p.apply .settle) := by
  obtain ⟨⟨steps, hs⟩, hdone⟩ := p.apply_settle
  obtain ⟨⟨k', j', sent', h'⟩, hless⟩ := h.run_writes steps
  rw [← hs] at h' hless
  refine ⟨⟨k', j', sent', h'⟩, hless.imp_left fun hsame => ⟨hsame, fun hawaits => ?_⟩⟩
  -- one more step would do something, if it were awaited
  have hmore := (h'.turn_write 0).less
  rw [hdone, hsame] at hmore
  exact hmore.elim (fun hno => hno.2 hawaits) fun hlt => absurd hlt (Nat.lt_irrefl _)

section

variable {n : Nat} {outward : Pipe} {bs : Bytes}

theorem Flow.carry_bytes (h : Flow p k j sent) (hread : k.outward.read (min n j.inward.room) = (outward, .bytes bs)) :
    p.carry n = { p with
      near := { p.near with link := some { k with outward } }
      far := { p.far with link := some { j with inward := (j.inward.write bs).1 } }
      carried := p.carried ++ bs } := by
  simp [carry, LiveSession.receive, LiveSession.write, h.near, h.far, hread]

theorem Flow.carry_nothing (h : Flow p k j sent) (hread : k.outward.read (min n j.inward.room) = (outward, .nothing)) :
    p.carry n = p := by
  obtain ⟨rfl, -⟩ := Pipe.eq_of_read_eq_nothing hread
  simp [carry, LiveSession.receive, h.near, h.far, hread, h.near_eq]

theorem Flow.carry_ended (h : Flow p k j sent) (hread : k.outward.read (min n j.inward.room) = (outward, .ended)) :
    p.carry n = { p with far := { p.far with link := some { j with inward := j.inward.close } } } := by
  obtain ⟨rfl, -⟩ := Pipe.eq_of_read_eq_ended hread
  simp [carry, LiveSession.receive, h.near, h.far, hread, h.near_eq]

/-- The end of the stream is passed on: nothing else was left. -/
theorem Flow.turn_end (h : Flow p k j sent) (hread : k.outward.read n = (outward, .ended)) :
    Turn .pipe p { p with far := { p.far with link := some { j with inward := j.inward.close } } } := by
  obtain ⟨-, hheld, ho⟩ := Pipe.eq_of_read_eq_ended hread
  have hsound : p.far.reader.Sound j.inward.close :=
    ⟨h.sound.intact, h.sound.idle, fun he => ⟨rfl, (h.sound.finished he).2⟩⟩
  have hflow : Flow { p with far := { p.far with link := some { j with inward := j.inward.close } } } k
      { j with inward := j.inward.close } sent :=
    h.with_far rfl rfl h.received_isFrame hsound (fun _ => ⟨ho, hheld⟩) rfl
  exact h.turn hflow (.inl ⟨rfl, by simp [Stock.Awaits, hheld]⟩)

/-- Bytes are passed on, and none is lost: the far pipe is open and has room for them. -/
theorem Flow.turn_bytes {more : Nat} (h : Flow p k j sent)
    (hread : k.outward.read (min (more + 1) j.inward.room) = (outward, .bytes bs)) :
    Turn .pipe p { p with
      near := { p.near with link := some { k with outward } }
      far := { p.far with link := some { j with inward := (j.inward.write bs).1 } }
      carried := p.carried ++ bs } := by
  obtain ⟨rfl, rfl, hheld⟩ := Pipe.eq_of_read_eq_bytes hread
  have hopen : j.inward.isOpen = true := by
    by_contra hc
    exact hheld (h.spent (eq_false_of_ne_true hc)).2
  have hfits : (k.outward.held.take (min (more + 1) j.inward.room)).take j.inward.room =
      k.outward.held.take (min (more + 1) j.inward.room) := by
    rw [List.take_take]
    congr 1
    omega
  rw [Pipe.write_of_isOpen hopen, hfits]
  generalize hn : min (more + 1) j.inward.room = n
  have hstream := h.stream
  have harrived := h.arrived
  rw [← List.take_append_drop n k.outward.held] at hstream
  have hsending : Sending p.queued p.near.outbox { k with outward := { k.outward with held := k.outward.held.drop n } }
      sent := h.sending.congr rfl rfl
  have hflow : Flow { p with
      near := { p.near with link := some { k with outward := { k.outward with held := k.outward.held.drop n } } }
      far := { p.far with link := some { j with
        inward := { j.inward with held := j.inward.held ++ k.outward.held.take n } } }
      carried := p.carried ++ k.outward.held.take n } _ _ sent :=
    { near := rfl
      far := rfl
      sending := hsending
      sent_isFrame := h.sent_isFrame
      stream := by simpa using hstream
      arrived := by simp [harrived, Reader.waiting]
      received_isFrame := h.received_isFrame
      sound := ⟨h.sound.intact, h.sound.idle, fun he => absurd (h.sound.finished he).1 (by simp [hopen])⟩
      spent := fun hc => absurd hc (by simp [hopen])
      room := h.room }
  refine h.turn hflow ?_
  have hlen : 0 < k.outward.held.length := List.length_pos_iff.mpr hheld
  rcases Nat.eq_zero_or_pos n with h0 | hpos
  -- no room, so nothing passes; then bytes wait at the far end
  · refine .inl ⟨by simp [h0], ?_⟩
    rintro ⟨hempty, -⟩
    have hroom : 0 < j.inward.capacity := h.room.2
    rw [Pipe.room, show j.inward.held = [] from hempty, List.length_nil] at hn
    omega
  · right
    simp only [Stock.load, List.length_append, List.length_take, List.length_drop]
    omega

end

/-- The pipe passes on what has been written, and the end of the stream once nothing is left of it. -/
theorem Flow.turn_carry (h : Flow p k j sent) (more : Nat) : Turn .pipe p (p.apply (.carry more)) := by
  rw [apply]
  match hread : k.outward.read (min (more + 1) j.inward.room) with
  | (outward, .bytes bs) =>
    rw [h.carry_bytes hread]
    exact h.turn_bytes hread
  | (outward, .nothing) =>
    obtain ⟨-, hheld, -⟩ := Pipe.eq_of_read_eq_nothing hread
    rw [h.carry_nothing hread]
    exact h.turn h (.inl ⟨rfl, by simp [Stock.Awaits, hheld]⟩)
  | (outward, .ended) =>
    rw [h.carry_ended hread]
    exact h.turn_end hread

theorem Flow.with_answer {r : Reader} {inward : Pipe} {o : Reader.Outcome} {received : List Bytes}
    (h : Flow p k j sent) (ha : p.far.reader.Answers j.inward ((r, inward), o)) (ho : ∀ e, o ≠ .fault e)
    (hb : p.received.flatten ++ p.far.reader.waiting j.inward = received.flatten ++ r.waiting inward)
    (hf : ∀ f ∈ received, IsFrame f) :
    Flow { p with far := { p.far with reader := r, link := some { j with inward } }, received } k { j with inward }
      sent :=
  h.with_far rfl hb hf (ha.sound ho) (fun hj => h.spent (ha.isOpen.symm.trans hj)) ha.capacity

theorem Flow.answers (h : Flow p k j sent) : ∃ r inward, p.far.next = ({ p.far with
      reader := r, link := some { j with inward } }, p.far.next.2) ∧
    Reader.Answers p.far.reader j.inward ((r, inward), p.far.next.2) := by
  refine ⟨(p.far.reader.next j.inward).1.1, (p.far.reader.next j.inward).1.2, ?_, ?_⟩
  · simp [LiveSession.next, h.far]
  · simpa [LiveSession.next, h.far] using Reader.answers_next h.sound

/-- All that is due to the reader: the first of the frames under way if it has arrived, and the end only if nothing
is under way. -/
inductive Due (p : SessionPair) (k j : Link) (sent : List Bytes) : Reader.Outcome × Bytes → Prop
  | frame (frame rest : Bytes) (isFrame : IsFrame frame) (front : p.far.reader.waiting j.inward = frame ++ rest) :
      Due p k j sent (.frame frame, rest)
  | pending (missing : FrameStream.next? (p.far.reader.waiting j.inward) = .ok none) :
      Due p k j sent (.pending, p.far.reader.waiting j.inward)
  | ended (nothing : p.far.reader.waiting j.inward = []) (all : sent = p.received) (writer : k.writer = .ended) :
      Due p k j sent (.ended, [])

theorem Flow.due (h : Flow p k j sent) :
    Due p k j sent (Reader.due (p.far.reader.waiting j.inward) j.inward.isOpen) := by
  match hn : FrameStream.next? (p.far.reader.waiting j.inward) with
  | .error e => exact absurd hn (h.next?_ne_error e)
  | .ok (some (frame, rest)) =>
    rw [Reader.due_of_some _ hn]
    obtain ⟨hf, hw⟩ := FrameStream.next?_eq_some_iff.mp hn
    exact .frame frame rest hf hw
  | .ok none =>
    cases ho : j.inward.isOpen with
    | true =>
      rw [Reader.due_of_none hn]
      exact .pending hn
    | false =>
      obtain ⟨hclosed, hheld⟩ := h.spent ho
      rcases h.sending with ⟨rest, -, -, hopen, -⟩ | ⟨lost, hw, -⟩
      · exact absurd hclosed (by simp [hopen])
      · obtain ⟨hnil, hall⟩ := h.waiting_eq_nil hn hheld (by rw [hw]; rfl)
        rw [hnil, Reader.due_nil]
        exact .ended hnil hall hw

theorem Flow.turn_read (h : Flow p k j sent) : Turn .reader p (p.apply .read) := by
  obtain ⟨r, inward, hnext, ha⟩ := h.answers
  have houtcome := ha.outcome
  have hleft : r.waiting inward = _ := ha.left
  have hsuffix : inward.held.length ≤ j.inward.held.length := ha.suffix.length_le
  have hcases := h.due
  generalize Reader.due (p.far.reader.waiting j.inward) j.inward.isOpen = due at houtcome hleft hcases
  dsimp only at houtcome
  rw [houtcome] at hnext ha
  rw [apply, read, hnext]
  cases hcases with
  | frame frame rest hf hw =>
    have hreceived : ∀ f ∈ p.received ++ [frame], IsFrame f := by
      simpa [or_imp, forall_and] using ⟨h.received_isFrame, hf⟩
    have hflow := h.with_answer ha (by simp) (by rw [hleft, hw]; simp) hreceived
    refine h.turn hflow (.inr ?_)
    have hlen := congrArg List.length (hw.trans (congrArg (frame ++ ·) hleft.symm))
    have hpos := List.length_pos_iff.mpr hf.ne_nil
    simp only [Reader.waiting, List.length_append] at hlen
    simp only [Stock.load]
    omega
  | pending hn =>
    have hflow := h.with_answer ha (by simp) (by rw [hleft]) h.received_isFrame
    refine h.turn hflow ?_
    have hempty : inward.held = [] := ha.emptied rfl
    have hbuffer : r.buffer = p.far.reader.buffer ++ j.inward.held := by
      simpa [Reader.waiting, hempty] using hleft
    by_cases hheld : j.inward.held = []
    · rw [hheld, List.append_nil] at hbuffer
      rw [Reader.waiting, hheld, List.append_nil] at hn
      exact .inl ⟨by simp [hbuffer, hempty, hheld], by simp [Stock.Awaits, hheld, hn]⟩
    · have hlen := List.length_pos_iff.mpr hheld
      right
      simp only [Stock.load, hbuffer, hempty, List.length_append, List.length_nil]
      omega
  | ended hnil hall hw =>
    have hflow := h.with_answer ha (by simp) (by rw [hleft, hnil]) h.received_isFrame
    obtain ⟨hbuffer, hheld⟩ := List.append_eq_nil_iff.mp hnil
    obtain ⟨hbuffer', hheld'⟩ := List.append_eq_nil_iff.mp hleft
    have hnone : FrameStream.next? [] = .ok none := rfl
    exact h.turn hflow (.inl ⟨by simp [hbuffer, hheld, hbuffer', hheld'],
      by simp [Stock.Awaits, hbuffer, hheld, hnone]⟩)

/-! ### Turns of those who hold the session -/

end SessionPair

namespace LiveSession

variable {s : LiveSession}

theorem offer_of_closed (frame : Bytes) (h : s.outbox.isOpen = false) :
    s.offer frame = (s, .error .connectionClosed) := by
  simp [offer, Outbox.offer, h]

theorem offer_of_full (frame : Bytes) (h : s.outbox.isOpen = true) (hf : s.outbox.capacity ≤ s.outbox.frames.length) :
    s.offer frame = (s, .error .queueFull) := by
  simp [offer, Outbox.offer, h, hf]

theorem offer_of_room (frame : Bytes) (h : s.outbox.isOpen = true)
    (hf : ¬ s.outbox.capacity ≤ s.outbox.frames.length) : s.offer frame =
      ({ s with outbox := { s.outbox with frames := s.outbox.frames ++ [frame] } }, .ok ()) := by
  simp [offer, Outbox.offer, h, hf]

theorem send_of_closed (frame : Bytes) (h : s.outbox.isOpen = false) :
    s.send frame = (s, .error .connectionClosed) := by
  simp [send, offer_of_closed frame h, h, Except.map]

end LiveSession

namespace SessionPair

variable {p : SessionPair} {k j : Link} {sent : List Bytes}

def queue (p : SessionPair) (frame : Bytes) : SessionPair := { p with
  near := { p.near with outbox := { p.near.outbox with frames := p.near.outbox.frames ++ [frame] } }
  queued := p.queued ++ [frame] }

/-- Only a queue that is open takes a frame; else nothing happens. -/
theorem apply_offer (p : SessionPair) (frame : Bytes) :
    p.apply (.offer frame) = p ∨ p.near.outbox.isOpen = true ∧ p.apply (.offer frame) = p.queue frame := by
  by_cases hheld : p.near.isHeld = true
  · cases ho : p.near.outbox.isOpen with
    | false => exact .inl (by simp [apply, hheld, LiveSession.offer_of_closed frame ho, enqueue])
    | true =>
      by_cases hf : p.near.outbox.capacity ≤ p.near.outbox.frames.length
      · exact .inl (by simp [apply, hheld, LiveSession.offer_of_full frame ho hf, enqueue])
      · exact .inr ⟨rfl, by simp [apply, hheld, LiveSession.offer_of_room frame ho hf, enqueue, queue]⟩
  · exact .inl (by simp [apply, hheld])

/-- Who waits for room does nothing meanwhile. -/
theorem apply_send (p : SessionPair) (frame : Bytes) :
    p.apply (.send frame) = p ∨ p.apply (.send frame) = p.apply (.offer frame) := by
  by_cases hfull : (p.near.outbox.isOpen && decide (p.near.outbox.capacity ≤ p.near.outbox.frames.length)) = true
  · exact .inl (by simp [apply, LiveSession.send, hfull, enqueue])
  · right
    simp only [apply, LiveSession.send, if_neg hfull]
    cases (p.near.offer frame).2 with
    | ok _ => rfl
    | error e => rfl

theorem apply_of_queues {m : Move} (p : SessionPair) (hm : m.queues = true) :
    p.apply m = p ∨ p.near.outbox.isOpen = true ∧ ∃ frame, p.apply m = p.queue frame := by
  have hoffer : ∀ frame, p.apply (.offer frame) = p ∨
      p.near.outbox.isOpen = true ∧ ∃ bs, p.apply (.offer frame) = p.queue bs :=
    fun frame => (p.apply_offer frame).imp_right fun ⟨ho, h⟩ => ⟨ho, frame, h⟩
  cases m with
  | offer frame => exact hoffer frame
  | send frame =>
    rcases p.apply_send frame with h | h
    · exact .inl h
    · rw [h]
      exact hoffer frame
  | _ => cases hm

theorem Flow.queue (h : Flow p k j sent) (frame : Bytes) (ho : p.near.outbox.isOpen = true) :
    Flow (p.queue frame) k j sent where
  near := h.near
  far := h.far
  sending := by
    rcases h.sending with ⟨rest, hw, hbox, ho', hs⟩ | ⟨lost, -, hbox, -⟩
    · exact .running rest hw hbox ho' (by simp [SessionPair.queue, hs])
    · exact absurd hbox (by simp [ho])
  sent_isFrame := h.sent_isFrame
  stream := h.stream
  arrived := h.arrived
  received_isFrame := h.received_isFrame
  sound := h.sound
  spent := h.spent
  room := h.room

theorem Flow.stopReading (h : Flow p k j sent) : Flow (p.apply .stopReading) { k with isRead := false } j sent := by
  have hl : p.near.dropReader.1.link = some { k with isRead := false } := by simp [LiveSession.dropReader, h.near]
  exact h.with_near hl (h.sending.congr rfl rfl) h.sent_isFrame h.stream (fun ho => ⟨ho, rfl⟩) rfl

theorem Flow.apply (h : Flow p k j sent) (m : Move) : ∃ k j sent, Flow (p.apply m) k j sent := by
  by_cases hm : m.queues = true
  · rcases p.apply_of_queues hm with hsame | ⟨ho, frame, hqueue⟩
    · exact ⟨k, j, sent, by rwa [hsame]⟩
    · exact ⟨k, j, sent, by rw [hqueue]; exact h.queue frame ho⟩
  · cases m with
    | offer | send => exact absurd rfl hm
    | letGo => exact ⟨k, j, sent, h.with_near h.near h.sending h.sent_isFrame h.stream (fun ho => ⟨ho, rfl⟩) rfl⟩
    | stopReading => exact ⟨_, j, sent, h.stopReading⟩
    | write more => exact (h.turn_write more).flow
    | settle => exact h.turn_settle.flow
    | carry more => exact (h.turn_carry more).flow
    | read => exact h.turn_read.flow

end SessionPair

end FrameGateway
