import FrameGateway.Proofs.Session.Pair
import Mathlib.Data.List.Infix
/-! What is queued at a session arrives at its peer. Whatever order the parties take their turns in, the reader has
handed out a part of the leading frames and the stream has carried no other byte; once nothing is queued any more
and each party has had enough turns, all of them have arrived (`SessionPair.leading_frames_arrive`). -/

namespace FrameGateway

theorem leadingFrames_append {sent : List Bytes} (h : ∀ f ∈ sent, IsFrame f) (rest : List Bytes) :
    leadingFrames (sent ++ rest) = sent ++ leadingFrames rest :=
  List.takeWhile_append_of_pos fun f hf => decide_eq_true (h f hf)

theorem leadingFrames_of_all {sent : List Bytes} (h : ∀ f ∈ sent, IsFrame f) : leadingFrames sent = sent := by
  have := leadingFrames_append h []
  rwa [List.append_nil, show leadingFrames [] = [] from rfl, List.append_nil] at this

namespace SessionPair

variable {p : SessionPair} {k j : Link} {sent : List Bytes}

/-! ### What holds at every moment -/

theorem Flow.sent_le (h : Flow p k j sent) : sent <+: leadingFrames p.queued := by
  rcases h.sending with ⟨rest, -, -, -, hs⟩ | ⟨lost, -, -, -, hs, -⟩
  all_goals
    rw [hs, leadingFrames_append h.sent_isFrame]
    exact List.prefix_append _ _

theorem Flow.written_eq (h : Flow p k j sent) : p.written = p.carried ++ k.outward.held := by
  rw [written, h.stock_eq]

theorem Flow.written_le (h : Flow p k j sent) : p.written <+: sent.flatten :=
  ⟨k.writer.rest, by rw [h.written_eq, h.stream]⟩

theorem Flow.sent_of_ended (h : Flow p k j sent) (hw : k.writer = .ended) : sent = leadingFrames p.queued := by
  rcases h.sending with ⟨rest, hw', -⟩ | ⟨lost, -, -, -, hs, hl⟩
  · cases hw.symm.trans hw'
  · rw [hs, leadingFrames_append h.sent_isFrame, hl, List.append_nil]

theorem Flow.due_next (h : Flow p k j sent) : ∃ left, Due p k j sent (p.far.next.2, left) := by
  obtain ⟨r, inward, -, ha⟩ := h.answers
  refine ⟨(Reader.due (p.far.reader.waiting j.inward) j.inward.isOpen).2, ?_⟩
  rw [show p.far.next.2 = _ from ha.outcome]
  exact h.due

theorem Flow.next_ne_fault (h : Flow p k j sent) (e : Fault) : p.far.next.2 ≠ .fault e := by
  obtain ⟨left, hdue⟩ := h.due_next
  intro he
  rw [he] at hdue
  cases hdue

theorem Flow.received_of_ended (h : Flow p k j sent) (he : p.far.next.2 = .ended) :
    p.received = leadingFrames p.queued := by
  obtain ⟨left, hdue⟩ := h.due_next
  rw [he] at hdue
  cases hdue with
  | ended _ hall hw => rw [← hall, h.sent_of_ended hw]

/-! ### Turn after turn -/

theorem run_cons (p : SessionPair) (m : Move) (moves : List Move) : p.run (m :: moves) = (p.apply m).run moves := rfl

theorem run_append (p : SessionPair) (before after : List Move) : p.run (before ++ after) = (p.run before).run after :=
  List.foldl_append

theorem Flow.run (h : Flow p k j sent) (moves : List Move) : ∃ k j sent, Flow (p.run moves) k j sent := by
  induction moves generalizing p k j sent with
  | nil => exact ⟨k, j, sent, h⟩
  | cons m moves ih =>
    obtain ⟨k, j, sent, h⟩ := h.apply m
    exact ih h

theorem flow_start (id id' : SessionId) (peer peer' : Option Address) (capacity capacity' : Nat) {buffer buffer' : Nat}
    (hb : 0 < buffer) (hb' : 0 < buffer') :
    Flow (start (.spawn id capacity buffer peer) (.spawn id' capacity' buffer' peer')) (.create buffer)
      (.create buffer') [] where
  near := rfl
  far := rfl
  sending := .running [] rfl rfl rfl rfl
  sent_isFrame := by simp
  stream := rfl
  arrived := rfl
  received_isFrame := by simp [start]
  sound := ⟨rfl, fun _ => rfl, nofun⟩
  spent := nofun
  room := ⟨hb, hb'⟩

theorem Flow.turn_of_party {m : Move} {x : Party} (h : Flow p k j sent) (hm : m.party = some x) :
    Turn x p (p.apply m) := by
  cases m with
  | write more => cases hm; exact h.turn_write more
  | settle => cases hm; exact h.turn_settle
  | carry more => cases hm; exact h.turn_carry more
  | read => cases hm; exact h.turn_read
  | _ => cases hm

/-- As long as nothing is queued, work only gets less. -/
theorem Flow.less (h : Flow p k j sent) {m : Move} (hm : m.queues = false) :
    (p.apply m).stock = p.stock ∨ (p.apply m).stock.load < p.stock.load := by
  cases hx : m.party with
  | some x => exact (h.turn_of_party hx).less.imp_left And.left
  | none =>
    left
    cases m with
    | letGo => rfl
    | stopReading => exact h.stopReading.stock_eq.trans h.stock_eq.symm
    | offer | send => cases hm
    | write | settle | carry | read => cases hx

theorem Flow.run_less (h : Flow p k j sent) {moves : List Move} (hm : ∀ m ∈ moves, m.queues = false) :
    (p.run moves).stock = p.stock ∨ (p.run moves).stock.load < p.stock.load := by
  induction moves generalizing p k j sent with
  | nil => exact .inl rfl
  | cons m moves ih =>
    obtain ⟨k', j', sent', h'⟩ := h.apply m
    have hfirst := h.less (hm m List.mem_cons_self)
    rw [run_cons]
    rcases ih h' (fun m hm' => hm m (List.mem_cons_of_mem _ hm')) with hs | hl
    · rwa [hs]
    · rcases hfirst with hs' | hl'
      · exact .inr (hs' ▸ hl)
      · exact .inr (Nat.lt_trans hl hl')

/-- While there is work left, it awaits one of the parties. -/
theorem Flow.exists_awaits (h : Flow p k j sent) (hl : 0 < p.stock.load) : ∃ x, p.stock.Awaits x := by
  rw [h.stock_eq] at hl ⊢
  by_cases hin : j.inward.held = []
  · by_cases hout : k.outward.held = []
    · by_cases hnear : k.writer.rest ≠ [] ∨ p.near.outbox.frames ≠ []
      · exact ⟨.writer, hout, hnear⟩
      · simp only [ne_eq, not_or, not_not] at hnear
        obtain ⟨hrest, hqueue⟩ := hnear
        have hwaiting : p.far.reader.waiting j.inward = p.far.reader.buffer := by
          rw [Reader.waiting, hin, List.append_nil]
        -- some bytes are in the buffer, and nothing else is under way
        cases hn : FrameStream.next? (p.far.reader.waiting j.inward) with
        | error e => exact absurd hn (h.next?_ne_error e)
        | ok next =>
          cases next with
          | none =>
            obtain ⟨hnil, -⟩ := h.waiting_eq_nil hn hout hrest
            simp [Stock.load, hin, hout, hrest, hqueue, ← hwaiting, hnil] at hl
          | some r => exact ⟨.reader, .inr ⟨r, hwaiting ▸ hn⟩⟩
    · exact ⟨.pipe, hin, hout⟩
  · exact ⟨.reader, .inl hin⟩

/-- A round: nothing is queued, and each party gets its turn once at least. -/
def IsRound (moves : List Move) : Prop := (∀ m ∈ moves, m.queues = false) ∧ ∀ x, ∃ m ∈ moves, m.party = some x

theorem Flow.round_less (h : Flow p k j sent) {round : List Move} (hr : IsRound round) (hl : 0 < p.stock.load) :
    (p.run round).stock.load < p.stock.load := by
  obtain ⟨x, hx⟩ := h.exists_awaits hl
  obtain ⟨m, hm, hparty⟩ := hr.2 x
  obtain ⟨before, after, rfl⟩ := List.append_of_mem hm
  obtain ⟨k₁, j₁, sent₁, h₁⟩ := h.run before
  obtain ⟨k₂, j₂, sent₂, h₂⟩ := h₁.apply m
  have hbefore := h.run_less fun m hm => hr.1 m (List.mem_append_left _ hm)
  have hafter := h₂.run_less fun m hm => hr.1 m (List.mem_append_right _ (List.mem_cons_of_mem _ hm))
  have hturn := (h₁.turn_of_party hparty).less
  rw [run_append, run_cons]
  have hmiddle : ((p.run before).apply m).stock.load < p.stock.load := by
    rcases hbefore with hs | hl
    · rw [hs] at hturn
      exact hturn.resolve_left fun hsame => hsame.2 hx
    · rcases hturn with ⟨hs, -⟩ | hl'
      · exact hs ▸ hl
      · exact Nat.lt_trans hl' hl
  rcases hafter with hs | hl
  · exact hs ▸ hmiddle
  · exact Nat.lt_trans hl hmiddle

theorem Flow.rounds_done (h : Flow p k j sent) {rounds : List (List Move)} (hr : ∀ r ∈ rounds, IsRound r)
    (hl : p.stock.load ≤ rounds.length) : (p.run rounds.flatten).stock.load = 0 := by
  induction rounds generalizing p k j sent with
  | nil => exact Nat.le_zero.mp hl
  | cons r rounds ih =>
    obtain ⟨k', j', sent', h'⟩ := h.run r
    have hround := hr r List.mem_cons_self
    have hless : (p.run r).stock.load ≤ rounds.length := by
      rw [List.length_cons] at hl
      rcases Nat.eq_zero_or_pos p.stock.load with h0 | hpos
      · rcases h.run_less hround.1 with hs | hl'
        · rw [hs]
          omega
        · omega
      · have := h.round_less hround hpos
        omega
    rw [List.flatten_cons, run_append]
    exact ih h' (fun r hr' => hr r (List.mem_cons_of_mem _ hr')) hless

/-! ### Where it ends -/

/-- Once no work is left, all leading frames have arrived, and the writer has stopped at the first that is none. -/
theorem Flow.all_of_load (h : Flow p k j sent) (hl : p.stock.load = 0) :
    p.received = leadingFrames p.queued ∧ p.written = (leadingFrames p.queued).flatten ∧
      ((∃ f ∈ p.queued, ¬ IsFrame f) → p.HasEnded) := by
  rw [h.stock_eq, Stock.load] at hl
  dsimp only at hl
  have hrest : k.writer.rest = [] := List.eq_nil_of_length_eq_zero (by omega)
  have hout : k.outward.held = [] := List.eq_nil_of_length_eq_zero (by omega)
  have hin : j.inward.held = [] := List.eq_nil_of_length_eq_zero (by omega)
  have hbuffer : p.far.reader.buffer = [] := List.eq_nil_of_length_eq_zero (by omega)
  have hframes : p.near.outbox.frames = [] := List.eq_nil_of_length_eq_zero (by omega)
  have hnil : p.far.reader.waiting j.inward = [] := by rw [Reader.waiting, hin, hbuffer, List.append_nil]
  have hall : sent = p.received := (h.waiting_eq_nil (hnil ▸ rfl) hout hrest).2
  have hleading : sent = leadingFrames p.queued := by
    rcases h.sending with ⟨rest, -, -, -, hs⟩ | ⟨lost, hw, -⟩
    · rw [hs, hframes, List.append_nil, leadingFrames_of_all h.sent_isFrame]
    · exact h.sent_of_ended hw
  refine ⟨hall.symm.trans hleading, ?_, ?_⟩
  · rw [h.written_eq, ← hleading, h.stream, hrest, List.append_nil]
  · rintro ⟨f, hf, hno⟩
    rcases h.sending with ⟨rest, -, -, -, hs⟩ | ⟨lost, hw, -⟩
    · rw [hs, hframes, List.append_nil] at hf
      exact absurd (h.sent_isFrame f hf) hno
    · exact ⟨k, h.near, hw⟩

theorem Flow.isOpen_of_ended (h : Flow p k j sent) (hw : k.writer = .ended) : p.near.outbox.isOpen = false := by
  rcases h.sending with ⟨rest, hw', -⟩ | ⟨lost, -, hbox, -⟩
  · cases hw.symm.trans hw'
  · exact hbox

/-- The pipe moves bytes and changes nothing else at the near end. -/
theorem Flow.carry_keeps (h : Flow p k j sent) (n : Nat) :
    (p.carry n).near.link.map (·.writer) = some k.writer ∧ (p.carry n).queued = p.queued ∧
      (p.carry n).written = p.written := by
  match hread : k.outward.read (min n j.inward.room) with
  | (outward, .bytes bs) =>
    obtain ⟨rfl, rfl, -⟩ := Pipe.eq_of_read_eq_bytes hread
    rw [h.carry_bytes hread, h.written_eq]
    exact ⟨rfl, rfl, by simp [written, stock]⟩
  | (outward, .nothing) =>
    rw [h.carry_nothing hread, h.near]
    exact ⟨rfl, rfl, rfl⟩
  | (outward, .ended) =>
    rw [h.carry_ended hread, h.near]
    exact ⟨rfl, rfl, rfl⟩

theorem read_keeps (p : SessionPair) :
    p.read.near = p.near ∧ p.read.queued = p.queued ∧ p.read.carried = p.carried := by
  unfold read
  split
  · exact ⟨rfl, rfl, rfl⟩
  · exact ⟨rfl, rfl, rfl⟩

theorem Flow.write_of_ended (h : Flow p k j sent) (hw : k.writer = .ended) (more : Nat) :
    (p.apply (.write more)).HasEnded ∧ (p.apply (.write more)).queued = p.queued ∧
      (p.apply (.write more)).written = p.written := by
  have hwork := LiveSession.work_of_link h.near (more + 1)
  rw [Link.work_of_ended _ _ _ hw] at hwork
  have hlink : (p.near.work (more + 1)).link = some k.release := by rw [hwork]
  refine ⟨⟨k.release, hlink, by simpa using hw⟩, rfl, ?_⟩
  simp [written, stock, SessionPair.apply, hlink, h.near]

/-- A writer that has ended only lets go of its stream. -/
theorem Flow.settle_of_ended (h : Flow p k j sent) (hw : k.writer = .ended) :
    p.apply .settle = p.apply (.write 0) := by
  have hwork := LiveSession.work_of_link h.near 1
  rw [Link.work_of_ended _ _ _ hw] at hwork
  have hsettle : p.near.settle = p.near.work 1 := by
    rw [hwork]
    simp [LiveSession.settle, Link.settle, h.near, hw]
  rw [SessionPair.apply, SessionPair.apply, hsettle]

/-- A session whose writer has ended takes nothing, and nothing more is written. -/
theorem Flow.apply_of_ended (h : Flow p k j sent) (hw : k.writer = .ended) (m : Move) :
    (p.apply m).HasEnded ∧ (p.apply m).queued = p.queued ∧ (p.apply m).written = p.written := by
  by_cases hm : m.queues = true
  · rcases p.apply_of_queues hm with hsame | ⟨ho, -⟩
    · rw [hsame]
      exact ⟨⟨k, h.near, hw⟩, rfl, rfl⟩
    · exact absurd (h.isOpen_of_ended hw) (by simp [ho])
  · cases m with
    | offer | send => exact absurd rfl hm
    | letGo => exact ⟨⟨k, h.near, hw⟩, rfl, rfl⟩
    | stopReading =>
      refine ⟨⟨_, h.stopReading.near, hw⟩, rfl, ?_⟩
      rw [h.stopReading.written_eq, h.written_eq]
      rfl
    | write more => exact h.write_of_ended hw more
    | settle =>
      rw [h.settle_of_ended hw]
      exact h.write_of_ended hw 0
    | carry more =>
      obtain ⟨hlink, hqueued, hwritten⟩ := h.carry_keeps (more + 1)
      obtain ⟨k', hk', hw'⟩ := Option.map_eq_some_iff.mp hlink
      exact ⟨⟨k', hk', hw'.trans hw⟩, hqueued, hwritten⟩
    | read =>
      obtain ⟨hnear, hqueued, hcarried⟩ := p.read_keeps
      refine ⟨⟨k, ?_, hw⟩, hqueued, ?_⟩
      · rw [SessionPair.apply, hnear, h.near]
      · simp [written, stock, SessionPair.apply, hnear, hcarried]

theorem Flow.run_of_ended (h : Flow p k j sent) (he : p.HasEnded) (moves : List Move) :
    (p.run moves).HasEnded ∧ (p.run moves).queued = p.queued ∧ (p.run moves).written = p.written := by
  induction moves generalizing p k j sent with
  | nil => exact ⟨he, rfl, rfl⟩
  | cons m moves ih =>
    obtain ⟨k', hk', hw⟩ := he
    cases h.near.symm.trans hk'
    obtain ⟨he₁, hq₁, hw₁⟩ := h.apply_of_ended hw m
    obtain ⟨k₁, j₁, sent₁, h₁⟩ := h.apply m
    obtain ⟨he₂, hq₂, hw₂⟩ := ih h₁ he₁
    exact ⟨he₂, hq₂.trans hq₁, hw₂.trans hw₁⟩

theorem Flow.queued_of_not_queues (h : Flow p k j sent) {m : Move} (hm : m.queues = false) :
    (p.apply m).queued = p.queued := by
  cases m with
  | offer | send => cases hm
  | letGo | stopReading | write | settle => rfl
  | carry more => exact (h.carry_keeps (more + 1)).2.1
  | read => exact p.read_keeps.2.1

theorem Flow.run_queued (h : Flow p k j sent) {moves : List Move} (hm : ∀ m ∈ moves, m.queues = false) :
    (p.run moves).queued = p.queued := by
  induction moves generalizing p k j sent with
  | nil => rfl
  | cons m moves ih =>
    obtain ⟨k', j', sent', h'⟩ := h.apply m
    rw [run_cons, ih h' fun m hm' => hm m (List.mem_cons_of_mem _ hm'),
      h.queued_of_not_queues (hm m List.mem_cons_self)]

/-- Two sessions over streams, joined by a pipe that loses nothing. Their queues may be of any size for which there are
permits; the pipe has room for one byte at least on either side. After any turns, the reader has handed out the first of
the leading frames, those in front of the first byte string that is no frame, and never a fault; only bytes of these
frames have been written; and the reader is told the end only behind the last of them. When nothing more is queued and
each party gets its turns, no more rounds than there is work, all leading frames have been handed out, and the writer
has ended if anything but frames was queued. From its end on nothing is queued or written, and whoever tries to queue is
told that the connection is closed. A writer that does all that it can takes such turns until none of them would change
anything. -/
theorem leading_frames_arrive (id id' : SessionId) (peer peer' : Option Address) (capacity capacity' : Nat)
    {buffer buffer' : Nat} (hb : 0 < buffer) (hb' : 0 < buffer') (moves : List Move) :
    let p := run (start (.spawn id capacity buffer peer) (.spawn id' capacity' buffer' peer')) moves
    p.received <+: leadingFrames p.queued ∧
    p.written <+: (leadingFrames p.queued).flatten ∧
    (∀ e, p.far.next.2 ≠ .fault e) ∧
    (p.far.next.2 = .ended → p.received = leadingFrames p.queued) ∧
    (∀ rounds : List (List Move), (∀ r ∈ rounds, IsRound r) → p.stock.load ≤ rounds.length →
      let q := p.run rounds.flatten
      q.queued = p.queued ∧ q.received = leadingFrames p.queued ∧ q.written = (leadingFrames p.queued).flatten ∧
        ((∃ f ∈ p.queued, ¬ IsFrame f) → q.HasEnded)) ∧
    (p.HasEnded → ∀ later, let q := p.run later
      q.HasEnded ∧ q.queued = p.queued ∧ q.written = p.written ∧ q.near.outbox.isOpen = false ∧
        ∀ frame, q.near.offer frame = (q.near, .error .connectionClosed) ∧
          q.near.send frame = (q.near, .error .connectionClosed)) ∧
    let settled := { p with near := p.near.settle }
    (∃ steps : List Nat, settled = p.run (steps.map .write)) ∧ ∀ more, settled.apply (.write more) = settled := by
  intro p
  obtain ⟨k, j, sent, h⟩ := (flow_start id id' peer peer' capacity capacity' hb hb').run moves
  change Flow p k j sent at h
  refine ⟨h.received_le.trans h.sent_le, h.written_le.trans (List.IsPrefix.flatten h.sent_le), h.next_ne_fault,
    h.received_of_ended, fun rounds hr hl => ?_, fun he later => ?_, p.apply_settle⟩
  · obtain ⟨k', j', sent', h'⟩ := h.run rounds.flatten
    have hqueued : (p.run rounds.flatten).queued = p.queued := by
      refine h.run_queued fun m hm => ?_
      obtain ⟨r, hmem, hm⟩ := List.mem_flatten.mp hm
      exact (hr r hmem).1 m hm
    have hall := h'.all_of_load (h.rounds_done hr hl)
    rw [hqueued] at hall
    exact ⟨hqueued, hall⟩
  · obtain ⟨k', j', sent', h'⟩ := h.run later
    obtain ⟨he', hqueued, hwritten⟩ := h.run_of_ended he later
    obtain ⟨k'', hk'', hw⟩ := he'
    cases h'.near.symm.trans hk''
    have hclosed := h'.isOpen_of_ended hw
    exact ⟨⟨k', hk'', hw⟩, hqueued, hwritten, hclosed, fun frame =>
      ⟨LiveSession.offer_of_closed frame hclosed, LiveSession.send_of_closed frame hclosed⟩⟩

theorem isRound_each : IsRound [.settle, .carry 0, .read] := by
  refine ⟨by simp [Move.queues], fun x => ?_⟩
  cases x with
  | writer => exact ⟨.settle, by simp, rfl⟩
  | pipe => exact ⟨.carry 0, by simp, rfl⟩
  | reader => exact ⟨.read, by simp, rfl⟩

/-- A byte string that announces more than it has, between two frames. The writer ends at it, while the frame before it
is still in the pipe; byte after byte that frame arrives, and nothing else does. -/
theorem leading_frames_arrive_before_a_torn_one :
    let frame : Bytes := [6, 0, 1, 0, 0, 0, 5, 0]
    let torn : Bytes := [9, 0, 1, 0, 0, 0, 5, 0]
    let p := run (start (.spawn (.ofNat 1) 4 8 none) (.spawn (.ofNat 2) 0 5 none))
      [.offer frame, .send torn, .offer frame, .settle]
    let q := p.run (List.replicate p.stock.load [.settle, .carry 0, .read]).flatten
    p.queued = [frame, torn, frame] ∧ p.HasEnded ∧ q.received = [frame] ∧ q.written = frame ∧
      ∀ late, q.near.send late = (q.near, .error .connectionClosed) := by
  intro frame torn
  have harrive := leading_frames_arrive (.ofNat 1) (.ofNat 2) none none 4 0 (show 0 < 8 by decide)
    (show 0 < 5 by decide) [.offer frame, .send torn, .offer frame, .settle]
  generalize hp : run (start (.spawn (.ofNat 1) 4 8 none) (.spawn (.ofNat 2) 0 5 none))
    [.offer frame, .send torn, .offer frame, .settle] = p at harrive ⊢
  have hqueued : p.queued = [frame, torn, frame] := by rw [← hp]; decide +kernel
  have hended : p.HasEnded := by rw [← hp]; exact ⟨_, rfl, rfl⟩
  have hleading : leadingFrames p.queued = [frame] := by rw [hqueued]; decide
  have hrounds : ∀ r ∈ List.replicate p.stock.load [Move.settle, .carry 0, .read], IsRound r := by
    intro r hr
    rw [List.eq_of_mem_replicate hr]
    exact isRound_each
  obtain ⟨-, -, -, -, hall, hlater, -⟩ := harrive
  obtain ⟨-, hreceived, hwritten, -⟩ := hall _ hrounds (by rw [List.length_replicate])
  rw [hleading] at hreceived hwritten
  refine ⟨hqueued, hended, hreceived, by simpa using hwritten, fun late => ?_⟩
  exact ((hlater hended _).2.2.2.2 late).2

end SessionPair

end FrameGateway
