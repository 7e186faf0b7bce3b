import FrameGateway.Frame.Stream
import FrameGateway.Session.Pipe
/-! The reader of a session: it gathers the bytes that arrive in a block of memory and hands out whole
frames. It reads no more at a time than the block has room for, so what it leaves in the pipe keeps the
peer waiting. A fault is handed out once and then shows as an end of the stream. -/

namespace FrameGateway

structure Reader where
  buffer : Bytes := []
  /-- bytes of the block in front of the buffer, of frames handed out -/
  spent : Nat := 0
  /-- size of the block -/
  block : Nat := 8192
  /-- the stream has ended -/
  ended : Bool := false
  /-- the buffer may hold a whole frame -/
  readable : Bool := false
  /-- the last outcome was a fault -/
  failed : Bool := false
  deriving DecidableEq, Inhabited

namespace Reader

def room (r : Reader) : Nat := r.block - (r.spent + r.buffer.length)

/-- Makes room for `n` bytes. The buffer moves to the front of its block if it is no longer than the space
there; if that does not do, the block grows to twice its size at least. -/
def reserve (r : Reader) (n : Nat) : Reader :=
  let held := r.buffer.length
  if r.spent + held + n ≤ r.block then r
  else if held + n ≤ r.block ∧ held ≤ r.spent then { r with spent := 0 }
  else { r with block := max (2 * r.block) (r.spent + held + n) }

theorem room_reserve_pos (r : Reader) : 0 < (r.reserve 1).room := by
  unfold reserve room
  dsimp only
  split
  · omega
  · split
    · dsimp only
      omega
    · dsimp only
      omega

inductive Outcome where
  | frame (bs : Bytes)
  | fault (f : Fault)
  | pending
  | ended
  deriving DecidableEq, Repr

/-- The next frame of the buffer alone; `none` if more has to be read first, for which room is made. -/
def fromBuffer (r : Reader) : Reader × Option Outcome :=
  if !r.readable then (r, none)
  else match (if r.ended then FrameStream.finish? r.buffer else FrameStream.next? r.buffer) with
    | .error e => ({ r with failed := true }, some (.fault e))
    | .ok (some (frame, rest)) =>
      ({ r with buffer := rest, spent := r.spent + frame.length }, some (.frame frame))
    | .ok none =>
      ({ r with readable := false }.reserve (FrameStream.missing r.buffer), if r.ended then some .ended else none)

/-- Reads from the pipe until there is an outcome. -/
def gather (r : Reader) (p : Pipe) : (Reader × Pipe) × Outcome :=
  match h : p.read (r.reserve 1).room with
  | (p, .nothing) => ((r.reserve 1, p), .pending)
  | (p, .ended) =>
    let r := r.reserve 1
    if r.ended then ((r, p), .ended)
    else
      let (r, o) := { r with ended := true, readable := true }.fromBuffer
      ((r, p), o.getD .ended)
  | (p', .bytes bs) =>
    have := Pipe.length_of_read_eq_bytes h r.room_reserve_pos
    let r := r.reserve 1
    match { r with buffer := r.buffer ++ bs, ended := false, readable := true }.fromBuffer with
    | (r, some o) => ((r, p'), o)
    | (r, none) => gather r p'
termination_by p.held.length

/-- The next outcome, from the buffer or from what waits in the pipe. -/
def next (r : Reader) (p : Pipe) : (Reader × Pipe) × Outcome :=
  if r.failed then (({ r with readable := false, failed := false }, p), .ended)
  else match r.fromBuffer with
    | (r, some o) => ((r, p), o)
    | (r, none) => r.gather p

end Reader

end FrameGateway
