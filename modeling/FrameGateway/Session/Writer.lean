import FrameGateway.Frame.Stream
/-! The writer of a session: it takes frames from the session's queue and writes them out, one after
the other. A byte string that is no whole frame ends it before any of its bytes is written. -/

namespace FrameGateway

/-- A writer at work, by what is left of the frame that it took last, or one that has ended. -/
inductive Writer where
  | running (rest : Bytes)
  | ended
  deriving DecidableEq, Inhabited

namespace Writer

/-- Where writing into a pipe with room for so many bytes stopped. -/
structure Flushed where
  written : Bytes
  waiting : List Bytes
  writer : Writer

/-- Writes as much as there is room for. A frame leaves the queue when its turn comes, whether there
is room for it or not. -/
def flush (room : Nat) (rest : Bytes) (waiting : List Bytes) : Flushed :=
  if rest.length ≤ room then
    match waiting with
    | [] => ⟨rest, [], .running []⟩
    | frame :: waiting =>
      match FrameStream.encode frame with
      | .error _ => ⟨rest, [], .ended⟩
      | .ok bs =>
        let f := flush (room - rest.length) bs waiting
        { f with written := rest ++ f.written }
  else ⟨rest.take room, waiting, .running (rest.drop room)⟩

end Writer

end FrameGateway
