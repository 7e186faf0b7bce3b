import FrameGateway.Session.Outbox
import FrameGateway.Session.Pipe
import FrameGateway.Session.Writer
/-! A session over a byte stream: two pipes, the writer that fills one of them, and the side that reads
the other. -/

namespace FrameGateway

structure Link where
  /-- to the peer -/
  outward : Pipe
  /-- from the peer -/
  inward : Pipe
  writer : Writer
  /-- somebody reads what the peer sends -/
  isRead : Bool
  deriving DecidableEq, Inhabited

namespace Link

def create (capacity : Nat) : Link := ⟨.create capacity, .create capacity, .running [], true⟩

/-- Once neither side of the session is left, the peer can neither write nor wait for more. -/
def release (l : Link) : Link :=
  if l.writer = .ended && !l.isRead then { l with outward := l.outward.close, inward := l.inward.close }
  else l

/-- Lets the writer do all that it can. It ends when a frame is refused, when the peer is gone, and,
after the last frame, when nobody holds the sending side any more. -/
def settle (l : Link) (box : Outbox) (isHeld : Bool) : Link × Outbox :=
  match l.writer with
  | .ended => (l.release, box)
  | .running rest =>
    if !l.outward.isOpen && !(rest.isEmpty && box.frames.isEmpty) then
      (release { l with writer := .ended }, box.close)
    else
      let f := Writer.flush l.outward.room rest box.frames
      let l := { l with outward := { l.outward with held := l.outward.held ++ f.written }, writer := f.writer }
      match f.writer with
      | .ended => (l.release, box.close)
      | .running rest =>
        let box := { box with frames := f.waiting }
        if rest.isEmpty && box.frames.isEmpty && !isHeld then
          (release { l with outward := l.outward.close, writer := .ended }, box.close)
        else (l, box)

def hangUp (l : Link) : Link := { l with outward := l.outward.close, inward := l.inward.close }

end Link

end FrameGateway
