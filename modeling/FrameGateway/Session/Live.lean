import FrameGateway.Net.Address
import FrameGateway.Session.Link
import FrameGateway.Session.Reader
import FrameGateway.SessionId
/-! A session with all of its sides: the handle through which frames are queued, the reader of the
frames that arrive, and the far end of its stream. A session without a stream has its queue emptied
by hand. -/

namespace FrameGateway

structure LiveSession where
  id : SessionId
  peer : Option Address
  outbox : Outbox
  /-- somebody holds the handle -/
  isHeld : Bool
  link : Option Link
  reader : Reader
  /-- the far end is there, or whoever empties the queue -/
  hasFarEnd : Bool
  deriving Inhabited

namespace LiveSession

def channel (id : SessionId) (capacity : Nat) : LiveSession :=
  ⟨id, none, .create capacity, true, none, {}, true⟩

def spawn (id : SessionId) (capacity buffer : Nat) (peer : Option Address) : LiveSession :=
  ⟨id, peer, .create capacity, true, some (.create buffer), {}, true⟩

def settle (s : LiveSession) : LiveSession :=
  match s.link with
  | none => s
  | some k =>
    let (k, outbox) := k.settle s.outbox s.isHeld
    { s with link := some k, outbox }

def offer (s : LiveSession) (frame : Bytes) : LiveSession × Except Fault Unit :=
  match s.outbox.offer frame with
  | .ok outbox => ({ s with outbox }, .ok ())
  | .error e => (s, .error e)

/-- Queues a frame; `false` if that has to wait for room. -/
def send (s : LiveSession) (frame : Bytes) : LiveSession × Except Fault Bool :=
  if s.outbox.isOpen && s.outbox.capacity ≤ s.outbox.frames.length then (s, .ok false)
  else
    let (s, r) := s.offer frame
    (s, r.map fun _ => true)

def take (s : LiveSession) : LiveSession × Option Bytes :=
  ({ s with outbox := { s.outbox with frames := s.outbox.frames.tail } }, s.outbox.frames.head?)

def receive (s : LiveSession) (n : Nat) : LiveSession × Pipe.Reading :=
  match s.link with
  | none => (s, .ended)
  | some k =>
    let (outward, r) := k.outward.read n
    ({ s with link := some { k with outward } }, r)

def write (s : LiveSession) (bs : Bytes) : LiveSession × Pipe.Written :=
  match s.link with
  | none => (s, .closed)
  | some k =>
    let (inward, r) := k.inward.write bs
    ({ s with link := some { k with inward } }, r)

def next (s : LiveSession) : LiveSession × Reader.Outcome :=
  match s.link with
  | none => (s, .ended)
  | some k =>
    let ((reader, inward), r) := s.reader.next k.inward
    ({ s with reader, link := some { k with inward } }, r)

/-- Lets go of the handle; was it there? -/
def dropHandle (s : LiveSession) : LiveSession × Bool := ({ s with isHeld := false }, s.isHeld)

/-- Lets go of the reader; was it there? -/
def dropReader (s : LiveSession) : LiveSession × Bool :=
  ({ s with link := s.link.map fun k => { k with isRead := false } }, s.link.any (·.isRead))

/-- The far end goes; was it there? -/
def hangUp (s : LiveSession) : LiveSession × Bool :=
  ({ s with
      outbox := if s.link.isNone then s.outbox.close else s.outbox
      link := s.link.map Link.hangUp
      hasFarEnd := false }, s.hasFarEnd)

def debugText (s : LiveSession) : String :=
  let peer := s.peer.elim "None" fun p => "Some(" ++ p.text ++ ")"
  s!"SessionHandle \x7b id: {s.id.debugText}, peer: {peer}, closed: {!s.outbox.isOpen} \x7d"

end LiveSession

end FrameGateway
