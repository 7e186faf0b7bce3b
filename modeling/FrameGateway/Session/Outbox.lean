import FrameGateway.Frame.Stream
import FrameGateway.Permits
/-! Outbound queues. A session's frames wait in a queue of bounded size until they are written. Nothing
ever waits for room in it: a full queue or one whose reading side is gone refuses the frame. -/

namespace FrameGateway

structure Outbox where
  capacity : Nat
  /-- oldest first -/
  frames : List Bytes
  /-- the reading side is there -/
  isOpen : Bool
  deriving DecidableEq, Inhabited

namespace Outbox

/-- There is room for one frame at least. -/
def create (capacity : Nat) : Outbox := ⟨max capacity 1, [], true⟩

/-- A new queue, if there can be a permit for each of its places. -/
def build (capacity : Nat) : Except Overrun Outbox :=
  (permits (max capacity 1)).map fun capacity => ⟨capacity, [], true⟩

def offer (o : Outbox) (frame : Bytes) : Except Fault Outbox :=
  if !o.isOpen then .error .connectionClosed
  else if o.capacity ≤ o.frames.length then .error .queueFull
  else .ok { o with frames := o.frames ++ [frame] }

/-- The reading side goes, and what waits is lost. -/
def close (o : Outbox) : Outbox := { o with frames := [], isOpen := false }

end Outbox

/-- Names an outbound queue. Sessions may share an id, never a queue. -/
structure OutboxId where
  index : Nat
  deriving DecidableEq, Inhabited

structure Outboxes where
  boxes : List Outbox
  deriving DecidableEq, Inhabited

namespace Outboxes

def empty : Outboxes := ⟨[]⟩

def get? (s : Outboxes) (i : OutboxId) : Option Outbox := s.boxes[i.index]?

def set (s : Outboxes) (i : OutboxId) (o : Outbox) : Outboxes := ⟨s.boxes.set i.index o⟩

def modify (s : Outboxes) (i : OutboxId) (f : Outbox → Outbox) : Outboxes := ⟨s.boxes.modify i.index f⟩

def create (s : Outboxes) (capacity : Nat) : Outboxes × OutboxId :=
  (⟨s.boxes ++ [.create capacity]⟩, ⟨s.boxes.length⟩)

/-- No frame gets through any more. -/
def isClosed (s : Outboxes) (i : OutboxId) : Bool := (s.get? i).all fun o => !o.isOpen

def offer (s : Outboxes) (i : OutboxId) (frame : Bytes) : Except Fault Outboxes :=
  match s.get? i with
  | none => .error .connectionClosed
  | some o => (o.offer frame).map (s.set i)

end Outboxes

/-- The sending side of a session. -/
structure Handle where
  id : SessionId
  outbox : OutboxId
  deriving DecidableEq, Inhabited

end FrameGateway
