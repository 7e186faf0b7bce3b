import FrameGateway.Bytes
/-! One direction of a byte stream. A bounded number of bytes waits in it; either side may close it,
after which nothing more can be written and what waits can still be read. -/

namespace FrameGateway

structure Pipe where
  capacity : Nat
  held : Bytes
  isOpen : Bool
  deriving DecidableEq, Inhabited

namespace Pipe

def create (capacity : Nat) : Pipe := ⟨capacity, [], true⟩

def room (p : Pipe) : Nat := p.capacity - p.held.length

def close (p : Pipe) : Pipe := { p with isOpen := false }

inductive Written where
  | written | pending | closed
  deriving DecidableEq, Repr

def Written.name : Written → String
  | written => "written"
  | pending => "pending"
  | closed => "closed"

def write (p : Pipe) (bs : Bytes) : Pipe × Written :=
  if bs.isEmpty then (p, .written)
  else if !p.isOpen then (p, .closed)
  else ({ p with held := p.held ++ bs.take p.room }, if bs.length ≤ p.room then .written else .pending)

inductive Reading where
  | bytes (bs : Bytes)
  | nothing
  | ended
  deriving DecidableEq, Repr

def read (p : Pipe) (n : Nat) : Pipe × Reading :=
  if p.held.isEmpty then (p, if p.isOpen then .nothing else .ended)
  else ({ p with held := p.held.drop n }, .bytes (p.held.take n))

theorem length_of_read_eq_bytes {p p' : Pipe} {n : Nat} {bs : Bytes} (h : p.read n = (p', .bytes bs))
    (hn : 0 < n) : p'.held.length < p.held.length := by
  unfold read at h
  split at h
  · split at h <;> cases h
  · next he =>
    have : 0 < p.held.length := by
      rw [List.length_pos_iff]
      simpa using he
    simp only [Prod.mk.injEq] at h
    rw [← h.1]
    simp only [List.length_drop]
    omega

end Pipe

end FrameGateway
