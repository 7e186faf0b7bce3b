/-! Counts that a gateway cannot exceed. A counter of permits keeps three bits of its word for itself, and
making one that is to hold more permits than are left aborts. -/

namespace FrameGateway

/-- A computation aborts: it needs more than there can be. -/
structure Overrun where
  deriving DecidableEq, Repr

def maxPermits : Nat := (2 ^ 64 - 1) >>> 3

def permits (count : Nat) : Except Overrun Nat := if count ≤ maxPermits then .ok count else .error {}

end FrameGateway
