/-! Spans of time in nanoseconds, with at most `2 ^ 64 - 1` whole seconds. -/

namespace FrameGateway

def second : Nat := 1000000000

structure Duration where
  nanos : Nat
  bounded : nanos < 2 ^ 64 * second
  deriving DecidableEq, Repr

namespace Duration

/-- The largest span if `n` is past it. -/
def ofNanos (n : Nat) : Duration :=
  if h : n < 2 ^ 64 * second then ⟨n, h⟩ else ⟨2 ^ 64 * second - 1, by decide⟩

def ofMillis (n : Nat) : Duration := ofNanos (1000000 * n)

def ofSeconds (n : Nat) : Duration := ofNanos (second * n)

instance : Inhabited Duration := ⟨ofNanos 0⟩

def millis (d : Duration) : Nat := d.nanos / 1000000

/-- Whole milliseconds in a 64-bit word, higher bits dropped. -/
def millisWord (d : Duration) : UInt64 := .ofNat d.millis

def seconds (d : Duration) : Nat := d.nanos / second

def twice? (d : Duration) : Option Duration :=
  if h : 2 * d.nanos < 2 ^ 64 * second then some ⟨2 * d.nanos, h⟩ else none

/-- Thirty years, for spans that reach past the end of the clock. -/
def farFuture : Nat := 86400 * 365 * 30 * 1000

/-- After how many milliseconds a timer set to the span fires. -/
def timer (d : Duration) : Nat :=
  if d.seconds < 2 ^ 62 then (d.nanos + 999999) / 1000000 else farFuture

end Duration

end FrameGateway
