import FrameGateway.Cluster.Message
import FrameGateway.Duration
import FrameGateway.Fifo
import Std.Data.HashMap
/-! The nonces that were seen lately. A nonce counts for the machine that used it, is forgotten after a
span of time, and the oldest is forgotten early when there is no room left. Readings of the clock are
in nanoseconds. -/

namespace FrameGateway

structure NonceKey where
  machineId : String
  nonce : Nonce
  deriving DecidableEq

instance : Hashable NonceKey := ⟨fun k => mixHash (hash k.machineId) (hash k.nonce.toArray)⟩

structure ReplayCache where
  /-- when each nonce was entered -/
  entries : Std.HashMap NonceKey Nat
  /-- oldest first -/
  order : Fifo NonceKey
  ttl : Duration
  capacity : Nat

namespace ReplayCache

/-- There is room for one nonce at least. -/
def create (ttl : Duration) (capacity : Nat) : ReplayCache := ⟨∅, .empty, ttl, max capacity 1⟩

def default : ReplayCache := create (.ofSeconds 300) 10000

def size (c : ReplayCache) : Nat := c.entries.size

def clear (c : ReplayCache) : ReplayCache := { c with entries := ∅, order := .empty }

def isExpired (c : ReplayCache) (now : Nat) (k : NonceKey) : Bool :=
  match c.entries[k]? with
  | some added => c.ttl.nanos ≤ now - added
  | none => true

/-- Forgets expired nonces from the oldest on, up to the first that is still live. -/
def expire (c : ReplayCache) (now : Nat) : ReplayCache :=
  match h : c.order.pop? with
  | none => c
  | some (k, rest) =>
    if c.isExpired now k then
      have := Fifo.size_of_pop? h
      expire { c with entries := c.entries.erase k, order := rest } now
    else c
termination_by c.order.size

def evict (c : ReplayCache) : Nat → ReplayCache
  | 0 => c
  | n + 1 => match c.order.pop? with
    | none => c
    | some (k, rest) => evict { c with entries := c.entries.erase k, order := rest } n

/-- Has the machine used the nonce lately? If not, it is entered now. -/
def check (c : ReplayCache) (now : Nat) (machineId : String) (nonce : Nonce) : ReplayCache × Bool :=
  let c := c.expire now
  let k : NonceKey := ⟨machineId, nonce⟩
  if c.entries.contains k then (c, true)
  else
    let c := if c.capacity ≤ c.size then c.evict (c.size + 1 - c.capacity) else c
    ({ c with entries := c.entries.insert k now, order := c.order.push k }, false)

end ReplayCache

end FrameGateway
