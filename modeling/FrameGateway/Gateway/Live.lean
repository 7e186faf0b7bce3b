import FrameGateway.Gateway.Basic
import FrameGateway.Session.Link
/-! A gateway with the streams of its sessions, its clock, and a token that stops it. Between two steps
from outside everything settles: what has arrived is read and relayed, those who are silent for too
long leave, and the writers write all that they can. -/

namespace FrameGateway

structure LiveGateway where
  gateway : Gateway
  links : List (OutboxId × Link)
  /-- milliseconds -/
  clock : Nat
  cancelled : Bool
  /-- a start has succeeded, so the token is heeded -/
  watching : Bool

namespace LiveGateway

def create (config : Config) : LiveGateway := ⟨.create config, [], 0, false, false⟩

def build (config : Config) : Except Overrun LiveGateway :=
  (Gateway.build config).map fun gateway => ⟨gateway, [], 0, false, false⟩

def streamCapacity : Nat := 2 ^ 20

def relay (l : LiveGateway) : Relay := l.gateway.relay

def withRelay (l : LiveGateway) (relay : Relay) : LiveGateway := { l with gateway := { l.gateway with relay } }

def link? (l : LiveGateway) (i : OutboxId) : Option Link := l.links.lookup i

def setLink (l : LiveGateway) (i : OutboxId) (k : Link) : LiveGateway :=
  { l with links := l.links.map fun e => if e.1 = i then (i, k) else e }

def readFrom (l : LiveGateway) (a : Attachment) : LiveGateway :=
  match l.link? a.outbox with
  | none => l
  | some k =>
    if k.inward.held.isEmpty && k.inward.isOpen then l
    else
      let gateway := l.gateway.feed a k.inward.held (!k.inward.isOpen) l.clock
      { l.setLink a.outbox { k with inward := { k.inward with held := [] } } with gateway }

def writeTo (l : LiveGateway) (e : OutboxId × Link) : LiveGateway :=
  match l.relay.boxes.get? e.1 with
  | none => l
  | some box =>
    let k := { e.2 with isRead := l.gateway.attached.any (·.outbox = e.1) }
    let (k, box) := k.settle box (l.relay.holds e.1)
    (l.setLink e.1 k).withRelay { l.relay with boxes := l.relay.boxes.set e.1 box }

/-- Clients that have been silent for too long leave, unless a whole frame of theirs has arrived by now. -/
def expire (l : LiveGateway) : LiveGateway :=
  let l := (l.gateway.due l.clock).foldl readFrom l
  { l with gateway := l.gateway.expire l.clock }

/-- Everything that can go on goes on. Clients whose time is up go first, so that no frame that arrives
now finds them. -/
def settle (l : LiveGateway) : LiveGateway :=
  let l := if l.cancelled && l.watching then { l with gateway := l.gateway.stop } else l
  let l := if l.gateway.closing then { l with gateway := l.gateway.finishAll } else l.expire
  let l := (l.gateway.attached.foldl readFrom l).expire
  l.links.foldl writeTo l

def advance (l : LiveGateway) (millis : Nat) : LiveGateway := { l with clock := l.clock + millis }

/-- A session gets a stream, on which the peer has sent something and perhaps closed its side. -/
def connect (l : LiveGateway) (h : Handle) (sent : Bytes) (closed : Bool) : LiveGateway :=
  let k := Link.create streamCapacity
  let inward := (k.inward.write sent).1
  { l with links := l.links ++ [(h.outbox, { k with inward := if closed then inward.close else inward })] }

def attachClient (l : LiveGateway) (wrapped : Except Fault Unit) (fresh : SessionId) (sent : Bytes)
    (closed : Bool) : LiveGateway × Except Fault Handle :=
  match l.gateway.beginClient with
  | .error e => (l, .error e)
  | .ok g => match wrapped with
    | .error e => ({ l with gateway := g.abandonClient }, .error e)
    | .ok () =>
      let (gateway, h) := g.enterClient fresh l.clock
      ({ l with gateway }.connect h sent closed, .ok h)

def attachBackend (l : LiveGateway) (fresh : SessionId) : LiveGateway × Except Fault Handle :=
  match l.gateway.attachBackend fresh l.clock with
  | (gateway, .error e) => ({ l with gateway }, .error e)
  | (gateway, .ok h) => ({ l with gateway }.connect h [] false, .ok h)

def addWorker (l : LiveGateway) (id : SessionId) (capacity : Nat) :
    LiveGateway × Handle × Except Fault Bool :=
  let (relay, outbox) := l.relay.openQueue capacity
  let h : Handle := ⟨id, outbox⟩
  let (gateway, r) := { l.gateway with relay }.addBackend h
  ({ l with gateway }, h, r)

def removeBackend (l : LiveGateway) (id : SessionId) : LiveGateway × Bool :=
  let (gateway, removed) := l.gateway.removeBackend id
  ({ l with gateway }, removed)

/-- The peer of a session writes. -/
def send (l : LiveGateway) (i : OutboxId) (bytes : Bytes) : LiveGateway × Pipe.Written :=
  match l.link? i with
  | none => (l, .closed)
  | some k =>
    let (inward, w) := k.inward.write bytes
    (l.setLink i { k with inward }, w)

/-- The peer of a session reads all that has arrived: the frames, and whether the stream has ended. -/
def receive (l : LiveGateway) (i : OutboxId) : LiveGateway × FrameStream.Drained × Bool :=
  match l.link? i with
  | none => (l, FrameStream.drain [], true)
  | some k =>
    (l.setLink i { k with outward := { k.outward with held := [] } }, FrameStream.drain k.outward.held,
      !k.outward.isOpen)

/-- The frames that wait for a backend without a stream. -/
def take (l : LiveGateway) (i : OutboxId) : LiveGateway × List Bytes :=
  let (relay, frames) := l.relay.takeFrames i
  (l.withRelay relay, frames)

/-- The peer of a session goes, or the host's side of a backend without a stream. -/
def hangUp (l : LiveGateway) (i : OutboxId) : LiveGateway :=
  match l.link? i with
  | some k => l.setLink i k.hangUp
  | none => l.withRelay (l.relay.closeQueue i)

def bind (l : LiveGateway) : LiveGateway × Except Fault String :=
  let (gateway, r) := l.gateway.finishStart (Endpoint.check l.gateway.server.address)
  ({ l with gateway, watching := l.watching || r.toBool }, r)

def start (l : LiveGateway) : LiveGateway × Except Fault String :=
  match l.gateway.beginStart with
  | (gateway, some r) => ({ l with gateway }, r)
  | (gateway, none) => { l with gateway }.bind

def stop (l : LiveGateway) : LiveGateway := { l with gateway := l.gateway.stop }

def takeEvents (l : LiveGateway) : LiveGateway × List Event :=
  let (relay, events) := l.relay.takeEvents
  (l.withRelay relay, events)

/-- A start begins and another call comes. An address that is a socket address is bound at once; for
any other, the call comes before the outcome is known. -/
def startWith (l : LiveGateway) (call : LiveGateway → LiveGateway × α) :
    LiveGateway × Except Fault String × α :=
  match l.gateway.beginStart with
  | (gateway, some r) =>
    let (l, a) := call { l with gateway }
    (l, r, a)
  | (gateway, none) =>
    if Address.isSocketAddress l.gateway.server.address then
      let (l, r) := { l with gateway }.bind
      let (l, a) := call l
      (l, r, a)
    else
      let (l, a) := call { l with gateway }
      let (l, r) := l.bind
      (l, r, a)

end LiveGateway

end FrameGateway
