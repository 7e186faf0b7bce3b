import FrameGateway.Config.Settings
import FrameGateway.Net.Endpoint
import FrameGateway.Relay
/-! The gateway: its life cycle, the sessions attached to it, and what happens to each of them. Whatever
has to wait, for an address to be bound or for a connection to be wrapped, is split there in two steps,
between which any other step may come. Times are in milliseconds. -/

namespace FrameGateway

inductive Phase where
  | uninitialized | initializing | running | stopped
  deriving DecidableEq, Repr

def Phase.name : Phase → String
  | uninitialized => "Uninitialized"
  | initializing => "Initializing"
  | running => "Running"
  | stopped => "Stopped"

structure Attachment where
  id : SessionId
  role : Role
  outbox : OutboxId
  /-- what has arrived of a frame that is not whole yet -/
  unread : Bytes
  /-- when a client has been silent for too long -/
  deadline : Nat
  deriving DecidableEq

def Attachment.handle (a : Attachment) : Handle := ⟨a.id, a.outbox⟩

structure Gateway where
  server : ServerConfig
  relay : Relay
  phase : Phase
  address : Option String
  /-- all reading is to end -/
  closing : Bool
  /-- connections that may still come -/
  permits : Nat
  /-- counts the session ids given out in turn -/
  counter : UInt64
  attached : List Attachment

namespace Gateway

def create (config : Config) : Gateway where
  server := config.server
  relay := .create config.codec.token
  phase := .uninitialized
  address := none
  closing := false
  permits := config.server.maxConnections.toNat
  counter := 0
  attached := []

/-- A new gateway, if there can be a permit for each of its connections. -/
def build (config : Config) : Except Overrun Gateway :=
  (FrameGateway.permits config.server.maxConnections.toNat).map fun permits => { create config with permits }

/-! ### Life cycle -/

/-- Begins to start: the outcome, if it is known already, or else the address is to be bound. -/
def beginStart (g : Gateway) : Gateway × Option (Except Fault String) :=
  match g.phase with
  | .running => (g, some (g.address.elim (.error .gatewayStarting) .ok))
  | .initializing => (g, some (.error .gatewayStarting))
  | .stopped => (g, some (.error .gatewayStopped))
  | .uninitialized => ({ g with phase := .initializing }, none)

/-- The address has been bound, or not. -/
def finishStart (g : Gateway) : Except Fault String → Gateway × Except Fault String
  | .error e => ({ g with phase := .uninitialized }, .error e)
  | .ok address =>
    let g := { g with address := some address }
    if g.phase = .stopped then (g, .error .gatewayStopped) else ({ g with phase := .running }, .ok address)

inductive StopCall where
  | cancel | clearPool | clearClients
  deriving DecidableEq

def performStop (g : Gateway) : StopCall → Gateway
  | .cancel => { g with closing := true }
  | .clearPool => { g with relay := { g.relay with pool := g.relay.pool.clear.1 } }
  | .clearClients => { g with relay := g.relay.clearClients }

def stopCalls : List StopCall := [.cancel, .clearPool, .clearClients]

/-- Stops for good: nothing is read any more, and no session can be reached. -/
def stop (g : Gateway) : Gateway :=
  if g.phase = .stopped then g else stopCalls.foldl performStop { g with phase := .stopped }

theorem stop_eq (g : Gateway) : g.stop = if g.phase = .stopped then g
    else { g with phase := .stopped, closing := true
                  relay := { g.relay.clearClients with pool := g.relay.pool.clear.1 } } := rfl

def ensureNotStopped (g : Gateway) : Except Fault Unit :=
  if g.phase = .stopped then .error .gatewayStopped else .ok ()

/-! ### Session ids -/

/-- The id that a count stands for, never the nil token. -/
def numbered (most : Nat) (count : UInt64) : SessionId := .ofNat (count.toNat % most + 1)

/-- The next id in turn that no client has, out of so many. -/
def nextFree (g : Gateway) (most : Nat) : Nat → Gateway × SessionId
  | 0 => (g, numbered most g.counter)
  | tries + 1 =>
    let id := numbered most g.counter
    let g := { g with counter := g.counter + 1 }
    if (g.relay.client? id).isNone then (g, id) else g.nextFree most tries

/-- A session id that fits the routing token. Narrow tokens take turns; for wide ones, and without any,
`fresh` is used, which is drawn at random. -/
def allocate (g : Gateway) (fresh : SessionId) : Gateway × SessionId :=
  match (g.relay.token.map (·.maxToken)).filter (· < 2 ^ 128 - 1) with
  | some most => g.nextFree most (g.relay.clients.length + 2)
  | none => (g, fresh)

def openSession (g : Gateway) (fresh : SessionId) : Gateway × Handle :=
  let (g, id) := g.allocate fresh
  let (boxes, outbox) := g.relay.boxes.create g.server.queueCapacity.toNat
  ({ g with relay := { g.relay with boxes } }, ⟨id, outbox⟩)

def attach (g : Gateway) (h : Handle) (role : Role) (now : Nat) : Gateway :=
  { g with attached := g.attached ++ [⟨h.id, role, h.outbox, [], now + g.server.idleTimeout.timer⟩] }

def withCounters (g : Gateway) (f : Counters → Counters) : Gateway :=
  { g with relay := { g.relay with counters := f g.relay.counters } }

/-! ### The task of a session

The task of a session makes its calls one after the other, and waits only before the first and after the last of
them. Other tasks may make theirs in between. -/

/-- A call that the task of a session makes for this session. -/
inductive Call where
  | addClient
  | countClient
  | reportBound
  | addBackend
  | countBackend
  /-- the loop starts that reads the session -/
  | read (role : Role) (now : Nat)
  | removeClient
  | uncountClient
  | removeBackend
  | reportClosed (role : Role)
  | freePermit
  deriving DecidableEq

def perform (g : Gateway) (h : Handle) : Call → Gateway
  | .addClient => { g with relay := g.relay.addClient h }
  | .countClient => g.withCounters Counters.connectionEstablished
  | .reportBound => { g with relay := g.relay.report (.bound h.id g.relay.pool.size) }
  | .addBackend => { g with relay := (g.relay.addBackend h).1 }
  | .countBackend => g.withCounters Counters.backendAttached
  | .read role now => g.attach h role now
  | .removeClient => { g with relay := (g.relay.removeClient h.id).1 }
  | .uncountClient => g.withCounters Counters.connectionClosed
  | .removeBackend => { g with relay := (g.relay.removeBackend h.id).1 }
  | .reportClosed role => { g with relay := g.relay.report (.closed h.id role) }
  | .freePermit => { g with permits := g.permits + 1 }

def performAll (g : Gateway) (h : Handle) (calls : List Call) : Gateway := calls.foldl (·.perform h) g

/-- What is to do when the stream of a session has been opened. -/
def startCalls (now : Nat) : Role → List Call
  | .client => [.addClient, .countClient, .reportBound, .read .client now]
  | .backend => [.addBackend, .countBackend, .read .backend now]

/-- What is left to do when the loop of a session has ended. -/
def endCalls : Role → List Call
  | .client => [.removeClient, .uncountClient, .reportClosed .client, .freePermit]
  | .backend => [.removeBackend, .reportClosed .backend]

/-! ### Clients -/

/-- A client connects: there has to be a permit for it. -/
def beginClient (g : Gateway) : Except Fault Gateway := do
  g.ensureNotStopped
  if g.permits = 0 then throw .connectionLimit
  return { g with permits := g.permits - 1 }

/-- The connection could not be wrapped, and its permit is free again. -/
def abandonClient (g : Gateway) : Gateway := { g with permits := g.permits + 1 }

/-- The connection has been wrapped, and the client becomes a session. Between the search for its id and its entry
in the table of clients nothing waits; two threads that are in there at once are not covered. -/
def enterClient (g : Gateway) (fresh : SessionId) (now : Nat) : Gateway × Handle :=
  let (g, h) := g.openSession fresh
  (g.performAll h (startCalls now .client), h)

/-! ### Backends -/

def attachBackend (g : Gateway) (fresh : SessionId) (now : Nat) : Gateway × Except Fault Handle :=
  match g.ensureNotStopped with
  | .error e => (g, .error e)
  | .ok () =>
    let (g, h) := g.openSession fresh
    (g.performAll h (startCalls now .backend), .ok h)

/-- A backend that only receives joins the pool, unless its id is there already. -/
def addBackend (g : Gateway) (h : Handle) : Gateway × Except Fault Bool :=
  match g.ensureNotStopped with
  | .error e => (g, .error e)
  | .ok () =>
    let (relay, added) := g.relay.addBackend h
    let g := { g with relay }
    (if added then g.withCounters Counters.backendAttached else g, .ok added)

def removeBackend (g : Gateway) (id : SessionId) : Gateway × Bool :=
  let (relay, removed) := g.relay.removeBackend id
  ({ g with relay }, removed)

/-! ### Streams -/

/-- The loop of a session ends. -/
def leave (g : Gateway) (a : Attachment) : Gateway :=
  { g with attached := g.attached.filter (·.outbox != a.outbox) }

/-- The loop of a session ends, and its task does what is left. -/
def finish (g : Gateway) (a : Attachment) : Gateway :=
  (g.leave a).performAll a.handle (endCalls a.role)

def relayFrame (g : Gateway) (a : Attachment) (frame : Bytes) : Gateway :=
  { g with relay := match a.role with
    | .client => (g.relay.fromClient a.id frame).1
    | .backend => (g.relay.fromBackend a.id frame).1 }

/-- Bytes arrive from a session, and perhaps the end of its stream. Each whole frame is relayed; does the loop end
with this? A fault of the stream ends it, since nothing behind it can be made out. -/
def receive (g : Gateway) (a : Attachment) (bytes : Bytes) (ended : Bool) (now : Nat) : Gateway × Bool :=
  let d := FrameStream.drain (a.unread ++ bytes)
  let g := d.frames.foldl (fun g frame => g.relayFrame a frame) g
  let fault := match d.fault with
    | some _ => true
    | none => ended && !d.rest.isEmpty
  if fault then (g.withCounters Counters.decodeError, true)
  else if ended then (g, true)
  else
    let deadline := if d.frames.isEmpty then a.deadline else now + g.server.idleTimeout.timer
    ({ g with attached := g.attached.map fun b =>
        if b.outbox = a.outbox then { b with unread := d.rest, deadline } else b }, false)

def feed (g : Gateway) (a : Attachment) (bytes : Bytes) (ended : Bool) (now : Nat) : Gateway :=
  let (g, isOver) := g.receive a bytes ended now
  if isOver then g.finish a else g

def due (g : Gateway) (now : Nat) : List Attachment :=
  g.attached.filter fun a => a.role = .client && a.deadline ≤ now

def expire (g : Gateway) (now : Nat) : Gateway := (g.due now).foldl finish g

def finishAll (g : Gateway) : Gateway := g.attached.foldl finish g

end Gateway

end FrameGateway
