import FrameGateway.Counters
import FrameGateway.Event
import FrameGateway.Pool
/-! Relaying frames between clients and backends, byte for byte. Only the header and the routing token
of a frame are looked at. A frame from a client goes to all backends, to the backend that it names, or
to the one whose turn it is; a frame from a backend goes to all clients or to the client that it
names. Nothing waits for room: a queue that is full or closed fails its own delivery only. A backend
found closed leaves the pool, and the frame goes to the next one. Backends are always chosen from the shared
pool; other balancer policies are not covered. -/

namespace FrameGateway

structure Relay where
  token : Option TokenFormat
  /-- the latest session of each id -/
  clients : List Handle
  pool : Pool
  boxes : Outboxes
  counters : Counters
  /-- oldest first -/
  events : List Event
  deriving Inhabited

namespace Relay

def create (token : Option TokenFormat) : Relay := ⟨token, [], .empty, .empty, {}, []⟩

def client? (r : Relay) (id : SessionId) : Option Handle := r.clients.find? (·.id == id)

def addClient (r : Relay) (h : Handle) : Relay :=
  { r with clients := r.clients.filter (·.id != h.id) ++ [h] }

/-- Takes a client out; was it there? -/
def removeClient (r : Relay) (id : SessionId) : Relay × Bool :=
  ({ r with clients := r.clients.filter (·.id != id) }, (r.client? id).isSome)

def clearClients (r : Relay) : Relay := { r with clients := [] }

def addBackend (r : Relay) (h : Handle) : Relay × Bool :=
  let (pool, added) := r.pool.add h
  ({ r with pool }, added)

def removeBackend (r : Relay) (id : SessionId) : Relay × Bool :=
  let (pool, removed) := r.pool.remove id
  ({ r with pool }, removed)

/-- Can the queue still be reached through a client or a backend? -/
def holds (r : Relay) (i : OutboxId) : Bool := (r.clients ++ r.pool.members).any (·.outbox == i)

def openQueue (r : Relay) (capacity : Nat) : Relay × OutboxId :=
  let (boxes, i) := r.boxes.create capacity
  ({ r with boxes }, i)

def closeQueue (r : Relay) (i : OutboxId) : Relay := { r with boxes := r.boxes.modify i Outbox.close }

def takeFrames (r : Relay) (i : OutboxId) : Relay × List Bytes :=
  ({ r with boxes := r.boxes.modify i ({ · with frames := [] }) }, ((r.boxes.get? i).map (·.frames)).getD [])

def report (r : Relay) (e : Event) : Relay := { r with events := r.events ++ [e] }

/-- Hands over what has been reported since the last time. -/
def takeEvents (r : Relay) : Relay × List Event := ({ r with events := [] }, r.events)

/-- Counts and reports one delivery that failed. -/
def drop (r : Relay) (source : SessionId) (frame : Bytes) (fault : Fault) : Relay :=
  { r with counters := r.counters.frameDropped }.report (.dropped source frame fault)

/-- Takes a closed backend out of the pool. -/
def prune (r : Relay) (id : SessionId) : Relay :=
  match r.removeBackend id with
  | (r, true) => r.report (.closed id .backend)
  | (r, false) => r

def parse (r : Relay) (frame : Bytes) : Relay × Except Fault FrameView :=
  match parseFrame r.token frame with
  | .ok v => (r, .ok v)
  | .error e => ({ r with counters := r.counters.decodeError }, .error e)

/-- Offers the frame to each target on its own; the number of deliveries. -/
def fanOut (r : Relay) (source : SessionId) (frame : Bytes) : List Handle → Relay × Nat
  | [] => (r, 0)
  | h :: rest =>
    match r.boxes.offer h.outbox frame with
    | .ok boxes =>
      let (r, n) := { r with boxes }.fanOut source frame rest
      (r, n + 1)
    | .error e => (r.drop source frame e).fanOut source frame rest

/-- To the backend whose turn it is; closed ones leave the pool until one is found that is open. -/
def forwardNext (r : Relay) (frame : Bytes) : Relay × Except Fault Nat :=
  match h : r.pool.next? with
  | none => (r, .error .noSessionsAvailable)
  | some (target, pool) =>
    have := Pool.members_of_next? h
    let turned := { r with pool }
    match turned.boxes.offer target.outbox frame with
    | .ok boxes => ({ turned with boxes }, .ok 1)
    | .error .connectionClosed =>
      forwardNext (turned.prune target.id) frame
    | .error e => (turned, .error e)
termination_by r.pool.members.length
decreasing_by
  have hm : target ∈ r.pool.members ∧ pool.members = r.pool.members := this
  have hlt := Pool.length_remove_lt (p := pool) (h := target) (hm.2 ▸ hm.1)
  rw [hm.2] at hlt
  simp only [prune, removeBackend]
  split <;> rename_i heq <;> simp only [Prod.mk.injEq] at heq <;> obtain ⟨rfl, -⟩ := heq <;> exact hlt

/-- To one backend first, and from there on in turns. -/
def forwardTo (r : Relay) (target : Handle) (frame : Bytes) : Relay × Except Fault Nat :=
  match r.boxes.offer target.outbox frame with
  | .ok boxes => ({ r with boxes }, .ok 1)
  | .error .connectionClosed => (r.prune target.id).forwardNext frame
  | .error e => (r, .error e)

def routeFromClient (r : Relay) (source : SessionId) (frame : Bytes) : Relay × Except Fault Nat :=
  match r.parse frame with
  | (r, .error e) => (r, .error e)
  | (r, .ok view) =>
    if view.header.flags.isBroadcast then
      let targets := r.pool.members
      if targets.isEmpty then (r, .error .noSessionsAvailable)
      else
        let (r, n) := r.fanOut source frame targets
        let closed := targets.filter fun h => r.boxes.isClosed h.outbox
        (closed.foldl (fun r h => r.prune h.id) r, .ok n)
    else match (view.token.filter fun _ => view.header.flags.isRedirect).bind r.pool.find? with
      | some target => r.forwardTo target frame
      | none => r.forwardNext frame

def routeFromBackend (r : Relay) (source : SessionId) (frame : Bytes) : Relay × Except Fault Nat :=
  match r.parse frame with
  | (r, .error e) => (r, .error e)
  | (r, .ok view) =>
    if view.header.flags.isBroadcast then
      if r.clients.isEmpty then (r, .error .noSessionsAvailable)
      else
        let (r, n) := r.fanOut source frame r.clients
        (r, .ok n)
    else match view.token with
      | none => (r, .error .noTokenFormat)
      | some token => match r.client? token with
        | none => (r, .error (.unknownSession token.text))
        | some target => match r.boxes.offer target.outbox frame with
          | .ok boxes => ({ r with boxes }, .ok 1)
          | .error e => (r, .error e)

/-- Counts the deliveries of a frame, or counts and reports that it had none. -/
def finish (source : SessionId) (frame : Bytes) : Relay × Except Fault Nat → Relay × Except Fault Nat
  | (r, .ok n) => ({ r with counters := r.counters.relayed n }, .ok n)
  | (r, .error e) => (r.drop source frame e, .error e)

def receive (r : Relay) (frame : Bytes) : Relay :=
  { r with counters := r.counters.frameReceived frame.length }

def fromClient (r : Relay) (source : SessionId) (frame : Bytes) : Relay × Except Fault Nat :=
  finish source frame ((r.receive frame).routeFromClient source frame)

def fromBackend (r : Relay) (source : SessionId) (frame : Bytes) : Relay × Except Fault Nat :=
  finish source frame ((r.receive frame).routeFromBackend source frame)

end Relay

end FrameGateway
