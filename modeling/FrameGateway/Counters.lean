import FrameGateway.Saturating
/-! What a gateway and a coordinator count. All counters are 64-bit words that wrap; the number of
active connections alone stops at zero. -/

namespace FrameGateway

structure Counters where
  connectionsTotal : UInt64 := 0
  connectionsActive : UInt64 := 0
  backendsAttached : UInt64 := 0
  framesReceived : UInt64 := 0
  bytesReceived : UInt64 := 0
  /-- deliveries: a broadcast counts once for each session that it reached -/
  framesRelayed : UInt64 := 0
  framesDropped : UInt64 := 0
  decodeErrors : UInt64 := 0
  loginsAccepted : UInt64 := 0
  loginsRejected : UInt64 := 0
  connectionErrors : UInt64 := 0
  deriving DecidableEq, Inhabited, Repr

namespace Counters

def connectionEstablished (c : Counters) : Counters :=
  { c with connectionsTotal := c.connectionsTotal + 1, connectionsActive := c.connectionsActive + 1 }

def connectionClosed (c : Counters) : Counters :=
  { c with connectionsActive := Saturating.sub c.connectionsActive 1 }

def backendAttached (c : Counters) : Counters := { c with backendsAttached := c.backendsAttached + 1 }

def frameReceived (c : Counters) (bytes : Nat) : Counters :=
  { c with framesReceived := c.framesReceived + 1, bytesReceived := c.bytesReceived + .ofNat bytes }

def relayed (c : Counters) (deliveries : Nat) : Counters :=
  { c with framesRelayed := c.framesRelayed + .ofNat deliveries }

def frameDropped (c : Counters) : Counters := { c with framesDropped := c.framesDropped + 1 }

def decodeError (c : Counters) : Counters := { c with decodeErrors := c.decodeErrors + 1 }

def loginAccepted (c : Counters) : Counters := { c with loginsAccepted := c.loginsAccepted + 1 }

def loginRejected (c : Counters) : Counters := { c with loginsRejected := c.loginsRejected + 1 }

def connectionError (c : Counters) : Counters := { c with connectionErrors := c.connectionErrors + 1 }

def named (c : Counters) : List (String × UInt64) := [
  ("connections_total", c.connectionsTotal), ("connections_active", c.connectionsActive),
  ("backends_attached", c.backendsAttached), ("frames_received", c.framesReceived),
  ("bytes_received", c.bytesReceived), ("frames_relayed", c.framesRelayed),
  ("frames_dropped", c.framesDropped), ("decode_errors", c.decodeErrors),
  ("logins_accepted", c.loginsAccepted), ("logins_rejected", c.loginsRejected),
  ("connection_errors", c.connectionErrors)]

/-- What is counted under a name, for an event of `n` bytes or deliveries. -/
def count (c : Counters) (n : Nat) : String → Counters
  | "connection_established" => c.connectionEstablished
  | "connection_closed" => c.connectionClosed
  | "backend_attached" => c.backendAttached
  | "frame_received" => c.frameReceived n
  | "frames_relayed" => c.relayed n
  | "frame_dropped" => c.frameDropped
  | "decode_error" => c.decodeError
  | "login_accepted" => c.loginAccepted
  | "login_rejected" => c.loginRejected
  | "connection_error" => c.connectionError
  | _ => c

end Counters

end FrameGateway
