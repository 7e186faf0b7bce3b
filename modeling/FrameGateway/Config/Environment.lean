import FrameGateway.Config.Settings
/-! A configuration from single texts under keys, as an environment holds them. A key without a text
leaves its setting at the default; the first text that cannot be read is a fault. -/

namespace FrameGateway

abbrev Lookup := String → Option String

namespace Lookup

def bad (key value : String) : Fault := .config s!"Invalid {key} value: '{value}'"

def read (l : Lookup) (key : String) (f : String → Option α) (default : α) : Except Fault α :=
  match l key with
  | none => .ok default
  | some v => match f v with
    | some a => .ok a
    | none => .error (bad key v)

def word? (v : String) : Option UInt64 := (natural? (2 ^ 64) (trimBlanks v)).map .ofNat

def millis? (v : String) : Option Duration := (natural? (2 ^ 64) (trimBlanks v)).map .ofMillis

def bool? (v : String) : Option Bool := match trimBlanks v with
  | "true" => some true
  | "false" => some false
  | _ => none

/-- A keyword in any case, with blanks around it. -/
def keyword? (f : String → Option α) (v : String) : Option α := f (asciiLower (trimBlanks v))

end Lookup

namespace Config

open Lookup in
def ofLookup (l : Lookup) : Except Fault Config := do
  let d : Config := {}
  let address ← l.read "SERVER_ADDRESS" some d.server.address
  let maxConnections ← l.read "MAX_CONNECTIONS" word? d.server.maxConnections
  let queueCapacity ← l.read "SESSION_QUEUE_CAPACITY" word? d.server.queueCapacity
  let idleTimeout ← l.read "IDLE_TIMEOUT_MS" millis? d.server.idleTimeout
  let shutdownTimeout ← l.read "SHUTDOWN_TIMEOUT_MS" millis? d.server.shutdownTimeout
  let bodyFormat ← l.read "BODY_FORMAT" (keyword? BodyFormat.ofWord?) d.codec.bodyFormat
  let token ← l.read "PREFIX" (keyword? TokenFormat.ofWord?) d.codec.token
  let coordinatorAddress ← l.read "COORDINATOR_ADDRESS" some d.cluster.coordinatorAddress
  let loginTimeout ← l.read "LOGIN_TIMEOUT_MS" millis? d.cluster.loginTimeout
  let maxNodes ← l.read "MAX_NODES" word? d.cluster.maxNodes
  let timestampWindow ← l.read "TIMESTAMP_WINDOW_MS" millis? d.cluster.timestampWindow
  let level ← l.read "LOG_LEVEL" LogLevel.ofText? d.logging.level
  let json ← l.read "LOG_JSON" bool? d.logging.json
  return {
    server := { d.server with address, maxConnections, queueCapacity, idleTimeout, shutdownTimeout }
    codec := { bodyFormat, token }
    cluster := { d.cluster with coordinatorAddress, loginTimeout, maxNodes, timestampWindow }
    logging := { d.logging with level, json } }

def environmentMark : String := "PACKET_GATEWAY_"

def ofEnvironment (vars : Lookup) : Except Fault Config := ofLookup fun key => vars (environmentMark ++ key)

end Config

end FrameGateway
