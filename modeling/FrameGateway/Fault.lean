import FrameGateway.PacketId
/-! What can go wrong in the frame, routing and cluster layers, and the text each fault shows.
Only faults confined to one frame leave a connection usable (`Fault.isFrameFault`). -/

namespace FrameGateway

inductive TransportKind where
  | invalidInput | notFound | addrInUse | addrNotAvailable | permissionDenied | other
  deriving DecidableEq, Repr

def TransportKind.name : TransportKind → String
  | invalidInput => "InvalidInput"
  | notFound => "NotFound"
  | addrInUse => "AddrInUse"
  | addrNotAvailable => "AddrNotAvailable"
  | permissionDenied => "PermissionDenied"
  | other => "Other"

inductive Fault where
  | transport (kind : TransportKind) (text : String)
  | serialize (reason : String)
  | deserialize (reason : String)
  | duplicateRegistration (name : String)
  | idCollision (id : PacketId) (name existing : String)
  | unregisteredType (name : String)
  | unknownPacketId (id : PacketId)
  | invalidFrame (declared available : Nat)
  | malformedFrame (reason : String)
  | messageTooLarge (size : Nat)
  | unhandledPacket (id : PacketId)
  | typeMismatch (expected actual : PacketId)
  | missingFieldCodec (typeName field : String)
  | noSessionsAvailable
  | unknownSession (session : String)
  | connectionClosed
  | backpressure (reason : String)
  | timeout
  | invalidState (reason : String)
  | handshake (reason : String)
  | config (reason : String)
  | tls (reason : String)
  | custom (text : String)
  deriving DecidableEq, Repr

namespace Fault

def truncatedHeader : Fault := malformedFrame "Frame shorter than fixed header"
def tokenOutOfBounds : Fault := malformedFrame "Routing prefix extends past frame end"
def noTokenFormat : Fault := config "No prefix resolver configured"
def queueFull : Fault := backpressure "Session outbound queue is full"
def connectionLimit : Fault := backpressure "Connection limit reached"
def gatewayStopped : Fault := invalidState "Gateway has been stopped"
def gatewayStarting : Fault := invalidState "Gateway is still starting"
def coordinatorSignature : Fault := handshake "Coordinator response signature is invalid"
def missingNodeId : Fault := handshake "Login response carried no node id"
def coordinatorKey : Fault := handshake "Login response signed by an unexpected coordinator"
/-- Bytes that form no whole frame are left when a stream ends. -/
def bytesRemaining : Fault := transport .other "bytes remaining on stream"

def message : Fault → String
  | transport _ t => s!"I/O error: {t}"
  | serialize t => s!"Serialize error: {t}"
  | deserialize t => s!"Deserialize error: {t}"
  | duplicateRegistration n => s!"Type already registered: {n}"
  | idCollision i n e => s!"Packet id {i.toNat} for {n} already maps to {e}"
  | unregisteredType n => s!"Type not registered: {n}"
  | unknownPacketId i => s!"Unknown packet id: {i.toNat}"
  | invalidFrame d a => s!"Invalid frame: declared {d} bytes, {a} available"
  | malformedFrame t => s!"Malformed frame: {t}"
  | messageTooLarge n => s!"Message too large: {n} bytes"
  | unhandledPacket i => s!"No handler for packet id {i.toNat}"
  | typeMismatch e a => s!"Packet id {a.toNat} does not match expected {e.toNat}"
  | missingFieldCodec t f => s!"No custom serializer for {t}.{f}"
  | noSessionsAvailable => "No sessions available"
  | unknownSession s => s!"Unknown session: {s}"
  | connectionClosed => "Connection closed"
  | backpressure t => s!"Backpressure: {t}"
  | timeout => "Timeout occurred"
  | invalidState t => s!"Invalid state: {t}"
  | handshake t => s!"Handshake failed: {t}"
  | config t => s!"Configuration error: {t}"
  | tls t => s!"TLS error: {t}"
  | custom t => s!"Custom error: {t}"

def kind : Fault → String
  | transport .. => "Io"
  | serialize _ => "SerializeError"
  | deserialize _ => "DeserializeError"
  | duplicateRegistration _ => "DuplicateRegistration"
  | idCollision .. => "IdCollision"
  | unregisteredType _ => "UnregisteredType"
  | unknownPacketId _ => "UnknownPacketId"
  | invalidFrame .. => "InvalidFrame"
  | malformedFrame _ => "MalformedFrame"
  | messageTooLarge _ => "MessageTooLarge"
  | unhandledPacket _ => "UnhandledPacket"
  | typeMismatch .. => "TypeMismatch"
  | missingFieldCodec .. => "MissingFieldCodec"
  | noSessionsAvailable => "NoSessionsAvailable"
  | unknownSession _ => "UnknownSession"
  | connectionClosed => "ConnectionClosed"
  | backpressure _ => "Backpressure"
  | timeout => "Timeout"
  | invalidState _ => "InvalidState"
  | handshake _ => "HandshakeError"
  | config _ => "ConfigError"
  | tls _ => "TlsError"
  | custom _ => "Custom"

inductive Detail where
  | text (s : String)
  | number (n : Nat)
  deriving DecidableEq, Repr

namespace Detail

def asText : Detail → String
  | text s => s
  | number _ => ""

def asNumber : Detail → Nat
  | text _ => 0
  | number n => n

end Detail

/-- The fault of a class with these details, in order; a missing one is empty or zero. -/
def ofKind? (kind : String) (details : List Detail) : Option Fault :=
  let text (i : Nat) := (details[i]?.map Detail.asText).getD ""
  let number (i : Nat) := (details[i]?.map Detail.asNumber).getD 0
  let id (i : Nat) := PacketId.ofNat (number i)
  match kind with
  | "Io" => some (transport .other (text 0))
  | "SerializeError" => some (serialize (text 0))
  | "DeserializeError" => some (deserialize (text 0))
  | "DuplicateRegistration" => some (duplicateRegistration (text 0))
  | "IdCollision" => some (idCollision (id 0) (text 1) (text 2))
  | "UnregisteredType" => some (unregisteredType (text 0))
  | "UnknownPacketId" => some (unknownPacketId (id 0))
  | "InvalidFrame" => some (invalidFrame (number 0) (number 1))
  | "MalformedFrame" => some (malformedFrame (text 0))
  | "MessageTooLarge" => some (messageTooLarge (number 0))
  | "UnhandledPacket" => some (unhandledPacket (id 0))
  | "TypeMismatch" => some (typeMismatch (id 0) (id 1))
  | "MissingFieldCodec" => some (missingFieldCodec (text 0) (text 1))
  | "NoSessionsAvailable" => some noSessionsAvailable
  | "UnknownSession" => some (unknownSession (text 0))
  | "ConnectionClosed" => some connectionClosed
  | "Backpressure" => some (backpressure (text 0))
  | "Timeout" => some timeout
  | "InvalidState" => some (invalidState (text 0))
  | "HandshakeError" => some (handshake (text 0))
  | "ConfigError" => some (config (text 0))
  | "TlsError" => some (tls (text 0))
  | "Custom" => some (custom (text 0))
  | _ => none

/-- Faults that drop one frame and leave the connection usable. -/
def isFrameFault : Fault → Bool
  | invalidFrame .. | malformedFrame _ | unknownPacketId _ | unregisteredType _ | typeMismatch ..
  | deserialize _ | unhandledPacket _ => true
  | _ => false

end Fault

end FrameGateway
