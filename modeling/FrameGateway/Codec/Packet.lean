import FrameGateway.Codec.Override
import FrameGateway.Format.Body
import FrameGateway.Frame.Header
import FrameGateway.TypeTable
/-! The packet codec: messages to frames and back. The table of packet ids is a value of its own,
so that several codecs can share one. -/

namespace FrameGateway

/-- How message bodies are written, the fields written apart left out. -/
structure BodyCodec (τ : Type) [MessageFamily τ] where
  name : String
  debugText : String
  encode : (t : τ) → Msg t → Except Fault Bytes
  decode : (t : τ) → Bytes → Except Fault (Msg t)

def BodyFormat.codec {τ : Type} [MessageFamily τ] [DataFamily τ] (f : BodyFormat) : BodyCodec τ where
  name := f.name
  debugText := debugRecord "FormatBody" [("format", f.debugText)]
  encode t m := .ok (f.encode (DataFamily.datum t m))
  decode t bs := do
    match DataFamily.ofDatum? t (← f.decode (DataFamily.schema t) bs) with
    | some m => return m
    | none => throw (.deserialize s!"malformed {f.name} data")

/-- A frame read as a message of a type known beforehand. -/
structure Packet (τ : Type) [MessageFamily τ] (t : τ) where
  header : Header
  token : Option SessionId
  message : Msg t

/-- A frame read as a message of whichever type its packet id names. -/
structure DecodedPacket (τ : Type) [MessageFamily τ] where
  header : Header
  token : Option SessionId
  typeName : String
  type : τ
  message : Msg type

def Flags.debugText (f : Flags) : String :=
  let named := [(Flags.serverToClient, "SERVER_TO_CLIENT"), (Flags.broadcast, "BROADCAST"),
    (Flags.redirect, "REDIRECT")]
  let unnamed := f.bits &&& ~~~(7 : UInt32)
  let parts := (named.filter fun (g, _) => f.contains g).map (·.2) ++
    (if unnamed = 0 then [] else ["0x" ++ hexShort unnamed.toNat])
  "PacketFlags(" ++ (if f.bits = 0 then "0x0" else " | ".intercalate parts) ++ ")"

def Header.debugText (h : Header) : String :=
  debugRecord "FrameHeader" [("length", toString h.length.toNat), ("flags", h.flags.debugText),
    ("packet_id", h.packetId.debugText)]

namespace DecodedPacket

variable {τ : Type} [MessageFamily τ]

/-- The packet of a type, if that is the type it was read as, and else the packet as it is. -/
def downcast [DecidableEq τ] (p : DecodedPacket τ) (t : τ) : Except (DecodedPacket τ) (Packet τ t) :=
  if h : p.type = t then .ok ⟨p.header, p.token, h ▸ p.message⟩ else .error p

def debugText (p : DecodedPacket τ) : String :=
  debugOpenRecord "DecodedPacket" [("header", p.header.debugText),
    ("prefix", debugOption SessionId.debugText p.token), ("type_name", debugQuoted p.typeName)]

end DecodedPacket

structure Codec (τ : Type) [MessageFamily τ] where
  body : BodyCodec τ
  token : Option TokenFormat
  overrides : Overrides τ
  /-- the types that frames can be read as without knowing the type beforehand -/
  decoders : List (PacketId × τ)

namespace Codec

variable {τ : Type} [DecidableEq τ] [MessageFamily τ]

def create (body : BodyCodec τ) (token : Option TokenFormat) (overrides : Overrides τ) : Codec τ :=
  ⟨body, token, overrides, []⟩

def hasDecoder (c : Codec τ) (id : PacketId) : Bool := (c.decoders.lookup id).isSome

abbrev Attached (τ : Type) [MessageFamily τ] := (Codec τ × TypeTable τ) × Except Fault PacketId

/-- Makes a type readable: under the id it already has, or else under the requested or derived one. -/
def attach (c : Codec τ) (m : TypeTable τ) (t : τ) (requested : Option PacketId) : Attached τ :=
  let name := MessageFamily.name t
  let decodeAs (m : TypeTable τ) (id : PacketId) : Attached τ :=
    if c.hasDecoder id then ((c, m), .error (.duplicateRegistration name))
    else (({ c with decoders := (id, t) :: c.decoders }, m), .ok id)
  match m.id? t with
  | some existing =>
    match requested.filter (· ≠ existing) with
    | some r => ((c, m), .error (.idCollision r name name))
    | none => decodeAs m existing
  | none =>
    let id := requested.getD (TypeTable.derivedId t)
    match m.insert t id with
    | (m, .ok id) => decodeAs m id
    | (m, .error e) => ((c, m), .error e)

def register (c : Codec τ) (m : TypeTable τ) (t : τ) : Attached τ := c.attach m t none

def registerWithId (c : Codec τ) (m : TypeTable τ) (t : τ) (id : PacketId) : Attached τ :=
  c.attach m t (some id)

def registerAll (c : Codec τ) (m : TypeTable τ) (ts : List τ) : Codec τ × TypeTable τ :=
  ts.foldl (fun (c, m) t => (c.register m t).1) (c, m)

/-- The bytes of the fields written apart, in order. -/
def encodeFields (c : Codec τ) (t : τ) (msg : Msg t) : List String → Except Fault Bytes
  | [] => .ok []
  | field :: rest => do
    let name := MessageFamily.name t
    let some s := c.overrides.find? name (some field) | throw (.missingFieldCodec name field)
    let some v := MessageFamily.field? t msg field | throw (.serialize s!"{name}.{field} is not readable")
    let b ← s.encode (.field v)
    return b ++ (← c.encodeFields t msg rest)

def encodeBody (c : Codec τ) (t : τ) (msg : Msg t) : Except Fault Bytes :=
  match c.overrides.find? (MessageFamily.name t) none with
  | some s => s.encode (.message t msg)
  | none => do
    let fields ← c.encodeFields t msg (MessageFamily.customFields t)
    return fields ++ (← c.body.encode t msg)

/-- A frame from its parts; the length field has 16 bits. -/
def assemble (flags : Flags) (id : PacketId) (rest : Bytes) : Except Fault Bytes :=
  let declared := minDeclared + rest.length
  if declared > maxDeclared then .error (.messageTooLarge (lengthSize + declared))
  else .ok ((Header.mk (.ofNat declared) flags id).bytes ++ rest)

def encodeFrame (c : Codec τ) (m : TypeTable τ) (t : τ) (msg : Msg t) (flags : Flags) (token : SessionId) :
    Except Fault Bytes := do
  let id ← m.getId t
  let routing ← match c.token with
    | some f => f.bytes token
    | none => pure []
  assemble flags id (routing ++ (← c.encodeBody t msg))

/-- A frame with the nil token, if tokens are configured. -/
def encode (c : Codec τ) (m : TypeTable τ) (t : τ) (msg : Msg t) (flags : Flags) : Except Fault Bytes :=
  c.encodeFrame m t msg flags .nil

def encodeRouted (c : Codec τ) (m : TypeTable τ) (t : τ) (msg : Msg t) (flags : Flags) (token : SessionId) :
    Except Fault Bytes :=
  if c.token.isNone then .error .noTokenFormat else c.encodeFrame m t msg flags token

/-- The values of the fields written apart, and the bytes behind them. -/
def decodeFields (c : Codec τ) (t : τ) : List String → Bytes → Except Fault (List (String × Parcel τ) × Bytes)
  | [], bs => .ok ([], bs)
  | field :: rest, bs => do
    let name := MessageFamily.name t
    let some s := c.overrides.find? name (some field) | throw (.missingFieldCodec name field)
    let (v, bs) ← s.decode bs
    let (vs, bs) ← c.decodeFields t rest bs
    return ((field, v) :: vs, bs)

def setFields (t : τ) (msg : Msg t) : List (String × Parcel τ) → Except Fault (Msg t)
  | [] => .ok msg
  | (field, v) :: rest =>
    let set? := match v with
      | .field v => MessageFamily.setField? t msg field v
      | .message .. => none
    match set? with
    | some msg => setFields t msg rest
    | none => .error (.deserialize s!"{MessageFamily.name t}.{field} rejected its decoded value")

def decodeBody (c : Codec τ) (t : τ) (bs : Bytes) : Except Fault (Msg t) :=
  match c.overrides.find? (MessageFamily.name t) none with
  | some s => do
    match (← s.decode bs).1 with
    | .message t' msg =>
      if h : t' = t then return h ▸ msg
      else throw (.deserialize s!"{s.name} override produced a different type")
    | .field _ => throw (.deserialize s!"{s.name} override produced a different type")
  | none => do
    let (fields, bs) ← c.decodeFields t (MessageFamily.customFields t) bs
    setFields t (← c.body.decode t bs) fields

def decodeHeader (c : Codec τ) (frame : Bytes) : Except Fault FrameView := parseFrame c.token frame

def decode (c : Codec τ) (m : TypeTable τ) (t : τ) (frame : Bytes) : Except Fault (Packet τ t) := do
  let view ← c.decodeHeader frame
  let expected ← m.getId t
  let actual := view.header.packetId
  if actual ≠ expected then
    throw (if m.containsId actual then .typeMismatch expected actual else .unknownPacketId actual)
  return ⟨view.header, view.token, ← c.decodeBody t view.body⟩

def decodeAny (c : Codec τ) (m : TypeTable τ) (frame : Bytes) : Except Fault (DecodedPacket τ) := do
  let view ← c.decodeHeader frame
  let id := view.header.packetId
  let some t := c.decoders.lookup id | throw (.unknownPacketId id)
  let entry ← m.getType id
  return ⟨view.header, view.token, entry.name, t, ← c.decodeBody t view.body⟩

def overhead (c : Codec τ) : Nat := headerSize + (c.token.map (·.width)).getD 0

def debugText (c : Codec τ) (m : TypeTable τ) : String :=
  debugRecord "PacketCodec" [("body", c.body.debugText), ("registered", toString m.size),
    ("overrides", c.overrides.debugText), ("prefix", debugOption TokenFormat.debugText c.token)]

end Codec

end FrameGateway
