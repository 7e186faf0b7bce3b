import FrameGateway.Codec.Packet
import FrameGateway.Frame.Stream
/-! Requests to handlers. A frame is read as whatever its packet id names, handed to the handler of that
id, and answered with the handler's reply under the token of the request. Handlers work on a state of
the host's own. -/

namespace FrameGateway

structure Handler (τ : Type) [MessageFamily τ] (σ : Type) where
  request : τ
  reply : τ
  run : Msg request → σ → σ × Except Fault (Msg reply)

structure Dispatcher (τ : Type) [MessageFamily τ] (σ : Type) where
  codec : Codec τ
  /-- the latest handler of an id comes first -/
  handlers : List (PacketId × Handler τ σ)

namespace Codec

variable {τ : Type} [DecidableEq τ] [MessageFamily τ]

/-- Makes a type readable unless it is already. The table may be shared, so a type can have an id and
still not be readable here. -/
def ensure (c : Codec τ) (m : TypeTable τ) (t : τ) : Attached τ :=
  match (m.id? t).filter c.hasDecoder with
  | some id => ((c, m), .ok id)
  | none => match c.register m t with
    | (cm, .error (.duplicateRegistration _)) => (cm, cm.2.getId t)
    | r => r

end Codec

namespace Dispatcher

variable {τ : Type} [DecidableEq τ] [MessageFamily τ] {σ : Type}

def create (codec : Codec τ) : Dispatcher τ σ := ⟨codec, []⟩

abbrev Registered (τ : Type) [MessageFamily τ] (σ : Type) :=
  (Dispatcher τ σ × TypeTable τ) × Except Fault PacketId

/-- Makes both types of a handler readable, and puts it in the place of the handler before it. -/
def register (d : Dispatcher τ σ) (m : TypeTable τ) (h : Handler τ σ) : Registered τ σ :=
  match d.codec.ensure m h.request with
  | ((c, m), .error e) => (({ d with codec := c }, m), .error e)
  | ((c, m), .ok id) => match c.ensure m h.reply with
    | ((c, m), .error e) => (({ d with codec := c }, m), .error e)
    | ((c, m), .ok _) => ((⟨c, (id, h) :: d.handlers⟩, m), .ok id)

def hasHandler (d : Dispatcher τ σ) (id : PacketId) : Bool := (d.handlers.lookup id).isSome

/-- A reply's frame, under the token of its request. -/
def encodeReply (d : Dispatcher τ σ) (m : TypeTable τ) (t : τ) (msg : Msg t) (token : Option SessionId) :
    Except Fault Bytes :=
  match d.codec.token with
  | some _ => d.codec.encodeRouted m t msg .serverToClient (token.getD .nil)
  | none => d.codec.encode m t msg .serverToClient

def dispatch (d : Dispatcher τ σ) (m : TypeTable τ) (frame : Bytes) (s : σ) : σ × Except Fault Bytes :=
  match d.codec.decodeAny m frame with
  | .error e => (s, .error e)
  | .ok p =>
    match d.handlers.lookup p.header.packetId with
    | none => (s, .error (.unhandledPacket p.header.packetId))
    | some h => match p.downcast h.request with
      | .error other => (s, .error (.deserialize
          s!"handler for {MessageFamily.name h.request} received {other.typeName}"))
      | .ok q =>
        let (s, r) := h.run q.message s
        (s, r.bind fun msg => d.encodeReply m h.reply msg q.token)

/-- What became of a session: the state after it, the replies in order, and the fault that ended it
before its stream did. -/
structure Served (σ : Type) where
  state : σ
  replies : List Bytes
  fault : Option Fault

def Served.result (r : Served σ) : Except Fault Unit := r.fault.elim (.ok ()) .error

/-- How many of the first frames fit into so many bytes. -/
def fitting (room : Nat) : List Bytes → Nat
  | [] => 0
  | frame :: rest => if frame.length ≤ room then fitting (room - frame.length) rest + 1 else 0

/-- Did the session end while its peer had read nothing yet? A fault ends it only once every reply before
it has found a place: in the pipe, in the hands of the writer, or in the queue. -/
def Served.endsUnread (r : Served σ) (pipe queue : Nat) : Bool :=
  r.fault.isSome && r.replies.length ≤ fitting pipe r.replies + 1 + queue

/-- Answers frames one after the other. A fault confined to its frame costs that frame its reply; any
other ends the session. -/
def serve (d : Dispatcher τ σ) (m : TypeTable τ) : List Bytes → σ → Served σ
  | [], s => ⟨s, [], none⟩
  | frame :: rest, s =>
    match d.dispatch m frame s with
    | (s, .ok reply) =>
      let r := d.serve m rest s
      { r with replies := reply :: r.replies }
    | (s, .error e) => if e.isFrameFault then d.serve m rest s else ⟨s, [], some e⟩

def serveStream (d : Dispatcher τ σ) (m : TypeTable τ) (stream : Bytes) (s : σ) : Served σ :=
  let frames := FrameStream.drain stream
  let r := d.serve m frames.frames s
  { r with fault := r.fault <|> frames.fault }

/-- The same, once nothing more comes: bytes left over are a fault. -/
def serveWhole (d : Dispatcher τ σ) (m : TypeTable τ) (stream : Bytes) (s : σ) : Served σ :=
  let r := d.serveStream m stream s
  let left := match FrameStream.finish? (FrameStream.drain stream).rest with
    | .error e => some e
    | .ok _ => none
  { r with fault := r.fault <|> left }

end Dispatcher

end FrameGateway
