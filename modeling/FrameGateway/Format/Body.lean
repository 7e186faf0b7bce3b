import FrameGateway.Fault
import FrameGateway.Format.Bincode
import FrameGateway.Format.Json
import FrameGateway.Format.MessagePack
/-! The three body formats. -/

namespace FrameGateway

inductive BodyFormat where
  | bincode | messagePack | json
  deriving DecidableEq, Repr

namespace BodyFormat

def default : BodyFormat := bincode

instance : Inhabited BodyFormat := ⟨default⟩

def name : BodyFormat → String
  | bincode => "Bincode"
  | messagePack => "MessagePack"
  | json => "JSON"

def debugText : BodyFormat → String
  | bincode => "Bincode"
  | messagePack => "MessagePack"
  | json => "Json"

def word : BodyFormat → String
  | bincode => "bincode"
  | messagePack => "messagepack"
  | json => "json"

def ofWord? (w : String) : Option BodyFormat := [bincode, messagePack, json].find? (·.word == w)

def encode : BodyFormat → Datum → Bytes
  | bincode, d => Bincode.encode d
  | messagePack, d => MessagePack.encode d
  | json, d => utf8 (Json.encode d)

def decode (f : BodyFormat) (s : Schema) (bs : Bytes) : Except Fault Datum :=
  let d := match f with
    | bincode => Bincode.decode s bs
    | messagePack => MessagePack.decode s bs
    | json => Json.decode s bs
  match d with
  | some d => .ok d
  | none => .error (.deserialize s!"malformed {f.name} data")

end BodyFormat

end FrameGateway
