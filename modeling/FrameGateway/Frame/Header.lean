import FrameGateway.Frame.Flags
import FrameGateway.Frame.Token
/-! The frame layout: length (2 bytes, counting what follows it), flags (4), packet id (2), then
an optional routing token and the body. All numbers are little-endian. -/

namespace FrameGateway

def lengthSize : Nat := 2
def headerSize : Nat := 8
/-- A length field counts at least the flags and the packet id. -/
def minDeclared : Nat := 6
def maxDeclared : Nat := 65535

structure Header where
  length : UInt16
  flags : Flags
  packetId : PacketId
  deriving DecidableEq, Inhabited, Repr

namespace Header

def frameSize (h : Header) : Nat := lengthSize + h.length.toNat

def bytes (h : Header) : Bytes :=
  leBytes 2 h.length.toNat ++ leBytes 4 h.flags.bits.toNat ++ leBytes 2 h.packetId.toNat

/-- Reads the header of one whole frame: the length field has to agree with the frame's size. -/
def parse (frame : Bytes) : Except Fault Header :=
  match frame with
  | l0 :: l1 :: rest =>
    let declared := leNat [l0, l1]
    let available := rest.length
    if declared ≠ available then .error (.invalidFrame declared available)
    else match rest with
      | f0 :: f1 :: f2 :: f3 :: p0 :: p1 :: _ =>
        .ok ⟨.ofNat declared, ⟨.ofNat (leNat [f0, f1, f2, f3])⟩, .ofNat (leNat [p0, p1])⟩
      | _ => .error .truncatedHeader
  | _ => .error .truncatedHeader

end Header

structure FrameView where
  header : Header
  token : Option SessionId
  body : Bytes
  deriving DecidableEq, Inhabited

/-- Takes a frame apart; the token is read only where a format says how wide it is. -/
def parseFrame (format : Option TokenFormat) (frame : Bytes) : Except Fault FrameView := do
  let header ← Header.parse frame
  match format with
  | none => return ⟨header, none, frame.drop headerSize⟩
  | some f =>
    let (token, cursor) ← f.resolve frame headerSize
    return ⟨header, some token, frame.drop cursor⟩

end FrameGateway
