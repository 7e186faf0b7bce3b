import FrameGateway.Digest.Sha256
import FrameGateway.Text.Hex
/-! Packet ids. A message type's id comes from its name alone, so peers agree on ids without
talking to each other. -/

namespace FrameGateway

structure PacketId where
  val : UInt16
  deriving DecidableEq, Hashable, Inhabited, Repr

namespace PacketId

/-- The largest prime below `2 ^ 16`; name-derived ids stay below it. -/
def modulus : Nat := 65521

def ofNat (n : Nat) : PacketId := ⟨UInt16.ofNat n⟩

def toNat (p : PacketId) : Nat := p.val.toNat

/-- The first eight bytes of the name's digest, as a little-endian number modulo `modulus`. -/
def ofName (name : String) : PacketId :=
  ofNat (leNat ((sha256 name.toUTF8.toList).take 8) % modulus)

def text (p : PacketId) : String := "0x" ++ hexText 4 p.toNat

def debugText (p : PacketId) : String := s!"PacketId({p.toNat})"

end PacketId

end FrameGateway
