import FrameGateway.Bytes
/-! Text as UTF-8 bytes. -/

namespace FrameGateway

def utf8 (s : String) : Bytes := s.toUTF8.toList

def utf8? (bs : Bytes) : Option String := String.fromUTF8? ⟨bs.toArray⟩

/-- How many bytes the character starting with this byte takes. -/
def utf8Width (b : UInt8) : Option Nat :=
  if b < 0x80 then some 1
  else if 0xC2 ≤ b && b < 0xE0 then some 2
  else if 0xE0 ≤ b && b < 0xF0 then some 3
  else if 0xF0 ≤ b && b < 0xF5 then some 4
  else none

end FrameGateway
