/-! The flag word of a frame. Three bits have a meaning; all 32 travel unchanged. -/

namespace FrameGateway

inductive Direction where
  | clientToServer | serverToClient
  deriving DecidableEq, Repr

def Direction.name : Direction → String
  | clientToServer => "ClientToServer"
  | serverToClient => "ServerToClient"

structure Flags where
  bits : UInt32
  deriving DecidableEq, Inhabited, Repr

namespace Flags

def none : Flags := ⟨0⟩
def serverToClient : Flags := ⟨1⟩
def broadcast : Flags := ⟨2⟩
def redirect : Flags := ⟨4⟩

def contains (f g : Flags) : Bool := f.bits &&& g.bits == g.bits

def direction (f : Flags) : Direction :=
  if f.contains serverToClient then .serverToClient else .clientToServer

def isBroadcast (f : Flags) : Bool := f.contains broadcast

def isRedirect (f : Flags) : Bool := f.contains redirect

end Flags

end FrameGateway
