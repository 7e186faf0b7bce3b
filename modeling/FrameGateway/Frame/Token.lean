import FrameGateway.Fault
import FrameGateway.SessionId
/-! The routing field after the fixed header: a session token of 4, 8 or 16 little-endian bytes. The three built-in
resolvers stand for all prefix resolvers; one of another width or with other rules is not covered. -/

namespace FrameGateway

/-- How many bytes a session token takes on the wire. -/
inductive TokenFormat where
  | u32 | u64 | uuid
  deriving DecidableEq, Repr

namespace TokenFormat

def width : TokenFormat → Nat
  | u32 => 4
  | u64 => 8
  | uuid => 16

def name : TokenFormat → String
  | u32 => "u32"
  | u64 => "u64"
  | uuid => "uuid"

def debugText : TokenFormat → String
  | u32 => "U32Prefix"
  | u64 => "U64Prefix"
  | uuid => "UuidPrefix"

def maxToken (f : TokenFormat) : Nat := 256 ^ f.width - 1

def fits (f : TokenFormat) (s : SessionId) : Bool := s.val ≤ f.maxToken

/-- The field's bytes; a token that does not fit is refused, never cut. -/
def bytes (f : TokenFormat) (s : SessionId) : Except Fault Bytes :=
  if f.fits s then .ok (leBytes f.width s.val)
  else .error (.serialize s!"session {s.text} does not fit a {f.name} prefix")

/-- The token at `cursor`, and the cursor behind it. -/
def resolve (f : TokenFormat) (data : Bytes) (cursor : Nat) : Except Fault (SessionId × Nat) :=
  if cursor + f.width ≤ data.length then
    .ok (.ofNat (leNat ((data.drop cursor).take f.width)), cursor + f.width)
  else .error .tokenOutOfBounds

end TokenFormat

end FrameGateway
