import FrameGateway.Frame.Header
/-! What a gateway reports about its sessions and frames. -/

namespace FrameGateway

inductive Role where
  | client | backend
  deriving DecidableEq, Repr

def Role.name : Role → String
  | client => "Client"
  | backend => "Backend"

inductive Event where
  /-- the pool, with so many backends, now serves a client -/
  | bound (session : SessionId) (backends : Nat)
  /-- a frame from `source` was not delivered; for a broadcast, not to one of its targets -/
  | dropped (source : SessionId) (frame : Bytes) (fault : Fault)
  | closed (session : SessionId) (role : Role)
  deriving DecidableEq

end FrameGateway
