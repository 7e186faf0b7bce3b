import FrameGateway.Cluster.Message
import FrameGateway.Signature.Ed25519
/-! Signing what nodes and coordinators send each other. -/

namespace FrameGateway

def LoginRequest.signed (r : LoginRequest) (keys : KeyPair) : LoginRequest :=
  { r with signature := keys.sign r.payload }

/-- The response with a signature under these keys, for a request with that nonce. -/
def LoginResponse.signed (r : LoginResponse) (keys : KeyPair) (nonce : Nonce) : LoginResponse :=
  { r with signature := keys.sign (r.payload nonce) }

end FrameGateway
