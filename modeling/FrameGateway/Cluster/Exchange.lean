import FrameGateway.Cluster.Node
import FrameGateway.Cluster.Service
import FrameGateway.Cluster.Signing
import FrameGateway.Duration
import FrameGateway.Net.Endpoint
/-! One login over a stream: a frame goes out, one frame is waited for, and what it holds is taken as
the coordinator's answer. -/

namespace FrameGateway

/-- What a peer sends back, all of it at once, and whether its side is closed then. -/
structure PeerAnswer where
  bytes : Bytes
  closes : Bool

/-- The first frame of an answer. Where there is no time to wait, no answer comes in time. -/
def PeerAnswer.frame (a : PeerAnswer) (wait : Duration) : Except Fault Bytes :=
  if wait.timer = 0 then .error .timeout
  else match (if a.closes then FrameStream.finish? a.bytes else FrameStream.next? a.bytes) with
    | .error e => .error e
    | .ok (some (frame, _)) => .ok frame
    | .ok none => .error (if a.closes then .connectionClosed else .timeout)

/-- What a coordinator that serves a stream with that codec sends back; it hangs up on a fault. -/
def ClockedCoordinator.answer {α : Type} [DecidableEq α] [MessageFamily α] (c : ClockedCoordinator)
    (codec : Codec (WithCluster α)) (sent : Bytes) : PeerAnswer :=
  let ((dispatcher, m), _) := install (.create codec) .empty
  let r := dispatcher.serveStream m sent c
  ⟨r.replies.flatten, r.fault.isSome⟩

/-- The frame of a ready response, signed under these keys: for the nonce given, or else for that of the
request received. -/
def Codec.signedReply {α : Type} [DecidableEq α] [MessageFamily α] (codec : Codec (WithCluster α))
    (m : TypeTable (WithCluster α)) (sent : Bytes) (response : LoginResponse) (keys : KeyPair)
    (nonce : Option Nonce) : Except Fault Bytes := do
  let request : LoginRequest := (← codec.decode m (.inl .loginRequest) sent).message
  let response := { response with publicKey := keys.publicKey }
  codec.encode m (.inl .loginResponse) (response.signed keys (nonce.getD request.nonce)) .serverToClient

namespace ClusterNode

/-- Logs in at an address, which is checked before anything is sent. There is no network here, so nobody
is met at a good one. -/
def join (n : ClusterNode) (address : String) : ClusterNode × Except Fault LoginOutcome :=
  (n, (Endpoint.check address).bind fun _ => .error .connectionClosed)

variable {α : Type} [DecidableEq α] [MessageFamily α]

def exchange (n : ClusterNode) (codec : Codec (WithCluster α)) (m : TypeTable (WithCluster α))
    (request : LoginRequest) (wait : Duration) (peer : Bytes → PeerAnswer) :
    ClusterNode × Except Fault LoginOutcome :=
  let response : Except Fault LoginResponse := do
    let sent ← FrameStream.encode (← codec.encode m (.inl .loginRequest) request .none)
    let reply ← (peer sent).frame wait
    return (← codec.decode m (.inl .loginResponse) reply).message
  match response with
  | .error e => (n, .error e)
  | .ok response => n.accept request response

end ClusterNode

end FrameGateway
