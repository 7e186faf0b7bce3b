import FrameGateway.Record
import FrameGateway.Config.Environment
import FrameGateway.Config.File
import FrameGateway.Session.Live
import FrameGateway.Tls.Credentials
import FrameGateway.Waiting
import FrameGateway.Cluster.Group
import FrameGateway.Cluster.Exchange
import FrameGateway.Gateway.Live
import FrameGateway.Proofs.Cluster.Acceptance
import FrameGateway.Proofs.Cluster.Agreement
import FrameGateway.Proofs.Cluster.Answer
import FrameGateway.Proofs.Cluster.Calls
import FrameGateway.Proofs.Cluster.Impostor
import FrameGateway.Proofs.Cluster.Likeness
import FrameGateway.Proofs.Cluster.Lookup
import FrameGateway.Proofs.Cluster.Replies
import FrameGateway.Proofs.Cluster.Staleness
import FrameGateway.Proofs.Codec.AnyOrder
import FrameGateway.Proofs.Codec.RoundTrip
import FrameGateway.Proofs.Config.Keys
import FrameGateway.Proofs.Config.Readiness
import FrameGateway.Proofs.Config.Saved
import FrameGateway.Proofs.Dispatcher.Serving
import FrameGateway.Proofs.Dispatcher.Succession
import FrameGateway.Proofs.Frame.Chunks
import FrameGateway.Proofs.Frame.Grammar
import FrameGateway.Proofs.Gateway.Backends
import FrameGateway.Proofs.Gateway.Departures
import FrameGateway.Proofs.Gateway.Ids
import FrameGateway.Proofs.Gateway.Notices
import FrameGateway.Proofs.Gateway.Shutdown
import FrameGateway.Proofs.Pool.Fairness
import FrameGateway.Proofs.Relay.Request
import FrameGateway.Proofs.Session.Arrival
