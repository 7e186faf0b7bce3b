import FrameGateway.Duration
import FrameGateway.Fault
import FrameGateway.Format.Body
import FrameGateway.Frame.Token
import FrameGateway.Net.Address
import FrameGateway.Permits
/-! The configuration of a gateway and of a cluster's coordinator, its defaults and its checks. -/

namespace FrameGateway

inductive LogLevel where
  | trace | debug | info | warn | error
  deriving DecidableEq, Repr

namespace LogLevel

def all : List LogLevel := [error, warn, info, debug, trace]

def word : LogLevel → String
  | trace => "trace"
  | debug => "debug"
  | info => "info"
  | warn => "warn"
  | error => "error"

/-- A level by its word in any case, or by its number from 1 for errors to 5. -/
def ofText? (s : String) : Option LogLevel :=
  match natural? (2 ^ 64) s with
  | some 0 => none
  | some (n + 1) => all[n]?
  | none => all.find? fun l => l.word == asciiLower s

end LogLevel

namespace TokenFormat

def word : Option TokenFormat → String
  | none => "none"
  | some f => f.name

def ofWord? (w : String) : Option (Option TokenFormat) :=
  [none, some u32, some u64, some uuid].find? (word · == w)

def settingText : Option TokenFormat → String
  | none => "None"
  | some u32 => "U32"
  | some u64 => "U64"
  | some uuid => "Uuid"

end TokenFormat

structure ServerConfig where
  address : String := "127.0.0.1:7100"
  maxConnections : UInt64 := 10000
  /-- frames that may wait for one session -/
  queueCapacity : UInt64 := 256
  idleTimeout : Duration := .ofSeconds 300
  shutdownTimeout : Duration := .ofSeconds 10
  connectTimeout : Duration := .ofSeconds 5
  deriving DecidableEq, Inhabited

structure CodecConfig where
  bodyFormat : BodyFormat := .default
  token : Option TokenFormat := none
  deriving DecidableEq, Inhabited

structure ClusterConfig where
  coordinatorAddress : String := "127.0.0.1:7200"
  loginTimeout : Duration := .ofSeconds 10
  maxNodes : UInt64 := 4096
  /-- how far a login's timestamp may lie behind the clock -/
  timestampWindow : Duration := .ofSeconds 30
  replayTtl : Duration := .ofSeconds 300
  replayCapacity : UInt64 := 10000
  deriving DecidableEq, Inhabited

structure LoggingConfig where
  appName : String := "packet-gateway"
  level : LogLevel := .info
  json : Bool := false
  deriving DecidableEq, Inhabited

instance : Inhabited LogLevel := ⟨.info⟩

structure Config where
  server : ServerConfig := {}
  codec : CodecConfig := {}
  cluster : ClusterConfig := {}
  logging : LoggingConfig := {}
  deriving DecidableEq, Inhabited

inductive Problem where
  | emptyAddress
  | badAddress (address : String)
  | noConnections
  | noQueue
  | hugeQueue (capacity : UInt64)
  | shortIdle
  | longShutdown
  | shortConnect
  | badCoordinator (address : String)
  | noLoginTime
  | noNodes
  | noWindow
  | shortReplay (ttl window : Nat)
  | noReplayCapacity
  | emptyName
  | longName (bytes : Nat)
  deriving DecidableEq, Repr

def Problem.message : Problem → String
  | emptyAddress => "Server address cannot be empty"
  | badAddress a => s!"Invalid server address format: '{a}' (expected format: '0.0.0.0:7100')"
  | noConnections => "Max connections must be greater than 0"
  | noQueue => "Session queue capacity must be greater than 0"
  | hugeQueue c => s!"Session queue capacity too large: {c} (max recommended: 1,000,000)"
  | shortIdle => "Idle timeout too short (minimum: 100ms)"
  | longShutdown => "Shutdown timeout too long (maximum: 60s)"
  | shortConnect => "Connect timeout too short (minimum: 10ms)"
  | badCoordinator a => s!"Invalid coordinator address format: '{a}'"
  | noLoginTime => "Login timeout must be greater than 0"
  | noNodes => "Max nodes must be greater than 0"
  | noWindow => "Timestamp window must be greater than 0"
  | shortReplay t w => s!"Replay TTL ({t}ms) must be at least twice the timestamp window ({w}ms)"
  | noReplayCapacity => "Replay cache capacity must be greater than 0"
  | emptyName => "Application name cannot be empty"
  | longName n => s!"Application name too long: {n} characters (maximum: 64)"

def when (b : Bool) (p : Problem) : List Problem := if b then [p] else []

def ServerConfig.problems (c : ServerConfig) : List Problem :=
  (if c.address.isEmpty then [.emptyAddress]
    else when (!Address.isSocketAddress c.address) (.badAddress c.address)) ++
  when (c.maxConnections == 0) .noConnections ++
  (if c.queueCapacity == 0 then [.noQueue] else when (c.queueCapacity > 1000000) (.hugeQueue c.queueCapacity)) ++
  when (c.idleTimeout.millis < 100) .shortIdle ++
  when (c.shutdownTimeout.seconds > 60) .longShutdown ++
  when (c.connectTimeout.millis < 10) .shortConnect

/-- The check aborts where twice the window is longer than any duration. -/
def ClusterConfig.problems (c : ClusterConfig) : Except Overrun (List Problem) :=
  match c.timestampWindow.twice? with
  | none => .error {}
  | some twice => .ok <|
    when (!Address.isSocketAddress c.coordinatorAddress) (.badCoordinator c.coordinatorAddress) ++
    when (c.loginTimeout.nanos == 0) .noLoginTime ++
    when (c.maxNodes == 0) .noNodes ++
    when (c.timestampWindow.nanos == 0) .noWindow ++
    when (c.replayTtl.nanos < twice.nanos) (.shortReplay c.replayTtl.millis c.timestampWindow.millis) ++
    when (c.replayCapacity == 0) .noReplayCapacity

def LoggingConfig.problems (c : LoggingConfig) : List Problem :=
  if c.appName.isEmpty then [.emptyName] else when (c.appName.utf8ByteSize > 64) (.longName c.appName.utf8ByteSize)

namespace Config

def problems (c : Config) : Except Overrun (List Problem) :=
  c.cluster.problems.map fun ps => c.server.problems ++ ps ++ c.logging.problems

def strictFault (ps : List Problem) : Except Fault Unit :=
  if ps.isEmpty then .ok ()
  else .error (.config ("Configuration validation failed:\n  - " ++ "\n  - ".intercalate (ps.map Problem.message)))

end Config

end FrameGateway
