import FrameGateway.Config.Settings
import FrameGateway.Toml.Document
import FrameGateway.Toml.Text
/-! Configurations as TOML. Durations are written in whole milliseconds. A section may be left out, be a
table, or be an array of its settings in order; unknown keys are passed over. -/

namespace FrameGateway

namespace Toml.Value

/-- How to get at the settings of a section: by key and by place. -/
def settings? : Value → Option (String → Nat → Option Value)
  | .table es => some fun key _ => es.lookup key
  | .array items => some fun _ i => items[i]?
  | .datetime => some fun _ _ => none
  | _ => none

def text? : Value → Option String
  | .string s => some s
  | _ => none

def word? : Value → Option UInt64
  | .integer i => if 0 ≤ i then some (.ofNat i.toNat) else none
  | _ => none

def millis? (v : Value) : Option Duration := (word? v).map fun n => .ofMillis n.toNat

def bool? : Value → Option Bool
  | .boolean b => some b
  | _ => none

/-- A keyword: a string, or a table with it as the only key and nothing below. -/
def keyword? (f : String → Option α) : Value → Option α
  | .string s => f s
  | .table [(k, .table [])] => f k
  | .table [(k, .array [])] => f k
  | _ => none

def setting? (v : Option Value) (f : Value → Option α) (default : α) : Option α := match v with
  | none => some default
  | some v => f v

end Toml.Value

open Toml Toml.Value in
def ServerConfig.ofToml? (v : Value) : Option ServerConfig := do
  let at? ← settings? v
  let d : ServerConfig := {}
  return {
    address := ← setting? (at? "address" 0) text? d.address
    maxConnections := ← setting? (at? "max_connections" 1) word? d.maxConnections
    queueCapacity := ← setting? (at? "session_queue_capacity" 2) word? d.queueCapacity
    idleTimeout := ← setting? (at? "idle_timeout" 3) millis? d.idleTimeout
    shutdownTimeout := ← setting? (at? "shutdown_timeout" 4) millis? d.shutdownTimeout
    connectTimeout := ← setting? (at? "connect_timeout" 5) millis? d.connectTimeout }

open Toml Toml.Value in
def CodecConfig.ofToml? (v : Value) : Option CodecConfig := do
  let at? ← settings? v
  let d : CodecConfig := {}
  return {
    bodyFormat := ← setting? (at? "body_format" 0) (keyword? BodyFormat.ofWord?) d.bodyFormat
    token := ← setting? (at? "prefix" 1) (keyword? TokenFormat.ofWord?) d.token }

open Toml Toml.Value in
def ClusterConfig.ofToml? (v : Value) : Option ClusterConfig := do
  let at? ← settings? v
  let d : ClusterConfig := {}
  return {
    coordinatorAddress := ← setting? (at? "coordinator_address" 0) text? d.coordinatorAddress
    loginTimeout := ← setting? (at? "login_timeout" 1) millis? d.loginTimeout
    maxNodes := ← setting? (at? "max_nodes" 2) word? d.maxNodes
    timestampWindow := ← setting? (at? "timestamp_window" 3) millis? d.timestampWindow
    replayTtl := ← setting? (at? "replay_ttl" 4) millis? d.replayTtl
    replayCapacity := ← setting? (at? "replay_capacity" 5) word? d.replayCapacity }

open Toml Toml.Value in
def LoggingConfig.ofToml? (v : Value) : Option LoggingConfig := do
  let at? ← settings? v
  let d : LoggingConfig := {}
  let level? (v : Value) : Option LogLevel := do LogLevel.ofText? (← text? v)
  return {
    appName := ← setting? (at? "app_name" 0) text? d.appName
    level := ← setting? (at? "log_level" 1) level? d.level
    json := ← setting? (at? "json_format" 2) bool? d.json }

namespace Config

open Toml Toml.Value in
def ofValue? (v : Value) : Option Config := do
  let at? ← settings? v
  return {
    server := ← setting? (at? "server" 0) ServerConfig.ofToml? {}
    codec := ← setting? (at? "codec" 1) CodecConfig.ofToml? {}
    cluster := ← setting? (at? "cluster" 2) ClusterConfig.ofToml? {}
    logging := ← setting? (at? "logging" 3) LoggingConfig.ofToml? {} }

def ofToml (text : String) : Except Fault Config :=
  match (Toml.parse? text).bind ofValue? with
  | some c => .ok c
  | none => .error (.config "Failed to parse TOML")

/-- The configuration of a file with these bytes, or of no file. -/
def ofFile : Option Bytes → Except Fault Config
  | none => .error (.config "Failed to read config file: No such file or directory (os error 2)")
  | some bs => match utf8? bs with
    | some text => ofToml text
    | none => .error (.config "Failed to read config file: stream did not contain valid UTF-8")

inductive Setting where
  | text (s : String)
  | number (n : UInt64)
  | span (d : Duration)
  | flag (b : Bool)

def Setting.limit : Nat := 2 ^ 63 - 1

def Setting.numberText? (n : UInt64) : Option String :=
  if n.toNat ≤ limit then some (toString n.toNat) else none

def Setting.toml? : Setting → Option String
  | text s => some (Toml.quoted s)
  | number n => numberText? n
  | span d => numberText? d.millisWord
  | flag b => some (if b then "true" else "false")

/-- Sections and settings in writing order. -/
def sections (c : Config) : List (String × List (String × Setting)) :=
  [("server", [("address", .text c.server.address), ("max_connections", .number c.server.maxConnections),
      ("session_queue_capacity", .number c.server.queueCapacity), ("idle_timeout", .span c.server.idleTimeout),
      ("shutdown_timeout", .span c.server.shutdownTimeout), ("connect_timeout", .span c.server.connectTimeout)]),
    ("codec", [("body_format", .text c.codec.bodyFormat.word), ("prefix", .text (TokenFormat.word c.codec.token))]),
    ("cluster", [("coordinator_address", .text c.cluster.coordinatorAddress),
      ("login_timeout", .span c.cluster.loginTimeout), ("max_nodes", .number c.cluster.maxNodes),
      ("timestamp_window", .span c.cluster.timestampWindow), ("replay_ttl", .span c.cluster.replayTtl),
      ("replay_capacity", .number c.cluster.replayCapacity)]),
    ("logging", [("app_name", .text c.logging.appName), ("log_level", .text c.logging.level.word),
      ("json_format", .flag c.logging.json)])]

/-- The same to look at: keywords by the names of what they stand for. -/
def displayed (c : Config) : List (String × List (String × Setting)) :=
  c.sections.map fun (name, settings) => (name, settings.map fun (key, s) => (key, match key with
    | "body_format" => .text c.codec.bodyFormat.name
    | "prefix" => .text (TokenFormat.settingText c.codec.token)
    | "log_level" => .text c.logging.level.word.toUpper
    | _ => s))

/-- Changes one setting, given by section and key; a keyword that stands for nothing changes nothing. -/
def set (c : Config) : String → String → Setting → Config
  | "server", "address", .text s => { c with server.address := s }
  | "server", "max_connections", .number n => { c with server.maxConnections := n }
  | "server", "session_queue_capacity", .number n => { c with server.queueCapacity := n }
  | "server", "idle_timeout", .span d => { c with server.idleTimeout := d }
  | "server", "shutdown_timeout", .span d => { c with server.shutdownTimeout := d }
  | "server", "connect_timeout", .span d => { c with server.connectTimeout := d }
  | "codec", "body_format", .text s => { c with codec.bodyFormat := (BodyFormat.ofWord? s).getD c.codec.bodyFormat }
  | "codec", "prefix", .text s => { c with codec.token := (TokenFormat.ofWord? s).getD c.codec.token }
  | "cluster", "coordinator_address", .text s => { c with cluster.coordinatorAddress := s }
  | "cluster", "login_timeout", .span d => { c with cluster.loginTimeout := d }
  | "cluster", "max_nodes", .number n => { c with cluster.maxNodes := n }
  | "cluster", "timestamp_window", .span d => { c with cluster.timestampWindow := d }
  | "cluster", "replay_ttl", .span d => { c with cluster.replayTtl := d }
  | "cluster", "replay_capacity", .number n => { c with cluster.replayCapacity := n }
  | "logging", "app_name", .text s => { c with logging.appName := s }
  | "logging", "log_level", .text s => { c with logging.level := (LogLevel.ofText? s).getD c.logging.level }
  | "logging", "json_format", .flag b => { c with logging.json := b }
  | _, _, _ => c

def toToml (c : Config) : Except Fault String :=
  let section? : String × List (String × Setting) → Option String := fun (name, settings) => do
    let lines ← settings.mapM fun (key, s) => do return key ++ " = " ++ (← s.toml?) ++ "\n"
    return "[" ++ name ++ "]\n" ++ String.join lines
  match c.sections.mapM section? with
  | some ss => .ok ("\n".intercalate ss)
  | none => .error (.config "Failed to serialize config")

def sample : Except Fault String := toToml {}

/-- The text that a file gets, where its directory exists. -/
def save (c : Config) (directory : Bool) : Except Fault String := do
  let text ← c.toToml
  if directory then return text
  else throw (.config "Failed to write config file: No such file or directory (os error 2)")

end Config

end FrameGateway
