import FrameGateway.Cluster.Message
/-! The live nodes of a cluster. A machine stays bound to the key that it registered with for as long
as that registration lives. A second table leads from machines to node ids. -/

namespace FrameGateway

structure NodeRecord where
  nodeId : NodeId
  machineId : String
  publicKey : Bytes
  services : List Service
  deriving DecidableEq

inductive RegistrationFault where
  | keyMismatch
  | full (capacity : Nat)
  deriving DecidableEq, Repr

namespace RegistrationFault

def message : RegistrationFault → String
  | keyMismatch => "Machine id is registered under a different public key"
  | full n => s!"Registry is full ({n} nodes)"

def kind : RegistrationFault → String
  | keyMismatch => "KeyMismatch"
  | full _ => "Full"

def errorCode : RegistrationFault → ErrorCode
  | keyMismatch => .machineKeyMismatch
  | full _ => .registryFull

end RegistrationFault

structure NodeTable where
  /-- in increasing order of their ids -/
  nodes : List NodeRecord
  byMachine : List (String × NodeId)
  nextId : UInt64
  capacity : Nat

namespace NodeTable

def unbounded : Nat := 2 ^ 64 - 1

def create (capacity : Nat) : NodeTable := ⟨[], [], 1, capacity⟩

def get? (t : NodeTable) (id : NodeId) : Option NodeRecord := t.nodes.find? (·.nodeId == id)

def nodeOf? (t : NodeTable) (machineId : String) : Option NodeId := t.byMachine.lookup machineId

def size (t : NodeTable) : Nat := t.nodes.length

/-- The table without the record under an id; the index of machines stays. -/
def eraseRecord (t : NodeTable) (id : NodeId) : NodeTable :=
  { t with nodes := t.nodes.filter (·.nodeId != id) }

/-- Enters a record under the next id, in the place of the machine's record before it. -/
def enter (t : NodeTable) (machineId : String) (publicKey : Bytes) (services : List Service) :
    NodeTable × NodeId :=
  let id : NodeId := ⟨t.nextId⟩
  let cleared := match t.nodeOf? machineId with
    | some previous => t.eraseRecord previous
    | none => t
  ({ cleared with
      nodes := cleared.nodes ++ [⟨id, machineId, publicKey, services⟩]
      byMachine := (machineId, id) :: t.byMachine.filter (·.1 != machineId)
      nextId := t.nextId + 1 }, id)

/-- Registers a node under a fresh id. A machine that is known has to show the key that it is bound
to; one that is not known needs room. -/
def register (t : NodeTable) (machineId : String) (publicKey : Bytes) (services : List Service) :
    NodeTable × Except RegistrationFault NodeId :=
  match (t.nodeOf? machineId).bind t.get? with
  | some record =>
    if record.publicKey ≠ publicKey then (t, .error .keyMismatch)
    else
      let (t, id) := t.enter machineId publicKey services
      (t, .ok id)
  | none =>
    if t.capacity ≤ t.size then (t, .error (.full t.capacity))
    else
      let (t, id) := t.enter machineId publicKey services
      (t, .ok id)

/-- Takes a node out; the record that it had, if it was live. -/
def unregister (t : NodeTable) (id : NodeId) : NodeTable × Option NodeRecord :=
  match t.get? id with
  | none => (t, none)
  | some record =>
    let index := if t.nodeOf? record.machineId = some id then
        t.byMachine.filter (·.1 != record.machineId)
      else t.byMachine
    ({ t.eraseRecord id with byMachine := index }, some record)

/-- The first node by id that offers a service, and the first of its services with that name. -/
def findService? (t : NodeTable) (name : String) : Option (NodeId × Service) :=
  t.nodes.findSome? fun r => (r.services.find? (·.name == name)).map fun s => (r.nodeId, s)

end NodeTable

end FrameGateway
