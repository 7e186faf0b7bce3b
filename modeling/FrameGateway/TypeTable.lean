import FrameGateway.Fault
import FrameGateway.Message
/-! Which message type has which packet id. Two tables, one by type and one by id, are kept in step:
an entry is made only when both its type and its id are new, and none is ever removed. -/

namespace FrameGateway

structure TypeEntry (τ : Type) where
  id : PacketId
  name : String
  type : τ
  deriving DecidableEq

structure TypeTable (τ : Type) where
  byType : List (τ × TypeEntry τ)
  byId : List (PacketId × TypeEntry τ)

namespace TypeTable

variable {τ : Type} [DecidableEq τ] [MessageFamily τ]

def empty : TypeTable τ := ⟨[], []⟩

instance : Inhabited (TypeTable τ) := ⟨empty⟩

/-- Enters a type under an id: the table that is left, and the outcome. A type that is present already is
refused first. -/
def insert (m : TypeTable τ) (t : τ) (id : PacketId) : TypeTable τ × Except Fault PacketId :=
  let name := MessageFamily.name t
  if (m.byType.lookup t).isSome then (m, .error (.duplicateRegistration name))
  else match m.byId.lookup id with
    | some holder => (m, .error (.idCollision id name holder.name))
    | none =>
      let e : TypeEntry τ := ⟨id, name, t⟩
      (⟨(t, e) :: m.byType, (id, e) :: m.byId⟩, .ok id)

/-- The table that a successful insertion leaves. -/
def registerWithId (m : TypeTable τ) (t : τ) (id : PacketId) : Except Fault (TypeTable τ) :=
  (m.insert t id).2.map fun _ => (m.insert t id).1

def derivedId (t : τ) : PacketId := PacketId.ofName (MessageFamily.name t)

def register (m : TypeTable τ) (t : τ) : Except Fault (TypeTable τ) := m.registerWithId t (derivedId t)

def id? (m : TypeTable τ) (t : τ) : Option PacketId := (m.byType.lookup t).map (·.id)

def getId (m : TypeTable τ) (t : τ) : Except Fault PacketId :=
  match m.id? t with
  | some id => .ok id
  | none => .error (.unregisteredType (MessageFamily.name t))

def getType (m : TypeTable τ) (id : PacketId) : Except Fault (TypeEntry τ) :=
  match m.byId.lookup id with
  | some e => .ok e
  | none => .error (.unknownPacketId id)

def containsId (m : TypeTable τ) (id : PacketId) : Bool := (m.byId.lookup id).isSome

def size (m : TypeTable τ) : Nat := m.byId.length

/-- All entries in increasing order of their ids. -/
def registered (m : TypeTable τ) : List (TypeEntry τ) :=
  (m.byId.map (·.2)).mergeSort fun a b => a.id.toNat ≤ b.id.toNat

end TypeTable

end FrameGateway
