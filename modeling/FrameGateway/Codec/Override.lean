import FrameGateway.Fault
import FrameGateway.Message
import FrameGateway.Text.Debug
/-! Custom serializers. A field written apart from the body needs one; a whole type may have one,
which then replaces its body and its fields. -/

namespace FrameGateway

/-- What a custom serializer is handed and hands back. -/
inductive Parcel (τ : Type) [MessageFamily τ] where
  | field (v : FieldValue)
  | message (t : τ) (m : Msg t)

structure CustomSerializer (τ : Type) [MessageFamily τ] where
  name : String
  encode : Parcel τ → Except Fault Bytes
  /-- the value and the bytes behind it -/
  decode : Bytes → Except Fault (Parcel τ × Bytes)

def CustomSerializer.uuid {τ : Type} [MessageFamily τ] : CustomSerializer τ where
  name := "uuid128"
  encode
    | .field (.uuid v) => .ok (leBytes 16 v.toNat)
    | _ => .error (.serialize "uuid128 expects a Uuid")
  decode bs :=
    if bs.length < 16 then .error (.deserialize s!"uuid128 needs 16 bytes, {bs.length} left")
    else .ok (.field (.uuid (BitVec.ofNat 128 (leNat (bs.take 16)))), bs.drop 16)

/-- Custom serializers by type name, and by field or for the whole type. -/
structure Overrides (τ : Type) [MessageFamily τ] where
  entries : List ((String × Option String) × CustomSerializer τ)

namespace Overrides

variable {τ : Type} [MessageFamily τ]

def empty : Overrides τ := ⟨[]⟩

/-- The latest entry for a place counts. -/
def insert (o : Overrides τ) (typeName : String) (field : Option String) (s : CustomSerializer τ) :
    Overrides τ :=
  ⟨((typeName, field), s) :: o.entries⟩

def find? (o : Overrides τ) (typeName : String) (field : Option String) : Option (CustomSerializer τ) :=
  o.entries.lookup (typeName, field)

def isEmpty (o : Overrides τ) : Bool := o.entries.isEmpty

def typeNames (o : Overrides τ) : List String :=
  (o.entries.map (·.1.1)).eraseDups.mergeSort fun a b => decide (a ≤ b)

def debugText (o : Overrides τ) : String :=
  debugRecord "CustomCodecProvider" [("types", debugList (o.typeNames.map debugQuoted))]

end Overrides

end FrameGateway
