import FrameGateway.Data.Datum
/-! Families of message types. A family gives each of its types a carrier, the name that its packet
id comes from, and the fields that are written apart from the body. -/

namespace FrameGateway

inductive FieldValue where
  | uuid (v : BitVec 128)
  | data (d : Datum)

class MessageFamily (τ : Type) where
  Msg : τ → Type
  name : τ → String
  /-- names of the fields written apart from the body, in writing order -/
  customFields : τ → List String
  /-- `none` for a field that cannot be read -/
  field? : (t : τ) → Msg t → String → Option FieldValue
  /-- `none` for a field that refuses the value -/
  setField? : (t : τ) → Msg t → String → FieldValue → Option (Msg t)

export MessageFamily (Msg)

/-- Families whose messages have a data form, without the fields written apart. -/
class DataFamily (τ : Type) [MessageFamily τ] where
  schema : τ → Schema
  datum : (t : τ) → Msg t → Datum
  ofDatum? : (t : τ) → Datum → Option (Msg t)

instance [MessageFamily α] [MessageFamily β] : MessageFamily (α ⊕ β) where
  Msg
    | .inl a => Msg a
    | .inr b => Msg b
  name
    | .inl a => MessageFamily.name a
    | .inr b => MessageFamily.name b
  customFields
    | .inl a => MessageFamily.customFields a
    | .inr b => MessageFamily.customFields b
  field?
    | .inl a => MessageFamily.field? a
    | .inr b => MessageFamily.field? b
  setField?
    | .inl a => MessageFamily.setField? a
    | .inr b => MessageFamily.setField? b

instance [MessageFamily α] [MessageFamily β] [DataFamily α] [DataFamily β] : DataFamily (α ⊕ β) where
  schema
    | .inl a => DataFamily.schema a
    | .inr b => DataFamily.schema b
  datum
    | .inl a => DataFamily.datum a
    | .inr b => DataFamily.datum b
  ofDatum?
    | .inl a => DataFamily.ofDatum? a
    | .inr b => DataFamily.ofDatum? b

end FrameGateway
