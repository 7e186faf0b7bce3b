import FrameGateway.Message
/-! Message types described by data: a name, the shape of the body, and the uuid fields that are written
apart from it. A table of such types is a family. -/

namespace FrameGateway

structure RecordType where
  name : String
  schema : Schema
  /-- names of the uuid fields, in writing order -/
  apart : List String := []
  /-- the uuid fields can be read -/
  readable : Bool := true
  /-- the uuid fields can be set -/
  writable : Bool := true
  deriving Inhabited

def RecordType.plain (name : String) (fields : List (String × Schema)) : RecordType :=
  { name, schema := .record fields }

structure RecordKey (table : List (String × RecordType)) where
  key : String
  deriving DecidableEq

structure Record where
  body : Datum
  apart : List (String × BitVec 128)
  deriving Inhabited

namespace RecordKey

variable {table : List (String × RecordType)}

def type (k : RecordKey table) : RecordType := (table.lookup k.key).getD default

instance : MessageFamily (RecordKey table) where
  Msg _ := Record
  name k := k.type.name
  customFields k := k.type.apart
  field? k r field := if k.type.readable then (r.apart.lookup field).map .uuid else none
  setField? k r field v := match v with
    | .uuid u =>
      if k.type.writable && k.type.apart.contains field then
        some { r with apart := r.apart.map fun e => if e.1 = field then (field, u) else e }
      else none
    | .data _ => none

/-- Uuid fields start as nil. -/
instance : DataFamily (RecordKey table) where
  schema k := k.type.schema
  datum _ r := r.body
  ofDatum? k d := some ⟨d, k.type.apart.map (·, 0)⟩

end RecordKey

end FrameGateway
