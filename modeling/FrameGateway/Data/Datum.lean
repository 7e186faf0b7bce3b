import FrameGateway.Bytes
/-! The data that messages are made of, and the shapes that readers expect. -/

namespace FrameGateway

structure IntType where
  signed : Bool
  /-- bytes -/
  width : Nat
  deriving DecidableEq, Repr

namespace IntType

def i8 : IntType := ⟨true, 1⟩
def i16 : IntType := ⟨true, 2⟩
def i32 : IntType := ⟨true, 4⟩
def i64 : IntType := ⟨true, 8⟩
def u8 : IntType := ⟨false, 1⟩
def u16 : IntType := ⟨false, 2⟩
def u32 : IntType := ⟨false, 4⟩
def u64 : IntType := ⟨false, 8⟩

def bound (t : IntType) : Nat := 256 ^ t.width

def holds (t : IntType) (i : Int) : Bool :=
  if t.signed then -(t.bound / 2 : Nat) ≤ i ∧ i < (t.bound / 2 : Nat) else 0 ≤ i ∧ i < t.bound

def bytes (t : IntType) (i : Int) : Bytes := leBytes t.width (i % t.bound).toNat

/-- The integer with these two's complement bytes. -/
def ofNat (t : IntType) (n : Nat) : Int :=
  if t.signed ∧ n ≥ t.bound / 2 then (n : Int) - t.bound else n

/-- The integer of this type that equals `i` modulo the bound. -/
def wrap (t : IntType) (i : Int) : Int := t.ofNat (i % t.bound).toNat

end IntType

/-- A self-describing datum. Transparent wrappers leave no trace in it. -/
inductive Datum where
  | bool (b : Bool)
  | int (type : IntType) (i : Int)
  | f32 (bits : UInt32)
  | f64 (bits : UInt64)
  | char (c : Char)
  | str (s : String)
  | none
  | some (d : Datum)
  /-- a record type without fields -/
  | unit
  | seq (items : List Datum)
  | tuple (items : List Datum)
  /-- text keys in increasing order -/
  | map (entries : List (String × Datum))
  | record (fields : List (String × Datum))
  /-- one case of a sum type; a case without content holds `unit` -/
  | variant (index : Nat) (name : String) (content : Datum)
  deriving Inhabited

inductive Schema where
  | bool
  | int (type : IntType)
  | f32
  | f64
  | char
  | str
  | option (s : Schema)
  | unit
  | seq (s : Schema)
  | tuple (ss : List Schema)
  | map (s : Schema)
  | record (fields : List (String × Schema))
  /-- a case with content `unit` is written by its name alone -/
  | enum (cases : List (String × Schema))
  /-- inside `fix s`: the whole `fix s` -/
  | recur
  | fix (s : Schema)
  deriving Inhabited

namespace Schema

def isUnit : Schema → Bool
  | unit => true
  | _ => false

def isOption : Schema → Bool
  | option _ => true
  | _ => false

end Schema

namespace Datum

def ofBytes (bs : Bytes) : List Datum := bs.map fun b => .int .u8 b.toNat

def bytes? (items : List Datum) : Option Bytes := items.mapM fun
  | .int _ i => Option.some (UInt8.ofNat i.toNat)
  | _ => Option.none

/-- Puts an entry into a map's list in key order; a later entry for a key replaces an earlier one. -/
def insertEntry (k : String) (d : Datum) : List (String × Datum) → List (String × Datum)
  | [] => [(k, d)]
  | (k', d') :: r =>
    if k < k' then (k, d) :: (k', d') :: r
    else if k = k' then (k, d) :: r
    else (k', d') :: insertEntry k d r

def mapOf (entries : List (String × Datum)) : Datum :=
  .map (entries.foldl (fun m e => insertEntry e.1 e.2 m) [])

/-- A record from its fields in any order: none twice, and only optional ones missing. -/
def recordOf? (fields : List (String × Schema)) (given : List (String × Datum)) : Option Datum := do
  let names := given.map (·.1)
  guard names.Nodup
  let fs ← fields.mapM fun (name, s) => match given.lookup name with
    | .some d => .some (name, d)
    | .none => if s.isOption then .some (name, .none) else .none
  return .record fs

end Datum

end FrameGateway
