import FrameGateway.Data.Datum
import FrameGateway.Json.Number
/-! Data as JSON. Writers put fields in order and no blanks. Readers take a record from an object or
an array, a missing option for `null`, and nest at most `depthLimit - 1` deep. -/

namespace FrameGateway.Json

mutual
def encode : Datum → String
  | .bool b => if b then "true" else "false"
  | .int _ i => toString i
  | .f32 b => floatText .single singleStyle b.toNat
  | .f64 b => floatText .double doubleStyle b.toNat
  | .char c => quoted (String.singleton c)
  | .str s => quoted s
  | .none => "null"
  | .some d => encode d
  | .unit => "null"
  | .seq items => "[" ++ ",".intercalate (encodeAll items) ++ "]"
  | .tuple items => "[" ++ ",".intercalate (encodeAll items) ++ "]"
  | .map entries => "\x7b" ++ ",".intercalate (encodeMembers entries) ++ "\x7d"
  | .record fields => "\x7b" ++ ",".intercalate (encodeMembers fields) ++ "\x7d"
  | .variant _ name .unit => quoted name
  | .variant _ name content => "\x7b" ++ quoted name ++ ":" ++ encode content ++ "\x7d"

def encodeAll : List Datum → List String
  | [] => []
  | d :: r => encode d :: encodeAll r

def encodeMembers : List (String × Datum) → List String
  | [] => []
  | (k, d) :: r => (quoted k ++ ":" ++ encode d) :: encodeMembers r
end

/-- Arrays and objects may nest one level less than this. -/
def depthLimit : Nat := 128

def float? (target : FloatFormat) : Number → Nat
  | .natural n => target.ofInt n
  | .negative i => target.ofInt i
  | .double b => if target = .double then b else FloatFormat.convert .double target b

def Tree.text? : Tree → Option String
  | .string s => s
  | _ => none

def read (whole : Schema) : Nat → Nat → Schema → Tree → Option Datum
  | 0, _, _, _ => none
  | n + 1, depth, s, t =>
    let deeper : Option Nat := if depth + 1 < depthLimit then some (depth + 1) else none
    let each (depth : Nat) (ss : List Schema) (items : List Tree) : Option (List Datum) := do
      guard (ss.length = items.length)
      (ss.zip items).mapM fun (s, t) => read whole n depth s t
    match s with
    | .bool => match t with
      | .bool b => some (.bool b)
      | _ => none
    | .int ty => match t with
      | .number m => do
        let i ← match ← m.number? with
          | .natural n => some (n : Int)
          | .negative i => some i
          | .double _ => none
        if ty.holds i then some (.int ty i) else none
      | _ => none
    | .f32 => match t with
      | .number m => m.number?.map fun v => .f32 (.ofNat (float? .single v))
      | _ => none
    | .f64 => match t with
      | .number m => m.number?.map fun v => .f64 (.ofNat (float? .double v))
      | _ => none
    | .char => do match (← t.text?).toList with
      | [c] => return .char c
      | _ => none
    | .str => t.text?.map .str
    | .option s => match t with
      | .null => some .none
      | t => (read whole n depth s t).map .some
    | .unit => match t with
      | .null => some .unit
      | _ => none
    | .seq s => match t with
      | .array items => do
        let d ← deeper
        (items.mapM (read whole n d s)).map .seq
      | _ => none
    | .tuple ss => match t with
      | .array items => do (each (← deeper) ss items).map .tuple
      | _ => none
    | .map s => match t with
      | .object members => do
        let d ← deeper
        (members.mapM fun (m : Text × Tree) => do return (← m.1, ← read whole n d s m.2)).map Datum.mapOf
      | _ => none
    | .record fields => match t with
      | .array items => do
        let ds ← each (← deeper) (fields.map (·.2)) items
        return .record ((fields.map (·.1)).zip ds)
      | .object members => do
        let d ← deeper
        let given ← members.mapM fun (m : Text × Tree) => do
          let k ← m.1
          match fields.lookup k with
          | some s => return some (k, ← read whole n d s m.2)
          | none => return none
        Datum.recordOf? fields (given.filterMap id)
      | _ => none
    | .enum cases => do
      let named (k : Text) : Option (Nat × String × Schema) := do
        let i ← (cases.map (·.1)).idxOf? (← k)
        return (i, ← cases[i]?)
      match t with
      | .string k =>
        let (i, name, s) ← named k
        if s.isUnit then return .variant i name .unit else none
      | .object [(k, t)] =>
        let (i, name, s) ← named k
        return .variant i name (← read whole n (← deeper) s t)
      | _ => none
    | .recur => read whole n depth whole t
    | .fix s => read (.fix s) n depth s t

def decode (s : Schema) (bs : Bytes) : Option Datum := do
  read s (8 * bs.length + 64) 0 s (← parse? bs)

end FrameGateway.Json
