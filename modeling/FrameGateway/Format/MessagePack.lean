import FrameGateway.Data.Reading
import FrameGateway.Floating.Format
import FrameGateway.Text.Utf8
/-! MessagePack. Writers use the shortest form of every number and count, write a record as the
array of its fields and a case with content as a one-entry map. Readers take any width of a number,
records as maps too, and a byte string as an array of small numbers; arrays and maps nest at most
`depthLimit - 1` deep. -/

namespace FrameGateway.MessagePack

open Reading

/-- The marker byte and its big-endian operand. -/
def marked (marker w n : Nat) : Bytes := UInt8.ofNat marker :: beBytes w n

def natural (n : Nat) : Bytes :=
  if n < 0x80 then [UInt8.ofNat n]
  else if n < 2 ^ 8 then marked 0xcc 1 n
  else if n < 2 ^ 16 then marked 0xcd 2 n
  else if n < 2 ^ 32 then marked 0xce 4 n
  else marked 0xcf 8 n

def integer (i : Int) : Bytes :=
  if 0 ≤ i then natural i.toNat
  else if -32 ≤ i then [UInt8.ofInt i]
  else if -2 ^ 7 ≤ i then 0xd0 :: IntType.i8.bytes i
  else if -2 ^ 15 ≤ i then 0xd1 :: (IntType.i16.bytes i).reverse
  else if -2 ^ 31 ≤ i then 0xd2 :: (IntType.i32.bytes i).reverse
  else 0xd3 :: (IntType.i64.bytes i).reverse

def text (s : String) : Bytes :=
  let b := utf8 s
  let n := b.length
  (if n < 32 then [UInt8.ofNat (0xa0 + n)]
    else if n < 2 ^ 8 then marked 0xd9 1 n
    else if n < 2 ^ 16 then marked 0xda 2 n
    else marked 0xdb 4 n) ++ b

def arrayMark (n : Nat) : Bytes :=
  if n < 16 then [UInt8.ofNat (0x90 + n)] else if n < 2 ^ 16 then marked 0xdc 2 n else marked 0xdd 4 n

def mapMark (n : Nat) : Bytes :=
  if n < 16 then [UInt8.ofNat (0x80 + n)] else if n < 2 ^ 16 then marked 0xde 2 n else marked 0xdf 4 n

mutual
def encode : Datum → Bytes
  | .bool b => [if b then 0xc3 else 0xc2]
  | .int _ i => integer i
  | .f32 b => marked 0xca 4 b.toNat
  | .f64 b => marked 0xcb 8 b.toNat
  | .char c => text (String.singleton c)
  | .str s => text s
  | .none => [0xc0]
  | .some d => encode d
  | .unit => [0x90]
  | .seq items => arrayMark items.length ++ encodeAll items
  | .tuple items => arrayMark items.length ++ encodeAll items
  | .map entries => mapMark entries.length ++ encodeEntries entries
  | .record fields => arrayMark fields.length ++ encodeFields fields
  | .variant _ name .unit => text name
  | .variant _ name content => mapMark 1 ++ text name ++ encode content

def encodeAll : List Datum → Bytes
  | [] => []
  | d :: r => encode d ++ encodeAll r

def encodeEntries : List (String × Datum) → Bytes
  | [] => []
  | (k, d) :: r => text k ++ (encode d ++ encodeEntries r)

def encodeFields : List (String × Datum) → Bytes
  | [] => []
  | (_, d) :: r => encode d ++ encodeFields r
end

/-- What a marker byte announces, with its operand read. Counts are of items, entries or bytes. -/
inductive Mark where
  | nil
  | bool (b : Bool)
  | natural (n : Nat)
  /-- an integer form with a sign -/
  | signed (i : Int)
  | f32 (bits : Nat)
  | f64 (bits : Nat)
  | text (n : Nat)
  | binary (n : Nat)
  | array (n : Nat)
  | map (n : Nat)
  /-- application data: a tag byte and this many bytes -/
  | extension (n : Nat)

def mark? (bs : Bytes) : Option (Mark × Bytes) := do
  let (m, r) ← match bs with
    | m :: r => some (m.toNat, r)
    | [] => none
  let operand (w : Nat) (f : Nat → Mark) : Option (Mark × Bytes) :=
    (take w r).map fun (b, r) => (f (beNat b), r)
  if m < 0x80 then some (.natural m, r)
  else if m < 0x90 then some (.map (m - 0x80), r)
  else if m < 0xa0 then some (.array (m - 0x90), r)
  else if m < 0xc0 then some (.text (m - 0xa0), r)
  else if m ≥ 0xe0 then some (.signed (m - 256 : Int), r)
  else match m with
    | 0xc0 => some (.nil, r)
    | 0xc2 => some (.bool false, r)
    | 0xc3 => some (.bool true, r)
    | 0xc4 => operand 1 .binary
    | 0xc5 => operand 2 .binary
    | 0xc6 => operand 4 .binary
    | 0xc7 => operand 1 .extension
    | 0xc8 => operand 2 .extension
    | 0xc9 => operand 4 .extension
    | 0xca => operand 4 .f32
    | 0xcb => operand 8 .f64
    | 0xcc => operand 1 .natural
    | 0xcd => operand 2 .natural
    | 0xce => operand 4 .natural
    | 0xcf => operand 8 .natural
    | 0xd0 => operand 1 fun n => .signed (IntType.i8.ofNat n)
    | 0xd1 => operand 2 fun n => .signed (IntType.i16.ofNat n)
    | 0xd2 => operand 4 fun n => .signed (IntType.i32.ofNat n)
    | 0xd3 => operand 8 fun n => .signed (IntType.i64.ofNat n)
    | 0xd4 => some (.extension 1, r)
    | 0xd5 => some (.extension 2, r)
    | 0xd6 => some (.extension 4, r)
    | 0xd7 => some (.extension 8, r)
    | 0xd8 => some (.extension 16, r)
    | 0xd9 => operand 1 .text
    | 0xda => operand 2 .text
    | 0xdb => operand 4 .text
    | 0xdc => operand 2 .array
    | 0xdd => operand 4 .array
    | 0xde => operand 2 .map
    | 0xdf => operand 4 .map
    | _ => none

/-- Arrays and maps may nest one level less than this. -/
def depthLimit : Nat := 1024

def Mark.int? : Mark → Option Int
  | .natural n => some n
  | .signed i => some i
  | _ => none

def float? (target : FloatFormat) : Mark → Option Nat
  | .f32 b => some (if target = .single then b else FloatFormat.convert .single target b)
  | .f64 b => some (if target = .double then b else FloatFormat.convert .double target b)
  | m => m.int?.map target.ofInt

def text? (m : Mark) (bs : Bytes) : Option (String × Bytes) := do
  let n ← match m with
    | .text n | .binary n => some n
    | _ => none
  let (b, r) ← take n bs
  return (← utf8? b, r)

/-- Passes over one value that nobody asked for. -/
def skip : Nat → Nat → Bytes → Option Bytes
  | 0, _, _ => none
  | n + 1, depth, bs => do
    let (m, r) ← mark? bs
    let items (k : Nat) : Option Bytes :=
      if depth + 1 < depthLimit then
        (many (fun b => (skip n (depth + 1) b).map ((), ·)) k r []).map (·.2)
      else none
    match m with
    | .array k => items k
    | .map k => items (2 * k)
    | .text k | .binary k => (take k r).map (·.2)
    | .extension k => if depth + 1 < depthLimit then (take (k + 1) r).map (·.2) else none
    | _ => some r

/-- A case or field is named by its text or by its position. -/
def position? (names : List String) (bs : Bytes) : Option (Option Nat × Bytes) := do
  let (m, r) ← mark? bs
  match m with
  | .natural n => some (if n < names.length then some n else none, r)
  | .text k | .binary k =>
    let (b, r) ← take k r
    some ((utf8? b).bind names.idxOf?, r)
  | _ => none

/-- The datum that one byte of a byte string stands for: a number, as a float too. -/
def ofByte? (s : Schema) (b : UInt8) : Option Datum :=
  let m : Mark := .natural b.toNat
  match s with
  | .int t => if t.holds b.toNat then some (.int t b.toNat) else none
  | .f32 => (float? .single m).map fun b => .f32 (.ofNat b)
  | .f64 => (float? .double m).map fun b => .f64 (.ofNat b)
  | _ => none

/-- One byte for each schema, and any bytes behind these. -/
def ofBytes? (ss : List Schema) (bs : Bytes) : Option (List Datum) := do
  guard (ss.length ≤ bs.length)
  (ss.zip bs).mapM fun (s, b) => ofByte? s b

/-- The datum whose marker has been read. -/
def readMarked (depth : Nat) (readAt : Nat → Schema → Bytes → Option (Datum × Bytes))
    (skipAt : Nat → Bytes → Option Bytes) (s : Schema) (m : Mark) (bs : Bytes) :
    Option (Datum × Bytes) :=
  let deeper : Option Nat := if depth + 1 < depthLimit then some (depth + 1) else none
  match s with
  | .bool => match m with
    | .bool b => some (.bool b, bs)
    | _ => none
  | .int t => do
    let i ← m.int?
    if t.holds i then some (.int t i, bs) else none
  | .f32 => (float? .single m).map fun b => (.f32 (.ofNat b), bs)
  | .f64 => (float? .double m).map fun b => (.f64 (.ofNat b), bs)
  | .char => match m with
    | .text _ => do
      let (t, r) ← text? m bs
      match t.toList with
      | [c] => some (.char c, r)
      | _ => none
    | _ => none
  | .str => (text? m bs).map fun (t, r) => (.str t, r)
  | .seq s => match m with
    | .array k => do
      let d ← deeper
      (many (readAt d s) k bs []).map fun (ds, r) => (.seq ds, r)
    | .binary k => do
      let (b, r) ← take k bs
      return (.seq (← b.mapM (ofByte? s)), r)
    | _ => none
  | .tuple ss => match m with
    | .array k => do
      let d ← deeper
      guard (k = ss.length)
      (each (readAt d) ss bs).map fun (ds, r) => (.tuple ds, r)
    | .binary k => do
      let (b, r) ← take k bs
      return (.tuple (← ofBytes? ss b), r)
    | _ => none
  | .map s => match m with
    | .map k => do
      let d ← deeper
      let entry (bs : Bytes) : Option ((String × Datum) × Bytes) := do
        let (m, r) ← mark? bs
        let (key, r) ← text? m r
        let (v, r) ← readAt d s r
        return ((key, v), r)
      (many entry k bs []).map fun (es, r) => (Datum.mapOf es, r)
    | _ => none
  | .record fields => match m with
    | .array k => do
      let d ← deeper
      guard (k = fields.length)
      let (ds, r) ← each (readAt d) (fields.map (·.2)) bs
      return (.record ((fields.map (·.1)).zip ds), r)
    | .binary k => do
      let (b, r) ← take k bs
      return (.record ((fields.map (·.1)).zip (← ofBytes? (fields.map (·.2)) b)), r)
    | .map k => do
      let d ← deeper
      let entry (bs : Bytes) : Option (Option (String × Datum) × Bytes) := do
        let (i, r) ← position? (fields.map (·.1)) bs
        match i.bind (fields[·]?) with
        | some (name, s) =>
          let (v, r) ← readAt d s r
          return (some (name, v), r)
        | none => (skipAt d r).map (none, ·)
      let (es, r) ← many entry k bs []
      return (← Datum.recordOf? fields (es.filterMap id), r)
    | _ => none
  -- these look at the marker before it is taken (`read`)
  | .unit | .option _ | .enum _ | .recur | .fix _ => none

/-- Reads a datum of a schema, `depth` levels below the top. -/
def read (whole : Schema) : Nat → Nat → Schema → Bytes → Option (Datum × Bytes)
  | 0, _, _, _ => none
  | n + 1, depth, s, bs => match s with
    -- of the empty arrays only the shortest
    | .unit => match bs with
      | 0xc0 :: r => some (.unit, r)
      | 0x90 :: r => some (.unit, r)
      | _ => none
    | .option s => match bs with
      | 0xc0 :: r => some (.none, r)
      | _ => (read whole n depth s bs).map fun (d, r) => (.some d, r)
    | .recur => read whole n depth whole bs
    | .fix s => read (.fix s) n depth s bs
    | .enum cases => do
      let caseAt (bs : Bytes) : Option ((Nat × String × Schema) × Bytes) := do
        let (i, r) ← position? (cases.map (·.1)) bs
        let i ← i
        return ((i, ← cases[i]?), r)
      let (m, r) ← mark? bs
      match m with
      | .map 1 =>
        let ((i, name, s), r) ← caseAt r
        if s.isUnit then
          match r with
          | 0xc0 :: r => some (.variant i name .unit, r)
          | _ => none
        else (read whole n depth s r).map fun (d, r) => (.variant i name d, r)
      | .map _ => none
      | _ =>
        let ((i, name, s), r) ← caseAt bs
        if s.isUnit then some (.variant i name .unit, r) else none
    | s => do
      let (m, r) ← mark? bs
      readMarked depth (read whole n) (skip n) s m r

def decode (s : Schema) (bs : Bytes) : Option Datum :=
  (read s (8 * bs.length + 64) 0 s bs).map (·.1)

end FrameGateway.MessagePack
