import FrameGateway.Data.Reading
import FrameGateway.Text.Utf8
/-! The packed binary format: little-endian fixed-width numbers, eight-byte counts before texts,
sequences and maps, four-byte case numbers, no framing of records. Readers ignore what follows. -/

namespace FrameGateway.Bincode

open Reading
def text (s : String) : Bytes :=
  let b := utf8 s
  leBytes 8 b.length ++ b

mutual
def encode : Datum → Bytes
  | .bool b => [if b then 1 else 0]
  | .int t i => t.bytes i
  | .f32 b => leBytes 4 b.toNat
  | .f64 b => leBytes 8 b.toNat
  | .char c => utf8 (String.singleton c)
  | .str s => text s
  | .none => [0]
  | .some d => 1 :: encode d
  | .unit => []
  | .seq items => leBytes 8 items.length ++ encodeAll items
  | .tuple items => encodeAll items
  | .map entries => leBytes 8 entries.length ++ encodeEntries entries
  | .record fields => encodeFields fields
  | .variant index _ content => leBytes 4 index ++ encode content

def encodeAll : List Datum → Bytes
  | [] => []
  | d :: r => encode d ++ encodeAll r

def encodeEntries : List (String × Datum) → Bytes
  | [] => []
  | (k, d) :: r => text k ++ (encode d ++ encodeEntries r)

def encodeFields : List (String × Datum) → Bytes
  | [] => []
  | (_, d) :: r => encode d ++ encodeFields r
end

def number (w : Nat) (bs : Bytes) : Option (Nat × Bytes) :=
  (take w bs).map fun (b, r) => (leNat b, r)

def readText (bs : Bytes) : Option (String × Bytes) := do
  let (n, r) ← number 8 bs
  let (b, r) ← take n r
  return (← utf8? b, r)

/-- Reads a datum of a schema. Every level of nesting below the first takes input, so the input's
length bounds the nesting (`decode`). -/
def read (whole : Schema) : Nat → Schema → Bytes → Option (Datum × Bytes)
  | 0, _, _ => none
  | n + 1, s, bs => match s with
    | .bool => do
      let (v, r) ← number 1 bs
      if v ≤ 1 then some (.bool (v = 1), r) else none
    | .int t => (number t.width bs).map fun (v, r) => (.int t (t.ofNat v), r)
    | .f32 => (number 4 bs).map fun (v, r) => (.f32 (.ofNat v), r)
    | .f64 => (number 8 bs).map fun (v, r) => (.f64 (.ofNat v), r)
    | .char => do
      let w ← utf8Width (← bs.head?)
      let (b, r) ← take w bs
      let c ← (← utf8? b).toList.head?
      return (.char c, r)
    | .str => (readText bs).map fun (t, r) => (.str t, r)
    | .option s => do
      let (v, r) ← number 1 bs
      if v = 0 then some (.none, r)
      else if v = 1 then (read whole n s r).map fun (d, r) => (.some d, r)
      else none
    | .unit => some (.unit, bs)
    | .seq s => do
      let (k, r) ← number 8 bs
      (many (read whole n s) k r []).map fun (ds, r) => (.seq ds, r)
    | .tuple ss => (each (read whole n) ss bs).map fun (ds, r) => (.tuple ds, r)
    | .map s => do
      let (k, r) ← number 8 bs
      let entry (bs : Bytes) : Option ((String × Datum) × Bytes) := do
        let (key, r) ← readText bs
        let (d, r) ← read whole n s r
        return ((key, d), r)
      (many entry k r []).map fun (es, r) => (Datum.mapOf es, r)
    | .record fields => do
      let (ds, r) ← each (read whole n) (fields.map (·.2)) bs
      return (.record ((fields.map (·.1)).zip ds), r)
    | .enum cases => do
      let (i, r) ← number 4 bs
      let (name, s) ← cases[i]?
      (read whole n s r).map fun (d, r) => (.variant i name d, r)
    | .recur => read whole n whole bs
    | .fix s => read (.fix s) n s bs

def decode (s : Schema) (bs : Bytes) : Option Datum :=
  (read s (8 * bs.length + 64) s bs).map (·.1)

end FrameGateway.Bincode
