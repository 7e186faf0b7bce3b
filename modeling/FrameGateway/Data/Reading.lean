import FrameGateway.Data.Datum
/-! Readers take a datum off the front of a byte string and hand back what follows it. -/

namespace FrameGateway.Reading

def take (n : Nat) (bs : Bytes) : Option (Bytes × Bytes) :=
  let (b, r) := bs.splitAt n
  if b.length = n then some (b, r) else none

def many (read : Bytes → Option (α × Bytes)) : Nat → Bytes → List α → Option (List α × Bytes)
  | 0, bs, acc => some (acc.reverse, bs)
  | n + 1, bs, acc => match read bs with
    | some (a, r) => many read n r (a :: acc)
    | none => none

def each (read : Schema → Bytes → Option (Datum × Bytes)) :
    List Schema → Bytes → Option (List Datum × Bytes)
  | [], bs => some ([], bs)
  | s :: ss, bs => do
    let (d, r) ← read s bs
    let (ds, r) ← each read ss r
    return (d :: ds, r)

end FrameGateway.Reading
