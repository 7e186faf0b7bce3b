import FrameGateway.Format.Bincode
import FrameGateway.Proofs.Frame.Layout
import FrameGateway.Proofs.Text.Utf8
/-! Reading packed data back. Every reader stops where what was written for it ends, whatever follows; so the
fields of a record are read one after the other (`Reading.each_cons`). -/

namespace FrameGateway

namespace Reading

theorem take_append {b : Bytes} {n : Nat} (h : b.length = n) (r : Bytes) : take n (b ++ r) = some (b, r) := by
  rw [take, List.splitAt_eq, List.take_left' h, List.drop_left' h]
  exact if_pos h

theorem each_cons {read : Schema → Bytes → Option (Datum × Bytes)} {s : Schema} {ss : List Schema}
    {bs rest rest' : Bytes} {d : Datum} {ds : List Datum} (hd : read s bs = some (d, rest))
    (hds : each read ss rest = some (ds, rest')) : each read (s :: ss) bs = some (d :: ds, rest') := by
  rw [each, hd]
  exact congrArg (fun out : Option (List Datum × Bytes) => out.bind fun p => some (d :: p.1, p.2)) hds

end Reading

namespace Bincode

variable {whole : Schema} {n : Nat} {r : Bytes}

theorem number_leBytes {w k : Nat} (h : k < 256 ^ w) (r : Bytes) : number w (leBytes w k ++ r) = some (k, r) := by
  rw [number, Reading.take_append (length_leBytes w k), Option.map_some]
  exact congrArg (fun k => some (k, r)) (leNat_leBytes_of_lt w h)

theorem readText_text {s : String} (h : s.utf8ByteSize < 2 ^ 64) (r : Bytes) :
    readText (text s ++ r) = some (s, r) := by
  have hlen : (utf8 s).length < 256 ^ 8 := by rw [length_utf8]; omega
  rw [readText, text, List.append_assoc]
  simp only [number_leBytes hlen, bind, Option.bind, Reading.take_append rfl, utf8?_utf8]
  rfl

theorem read_str {s : String} (h : s.utf8ByteSize < 2 ^ 64) :
    read whole (n + 1) .str (text s ++ r) = some (.str s, r) := by
  rw [read, readText_text h, Option.map_some]

theorem read_natural {t : IntType} (ht : t.signed = false) {k : Nat} (hk : k < t.bound) :
    read whole (n + 1) (.int t) (encode (.int t k) ++ r) = some (.int t k, r) := by
  have hbytes : encode (.int t k) = leBytes t.width k := by
    rw [encode, IntType.bytes, ← Int.natCast_emod, Int.toNat_natCast, Nat.mod_eq_of_lt hk]
  rw [hbytes, read, number_leBytes hk, Option.map_some]
  simp [IntType.ofNat, ht]

theorem read_record (fields : List (String × Schema)) {bs : Bytes} {ds : List Datum}
    (h : Reading.each (read whole n) (fields.map (·.2)) bs = some (ds, r)) :
    read whole (n + 1) (.record fields) bs = some (.record ((fields.map (·.1)).zip ds), r) := by
  rw [read, h]
  rfl

end Bincode

end FrameGateway
