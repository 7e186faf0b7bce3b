import FrameGateway.Format.Body
import FrameGateway.Proofs.Text.Utf8
import Mathlib.Algebra.GroupWithZero.Nat
import Mathlib.Algebra.Order.BigOperators.Group.List
import Mathlib.Algebra.Order.Group.Nat
/-! How many bytes data take in the three formats: those of their parts, and a few around them. -/

namespace FrameGateway

theorem utf8Size_digitChar : ∀ d < 10, d.digitChar.utf8Size = 1 := by decide

/-- The digits of a number are one byte each. -/
theorem utf8ByteSize_repr_le {n k : Nat} (hk : 0 < k) (h : n < 10 ^ k) : n.repr.utf8ByteSize ≤ k := by
  induction k generalizing n with
  | zero => cases hk
  | succ k ih =>
    by_cases hn : n < 10
    · rw [Nat.repr_of_lt hn, String.utf8ByteSize_singleton, utf8Size_digitChar n hn]
      exact hk
    · rw [Nat.pow_succ] at h
      have hk : 0 < k := by
        rcases Nat.eq_zero_or_pos k with rfl | hk
        · omega
        · exact hk
      have hlast : n % 10 < 10 := Nat.mod_lt n (by decide)
      rw [Nat.repr_eq_repr_append_repr (Nat.le_of_not_lt hn), String.utf8ByteSize_append,
        Nat.repr_of_lt hlast, String.utf8ByteSize_singleton, utf8Size_digitChar _ hlast]
      exact Nat.add_le_add_right (ih hk (by omega)) 1

/-- A comma stands behind each text but the last. -/
theorem utf8ByteSize_intercalate {l : List String} (h : l ≠ []) :
    (",".intercalate l).utf8ByteSize + 1 = (l.map fun s => s.utf8ByteSize + 1).sum := by
  induction l with
  | nil => exact absurd rfl h
  | cons s l ih =>
    cases l with
    | nil => simp
    | cons t l =>
      rw [String.intercalate_cons_cons, String.utf8ByteSize_append, String.utf8ByteSize_append,
        List.map_cons, List.sum_cons, ← ih (List.cons_ne_nil t l)]
      have hcomma : ",".utf8ByteSize = 1 := rfl
      omega

namespace BodyFormat

variable {f : BodyFormat}

def size (f : BodyFormat) (d : Datum) : Nat := (f.encode d).length

/-- Bytes of what a field has before its value. -/
def keySize (f : BodyFormat) (key : String) : Nat :=
  match f with
  | bincode => 0
  | messagePack => 0
  | json => (Json.quoted key).utf8ByteSize + 2

/-- Bytes of a record beside its fields. -/
def braceSize (f : BodyFormat) (count : Nat) : Nat :=
  match f with
  | bincode => 0
  | messagePack => (MessagePack.arrayMark count).length
  | json => 1

def numberSize : BodyFormat → Nat
  | bincode => 8
  | messagePack => 9
  | json => 20

theorem length_bincode_encodeFields (fields : List (String × Datum)) :
    (Bincode.encodeFields fields).length = (fields.map fun e => size bincode e.2).sum := by
  induction fields with
  | nil => rfl
  | cons e fields ih =>
    rw [Bincode.encodeFields, List.length_append, ih, List.map_cons, List.sum_cons, size, encode]

theorem length_messagePack_encodeFields (fields : List (String × Datum)) :
    (MessagePack.encodeFields fields).length = (fields.map fun e => size messagePack e.2).sum := by
  induction fields with
  | nil => rfl
  | cons e fields ih =>
    rw [MessagePack.encodeFields, List.length_append, ih, List.map_cons, List.sum_cons, size, encode]

theorem utf8ByteSize_json_encodeMembers {fields : List (String × Datum)} (h : fields ≠ []) :
    (",".intercalate (Json.encodeMembers fields)).utf8ByteSize + 1 =
      (fields.map fun e => keySize json e.1 + size json e.2).sum := by
  have hmap : ∀ l : List (String × Datum),
      ((Json.encodeMembers l).map fun s => s.utf8ByteSize + 1) =
        l.map fun e => keySize json e.1 + size json e.2 := by
    intro l
    induction l with
    | nil => rfl
    | cons e l ih =>
      rw [Json.encodeMembers, List.map_cons, List.map_cons, ih, String.utf8ByteSize_append,
        String.utf8ByteSize_append, keySize, size, encode, length_utf8]
      have hcolon : ":".utf8ByteSize = 1 := rfl
      congr 1
      omega
  have hne : Json.encodeMembers fields ≠ [] := by
    cases fields with
    | nil => exact absurd rfl h
    | cons e fields => exact List.cons_ne_nil _ _
  rw [utf8ByteSize_intercalate hne, hmap]

theorem size_record {fields : List (String × Datum)} (h : fields ≠ []) :
    f.size (.record fields) =
      f.braceSize fields.length + (fields.map fun e => f.keySize e.1 + f.size e.2).sum := by
  cases f with
  | bincode =>
    simp only [keySize, braceSize, Nat.zero_add]
    exact length_bincode_encodeFields fields
  | messagePack =>
    rw [size, encode, MessagePack.encode, List.length_append, length_messagePack_encodeFields]
    simp only [keySize, braceSize, Nat.zero_add]
  | json =>
    have hsum := utf8ByteSize_json_encodeMembers h
    have hopen : "\x7b".utf8ByteSize = 1 := rfl
    have hclose : "\x7d".utf8ByteSize = 1 := rfl
    rw [size, encode, Json.encode, length_utf8, String.utf8ByteSize_append, String.utf8ByteSize_append,
      braceSize]
    omega

theorem length_natural_pos (n : Nat) : 0 < (MessagePack.natural n).length := by
  unfold MessagePack.natural
  split_ifs <;> simp [MessagePack.marked]

theorem length_natural_le (n : Nat) : (MessagePack.natural n).length ≤ 9 := by
  unfold MessagePack.natural
  split_ifs <;> simp [MessagePack.marked, beBytes]

theorem messagePack_encode_natural (t : IntType) (n : Nat) :
    MessagePack.encode (.int t n) = MessagePack.natural n := by
  rw [MessagePack.encode, MessagePack.integer, if_pos (Int.natCast_nonneg n), Int.toNat_natCast]

theorem json_encode_natural (t : IntType) (n : Nat) : Json.encode (.int t n) = n.repr := by
  rw [Json.encode, Int.toString_eq_repr, Int.repr_eq_if, if_pos (Int.natCast_nonneg n), Int.toNat_natCast]

theorem size_int_pos {t : IntType} (ht : 0 < t.width) (n : Nat) : 0 < f.size (.int t n) := by
  cases f with
  | bincode => simpa [size, encode, Bincode.encode, IntType.bytes] using ht
  | messagePack =>
    rw [size, encode, messagePack_encode_natural]
    exact length_natural_pos n
  | json =>
    rw [size, encode, json_encode_natural, length_utf8, Nat.pos_iff_ne_zero, Ne, String.utf8ByteSize_eq_zero_iff]
    exact Nat.repr_ne_empty

theorem size_int_le {t : IntType} (ht : t.width ≤ 8) {n : Nat} (hn : n < 2 ^ 64) :
    f.size (.int t n) ≤ f.numberSize := by
  cases f with
  | bincode =>
    rw [size, encode, Bincode.encode, IntType.bytes, length_leBytes]
    exact ht
  | messagePack =>
    rw [size, encode, messagePack_encode_natural]
    exact length_natural_le n
  | json =>
    rw [size, encode, json_encode_natural, length_utf8]
    exact utf8ByteSize_repr_le (by decide) (hn.trans (by decide))

theorem size_byte_le (b : UInt8) : f.size (.int .u8 b.toNat) ≤ 3 := by
  have hb := b.toNat_lt
  cases f with
  | bincode =>
    simp [size, encode, Bincode.encode, IntType.bytes, IntType.u8]
  | messagePack =>
    rw [size, encode, messagePack_encode_natural, MessagePack.natural]
    split_ifs
    · simp
    · simp [MessagePack.marked, beBytes]
  | json =>
    rw [size, encode, json_encode_natural, length_utf8]
    exact utf8ByteSize_repr_le (by decide) (by omega)

theorem length_bincode_encodeAll (items : List Datum) :
    (Bincode.encodeAll items).length = (items.map (size bincode)).sum := by
  induction items with
  | nil => rfl
  | cons d items ih =>
    rw [Bincode.encodeAll, List.length_append, ih, List.map_cons, List.sum_cons, size, encode]

theorem length_messagePack_encodeAll (items : List Datum) :
    (MessagePack.encodeAll items).length = (items.map (size messagePack)).sum := by
  induction items with
  | nil => rfl
  | cons d items ih =>
    rw [MessagePack.encodeAll, List.length_append, ih, List.map_cons, List.sum_cons, size, encode]

theorem utf8ByteSize_json_encodeAll {items : List Datum} (h : items ≠ []) :
    (",".intercalate (Json.encodeAll items)).utf8ByteSize + 1 = (items.map fun d => size json d + 1).sum := by
  have hmap : ∀ l : List Datum,
      ((Json.encodeAll l).map fun s => s.utf8ByteSize + 1) = l.map fun d => size json d + 1 := by
    intro l
    induction l with
    | nil => rfl
    | cons d l ih => rw [Json.encodeAll, List.map_cons, List.map_cons, ih, size, encode, length_utf8]
  have hne : Json.encodeAll items ≠ [] := by
    cases items with
    | nil => exact absurd rfl h
    | cons d items => exact List.cons_ne_nil _ _
  rw [utf8ByteSize_intercalate hne, hmap]

theorem sum_le_json_encodeAll (items : List Datum) :
    (items.map (size json)).sum ≤ (",".intercalate (Json.encodeAll items)).utf8ByteSize := by
  cases items with
  | nil => exact Nat.zero_le _
  | cons d items =>
    have h := utf8ByteSize_json_encodeAll (List.cons_ne_nil d items)
    have hle : (items.map (size json)).sum ≤ (items.map fun d => size json d + 1).sum :=
      List.sum_le_sum fun d _ => Nat.le_succ _
    simp only [List.map_cons, List.sum_cons] at h ⊢
    omega

theorem sum_le_size_seq (items : List Datum) : (items.map f.size).sum ≤ f.size (.seq items) := by
  cases f with
  | bincode =>
    rw [size, encode, Bincode.encode, List.length_append, length_bincode_encodeAll]
    exact Nat.le_add_left _ _
  | messagePack =>
    rw [size, encode, MessagePack.encode, List.length_append, length_messagePack_encodeAll]
    exact Nat.le_add_left _ _
  | json =>
    rw [size, encode, Json.encode, length_utf8, String.utf8ByteSize_append, String.utf8ByteSize_append]
    exact Nat.le_add_right_of_le (Nat.le_add_left_of_le (sum_le_json_encodeAll items))

theorem sum_le_size_tuple (items : List Datum) : (items.map f.size).sum ≤ f.size (.tuple items) := by
  cases f with
  | bincode =>
    exact (length_bincode_encodeAll items).ge
  | messagePack =>
    rw [size, encode, MessagePack.encode, List.length_append, length_messagePack_encodeAll]
    exact Nat.le_add_left _ _
  | json =>
    rw [size, encode, Json.encode, length_utf8, String.utf8ByteSize_append, String.utf8ByteSize_append]
    exact Nat.le_add_right_of_le (Nat.le_add_left_of_le (sum_le_json_encodeAll items))

theorem size_seq_le (items : List Datum) : f.size (.seq items) ≤ 8 + (items.map fun d => f.size d + 1).sum := by
  have hsum : (items.map f.size).sum ≤ (items.map fun d => f.size d + 1).sum :=
    List.sum_le_sum fun d _ => Nat.le_succ _
  cases f with
  | bincode =>
    rw [size, encode, Bincode.encode, List.length_append, length_bincode_encodeAll, length_leBytes]
    omega
  | messagePack =>
    have hmark : (MessagePack.arrayMark items.length).length ≤ 8 := by
      unfold MessagePack.arrayMark
      split_ifs <;> simp [MessagePack.marked, beBytes]
    rw [size, encode, MessagePack.encode, List.length_append, length_messagePack_encodeAll]
    omega
  | json =>
    have hopen : "[".utf8ByteSize = 1 := rfl
    have hclose : "]".utf8ByteSize = 1 := rfl
    rw [size, encode, Json.encode, length_utf8, String.utf8ByteSize_append, String.utf8ByteSize_append]
    cases items with
    | nil => decide
    | cons d items =>
      have := utf8ByteSize_json_encodeAll (List.cons_ne_nil d items)
      omega

end BodyFormat

end FrameGateway
