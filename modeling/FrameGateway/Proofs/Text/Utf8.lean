import FrameGateway.Text.Utf8
import Mathlib.Tactic.Common
/-! Text and its bytes. Every text is read back from its bytes, so no two texts have the same. -/

namespace FrameGateway

theorem toList_loop (bs : ByteArray) (i : Nat) (acc : Bytes) :
    ByteArray.toList.loop bs i acc = acc.reverse ++ bs.data.toList.drop i := by
  fun_induction ByteArray.toList.loop bs i acc with
  | case1 i acc hi ih =>
    have hlen : i < bs.data.toList.length := hi
    have hget : bs.get! i = bs.data.toList[i] := by
      rw [ByteArray.get!, getElem!_pos bs.data i hi, Array.getElem_toList]
    rw [ih, List.drop_eq_getElem_cons hlen, hget]
    simp
  | case2 i acc hi =>
    have hlen : bs.data.toList.length ≤ i := Nat.le_of_not_lt hi
    rw [List.drop_eq_nil_of_le hlen, List.append_nil]

theorem utf8_eq (s : String) : utf8 s = s.toByteArray.data.toList := by
  rw [utf8, ByteArray.toList, toList_loop, List.reverse_nil, List.nil_append, List.drop_zero,
    String.toUTF8_eq_toByteArray]

@[simp] theorem utf8_empty : utf8 "" = [] := by rw [utf8_eq]; rfl

theorem length_utf8 (s : String) : (utf8 s).length = s.utf8ByteSize := by
  rw [utf8_eq]
  rfl

theorem utf8ByteSize_replicate (c : Char) (n : Nat) :
    (String.ofList (List.replicate n c)).utf8ByteSize = n * c.utf8Size := by
  induction n with
  | zero => rw [Nat.zero_mul]; rfl
  | succ n ih =>
    rw [List.replicate_succ, String.ofList_cons, String.utf8ByteSize_append, String.utf8ByteSize_singleton, ih,
      Nat.succ_mul, Nat.add_comm]

@[simp] theorem utf8?_utf8 (s : String) : utf8? (utf8 s) = some s := by
  rw [utf8_eq, utf8?, Array.toArray_toList]
  exact dif_pos s.isValidUTF8

theorem utf8_injective : Function.Injective utf8 := fun s t h => by
  have ht := utf8?_utf8 t
  rw [← h, utf8?_utf8] at ht
  exact Option.some.inj ht

end FrameGateway
