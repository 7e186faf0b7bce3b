import FrameGateway.Text.Number
import Mathlib.Tactic.Common
/-! Numbers are read back from their decimal digits, and words without blanks pass unchanged through what
takes blanks off. -/

namespace FrameGateway

theorem decimalDigit?_of_isDigit {c : Char} (h : c.isDigit) : decimalDigit? c = some (c.toNat - 48) := by
  simp only [Char.isDigit, Bool.and_eq_true, decide_eq_true_eq] at h
  rw [decimalDigit?, if_pos ⟨h.1, h.2⟩]

theorem isDigit_of_mem {n : Nat} {c : Char} (h : c ∈ (toString n).toList) : c.isDigit := by
  rw [Nat.toString_eq_ofList_toDigits, String.toList_ofList] at h
  exact Nat.isDigit_of_mem_toDigits (Nat.succ_pos 9) (Nat.le_refl 10) h

theorem foldl_decimal {cs : List Char} (h : ∀ c ∈ cs, c.isDigit) (n : Nat) :
    cs.foldl (fun n c => do return 10 * (← n) + (← decimalDigit? c)) (some n) =
      some (Nat.ofDigitChars 10 cs n) := by
  induction cs generalizing n with
  | nil => rfl
  | cons c cs ih =>
    rw [List.foldl_cons, decimalDigit?_of_isDigit (h c List.mem_cons_self), Nat.ofDigitChars_cons]
    exact ih (fun d hd => h d (List.mem_cons_of_mem _ hd)) _

theorem toString_ne_nil (n : Nat) : (toString n).toList ≠ [] := by
  rw [Nat.toString_eq_ofList_toDigits, String.toList_ofList]
  exact Nat.toDigits_ne_nil

@[simp] theorem decimal?_toString (n : Nat) : decimal? (toString n).toList = some n := by
  rw [decimal?, if_neg (by simp), foldl_decimal (fun _ => isDigit_of_mem),
    Nat.toString_eq_ofList_toDigits, String.toList_ofList, Nat.ofDigitChars_ten_toDigits]

theorem natural?_toString {bound n : Nat} (h : n < bound) : natural? bound (toString n) = some n := by
  have hread : (decimal? (toString n).toList).filter (· < bound) = some n := by
    rw [decimal?_toString, Option.filter_some, if_pos (by simpa using h)]
  rw [natural?]
  split
  next r hplus =>
    -- a plus sign is no digit
    have hmem : '+' ∈ (toString n).toList := by rw [hplus]; exact List.mem_cons_self
    exact absurd (isDigit_of_mem hmem) (by decide)
  next => exact hread

theorem natural?_lt {bound n : Nat} {s : String} (h : natural? bound s = some n) : n < bound := by
  rw [natural?, Option.filter_eq_some_iff] at h
  simpa using h.2

theorem trimBlanks_of_forall {s : String} (h : ∀ c ∈ s.toList, isUnicodeBlank c = false) : trimBlanks s = s := by
  have hdrop : ∀ cs : List Char, (∀ c ∈ cs, isUnicodeBlank c = false) → cs.dropWhile isUnicodeBlank = cs := by
    intro cs hcs
    cases cs with
    | nil => rfl
    | cons c cs => rw [List.dropWhile_cons, if_neg (by simp [hcs c List.mem_cons_self])]
  rw [trimBlanks, hdrop _ h, hdrop _ (by simpa using h), List.reverse_reverse, String.ofList_toList]

theorem isUnicodeBlank_of_isDigit {c : Char} (h : c.isDigit) : isUnicodeBlank c = false := by
  simp only [Char.isDigit, Bool.and_eq_true, decide_eq_true_eq] at h
  have hlo : 48 ≤ c.toNat := h.1
  have hhi : c.toNat ≤ 57 := h.2
  simp only [isUnicodeBlank, Bool.or_eq_false_iff, Bool.and_eq_false_iff, decide_eq_false_iff_not, beq_eq_false_iff_ne]
  omega

@[simp] theorem trimBlanks_toString (n : Nat) : trimBlanks (toString n) = toString n :=
  trimBlanks_of_forall fun _ hc => isUnicodeBlank_of_isDigit (isDigit_of_mem hc)

end FrameGateway
