import FrameGateway.Proofs.Text.Number
import FrameGateway.Toml.Document
import Mathlib.Data.Option.Basic
/-! Whole numbers that end a line are read back from their digits: no date and no float starts with them, and
no zero stands before them that does not count. -/

namespace FrameGateway.Toml

variable {c d : Char} {cs ds r rest : List Char} {k lo hi n v : Nat}

theorem isDigit_of (h : c.isDigit) : isDigit c = true := by
  rw [isDigit, decimalDigit?_of_isDigit h]
  rfl

theorem decimalDigit?_of_decimal? (h : decimal? cs = some n) (hc : c ∈ cs) : (decimalDigit? c).isSome := by
  have hfold : ∀ (cs : List Char) (o : Option Nat),
      cs.foldl (fun n c => do return 10 * (← n) + (← decimalDigit? c)) o = some n →
        o.isSome ∧ ∀ c ∈ cs, (decimalDigit? c).isSome := by
    intro cs
    induction cs with
    | nil =>
      rintro o rfl
      exact ⟨rfl, nofun⟩
    | cons d cs ih =>
      intro o h
      obtain ⟨ho, hall⟩ := ih _ h
      cases o with
      | none => cases ho
      | some m =>
        cases hd : decimalDigit? d with
        | none =>
          dsimp only at ho
          rw [hd] at ho
          cases ho
        | some a => exact ⟨rfl, List.forall_mem_cons.mpr ⟨by rw [hd]; rfl, hall⟩⟩
  rw [decimal?] at h
  split at h
  · cases h
  · exact (hfold cs _ h).2 c hc

def GoesOn (c : Char) : Prop := c.isDigit = true ∨ c = '\n'

theorem GoesOn.ne (h : GoesOn c) (hdigit : d.isDigit = false) (hline : d ≠ '\n') : c ≠ d := by
  rintro rfl
  rcases h with h | h
  · rw [hdigit] at h
    cases h
  · exact hline h

/-- A field of a date or a time leaves a digit or the end of the line. -/
theorem field?_of_digits (h : ∀ c ∈ ds, c.isDigit) (hf : field? k lo hi (ds ++ '\n' :: rest) = some (v, r)) :
    ∃ c r', r = c :: r' ∧ GoesOn c := by
  have hfield : (decimal? ((ds ++ '\n' :: rest).take k)).isSome ∧ (ds ++ '\n' :: rest).drop k = r := by
    rw [field?, Option.bind_eq_bind, Option.bind_eq_some_iff] at hf
    obtain ⟨-, -, hf⟩ := hf
    rw [Option.bind_eq_bind, Option.bind_eq_some_iff] at hf
    obtain ⟨v', hv, hif⟩ := hf
    split at hif
    · cases hif
      exact ⟨by rw [hv]; rfl, rfl⟩
    · cases hif
  obtain ⟨hdecimal, rfl⟩ := hfield
  by_cases hk : k ≤ ds.length
  · rw [List.drop_append_of_le_length hk]
    cases hr : ds.drop k with
    | nil => exact ⟨'\n', rest, rfl, .inr rfl⟩
    | cons c r => exact ⟨c, r ++ '\n' :: rest, rfl, .inl (h c (List.mem_of_mem_drop (hr ▸ List.mem_cons_self)))⟩
  · -- the field would reach past the end of the line
    have hline : '\n' ∈ (ds ++ '\n' :: rest).take k := by
      obtain ⟨j, hj⟩ : ∃ j, k = ds.length + (j + 1) := ⟨k - ds.length - 1, by omega⟩
      rw [hj, List.take_length_add_append, List.take_succ_cons]
      exact List.mem_append_right _ List.mem_cons_self
    obtain ⟨n, hn⟩ := Option.isSome_iff_exists.mp hdecimal
    exact absurd (decimalDigit?_of_decimal? hn hline) (by decide)

theorem time?_of_digits (h : ∀ c ∈ ds, c.isDigit) : time? (ds ++ '\n' :: rest) = some none := by
  rw [time?]
  split
  next v r hf =>
    obtain ⟨c, r', hr, hc⟩ := field?_of_digits h hf
    obtain ⟨rfl, -⟩ := List.cons.inj hr
    exact absurd rfl (hc.ne (d := ':') rfl (by decide))
  next => rfl

theorem datetime?_of_digits (h : ∀ c ∈ ds, c.isDigit) : datetime? (ds ++ '\n' :: rest) = some none := by
  rw [datetime?]
  split
  next v r hf =>
    obtain ⟨c, r', hr, hc⟩ := field?_of_digits h hf
    obtain ⟨rfl, -⟩ := List.cons.inj hr
    exact absurd rfl (hc.ne (d := '-') rfl (by decide))
  next => exact time?_of_digits h

theorem underscored_of_digits (h : ∀ c ∈ ds, c.isDigit) (acc : List Char) :
    underscored isDigit (ds ++ '\n' :: rest) acc = some (acc.reverse ++ ds, '\n' :: rest) := by
  induction ds generalizing acc with
  | nil =>
    rw [List.nil_append, underscored.eq_def]
    simp [show isDigit '\n' = false from rfl]
  | cons d ds ih =>
    obtain ⟨hd, hds⟩ := List.forall_mem_cons.mp h
    have hne : d ≠ '_' := by
      rintro rfl
      cases hd
    rw [List.cons_append, underscored.eq_def]
    simp [isDigit_of hd, ih hds, hne]

/-- Digits of a number: one at least, and a zero only if it is the only one. -/
structure Digits (ds : List Char) : Prop where
  digit : ∀ c ∈ ds, c.isDigit
  nonempty : ds ≠ []
  zero : ds.head? = some '0' → ds = ['0']

theorem digits_toString (n : Nat) : Digits (toString n).toList where
  digit _ hc := isDigit_of_mem hc
  nonempty := toString_ne_nil n
  zero h := by
    rw [Nat.toString_eq_ofList_toDigits, String.toList_ofList] at h ⊢
    induction n using Nat.strongRecOn with
    | ind n ih =>
      by_cases hn : n < 10
      · rw [Nat.toDigits_of_lt_base hn] at h ⊢
        exact congrArg (· :: []) (Option.some.inj h)
      · -- the number without its last digit starts with a zero too, so that it is nothing
        have hsplit := Nat.toDigits_of_base_le (b := 10) (n := n) (by decide) (by omega)
        obtain ⟨c, r, hcons⟩ := List.exists_cons_of_ne_nil (Nat.toDigits_ne_nil : Nat.toDigits 10 (n / 10) ≠ [])
        rw [hsplit, hcons] at h
        have hzero := ih (n / 10) (by omega) (hcons ▸ h)
        have hvalue := congrArg (Nat.ofDigitChars 10 · 0) hzero
        rw [Nat.ofDigitChars_ten_toDigits] at hvalue
        have : n / 10 = 0 := hvalue
        omega

/-- The first digit, and the others behind it. -/
theorem Digits.exists_cons (h : Digits ds) :
    ∃ d r, ds = d :: r ∧ d.isDigit ∧ (∀ c ∈ r, c.isDigit) ∧ (d = '0' → r = []) := by
  obtain ⟨d, r, rfl⟩ := List.exists_cons_of_ne_nil h.nonempty
  obtain ⟨hd, hr⟩ := List.forall_mem_cons.mp h.digit
  refine ⟨d, r, rfl, hd, hr, ?_⟩
  rintro rfl
  exact List.cons.inj (h.zero rfl) |>.2

theorem sign_of_isDigit (h : d.isDigit) : sign (d :: r) = (false, d :: r) := by
  rw [sign.eq_def]
  split
  next heq => obtain ⟨rfl, -⟩ := List.cons.inj heq; cases h
  next heq => obtain ⟨rfl, -⟩ := List.cons.inj heq; cases h
  next => rfl

theorem Digits.decimalInteger_eq (h : Digits ds) :
    decimalInteger (ds ++ '\n' :: rest) = some (some (false, ds, '\n' :: rest)) := by
  obtain ⟨d, r, rfl, hd, hr, hzero⟩ := h.exists_cons
  rw [decimalInteger, List.cons_append, sign_of_isDigit hd]
  dsimp only
  split
  next heq =>
    obtain ⟨rfl, rfl⟩ := List.cons.inj heq
    rw [hzero rfl, List.nil_append]
  next heq =>
    obtain ⟨rfl, rfl⟩ := List.cons.inj heq
    rw [if_pos (isDigit_of hd), underscored_of_digits hr]
    rfl
  next heq => cases heq

theorem Digits.float?_eq (h : Digits ds) : float? (ds ++ '\n' :: rest) = some none := by
  obtain ⟨d, r, rfl, hd, -, -⟩ := h.exists_cons
  have hsign : (sign (d :: r ++ '\n' :: rest)).2 = d :: r ++ '\n' :: rest := by
    rw [List.cons_append, sign_of_isDigit hd]
  simp only [float?, h.decimalInteger_eq, hsign, Option.bind_eq_bind, Option.bind_some]
  split
  next heq => cases heq
  next heq => cases heq
  next heq => cases heq
  next =>
    refine congrArg some ?_
    split
    next heq => obtain ⟨rfl, -⟩ := List.cons.inj heq; cases hd
    next heq => obtain ⟨rfl, -⟩ := List.cons.inj heq; cases hd
    next => rfl

theorem integer?_toString (h : n < 2 ^ 63) :
    integer? ((toString n).toList ++ '\n' :: rest) = some ((n : Int), '\n' :: rest) := by
  have hdigits := digits_toString n
  have hvalue := decimal?_toString n
  generalize (toString n).toList = ds at hdigits hvalue
  have hlo : -2 ^ 63 ≤ (n : Int) ∧ (n : Int) < 2 ^ 63 := by omega
  obtain ⟨d, r, hcons, -, hr, hzero⟩ := hdigits.exists_cons
  -- a mark of another base would stand behind a zero that is alone
  have hmark : ∀ m s, ds ++ '\n' :: rest = '0' :: m :: s → m = '\n' := by
    intro m s heq
    rw [hcons, List.cons_append] at heq
    obtain ⟨hd, heq⟩ := List.cons.inj heq
    rw [hzero hd] at heq
    exact (List.cons.inj heq).1.symm
  rw [integer?.eq_def]
  split
  next heq => exact absurd (hmark _ _ heq) (by decide)
  next heq => exact absurd (hmark _ _ heq) (by decide)
  next heq => exact absurd (hmark _ _ heq) (by decide)
  next =>
    dsimp only
    rw [hdigits.decimalInteger_eq, Option.bind_eq_bind, Option.bind_some, Option.bind_eq_bind, Option.bind_some]
    dsimp only
    rw [hvalue, if_neg Bool.false_ne_true, Option.getD_some, if_pos hlo]

theorem value?_of_isDigit (depth : Nat) (h : d.isDigit) : value? depth (d :: r) = number? (d :: r) := by
  rw [value?]
  · rw [if_pos (by simp [isDigit_of h])]
  all_goals
    -- no quote, bracket or letter is a digit
    rintro rfl
    cases h

theorem value?_toString (depth : Nat) (h : n < 2 ^ 63) :
    value? depth ((toString n).toList ++ '\n' :: rest) = some (.integer n, '\n' :: rest) := by
  have hdigits := digits_toString n
  have hnumber : number? ((toString n).toList ++ '\n' :: rest) = some (.integer n, '\n' :: rest) := by
    simp only [number?, datetime?_of_digits hdigits.digit, hdigits.float?_eq, integer?_toString h,
      Option.bind_eq_bind, Option.bind_some, Option.map_some]
  obtain ⟨d, r, hcons, hd, -, -⟩ := hdigits.exists_cons
  rw [hcons, List.cons_append] at hnumber ⊢
  rw [value?_of_isDigit depth hd, hnumber]

end FrameGateway.Toml
