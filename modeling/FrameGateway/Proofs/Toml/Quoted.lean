import FrameGateway.Toml.Text
import FrameGateway.Toml.Scalar
import Mathlib.Tactic.Common
/-! Texts in quotes are read back. Whichever quotes a text is given, what stands between them follows one
grammar, in which a character, raw or escaped, is one step of the reading. -/

namespace FrameGateway.Toml

variable {q c : Char} {p cs body r rest acc : List Char} {escapes lines : Bool} {most run n : Nat}

theorem newline?_of_isPlain (h : isPlain c) : newline? (c :: r) = none := by
  rw [newline?.eq_def]
  split
  next heq =>
    obtain ⟨rfl, -⟩ := List.cons.inj heq
    exact absurd h (by decide)
  next heq =>
    obtain ⟨rfl, -⟩ := List.cons.inj heq
    exact absurd h (by decide)
  next => rfl

theorem lineContinuation?_of_isPlain (h : isPlain c) (hblank : isBlank c = false) :
    lineContinuation? (c :: r) = none := by
  rw [lineContinuation?, skipBlank, List.dropWhile_cons, if_neg (by simp [hblank]), newline?_of_isPlain h]
  rfl

theorem foldl_hexDigits (w n v : Nat) :
    ((hexDigits w n).map Char.toUpper).foldl (fun v c => do return 16 * (← v) + (← hexValue? c)) (some v) =
      some (v * 16 ^ w + n % 16 ^ w) := by
  have hdigit : ∀ d < 16, hexValue? (hexDigit d).toUpper = some d := by decide +kernel
  induction w generalizing n with
  | zero => simp [hexDigits, Nat.mod_one]
  | succ w ih =>
    rw [hexDigits, List.map_append, List.foldl_append, ih]
    simp only [List.map_cons, List.map_nil, List.foldl_cons, List.foldl_nil,
      hdigit _ (Nat.mod_lt n (by decide : 0 < 16))]
    refine congrArg some ?_
    have hshift := Nat.mul_left_comm v 16 (16 ^ w)
    rw [Nat.pow_succ', Nat.mod_mul]
    omega

theorem length_hexDigits (w n : Nat) : (hexDigits w n).length = w := by
  induction w generalizing n with
  | zero => rfl
  | succ w ih => rw [hexDigits, List.length_append, ih, List.length_singleton]

theorem unicode?_hexDigits (w : Nat) (h : c.toNat < 16 ^ w) :
    unicode? w ((hexDigits w c.toNat).map Char.toUpper ++ r) = some (c, r) := by
  have hlength : ((hexDigits w c.toNat).map Char.toUpper).length = w := by rw [List.length_map, length_hexDigits]
  have hvalue := foldl_hexDigits w c.toNat 0
  rw [Nat.zero_mul, Nat.zero_add, Nat.mod_eq_of_lt h] at hvalue
  have hvalid : c.toNat.isValidChar := c.valid
  have hchar : Char.ofNatAux c.toNat hvalid = c := by
    have := Char.ofNat_toNat c
    rwa [Char.ofNat, dif_pos hvalid] at this
  rw [unicode?, List.take_left' hlength, List.drop_left' hlength, guard, if_pos hlength, hvalue]
  change (if h : c.toNat.isValidChar then some (Char.ofNatAux c.toNat h, r) else none) = _
  rw [dif_pos hvalid, hchar]

/-- How a character may stand between quotes: as it is, or as an escape where there are `escapes`. A line end may
stand as it is in a string of many `lines`. -/
inductive Piece (q : Char) (escapes lines : Bool) (c : Char) : List Char → Prop where
  | plain (hc : isPlain c) (hq : c ≠ q) (he : escapes → c ≠ '\\') : Piece q escapes lines c [c]
  | line (hl : lines) (hc : c = '\n') : Piece q escapes lines c [c]
  | escape {d : Char} {ds : List Char} (he : escapes) (hd : isPlain d) (hb : isBlank d = false)
      (h : ∀ r, escape? (d :: ds ++ r) = some (c, r)) : Piece q escapes lines c ('\\' :: d :: ds)

/-- What stands between quotes for a text after `run` quotes that belong to it too. As many as `most` quotes in a row
may stand as they are. -/
inductive Inside (q : Char) (escapes lines : Bool) (most : Nat) : Nat → List Char → List Char → Prop where
  | done {run : Nat} : Inside q escapes lines most run [] []
  | quote {run : Nat} {cs body : List Char} (h : run < most) (go : Inside q escapes lines most (run + 1) cs body) :
      Inside q escapes lines most run (q :: cs) (q :: body)
  | piece {run : Nat} {c : Char} {p cs body : List Char} (h : Piece q escapes lines c p)
      (go : Inside q escapes lines most 0 cs body) : Inside q escapes lines most run (c :: cs) (p ++ body)

/-- The quotes of strings; only double ones have escapes between them. -/
inductive Marks : Char → Bool → Prop where
  | double : Marks '"' true
  | single : Marks '\'' false

theorem Marks.isPlain (hq : Marks q escapes) : isPlain q := by
  cases hq <;> rfl

theorem Marks.ne_of (hq : Marks q escapes) (hc : c ≠ '"') (hc' : c ≠ '\'') : c ≠ q := by
  cases hq
  · exact hc
  · exact hc'

/-- A piece starts with a plain character or a line end, and with no quote. -/
theorem Piece.exists_cons (h : Piece q escapes lines c p) (hq : Marks q escapes) :
    ∃ d ds, p = d :: ds ∧ d ≠ q ∧ (isPlain d ∨ c = '\n') := by
  cases h with
  | plain hc hne => exact ⟨c, [], rfl, hne, .inl hc⟩
  | line hl hc => exact ⟨c, [], rfl, hc ▸ hq.ne_of (by decide) (by decide), .inr hc⟩
  | escape => exact ⟨'\\', _, rfl, hq.ne_of (by decide) (by decide), .inl (by decide)⟩

theorem not_escape (he : escapes → c ≠ '\\') : ¬(escapes && decide (c = '\\')) = true := by
  rw [Bool.and_eq_true, decide_eq_true_eq]
  exact fun ⟨h, hc⟩ => he h hc

theorem Piece.lineString_eq (h : Piece q escapes false c p) (hq : Marks q escapes) :
    lineString q escapes (n + 1) (p ++ r) acc = lineString q escapes n r (c :: acc) := by
  cases h with
  | plain hc hne he => rw [List.singleton_append, lineString, if_neg hne, if_neg (not_escape he), if_pos hc]
  | line hl => cases hl
  | escape he hd hb h =>
    rw [List.cons_append, lineString, if_neg (hq.ne_of (by decide) (by decide)), if_pos (by simp [he]), h]

theorem Piece.blockString_eq (h : Piece q escapes lines c p) (hq : Marks q escapes) :
    blockString q escapes (n + 1) (p ++ r) acc = blockString q escapes n r (c :: acc) := by
  cases h with
  | plain hc hne he =>
    rw [List.singleton_append, blockString, if_neg hne, if_neg (not_escape he), newline?_of_isPlain hc]
    exact if_pos hc
  | line hl hc =>
    subst hc
    rw [List.singleton_append, blockString, if_neg (hq.ne_of (by decide) (by decide)),
      if_neg (not_escape fun _ => by decide)]
    rfl
  | escape he hd hb h =>
    rw [List.cons_append, blockString, if_neg (hq.ne_of (by decide) (by decide)), if_pos (by simp [he]),
      List.cons_append, lineContinuation?_of_isPlain hd hb, ← List.cons_append, h]

theorem replicate_append_cons (k : Nat) : List.replicate k q ++ q :: r = List.replicate (k + 1) q ++ r := by
  rw [List.replicate_succ', List.append_assoc, List.singleton_append]

theorem takeWhile_quotes (k : Nat) (hc : c ≠ q) :
    (List.replicate k q ++ c :: r).takeWhile (· = q) = List.replicate k q := by
  simp [hc]

/-- Quotes that are read before another character belong to the text. -/
theorem blockString_quotes (hrun : run < 3) (hc : c ≠ q) (hn : run < n) :
    ∃ m, n ≤ m + run ∧ blockString q escapes n (List.replicate run q ++ c :: r) acc =
      blockString q escapes m (c :: r) (List.replicate run q ++ acc) := by
  cases run with
  | zero => exact ⟨n, Nat.le_refl n, rfl⟩
  | succ k =>
    obtain ⟨m, rfl⟩ : ∃ m, n = m + 1 := ⟨n - 1, by omega⟩
    refine ⟨m, by omega, ?_⟩
    rw [List.replicate_succ, List.cons_append, blockString, if_pos rfl, takeWhile_quotes k hc]
    dsimp only
    rw [List.length_replicate, if_pos (by omega), Nat.add_comm 1 k, List.drop_succ_cons,
      List.drop_left' List.length_replicate, ← List.replicate_succ]

/-- The quotes that close a text, and up to two before them. -/
theorem blockString_close (hrun : run < 3) (hc : c ≠ q) :
    blockString q escapes (n + 1) (List.replicate run q ++ q :: q :: q :: c :: r) acc =
      some (String.ofList (acc.reverse ++ List.replicate run q), c :: r) := by
  have hinside : min (1 + (run + 2) - 3) 2 = run := by omega
  rw [replicate_append_cons, replicate_append_cons, replicate_append_cons, List.replicate_succ, List.cons_append,
    blockString, if_pos rfl, takeWhile_quotes _ hc]
  dsimp only
  rw [List.length_replicate, if_neg (by omega), hinside, List.drop_succ_cons, List.drop_left' List.length_replicate]

/-- Each step of the reading takes one piece, up to the quote that closes the text. -/
theorem Inside.lineString_eq (h : Inside q escapes false 0 run cs body) (hq : Marks q escapes) (hn : cs.length < n) :
    lineString q escapes n (body ++ q :: r) acc = some (String.ofList (acc.reverse ++ cs), r) := by
  induction h generalizing n acc with
  | done =>
    obtain ⟨m, rfl⟩ : ∃ m, n = m + 1 := ⟨n - 1, by omega⟩
    rw [List.nil_append, lineString, if_pos rfl, List.append_nil]
  | quote hrun => exact absurd hrun (Nat.not_lt_zero _)
  | piece hp go ih =>
    rw [List.length_cons] at hn
    obtain ⟨m, rfl⟩ : ∃ m, n = m + 1 := ⟨n - 1, by omega⟩
    rw [List.append_assoc, hp.lineString_eq hq, ih (by omega), List.reverse_cons, List.append_assoc,
      List.singleton_append]

/-- The quotes before a piece are taken together, so that the reading may be that much ahead. -/
theorem Inside.blockString_eq (h : Inside q escapes lines 2 run cs body) (hq : Marks q escapes) (hrun : run < 3)
    (hc : c ≠ q) (hn : cs.length + run < n) :
    blockString q escapes n (List.replicate run q ++ (body ++ q :: q :: q :: c :: r)) acc =
      some (String.ofList (acc.reverse ++ (List.replicate run q ++ cs)), c :: r) := by
  induction h generalizing n acc with
  | done =>
    obtain ⟨m, rfl⟩ : ∃ m, n = m + 1 := ⟨n - 1, by omega⟩
    rw [List.nil_append, blockString_close hrun hc, List.append_nil]
  | quote hmost go ih =>
    rw [List.length_cons] at hn
    rw [List.cons_append, replicate_append_cons, replicate_append_cons, ih (by omega) (by omega)]
  | @piece run e p cs body hp go ih =>
    rw [List.length_cons] at hn
    obtain ⟨d, ds, rfl, hd, -⟩ := hp.exists_cons hq
    -- the quotes before the piece are taken first, and no quotes are left for what follows it
    obtain ⟨m, hm, hquotes⟩ : ∃ m, n ≤ m + run ∧
        blockString q escapes n (List.replicate run q ++ d :: (ds ++ (body ++ q :: q :: q :: c :: r))) acc =
          blockString q escapes m (d :: (ds ++ (body ++ q :: q :: q :: c :: r))) (List.replicate run q ++ acc) :=
      blockString_quotes hrun hd (by omega)
    obtain ⟨k, rfl⟩ : ∃ k, m = k + 1 := ⟨m - 1, by omega⟩
    have hgo := @ih (e :: (List.replicate run q ++ acc)) k (by omega) (by omega)
    rw [List.replicate_zero, List.nil_append, List.nil_append] at hgo
    rw [List.append_assoc, List.cons_append, hquotes, ← List.cons_append, hp.blockString_eq hq, hgo]
    simp

theorem Inside.head_ne (h : Inside q escapes lines 0 0 cs body) (hq : Marks q escapes) : body.head? ≠ some q := by
  cases h with
  | done => exact nofun
  | quote hrun => exact absurd hrun (Nat.not_lt_zero _)
  | piece hp go =>
    obtain ⟨d, ds, rfl, hd, -⟩ := hp.exists_cons hq
    exact fun h => hd (Option.some.inj h)

/-- No line end is taken off the front of a text that has none. -/
theorem Inside.newline?_eq_none (h : Inside q escapes lines most run cs body) (hq : Marks q escapes)
    (hline : '\n' ∉ cs) : newline? (body ++ q :: r) = none := by
  cases h with
  | done => exact newline?_of_isPlain hq.isPlain
  | quote => exact newline?_of_isPlain hq.isPlain
  | piece hp go =>
    obtain ⟨d, ds, rfl, -, hd | rfl⟩ := hp.exists_cons hq
    · exact newline?_of_isPlain hd
    · exact absurd List.mem_cons_self hline

theorem isPlain_of_not_isControl (h : isControl c = false) (hc : c ≠ '\n') : isPlain c := by
  simp only [isControl, Bool.or_eq_false_iff, Bool.and_eq_false_iff, decide_eq_false_iff_not] at h
  simp only [isPlain, Bool.or_eq_true, Bool.and_eq_true, decide_eq_true_eq]
  by_cases ht : c = '\t'
  · exact .inl ht
  · obtain ⟨(hlo | hne) | hne, hdel⟩ := h
    · exact .inr ⟨Nat.le_of_not_lt hlo, hdel⟩
    · exact absurd ht hne
    · exact absurd hc hne

theorem lt_of_isControl (h : isControl c) : c.toNat < 16 ^ 4 := by
  simp only [isControl, Bool.or_eq_true, Bool.and_eq_true, decide_eq_true_eq] at h
  omega

theorem Piece.letter {d : Char} (hd : isPlain d) (hb : isBlank d = false)
    (h : ∀ r, escape? (d :: r) = some (c, r)) : Piece q true lines c ['\\', d] :=
  .escape rfl hd hb h

/-- Escapes make a text fit between double quotes, whatever it is. -/
theorem inside_escaped (cs : List Char) (run : Nat) :
    Inside '"' true lines most run cs (escaped lines most cs run) := by
  induction cs generalizing run with
  | nil => exact .done
  | cons c cs ih =>
    rw [escaped.eq_def]
    dsimp only
    split
    next hc =>
      subst hc
      split
      next hrun => exact .quote hrun (ih (run + 1))
      next => exact .piece (.letter (d := '"') rfl rfl fun _ => rfl) (ih 0)
    next hc =>
      refine .piece ?_ (ih 0)
      split
      next => exact .letter rfl rfl fun _ => rfl
      next => exact .letter rfl rfl fun _ => rfl
      next => exact .letter rfl rfl fun _ => rfl
      next =>
        split
        next hl => exact .line hl rfl
        next => exact .letter rfl rfl fun _ => rfl
      next => exact .letter rfl rfl fun _ => rfl
      next => exact .letter rfl rfl fun _ => rfl
      next hslash _ _ hline _ _ =>
        split
        next hcode => exact .escape rfl rfl rfl fun r => unicode?_hexDigits 4 (lt_of_isControl hcode)
        next hcode =>
          exact .plain (isPlain_of_not_isControl (Bool.eq_false_iff.mpr hcode) hline) hc fun _ => hslash

/-- The longest run of `c` and the one that is not over, after one more character. -/
def nextRun (c : Char) (s : Nat × Nat) (d : Char) : Nat × Nat :=
  if d = c then (max s.1 (s.2 + 1), s.2 + 1) else (s.1, 0)

theorem longestRun_eq (c : Char) (cs : List Char) : longestRun c cs = (cs.foldl (nextRun c) (0, 0)).1 := rfl

/-- No run that has been counted is forgotten. -/
theorem le_longestRun (cs : List Char) (s : Nat × Nat) : s.1 ≤ (cs.foldl (nextRun c) s).1 := by
  induction cs generalizing s with
  | nil => exact Nat.le_refl _
  | cons d cs ih =>
    refine Nat.le_trans ?_ (ih (nextRun c s d))
    rw [nextRun]
    split
    · exact Nat.le_max_left ..
    · exact Nat.le_refl _

/-- A text without control characters stands for itself, if the quotes in it are few enough in a row. -/
theorem inside_self (hcodes : ∀ c ∈ cs, isControl c = false) (hline : '\n' ∈ cs → lines)
    (hmost : longestRun q cs ≤ most) : Inside q false lines most 0 cs cs := by
  have hgo : ∀ (cs : List Char) (s : Nat × Nat), (∀ c ∈ cs, isControl c = false) → ('\n' ∈ cs → lines) →
      (cs.foldl (nextRun q) s).1 ≤ most → Inside q false lines most s.2 cs cs := by
    intro cs
    induction cs with
    | nil => exact fun _ _ _ _ => .done
    | cons c cs ih =>
      intro s hcodes hline h
      obtain ⟨hc, hcs⟩ := List.forall_mem_cons.mp hcodes
      have hgo := ih (nextRun q s c) hcs (fun hmem => hline (List.mem_cons_of_mem c hmem)) h
      have hbest := Nat.le_trans (le_longestRun cs (nextRun q s c)) h
      by_cases heq : c = q
      · subst heq
        rw [nextRun, if_pos rfl] at hgo hbest
        exact .quote (Nat.le_trans (Nat.le_max_right ..) hbest) hgo
      · rw [nextRun, if_neg heq] at hgo
        refine .piece (p := [c]) ?_ hgo
        by_cases hc' : c = '\n'
        · exact .line (hline (hc' ▸ List.mem_cons_self)) hc'
        · exact .plain (isPlain_of_not_isControl hc hc') heq nofun
  rw [longestRun_eq] at hmost
  exact hgo cs (0, 0) hcodes hline hmost

/-! ### From the opening quote on -/

theorem Inside.length_le (h : Inside q escapes lines most run cs body) (hq : Marks q escapes) :
    cs.length ≤ body.length := by
  induction h with
  | done => exact Nat.le_refl 0
  | quote _ _ ih => exact Nat.succ_le_succ ih
  | piece hp _ ih =>
    obtain ⟨d, ds, rfl, -, -⟩ := hp.exists_cons hq
    simp only [List.length_cons, List.length_append]
    omega

theorem Inside.string?_line (h : Inside q escapes false 0 0 cs body) (hq : Marks q escapes) :
    string? (q :: (body ++ q :: '\n' :: rest)) = some (String.ofList cs, '\n' :: rest) := by
  have hlength := h.length_le hq
  have hread : lineString q escapes ((q :: (body ++ q :: '\n' :: rest)).length + 1) (body ++ q :: '\n' :: rest) [] =
      some (String.ofList cs, '\n' :: rest) :=
    h.lineString_eq hq (by simp only [List.length_cons, List.length_append]; omega)
  -- the quotes are not the first two of three
  have hfirst : ∀ r, body ++ q :: '\n' :: rest = q :: q :: r → False := by
    intro r heq
    cases body with
    | nil => exact absurd (List.cons.inj (List.cons.inj heq).2).1 (hq.ne_of (by decide) (by decide))
    | cons d ds => exact h.head_ne hq (congrArg some (List.cons.inj heq).1)
  cases hq
  all_goals
    rw [string?]
    · exact hread
    · exact hfirst

theorem Inside.string?_block (h : Inside q escapes lines 2 0 cs body) (hq : Marks q escapes) {lead : List Char}
    (hlead : lead = ['\n'] ∨ lead = [] ∧ '\n' ∉ cs) :
    string? (q :: q :: q :: (lead ++ (body ++ q :: q :: q :: '\n' :: rest))) =
      some (String.ofList cs, '\n' :: rest) := by
  have hlength := h.length_le hq
  have hread : blockString q escapes ((q :: q :: q :: (lead ++ (body ++ q :: q :: q :: '\n' :: rest))).length + 1)
      (body ++ q :: q :: q :: '\n' :: rest) [] = some (String.ofList cs, '\n' :: rest) :=
    h.blockString_eq hq (by decide) (hq.ne_of (by decide) (by decide))
      (by simp only [List.length_cons, List.length_append]; omega)
  have htrimmed : (newline? (lead ++ (body ++ q :: q :: q :: '\n' :: rest))).getD
      (lead ++ (body ++ q :: q :: q :: '\n' :: rest)) = body ++ q :: q :: q :: '\n' :: rest := by
    rcases hlead with rfl | ⟨rfl, hnone⟩
    · rfl
    · rw [List.nil_append, h.newline?_eq_none hq hnone]
      rfl
  cases hq
  all_goals
    rw [string?]
    dsimp only
    rw [htrimmed]
    exact hread

/-- A text that is written in quotes is read back, and what follows it is left. -/
theorem string?_quoted (s : String) :
    string? ((quoted s).toList ++ '\n' :: rest) = some (s, '\n' :: rest) := by
  have hlead : (if s.toList.contains '\n' then "\n" else "").toList = ['\n'] ∨
      (if s.toList.contains '\n' then "\n" else "").toList = [] ∧ '\n' ∉ s.toList := by
    cases h : s.toList.contains '\n' with
    | true => exact .inl rfl
    | false => exact .inr ⟨rfl, by simpa using h⟩
  have hraw : s.toList.any isControl = false → ∀ c ∈ s.toList, isControl c = false := by simp
  have hdouble : string? ('"' :: (escaped false 0 s.toList 0 ++ '"' :: '\n' :: rest)) = some (s, '\n' :: rest) := by
    rw [(inside_escaped s.toList 0).string?_line .double, String.ofList_toList]
  have hblock : string? ('"' :: '"' :: '"' :: ((if s.toList.contains '\n' then "\n" else "").toList ++
      (escaped true 2 s.toList 0 ++ '"' :: '"' :: '"' :: '\n' :: rest))) = some (s, '\n' :: rest) := by
    rw [(inside_escaped s.toList 0).string?_block .double hlead, String.ofList_toList]
  rw [quoted]
  dsimp only
  split
  next => simpa using hdouble
  split
  next h =>
    obtain ⟨⟨hcodes, hsingle⟩, hline⟩ : (s.toList.any isControl = false ∧ longestRun '\'' s.toList = 0) ∧
        s.toList.contains '\n' = false := by simpa using h
    have hinside : Inside '\'' false false 0 0 s.toList s.toList :=
      inside_self (hraw hcodes) (by simpa using hline) (Nat.le_of_eq hsingle)
    simpa using hinside.string?_line .single
  split
  next => simpa using hblock
  split
  next h =>
    obtain ⟨hcodes, hsingle⟩ : s.toList.any isControl = false ∧ longestRun '\'' s.toList ≤ 2 := by simpa using h
    have hinside : Inside '\'' false true 2 0 s.toList s.toList := inside_self (hraw hcodes) (fun _ => rfl) hsingle
    simpa using hinside.string?_block .single hlead
  split
  next h =>
    rw [if_pos h] at hblock
    simpa using hblock
  next => simpa using hdouble

end FrameGateway.Toml
