import FrameGateway.Proofs.Frame.Layout
/-! Tokens on the wire. Width, largest token, what fits, what is written and what is read back go together, in
whole numbers and in words of the machine alike: a token that fits is written in exactly the field's bytes and
found there again, and one that is found fits and is written as it stood (`TokenFormat.writes_and_reads`). -/

namespace FrameGateway.TokenFormat

variable {f : TokenFormat} {s : SessionId} {data field : Bytes} {cursor next : Nat}

theorem fits_iff : f.fits s = true ↔ s.val < 256 ^ f.width := by
  have hpos := Nat.pow_pos (n := f.width) (show 0 < 256 by decide)
  rw [fits, decide_eq_true_iff, maxToken]
  omega

theorem bytes_eq_ok_iff : f.bytes s = .ok field ↔ f.fits s = true ∧ field = leBytes f.width s.val := by
  unfold bytes
  split
  next h => simp [h, eq_comm]
  next h => simp [h]

theorem length_of_bytes (h : f.bytes s = .ok field) : field.length = f.width := by
  rw [(bytes_eq_ok_iff.mp h).2, length_leBytes]

/-- A token is found where its bytes stand, and nowhere else. -/
theorem resolve_eq_ok_iff : f.resolve data cursor = .ok (s, next) ↔
    next = cursor + f.width ∧ next ≤ data.length ∧ f.bytes s = .ok ((data.drop cursor).take f.width) := by
  rw [resolve, bytes_eq_ok_iff]
  constructor
  · intro h
    split at h
    next hlen =>
      cases h
      have hraw : ((data.drop cursor).take f.width).length = f.width := by
        rw [List.length_take, List.length_drop]
        omega
      have hlt := leNat_lt ((data.drop cursor).take f.width)
      rw [hraw] at hlt
      have hwide : 256 ^ f.width ≤ 2 ^ 128 := by cases f <;> decide
      have hval := SessionId.val_ofNat (Nat.lt_of_lt_of_le hlt hwide)
      -- as many bytes are written as have been read, and these are the same ones
      have hback := leBytes_leNat ((data.drop cursor).take f.width)
      rw [hraw] at hback
      refine ⟨rfl, hlen, fits_iff.mpr ?_, ?_⟩
      · rw [hval]
        exact hlt
      · rw [hval, hback]
    next => cases h
  · rintro ⟨rfl, hlen, hfit, hraw⟩
    rw [if_pos hlen, hraw, leNat_leBytes_of_lt f.width (fits_iff.mp hfit), SessionId.ofNat_val]

theorem exists_resolve_iff : (∃ r, f.resolve data cursor = .ok r) ↔ cursor + f.width ≤ data.length := by
  unfold resolve
  split
  next h => exact ⟨fun _ => h, fun _ => ⟨_, rfl⟩⟩
  next h => exact ⟨fun ⟨r, hr⟩ => (by cases hr), fun hlen => absurd hlen h⟩

/-! ### Words of the machine -/

/-- The largest token as a word of 128 bits: a one behind the field's bits, less one. Behind all 128 there is
no room for it. -/
def maxWord (f : TokenFormat) : BitVec 128 :=
  if 16 ≤ f.width then BitVec.allOnes 128 else (1#128 <<< (f.width * 8)) - 1#128

theorem toNat_maxWord (f : TokenFormat) : f.maxWord.toNat = f.maxToken := by cases f <;> rfl

/-- Appends a token to a sink as a word of the field's width, unless it would lose bits there. The widest field
has room for every token. -/
def write (f : TokenFormat) (s : SessionId) (sink : Bytes) : Bytes × Except Fault Unit :=
  match f with
  | uuid => (sink ++ leBytes 16 s.token.toNat, .ok ())
  | u32 | u64 =>
    let word := s.token.setWidth (8 * f.width)
    if word.setWidth 128 = s.token then (sink ++ leBytes f.width word.toNat, .ok ())
    else (sink, .error (.serialize s!"session {s.text} does not fit a {f.name} prefix"))

/-- A token loses no bits exactly where it fits. -/
theorem setWidth_eq_iff : (s.token.setWidth (8 * f.width)).setWidth 128 = s.token ↔ f.fits s = true := by
  have hpow : 2 ^ (8 * f.width) = 256 ^ f.width := by rw [Nat.pow_mul]
  have hwide : 256 ^ f.width ≤ 2 ^ 128 := by cases f <;> decide
  have hpos := Nat.pow_pos (n := f.width) (show 0 < 256 by decide)
  rw [fits_iff, ← BitVec.toNat_inj, BitVec.toNat_setWidth, BitVec.toNat_setWidth, hpow, SessionId.val]
  constructor
  · intro h
    rw [← h]
    exact Nat.lt_of_le_of_lt (Nat.mod_le _ _) (Nat.mod_lt _ hpos)
  · intro h
    rw [Nat.mod_eq_of_lt h, Nat.mod_eq_of_lt s.token.isLt]

theorem toNat_setWidth_of_fits (h : f.fits s = true) : (s.token.setWidth (8 * f.width)).toNat = s.val := by
  have hval := congrArg BitVec.toNat (setWidth_eq_iff.mpr h)
  rw [BitVec.toNat_setWidth, Nat.mod_eq_of_lt] at hval
  · exact hval
  · exact Nat.lt_of_lt_of_le (BitVec.isLt _) (by cases f <;> decide)

/-- Word by word, the same bytes are appended, and the same tokens refused. -/
theorem write_eq (f : TokenFormat) (s : SessionId) (sink : Bytes) :
    f.write s sink = (sink ++ (f.bytes s).toOption.getD [], (f.bytes s).map fun _ => ()) := by
  by_cases h : f.fits s = true
  · rw [bytes, if_pos h]
    cases f with
    | uuid => rfl
    | u32 => rw [write, if_pos (setWidth_eq_iff.mpr h), toNat_setWidth_of_fits h]; rfl
    | u64 => rw [write, if_pos (setWidth_eq_iff.mpr h), toNat_setWidth_of_fits h]; rfl
  · rw [bytes, if_neg h]
    cases f with
    | uuid => exact absurd (fits_iff.mpr s.val_lt) h
    | u32 => rw [write, if_neg (mt setWidth_eq_iff.mp h)]; simp [Except.toOption, Except.map]
    | u64 => rw [write, if_neg (mt setWidth_eq_iff.mp h)]; simp [Except.toOption, Except.map]

/-- The token at a cursor of 64 bits, and the cursor behind it unless that would begin anew at zero. -/
def resolveAt (f : TokenFormat) (data : Bytes) (cursor : UInt64) : Except Fault (SessionId × UInt64) :=
  let next := cursor + .ofNat f.width
  if next < cursor then .error .tokenOutOfBounds
  else if next.toNat ≤ data.length then .ok (.ofNat (leNat ((data.drop cursor.toNat).take f.width)), next)
  else .error .tokenOutOfBounds

/-- The machine has no byte string that its cursors cannot pass through. -/
theorem resolveAt_eq (hdata : data.length < 2 ^ 64) (cursor : UInt64) :
    f.resolveAt data cursor = (f.resolve data cursor.toNat).map fun r => (r.1, .ofNat r.2) := by
  have hc := cursor.toNat_lt
  have hw : f.width ≤ 16 := by cases f <;> decide
  have hnext : (cursor + .ofNat f.width).toNat = (cursor.toNat + f.width) % 2 ^ 64 := by
    rw [UInt64.toNat_add, UInt64.toNat_ofNat', Nat.mod_eq_of_lt (by omega : f.width < 2 ^ 64)]
  have hover : cursor + .ofNat f.width < cursor ↔ 2 ^ 64 ≤ cursor.toNat + f.width := by
    rw [UInt64.lt_iff_toNat_lt, hnext]
    omega
  unfold resolveAt resolve
  dsimp only
  by_cases h : cursor.toNat + f.width ≤ data.length
  · rw [if_neg (by rw [hover]; omega), if_pos (by rw [hnext]; omega), if_pos h]
    have hsame : cursor + .ofNat f.width = UInt64.ofNat (cursor.toNat + f.width) := by
      rw [UInt64.ofNat_add, UInt64.ofNat_toNat]
    rw [hsame]
    rfl
  · rw [if_neg h]
    by_cases hpast : 2 ^ 64 ≤ cursor.toNat + f.width
    · rw [if_pos (hover.mpr hpast)]
      rfl
    · rw [if_neg (mt hover.mp hpast), if_neg (by rw [hnext]; omega)]
      rfl

/-- What a format promises of its field. The largest token is what a shift of a 128-bit word gives, and a token
fits exactly up to there. Writing, in words of the field's width, appends what `bytes` gives: for a token that
fits exactly as many bytes as the field has, which are read back as that token from where the sink ended, whatever
follows; for any other it is refused, and the sink stays as it was. Reading succeeds exactly where the cursor and
the width, added without overflow, stay within the data, at a cursor of the machine as at any other; it moves the
cursor by the width, and the token that it finds fits and is written as the bytes that were read. -/
theorem writes_and_reads (f : TokenFormat) :
    f.maxWord.toNat = f.maxToken ∧ (∀ s, f.fits s = true ↔ s.val ≤ f.maxToken) ∧
    (∀ s sink, f.write s sink = (sink ++ (f.bytes s).toOption.getD [], (f.bytes s).map fun _ => ()) ∧
      ((f.write s sink).2 = .ok () ↔ f.fits s = true) ∧
      (f.fits s = true → ∃ field, field.length = f.width ∧ (f.write s sink).1 = sink ++ field ∧
        ∀ rest, f.resolve (sink ++ field ++ rest) sink.length = .ok (s, (sink ++ field).length)) ∧
      (f.fits s = false → (f.write s sink).1 = sink)) ∧
    (∀ data cursor, (∃ r, f.resolve data cursor = .ok r) ↔ cursor + f.width ≤ data.length) ∧
    (∀ data cursor s next, f.resolve data cursor = .ok (s, next) →
      next = cursor + f.width ∧ f.fits s = true ∧
        ∀ sink, f.write s sink = (sink ++ (data.drop cursor).take f.width, .ok ())) ∧
    ∀ data, data.length < 2 ^ 64 → ∀ cursor : UInt64,
      f.resolveAt data cursor = (f.resolve data cursor.toNat).map fun r => (r.1, .ofNat r.2) := by
  refine ⟨toNat_maxWord f, fun s => decide_eq_true_iff, fun s sink => ⟨write_eq f s sink, ?_⟩,
    fun data cursor => exists_resolve_iff, fun data cursor s next h => ?_, fun data => resolveAt_eq⟩
  · rw [write_eq]
    by_cases hfit : f.fits s = true
    · have hbytes : f.bytes s = .ok (leBytes f.width s.val) := if_pos hfit
      rw [hbytes, hfit]
      refine ⟨⟨fun _ => rfl, fun _ => rfl⟩, fun _ => ⟨_, length_leBytes .., rfl, fun rest => ?_⟩,
        fun h => absurd h (by decide)⟩
      rw [List.append_assoc, List.length_append]
      exact resolve_append hbytes sink rest
    · rw [bytes, if_neg hfit]
      refine ⟨⟨fun h => (by cases h), fun h => absurd h hfit⟩, fun h => absurd h hfit, fun _ => ?_⟩
      exact List.append_nil sink
  · obtain ⟨hnext, -, hbytes⟩ := resolve_eq_ok_iff.mp h
    refine ⟨hnext, (bytes_eq_ok_iff.mp hbytes).1, fun sink => ?_⟩
    rw [write_eq, hbytes]
    rfl

/-- The largest token of four bytes goes behind two others and comes back from in front of a third; the next
larger one leaves them as they are; and no token is found at the largest cursor of all. -/
theorem writes_and_reads_at_the_limit :
    (∃ field, field.length = 4 ∧ (write u32 (.ofNat (2 ^ 32 - 1)) [0xAA, 0xBB]).1 = [0xAA, 0xBB] ++ field ∧
      u32.resolve ([0xAA, 0xBB] ++ field ++ [0xCC]) 2 = .ok (.ofNat (2 ^ 32 - 1), ([0xAA, 0xBB] ++ field).length)) ∧
    (write u32 (.ofNat (2 ^ 32)) [0xAA, 0xBB]).1 = [0xAA, 0xBB] ∧
    u32.resolveAt [1, 2, 3, 4] 18446744073709551615 = .error .tokenOutOfBounds ∧
    write u32 (.ofNat 0x04030201) [] = ([1, 2, 3, 4], .ok ()) := by
  obtain ⟨-, -, hwrite, -, hread, hmachine⟩ := writes_and_reads u32
  refine ⟨?_, (hwrite (.ofNat (2 ^ 32)) [0xAA, 0xBB]).2.2.2 (by decide), ?_, ?_⟩
  · obtain ⟨field, hlen, hsink, hback⟩ := (hwrite (.ofNat (2 ^ 32 - 1)) [0xAA, 0xBB]).2.2.1 (by decide)
    exact ⟨field, hlen, hsink, hback [0xCC]⟩
  · rw [hmachine [1, 2, 3, 4] (by decide) 18446744073709551615]
    rfl
  · exact (hread [1, 2, 3, 4] 0 (.ofNat 0x04030201) 4 rfl).2.2 []

end FrameGateway.TokenFormat
