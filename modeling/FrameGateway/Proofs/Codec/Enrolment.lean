import FrameGateway.Proofs.Codec.Registration
/-! A table of packet ids after any calls that enter types, under the ids that their names give or under
others. Its two directions stay inverse to each other, no call that is refused touches them, and a type
keeps its id (`TypeTable.stays_one_to_one`). Names do not count here: types that share one are told apart. -/

namespace FrameGateway

inductive Enrolment (τ : Type) where
  /-- under the id that its name gives -/
  | byName (t : τ)
  /-- under a certain id -/
  | under (t : τ) (id : PacketId)

namespace Enrolment

variable {τ : Type} [MessageFamily τ]

def type : Enrolment τ → τ
  | byName t => t
  | under t _ => t

def id : Enrolment τ → PacketId
  | byName t => TypeTable.derivedId t
  | under _ id => id

@[simp] theorem id_byName (t : τ) : (byName t).id = TypeTable.derivedId t := rfl

end Enrolment

theorem PacketId.toNat_injective {i j : PacketId} (h : i.toNat = j.toNat) : i = j := by
  cases i
  cases j
  exact congrArg PacketId.mk (UInt16.toNat_inj.mp h)

namespace TypeTable

variable {τ : Type} [DecidableEq τ] [MessageFamily τ] {m : TypeTable τ} {call : Enrolment τ}

def enrol (m : TypeTable τ) (call : Enrolment τ) : TypeTable τ × Except Fault PacketId :=
  m.insert call.type call.id

def enrolAll (m : TypeTable τ) : List (Enrolment τ) → TypeTable τ × List (Except Fault PacketId)
  | [] => (m, [])
  | call :: calls =>
    let (m, answer) := m.enrol call
    let (m, answers) := m.enrolAll calls
    (m, answer :: answers)

theorem enrolAll_cons (m : TypeTable τ) (call : Enrolment τ) (calls : List (Enrolment τ)) :
    m.enrolAll (call :: calls) = (((m.enrol call).1.enrolAll calls).1,
      (m.enrol call).2 :: ((m.enrol call).1.enrolAll calls).2) := rfl

theorem enrolAll_append (m : TypeTable τ) (calls more : List (Enrolment τ)) :
    (m.enrolAll (calls ++ more)).1 = ((m.enrolAll calls).1.enrolAll more).1 := by
  induction calls generalizing m with
  | nil => rfl
  | cons call calls ih => exact ih (m.enrol call).1

theorem length_enrolAll (m : TypeTable τ) (calls : List (Enrolment τ)) :
    (m.enrolAll calls).2.length = calls.length := by
  induction calls generalizing m with
  | nil => rfl
  | cons call calls ih => exact congrArg (· + 1) (ih _)

theorem enrols (m : TypeTable τ) (call : Enrolment τ) : m.Inserts call.type call.id (m.enrol call) :=
  m.inserts call.type call.id

/-! ### What any calls keep -/

/-- The table by id lists each entry once, under its own id. -/
structure Listed (m : TypeTable τ) : Prop where
  mem : ∀ e, e ∈ m.byId.map (·.2) ↔ m.byId.lookup e.id = some e
  nodup : (m.byId.map (·.2.id)).Nodup

omit [DecidableEq τ] [MessageFamily τ] in
theorem listed_empty : (empty : TypeTable τ).Listed := ⟨fun _ => by simp [empty], .nil⟩

theorem Listed.registerWithId (hm : m.Listed) {t : τ} {id : PacketId} {m' : TypeTable τ}
    (h : m.registerWithId t id = .ok m') : m'.Listed := by
  obtain ⟨-, hfree, rfl⟩ := registerWithId_eq_ok_iff.mp h
  refine ⟨fun e => ?_, ?_⟩
  · rw [lookup_cons_ite, List.map_cons, List.mem_cons, hm.mem]
    by_cases hid : e.id = id
    · rw [if_pos hid, hid, hfree, Option.some.injEq]
      exact ⟨fun h => (h.resolve_right nofun).symm, fun h => .inl h.symm⟩
    · rw [if_neg hid]
      exact or_iff_right fun he => hid (congrArg TypeEntry.id he)
  · rw [List.map_cons, List.nodup_cons]
    refine ⟨fun hin => ?_, hm.nodup⟩
    obtain ⟨p, hp, hid⟩ := List.mem_map.mp hin
    have he := (hm.mem p.2).mp (List.mem_map_of_mem hp)
    rw [hid, hfree] at he
    cases he

omit [DecidableEq τ] [MessageFamily τ] in
theorem Listed.mem_registered (hm : m.Listed) {e : TypeEntry τ} :
    e ∈ m.registered ↔ m.byId.lookup e.id = some e := by
  rw [registered, List.mem_mergeSort, hm.mem]

omit [DecidableEq τ] [MessageFamily τ] in
/-- The listing is in order, and strictly so since no id comes twice. -/
theorem Listed.pairwise_registered (hm : m.Listed) :
    m.registered.Pairwise fun a b => a.id.toNat < b.id.toNat := by
  have hle : m.registered.Pairwise fun a b => decide (a.id.toNat ≤ b.id.toNat) = true :=
    List.pairwise_mergeSort (by simp; omega) (by simp; omega) _
  have hne : m.registered.Pairwise fun a b => a.id ≠ b.id := by
    have hn : (m.registered.map (·.id)).Nodup := by
      refine ((List.mergeSort_perm _ _).map _).nodup_iff.mpr ?_
      rw [List.map_map]
      exact hm.nodup
    exact List.pairwise_map.mp hn
  refine hle.imp₂ (fun a b h hab => ?_) hne
  have hab : a.id.toNat ≠ b.id.toNat := fun h => hab (PacketId.toNat_injective h)
  have h := of_decide_eq_true h
  omega

omit [DecidableEq τ] [MessageFamily τ] in
theorem Listed.nodup_registered (hm : m.Listed) : m.registered.Nodup :=
  hm.pairwise_registered.imp fun h heq => absurd (heq ▸ h) (Nat.lt_irrefl _)

structure Kept (m : TypeTable τ) : Prop where
  matched : m.Matched
  listed : m.Listed

theorem kept_empty : (empty : TypeTable τ).Kept := ⟨matched_empty, listed_empty⟩

theorem Kept.enrol (hm : m.Kept) (call : Enrolment τ) : (m.enrol call).1.Kept := by
  have h := m.enrols call
  generalize m.enrol call = out at h
  cases h with
  | twice id h => exact hm
  | taken holder h hid => exact hm
  | entered m' h hid he => exact ⟨hm.matched.registerWithId he, hm.listed.registerWithId he⟩

theorem Kept.enrolAll (hm : m.Kept) (calls : List (Enrolment τ)) : (m.enrolAll calls).1.Kept := by
  induction calls generalizing m with
  | nil => exact hm
  | cons call calls ih => exact ih (hm.enrol call)

theorem grows_enrol (m : TypeTable τ) (call : Enrolment τ) : m.Grows (m.enrol call).1 := by
  have h := m.enrols call
  generalize m.enrol call = out at h
  cases h with
  | twice id h => exact .refl
  | taken holder h hid => exact .refl
  | entered m' h hid he => exact .single ⟨call.type, call.id, he⟩

theorem grows_enrolAll (m : TypeTable τ) (calls : List (Enrolment τ)) : m.Grows (m.enrolAll calls).1 := by
  induction calls generalizing m with
  | nil => exact .refl
  | cons call calls ih => exact (m.grows_enrol call).trans (ih _)

theorem size_enrol (m : TypeTable τ) (call : Enrolment τ) :
    (m.enrol call).1.size = m.size + if (m.enrol call).2.isOk then 1 else 0 := by
  have h := m.enrols call
  generalize m.enrol call = out at h
  cases h with
  | twice id h => rfl
  | taken holder h hid => rfl
  | entered m' h hid he =>
    obtain ⟨-, -, rfl⟩ := registerWithId_eq_ok_iff.mp he
    rfl

theorem size_enrolAll (m : TypeTable τ) (calls : List (Enrolment τ)) :
    (m.enrolAll calls).1.size = m.size + (m.enrolAll calls).2.countP (·.isOk) := by
  induction calls generalizing m with
  | nil => rfl
  | cons call calls ih =>
    rw [enrolAll_cons, ih, size_enrol, List.countP_cons]
    omega

/-! ### What the tables say -/

/-- Each table is the other one read backwards, and an entry has the name of its type. -/
structure OneToOne (m : TypeTable τ) : Prop where
  byType : ∀ t e, m.byType.lookup t = some e ↔ e.type = t ∧ m.byId.lookup e.id = some e
  byId : ∀ id e, m.byId.lookup id = some e ↔ e.id = id ∧ m.byType.lookup e.type = some e
  name : ∀ id e, m.byId.lookup id = some e → e.name = MessageFamily.name e.type

theorem Matched.oneToOne (hm : m.Matched) : m.OneToOne := by
  refine ⟨fun t e => ⟨fun he => ?_, fun ⟨ht, he⟩ => ?_⟩, hm.inverse, fun id e he => ?_⟩
  · have ht : e.type = t := by rw [hm.typed t e he]
    exact ⟨ht, (hm.inverse e.id e).mpr ⟨rfl, ht ▸ he⟩⟩
  · exact ht ▸ ((hm.inverse e.id e).mp he).2
  · rw [hm.typed e.type e ((hm.inverse id e).mp he).2]

/-- What a call returns and leaves. That its type is there already counts before all else. -/
structure Judged (m : TypeTable τ) (call : Enrolment τ) : Prop where
  twice : ∀ n, (m.enrol call).2 = .error (.duplicateRegistration n) ↔
    n = MessageFamily.name call.type ∧ ∃ id, m.id? call.type = some id
  taken : ∀ id n held, (m.enrol call).2 = .error (.idCollision id n held) ↔
    m.id? call.type = none ∧ id = call.id ∧ n = MessageFamily.name call.type ∧
      ∃ holder, m.getType call.id = .ok holder ∧ holder.type ≠ call.type ∧ held = holder.name
  entered : ∀ id, (m.enrol call).2 = .ok id ↔
    m.id? call.type = none ∧ m.containsId call.id = false ∧ id = call.id
  refused : ∀ e, (m.enrol call).2 = .error e → (m.enrol call).1 = m
  given : ∀ id, (m.enrol call).2 = .ok id →
    ∀ t, (m.enrol call).1.id? t = if t = call.type then some id else m.id? t

omit [DecidableEq τ] [MessageFamily τ] in
theorem containsId_eq_false_iff {id : PacketId} : m.containsId id = false ↔ m.byId.lookup id = none := by
  rw [containsId, Option.isSome_eq_false_iff, Option.isNone_iff_eq_none]

/-- Who has an id is present, so a type that is not has it not. -/
theorem Matched.holder_ne (hm : m.Matched) {t : τ} {id : PacketId} {holder : TypeEntry τ}
    (hid : m.byId.lookup id = some holder) (ht : m.id? t = none) : holder.type ≠ t := by
  rintro rfl
  rw [id?, ((hm.inverse id holder).mp hid).2] at ht
  cases ht

theorem Matched.judged (hm : m.Matched) (call : Enrolment τ) : m.Judged call := by
  have h := m.enrols call
  generalize ho : m.enrol call = out at h
  cases h with
  | twice id ht =>
    constructor
    · intro n
      rw [ho, Except.error.injEq, Fault.duplicateRegistration.injEq, eq_comm]
      exact (and_iff_left ⟨id, ht⟩).symm
    · intro i n held
      rw [ho, ht]
      exact iff_of_false nofun nofun
    · intro i
      rw [ho, ht]
      exact iff_of_false nofun nofun
    · intro e _
      rw [ho]
    · intro i hi
      rw [ho] at hi
      cases hi
  | taken holder ht hid =>
    have hget : m.getType call.id = .ok holder := getType_eq_ok_iff_lookup.mpr hid
    constructor
    · intro n
      rw [ho, ht]
      exact iff_of_false nofun fun hn => nomatch hn.2
    · intro i n held
      rw [ho, Except.error.injEq, Fault.idCollision.injEq, hget]
      constructor
      · rintro ⟨rfl, rfl, rfl⟩
        exact ⟨ht, rfl, rfl, holder, rfl, hm.holder_ne hid ht, rfl⟩
      · rintro ⟨-, rfl, rfl, other, he, -, rfl⟩
        cases he
        exact ⟨rfl, rfl, rfl⟩
    · intro i
      rw [ho, containsId_eq_false_iff, hid]
      exact iff_of_false nofun fun hn => nomatch hn.2.1
    · intro e _
      rw [ho]
    · intro i hi
      rw [ho] at hi
      cases hi
  | entered m' ht hid he =>
    constructor
    · intro n
      rw [ho, ht]
      exact iff_of_false nofun fun hn => nomatch hn.2
    · intro i n held
      rw [ho]
      refine iff_of_false nofun ?_
      rintro ⟨-, -, -, holder, hget, -⟩
      rw [getType_eq_ok_iff_lookup, hid] at hget
      cases hget
    · intro i
      rw [ho, Except.ok.injEq, containsId_eq_false_iff, eq_comm]
      exact ⟨fun hi => ⟨ht, hid, hi⟩, fun hi => hi.2.2⟩
    · intro e hn
      rw [ho] at hn
      cases hn
    · intro i hi u
      rw [ho] at hi ⊢
      cases hi
      exact id?_registerWithId he u

/-- A table after any calls. Its two directions are inverse to each other; it has as many entries as calls
have succeeded; a type keeps the id that it has got; what the next call comes to hangs on whether its type
is present and on who has its id, in this order, and a call that is refused leaves the table as it is; and
the listing has each entry once, by increasing ids. -/
theorem stays_one_to_one (calls : List (Enrolment τ)) :
    let m := ((empty : TypeTable τ).enrolAll calls).1
    m.OneToOne ∧
    m.size = ((empty : TypeTable τ).enrolAll calls).2.countP (·.isOk) ∧
    (∀ more t id, m.id? t = some id → ((empty : TypeTable τ).enrolAll (calls ++ more)).1.id? t = some id) ∧
    (∀ call, m.Judged call) ∧
    (m.registered.Pairwise fun a b => a.id.toNat < b.id.toNat) ∧
    ∀ e, e ∈ m.registered ↔ m.getType e.id = .ok e := by
  intro m
  have hm : m.Kept := kept_empty.enrolAll calls
  refine ⟨hm.matched.oneToOne, ?_, fun more t id ht => ?_, hm.matched.judged, hm.listed.pairwise_registered,
    fun e => ?_⟩
  · rw [size_enrolAll]
    exact Nat.zero_add _
  · rw [enrolAll_append]
    exact (grows_enrolAll m more).id?_eq_some ht
  · rw [hm.listed.mem_registered, getType_eq_ok_iff_lookup]

end TypeTable

end FrameGateway
