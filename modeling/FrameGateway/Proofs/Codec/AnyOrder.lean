import FrameGateway.Proofs.Codec.Assembly
import FrameGateway.Proofs.Codec.Enrolment
/-! Peers that enter the same types under the ids that their names give, each in an order of its own. Which
of two types gets an id that both would have is a matter of order; which ids are taken, and how many calls
fail, is not. So where nothing fails with one peer, nothing fails with any, and all have the same table
(`TypeTable.order_does_not_matter`). -/

namespace FrameGateway

namespace TypeTable

variable {τ : Type} [DecidableEq τ] [MessageFamily τ] {m a b : TypeTable τ} {ts us : List τ} {t u : τ}
  {id : PacketId}

/-- Enters types, each under the id that its name gives. -/
def enrolTypes (m : TypeTable τ) (ts : List τ) : TypeTable τ × List (Except Fault PacketId) :=
  m.enrolAll (ts.map .byName)

/-- No type has another id than the one that its name gives. -/
def ByName (m : TypeTable τ) : Prop := ∀ t id, m.id? t = some id → id = derivedId t

theorem byName_empty : (empty : TypeTable τ).ByName := fun _ _ h => by cases h

/-! ### One call -/

theorem id?_enrol_byName {t : τ} (h : (m.enrol (.byName t)).1.id? u = some id) :
    m.id? u = some id ∨ u = t ∧ id = derivedId t := by
  have ho := m.enrols (.byName t)
  generalize m.enrol (.byName t) = out at h ho
  cases ho with
  | twice i ht => exact .inl h
  | taken holder ht hid => exact .inl h
  | entered m' ht hid he =>
    rw [id?_registerWithId he] at h
    split at h
    next hu =>
      rw [Option.some.injEq, Enrolment.id_byName] at h
      exact .inr ⟨hu, h.symm⟩
    next => exact .inl h

theorem ByName.enrol (hn : m.ByName) (t : τ) : (m.enrol (.byName t)).1.ByName := by
  intro u id h
  rcases id?_enrol_byName h with h | ⟨rfl, rfl⟩
  · exact hn u id h
  · rfl

/-- The call fails exactly if its id is taken: a type that is there has no other. -/
theorem ByName.isOk_enrol (hn : m.ByName) (hm : m.Matched) (t : τ) :
    (m.enrol (.byName t)).2.isOk = !m.containsId (derivedId t) := by
  have ho := m.enrols (.byName t)
  generalize m.enrol (.byName t) = out at ho
  cases ho with
  | twice id ht =>
    have hc := getType_eq_ok_iff_lookup.mp (hm.getType_of_id? (hn t id ht ▸ ht))
    rw [containsId, hc]
    rfl
  | taken holder ht hid => rw [containsId, show m.byId.lookup (derivedId t) = _ from hid]; rfl
  | entered m' ht hid he => rw [containsId, show m.byId.lookup (derivedId t) = _ from hid]; rfl

theorem ByName.containsId_enrol (hn : m.ByName) (hm : m.Matched) (t : τ) :
    (m.enrol (.byName t)).1.containsId id = true ↔ m.containsId id = true ∨ derivedId t = id := by
  have hok := hn.isOk_enrol hm t
  have ho := m.enrols (.byName t)
  generalize m.enrol (.byName t) = out at ho hok
  have hfails : m.containsId (derivedId t) = true →
      (m.containsId id = true ↔ m.containsId id = true ∨ derivedId t = id) := fun hc =>
    (or_iff_left_of_imp fun hid => hid ▸ hc).symm
  cases ho with
  | twice i ht => exact hfails (by simpa [Except.isOk, Except.toBool] using hok)
  | taken holder ht hid => exact hfails (by simpa [Except.isOk, Except.toBool] using hok)
  | entered m' ht hid he =>
    obtain ⟨-, -, rfl⟩ := registerWithId_eq_ok_iff.mp he
    rw [containsId, containsId, lookup_cons_ite]
    split
    next h => exact iff_of_true rfl (.inr h.symm)
    next h => exact (or_iff_left fun hid => h hid.symm).symm

/-! ### All calls -/

@[simp] theorem enrolTypes_nil (m : TypeTable τ) : m.enrolTypes [] = (m, []) := rfl

theorem enrolTypes_cons (m : TypeTable τ) (t : τ) (ts : List τ) : m.enrolTypes (t :: ts) =
    (((m.enrol (.byName t)).1.enrolTypes ts).1,
      (m.enrol (.byName t)).2 :: ((m.enrol (.byName t)).1.enrolTypes ts).2) := rfl

theorem ByName.enrolTypes (hn : m.ByName) (ts : List τ) : (m.enrolTypes ts).1.ByName := by
  induction ts generalizing m with
  | nil => exact hn
  | cons t ts ih => exact ih (hn.enrol t)

theorem ByName.containsId_enrolTypes (hn : m.ByName) (hm : m.Kept) (ts : List τ) :
    (m.enrolTypes ts).1.containsId id = true ↔ m.containsId id = true ∨ ∃ t ∈ ts, derivedId t = id := by
  induction ts generalizing m with
  | nil => simp
  | cons t ts ih =>
    rw [enrolTypes_cons, ih (hn.enrol t) (hm.enrol _), hn.containsId_enrol hm.matched, or_assoc]
    simp only [List.mem_cons, exists_eq_or_imp]

theorem mem_of_id?_enrolTypes (h : (m.enrolTypes ts).1.id? t = some id) : m.id? t = some id ∨ t ∈ ts := by
  induction ts generalizing m with
  | nil => exact .inl h
  | cons u ts ih =>
    rcases ih h with h | h
    · rcases id?_enrol_byName h with h | ⟨rfl, -⟩
      · exact .inl h
      · exact .inr List.mem_cons_self
    · exact .inr (List.mem_cons_of_mem u h)

/-- Where no call fails, all types are there from then on. -/
theorem id?_enrolTypes_of_mem (hok : ∀ e, .error e ∉ (m.enrolTypes ts).2) (ht : t ∈ ts) :
    (m.enrolTypes ts).1.id? t = some (derivedId t) := by
  induction ts generalizing m with
  | nil => cases ht
  | cons u ts ih =>
    rw [enrolTypes_cons] at hok ⊢
    simp only [List.mem_cons, not_or] at hok
    rcases List.mem_cons.mp ht with rfl | ht
    · have hu := fun e => (hok e).1
      have ho := m.enrols (.byName t)
      generalize m.enrol (.byName t) = out at ho hu ⊢
      cases ho with
      | twice i hi => exact absurd rfl (hu _)
      | taken holder hi hid => exact absurd rfl (hu _)
      | entered m' hi hid he => exact (grows_enrolAll m' _).id?_eq_some (id?_of_registered he)
    · exact ih (fun e => (hok e).2) ht

/-! ### Two orders -/

theorem Kept.containsId_iff (hm : m.Kept) : m.containsId id = true ↔ id ∈ m.byId.map (·.2.id) := by
  rw [containsId, Option.isSome_iff_exists]
  constructor
  · rintro ⟨e, he⟩
    obtain ⟨rfl, -⟩ := (hm.matched.inverse id e).mp he
    obtain ⟨p, hp, rfl⟩ := List.mem_map.mp ((hm.listed.mem e).mpr he)
    exact List.mem_map.mpr ⟨p, hp, rfl⟩
  · intro h
    obtain ⟨p, hp, rfl⟩ := List.mem_map.mp h
    exact ⟨p.2, (hm.listed.mem p.2).mp (List.mem_map_of_mem hp)⟩

/-- Tables in which the same ids are taken are of one size. -/
theorem Kept.size_eq (ha : a.Kept) (hb : b.Kept) (h : ∀ id, a.containsId id = b.containsId id) :
    a.size = b.size := by
  have hp : (a.byId.map (·.2.id)).Perm (b.byId.map (·.2.id)) :=
    (List.perm_ext_iff_of_nodup ha.listed.nodup hb.listed.nodup).mpr fun id => by
      rw [← ha.containsId_iff, ← hb.containsId_iff, h]
  simpa [size] using hp.length_eq

/-- Tables that give every type the same id say the same of every id, and list the same. -/
theorem Kept.agree (ha : a.Kept) (hb : b.Kept) (h : ∀ t, a.id? t = b.id? t) :
    (∀ id, a.getType id = b.getType id) ∧ a.registered = b.registered := by
  have hlookup : ∀ id, a.byId.lookup id = b.byId.lookup id := fun id => Option.ext fun e => by
    rw [← getType_eq_ok_iff_lookup, ← getType_eq_ok_iff_lookup, ha.matched.getType_eq_ok_iff,
      hb.matched.getType_eq_ok_iff, h]
  refine ⟨fun id => by rw [getType, getType, hlookup], ?_⟩
  have hp : a.registered.Perm b.registered :=
    (List.perm_ext_iff_of_nodup ha.listed.nodup_registered hb.listed.nodup_registered).mpr fun e => by
      rw [ha.listed.mem_registered, hb.listed.mem_registered, hlookup]
  refine hp.eq_of_pairwise ?_ ha.listed.pairwise_registered hb.listed.pairwise_registered
  intro d e _ _ hde hed
  exact absurd hde (Nat.lt_asymm hed)

def failures (answers : List (Except Fault PacketId)) : Nat := answers.countP fun r => !r.isOk

theorem size_add_failures (m : TypeTable τ) (ts : List τ) :
    (m.enrolTypes ts).1.size + failures (m.enrolTypes ts).2 = m.size + ts.length := by
  have hsize := m.size_enrolAll (ts.map .byName)
  have hlength := m.length_enrolAll (ts.map .byName)
  have hcount := List.length_eq_countP_add_countP (·.isOk) (l := (m.enrolTypes ts).2)
  rw [List.length_map] at hlength
  simp only [Bool.not_eq_true, Bool.decide_eq_false] at hcount
  rw [enrolTypes] at hcount ⊢
  rw [failures]
  omega

theorem failures_eq_zero_iff {answers : List (Except Fault PacketId)} :
    failures answers = 0 ↔ ∀ e, .error e ∉ answers := by
  rw [failures, List.countP_eq_zero]
  constructor
  · intro h e he
    exact h _ he rfl
  · intro h r hr
    cases r with
    | error e => exact absurd hr (h e)
    | ok id => exact Bool.false_ne_true

/-- What a peer has when it has entered all its types, and what the calls returned. -/
def startUp (ts : List τ) : TypeTable τ × List (Except Fault PacketId) := empty.enrolTypes ts

theorem kept_startUp (ts : List τ) : (startUp ts).1.Kept := kept_empty.enrolAll _

theorem containsId_startUp (ts : List τ) :
    (startUp ts).1.containsId id = true ↔ ∃ t ∈ ts, derivedId t = id := by
  rw [startUp, byName_empty.containsId_enrolTypes kept_empty]
  exact or_iff_right Bool.false_ne_true

theorem containsId_eq_of_perm (h : ts.Perm us) (id : PacketId) :
    (startUp ts).1.containsId id = (startUp us).1.containsId id := by
  rw [Bool.eq_iff_iff, containsId_startUp, containsId_startUp]
  simp only [h.mem_iff]

theorem failures_eq_of_perm (h : ts.Perm us) : failures (startUp ts).2 = failures (startUp us).2 := by
  -- as many calls succeed as ids are taken
  have hsize := (kept_startUp ts).size_eq (kept_startUp us) (containsId_eq_of_perm h)
  have ha := (empty : TypeTable τ).size_add_failures ts
  have hb := (empty : TypeTable τ).size_add_failures us
  rw [h.length_eq] at ha
  rw [startUp, startUp] at hsize ⊢
  omega

/-- Where no call fails, the table holds the types that have been entered, and no others. -/
theorem id?_startUp (hok : ∀ e, .error e ∉ (startUp ts).2) (t : τ) :
    (startUp ts).1.id? t = if t ∈ ts then some (derivedId t) else none := by
  split
  next ht => exact id?_enrolTypes_of_mem hok ht
  next ht =>
    rw [Option.eq_none_iff_forall_ne_some]
    intro id hid
    rcases mem_of_id?_enrolTypes hid with h | h
    · cases h
    · exact ht h

/-- Whatever order the types come in: the ids that are taken are those of their names, a type that has an
id in both tables has the same one, and the same number of calls fails. If none fails, the tables are
identical. -/
theorem order_does_not_matter (h : ts.Perm us) :
    (∀ id, ((startUp ts).1.containsId id = true ↔ ∃ t ∈ ts, derivedId t = id) ∧
      (startUp ts).1.containsId id = (startUp us).1.containsId id) ∧
    (∀ t i j, (startUp ts).1.id? t = some i → (startUp us).1.id? t = some j → i = j) ∧
    failures (startUp ts).2 = failures (startUp us).2 ∧
    ((∃ e, .error e ∈ (startUp ts).2) ↔ ∃ e, .error e ∈ (startUp us).2) ∧
    ((∀ e, .error e ∉ (startUp ts).2) → (∀ e, .error e ∉ (startUp us).2) ∧
      (∀ t, (startUp ts).1.id? t = if t ∈ ts then some (derivedId t) else none) ∧
      (∀ t, (startUp ts).1.id? t = (startUp us).1.id? t) ∧
      (∀ id, (startUp ts).1.getType id = (startUp us).1.getType id) ∧
      (startUp ts).1.registered = (startUp us).1.registered) := by
  have hcount := failures_eq_of_perm h
  have hfail : (∀ e, .error e ∉ (startUp ts).2) ↔ ∀ e, .error e ∉ (startUp us).2 := by
    rw [← failures_eq_zero_iff, ← failures_eq_zero_iff, hcount]
  refine ⟨fun id => ⟨containsId_startUp ts, containsId_eq_of_perm h id⟩, fun t i j hi hj => ?_, hcount, ?_,
    fun hok => ?_⟩
  · rw [byName_empty.enrolTypes ts t i hi, byName_empty.enrolTypes us t j hj]
  · simpa only [not_forall, not_not] using not_congr hfail
  · have hsame : ∀ t, (startUp ts).1.id? t = (startUp us).1.id? t := fun t => by
      rw [id?_startUp hok, id?_startUp (hfail.mp hok)]
      simp only [h.mem_iff]
    exact ⟨hfail.mp hok, id?_startUp hok, hsame, (kept_startUp ts).agree (kept_startUp us) hsame⟩

/-- Of two types with one id, the first one to come gets it. -/
theorem startUp_of_shared_id (hne : u ≠ t) (hid : derivedId u = derivedId t) :
    (startUp [t, u]).1.id? u = none ∧ failures (startUp [t, u]).2 = 1 := by
  simp [startUp, enrolTypes, enrolAll, enrol, insert, Enrolment.type, empty, lookup_cons_ite, hid,
    hne, id?, failures, Except.isOk, Except.toBool]

open Assembly (count impostor)

/-- Of two namesakes, each is refused where the other one comes first. -/
theorem order_does_not_matter_to_namesakes :
    [count, impostor].Perm [impostor, count] ∧
    (∀ id, (startUp [count, impostor]).1.containsId id = (startUp [impostor, count]).1.containsId id) ∧
    (startUp [count, impostor]).1.id? impostor = none ∧ (startUp [impostor, count]).1.id? count = none ∧
    failures (startUp [impostor, count]).2 = 1 := by
  have hp : [count, impostor].Perm [impostor, count] := .swap ..
  have hid : derivedId impostor = derivedId count := congrArg PacketId.ofName rfl
  obtain ⟨hids, -, hcount, -⟩ := order_does_not_matter hp
  obtain ⟨hloser, hone⟩ := startUp_of_shared_id (by decide : impostor ≠ count) hid
  obtain ⟨hloser', -⟩ := startUp_of_shared_id (by decide : count ≠ impostor) hid.symm
  exact ⟨hp, fun id => (hids id).2, hloser, hloser', hcount.symm.trans hone⟩

end TypeTable

end FrameGateway
