import FrameGateway.Codec.Packet
import Mathlib.Logic.Relation
/-! Tables of packet ids only grow, whichever codecs write to them: a type that has an id keeps it. -/

namespace FrameGateway

namespace TypeTable

variable {τ : Type} [DecidableEq τ] [MessageFamily τ] {m m' : TypeTable τ} {t : τ} {id : PacketId}

theorem registerWithId_eq_ok_iff : m.registerWithId t id = .ok m' ↔
    m.byType.lookup t = none ∧ m.byId.lookup id = none ∧
      m' = ⟨(t, ⟨id, MessageFamily.name t, t⟩) :: m.byType,
        (id, ⟨id, MessageFamily.name t, t⟩) :: m.byId⟩ := by
  rw [registerWithId, insert]
  cases m.byType.lookup t with
  | some e => simp [Except.map]
  | none =>
    cases m.byId.lookup id with
    | some e => simp [Except.map]
    | none => simp [Except.map, eq_comm]

inductive Inserts (m : TypeTable τ) (t : τ) (id : PacketId) : TypeTable τ × Except Fault PacketId → Prop
  | twice (i : PacketId) (h : m.id? t = some i) :
    Inserts m t id (m, .error (.duplicateRegistration (MessageFamily.name t)))
  | taken (holder : TypeEntry τ) (h : m.id? t = none) (hid : m.byId.lookup id = some holder) :
    Inserts m t id (m, .error (.idCollision id (MessageFamily.name t) holder.name))
  | entered (m' : TypeTable τ) (h : m.id? t = none) (hid : m.byId.lookup id = none)
      (hm : m.registerWithId t id = .ok m') : Inserts m t id (m', .ok id)

theorem inserts (m : TypeTable τ) (t : τ) (id : PacketId) : m.Inserts t id (m.insert t id) := by
  rw [insert]
  cases ht : m.byType.lookup t with
  | some e => exact .twice e.id (by rw [id?, ht]; rfl)
  | none =>
    have hnew : m.id? t = none := by rw [id?, ht]; rfl
    cases hid : m.byId.lookup id with
    | some holder => exact .taken holder hnew hid
    | none => exact .entered _ hnew hid (registerWithId_eq_ok_iff.mpr ⟨ht, hid, rfl⟩)

theorem id?_of_registerWithId (h : m.registerWithId t id = .ok m') {u : τ} {i : PacketId}
    (hu : m.id? u = some i) : m'.id? u = some i := by
  obtain ⟨hnew, -, rfl⟩ := registerWithId_eq_ok_iff.mp h
  have hne : (u == t) = false := by
    rw [beq_eq_false_iff_ne]
    rintro rfl
    rw [id?, hnew] at hu
    cases hu
  rw [id?, List.lookup_cons, hne]
  exact hu

/-- The second table has come from the first one by registrations. -/
def Grows : TypeTable τ → TypeTable τ → Prop :=
  Relation.ReflTransGen fun m m' => ∃ t id, m.registerWithId t id = .ok m'

theorem Grows.id?_eq_some (h : m.Grows m') (ht : m.id? t = some id) : m'.id? t = some id := by
  induction h with
  | refl => exact ht
  | tail _ hstep ih =>
    obtain ⟨u, i, hu⟩ := hstep
    exact id?_of_registerWithId hu ih

/-- Two peers know a type by one id: they share a table, which the second one reads later, or both have
registered the type under the id that its name gives. -/
def Agree (m₁ m₂ : TypeTable τ) (t : τ) : Prop :=
  m₁.Grows m₂ ∨ m₁.id? t = some (derivedId t) ∧ m₂.id? t = some (derivedId t)

theorem Agree.id?_eq_some {m₁ m₂ : TypeTable τ} (h : Agree m₁ m₂ t) (ht : m₁.id? t = some id) :
    m₂.id? t = some id := by
  rcases h with hg | ⟨h₁, h₂⟩
  · exact hg.id?_eq_some ht
  · rw [← ht, h₁, h₂]

theorem getId_eq_ok_iff : m.getId t = .ok id ↔ m.id? t = some id := by
  rw [getId]
  cases m.id? t with
  | some i => simp
  | none => simp

end TypeTable

end FrameGateway
