import FrameGateway.Pool
import Mathlib.Data.List.Rotate
import Mathlib.Tactic.Common
/-! The turns of a pool: its members from the cursor on, and then those before it. Nothing but this
order and the order of the members themselves decides who is served. A call to `get` takes the first
to the end (`turns_of_next?`), a session that leaves is struck out (`turns_remove`), and one that comes
is put in somewhere without touching the order of the others (`turns_add`). -/

namespace FrameGateway.Pool

/-- The members in the order in which they are served from here on. -/
def turns (p : Pool) : List Handle := p.members.rotate p.cursor

/-- No id is there twice, and the cursor stands at a member, or at the start of an empty pool. -/
structure Valid (p : Pool) : Prop where
  nodup : p.ids.Nodup
  cursor : p.cursor < p.size ∨ p.members = [] ∧ p.cursor = 0

variable {p q : Pool} {h : Handle}

theorem valid_empty : empty.Valid := ⟨List.nodup_nil, .inr ⟨rfl, rfl⟩⟩

theorem Valid.cursor_le (hp : p.Valid) : p.cursor ≤ p.members.length := by
  rcases hp.cursor with hc | ⟨-, hc⟩
  · exact Nat.le_of_lt hc
  · omega

theorem Valid.turns_eq (hp : p.Valid) : p.turns = p.members.drop p.cursor ++ p.members.take p.cursor :=
  List.rotate_eq_drop_append_take hp.cursor_le

theorem contains_iff {id : SessionId} : p.contains id = true ↔ id ∈ p.ids := by
  simp [contains, ids]

/-! ### Serving -/

theorem next?_eq_none_iff (hp : p.Valid) : p.next? = none ↔ p.members = [] := by
  rw [next?, Option.map_eq_none_iff, List.getElem?_eq_none_iff]
  rcases hp.cursor with hc | ⟨hm, hc⟩
  · rw [size] at hc
    constructor
    · omega
    · intro hm
      rw [hm] at hc
      exact absurd hc (Nat.not_lt_zero _)
  · simp [hm]

/-- Who is served goes to the end of the line, behind those who come before it among the members. -/
theorem turns_of_next? (e : p.next? = some (h, q)) :
    ∃ earlier later, p.members = earlier ++ h :: later ∧ p.turns = h :: (later ++ earlier) ∧
      q.turns = later ++ earlier ++ [h] := by
  simp only [next?, Option.map_eq_some_iff, Prod.mk.injEq] at e
  obtain ⟨a, ha, rfl, rfl⟩ := e
  obtain ⟨hlt, ha⟩ := List.getElem?_eq_some_iff.mp ha
  have hd : p.members.drop p.cursor = a :: p.members.drop (p.cursor + 1) := by
    rw [List.drop_eq_getElem_cons hlt, ha]
  have ht : p.turns = a :: (p.members.drop (p.cursor + 1) ++ p.members.take p.cursor) := by
    rw [turns, List.rotate_eq_drop_append_take (Nat.le_of_lt hlt), hd]
    rfl
  refine ⟨p.members.take p.cursor, p.members.drop (p.cursor + 1), ?_, ht, ?_⟩
  · rw [← hd, List.take_append_drop]
  · calc p.members.rotate ((p.cursor + 1) % p.members.length)
        = p.turns.rotate 1 := by rw [List.rotate_mod, turns, List.rotate_rotate]
      _ = p.members.drop (p.cursor + 1) ++ p.members.take p.cursor ++ [a] := by
          rw [ht, List.rotate_cons_succ, List.rotate_zero]

theorem ids_of_next? (e : p.next? = some (h, q)) : q.ids = p.ids := by
  rw [ids, (members_of_next? e).2, ids]

theorem Valid.next (hp : p.Valid) (e : p.next? = some (h, q)) : q.Valid := by
  refine ⟨ids_of_next? e ▸ hp.nodup, .inl ?_⟩
  have hm := members_of_next? e
  have hpos : 0 < p.members.length := List.length_pos_of_mem hm.1
  rw [size, hm.2]
  simp only [next?, Option.map_eq_some_iff, Prod.mk.injEq] at e
  obtain ⟨a, -, -, rfl⟩ := e
  exact Nat.mod_lt _ hpos

/-! ### Coming and leaving -/

theorem add_of_contains (hc : p.contains h.id = true) : p.add h = (p, false) := if_pos hc

theorem add_of_not_contains (hc : ¬ p.contains h.id = true) :
    p.add h = ({ p with members := p.members ++ [h] }, true) := if_neg hc

theorem add_cases (p : Pool) (h : Handle) :
    (h.id ∈ p.ids ∧ p.add h = (p, false)) ∨
    (h.id ∉ p.ids ∧ p.add h = ({ p with members := p.members ++ [h] }, true)) := by
  by_cases hc : p.contains h.id = true
  · exact .inl ⟨contains_iff.mp hc, add_of_contains hc⟩
  · exact .inr ⟨fun hm => hc (contains_iff.mpr hm), add_of_not_contains hc⟩

theorem nodup_ids_append (hn : p.ids.Nodup) (hid : h.id ∉ p.ids) :
    ((p.members ++ [h]).map (·.id)).Nodup := by
  rw [List.map_append, List.nodup_append]
  refine ⟨hn, List.nodup_singleton _, fun a ha b hb => ?_⟩
  rw [List.mem_singleton.mp hb]
  rintro rfl
  exact hid ha

theorem nodup_ids_add (hn : p.ids.Nodup) (h : Handle) : (p.add h).1.ids.Nodup := by
  rcases add_cases p h with ⟨-, he⟩ | ⟨hid, he⟩
  · rw [he]
    exact hn
  · rw [he]
    exact nodup_ids_append hn hid

theorem mem_of_mem_add {a : Handle} (ha : a ∈ (p.add h).1.members) : a ∈ p.members ∨ a = h := by
  rcases add_cases p h with ⟨-, he⟩ | ⟨-, he⟩
  · rw [he] at ha
    exact .inl ha
  · rw [he] at ha
    exact (List.mem_append.mp ha).imp_right List.mem_singleton.mp

theorem Valid.add (hp : p.Valid) (h : Handle) : (p.add h).1.Valid := by
  refine ⟨nodup_ids_add hp.nodup h, ?_⟩
  rcases add_cases p h with ⟨-, he⟩ | ⟨-, he⟩
  · rw [he]
    exact hp.cursor
  · rw [he]
    have := hp.cursor_le
    simp only [size, List.length_append, List.length_singleton]
    omega

/-- Who comes is put in without touching the order of the others. -/
theorem turns_add (hp : p.Valid) (hc : ¬ p.contains h.id = true) :
    ∃ before after, p.turns = before ++ after ∧ (p.add h).1.turns = before ++ h :: after := by
  refine ⟨_, _, hp.turns_eq, ?_⟩
  have hv := (hp.add h).turns_eq
  rw [add_of_not_contains hc] at hv ⊢
  rw [hv, List.drop_append_of_le_length hp.cursor_le, List.take_append_of_le_length hp.cursor_le,
    List.append_assoc, List.singleton_append]

/-- An id that is there splits the members at its one session. -/
theorem remove_cases (p : Pool) (id : SessionId) :
    (id ∉ p.ids ∧ p.remove id = (p, false)) ∨
    ∃ a x b, p.members = a ++ x :: b ∧ x.id = id ∧ id ∉ a.map (·.id) ∧
      p.remove id = (⟨a ++ b, let c := if a.length < p.cursor then p.cursor - 1 else p.cursor
        if c < (a ++ b).length then c else 0⟩, true) := by
  unfold remove
  split
  next hn =>
    refine .inl ⟨fun hm => ?_, rfl⟩
    obtain ⟨x, hx, rfl⟩ := List.mem_map.mp hm
    simpa using List.findIdx?_eq_none_iff.mp hn x hx
  next i hi =>
    obtain ⟨hlt, hid, hfirst⟩ := List.findIdx?_eq_some_iff_getElem.mp hi
    refine .inr ⟨p.members.take i, p.members[i], p.members.drop (i + 1), ?_, by simpa using hid, ?_, ?_⟩
    · rw [← List.drop_eq_getElem_cons hlt, List.take_append_drop]
    · intro hm
      obtain ⟨x, hx, rfl⟩ := List.mem_map.mp hm
      obtain ⟨j, hj, rfl⟩ := List.mem_take_iff_getElem.mp hx
      have hj : j < i := by omega
      exact hfirst j hj (beq_self_eq_true _)
    · rw [List.length_take, Nat.min_eq_left (Nat.le_of_lt hlt), List.eraseIdx_eq_take_drop_succ]

theorem filter_ne_eq_self {l : List Handle} {id : SessionId} (hl : id ∉ l.map (·.id)) :
    l.filter (·.id != id) = l := by
  refine List.filter_eq_self.mpr fun x hx => ?_
  have : x.id ≠ id := fun e => hl (e ▸ List.mem_map_of_mem hx)
  simpa using this

theorem filter_ne_middle {a b : List Handle} {x : Handle} (ha : x.id ∉ a.map (·.id))
    (hb : x.id ∉ b.map (·.id)) : (a ++ x :: b).filter (·.id != x.id) = a ++ b := by
  rw [List.filter_append, List.filter_cons, filter_ne_eq_self ha, filter_ne_eq_self hb]
  simp

theorem not_mem_of_nodup_middle {a b : List Handle} {x : Handle}
    (h : ((a ++ x :: b).map (·.id)).Nodup) : x.id ∉ a.map (·.id) ∧ x.id ∉ b.map (·.id) := by
  rw [List.map_append, List.map_cons, List.nodup_middle, List.nodup_cons, List.mem_append, not_or] at h
  exact h.1

theorem members_remove_sublist (p : Pool) (id : SessionId) : (p.remove id).1.members.Sublist p.members := by
  rcases remove_cases p id with ⟨-, hr⟩ | ⟨a, x, b, hm, -, -, hr⟩
  · rw [hr]
  · rw [hr, hm]
    exact (List.sublist_cons_self x b).append_left a

theorem members_remove (hn : p.ids.Nodup) (id : SessionId) :
    (p.remove id).1.members = p.members.filter (·.id != id) := by
  rcases remove_cases p id with ⟨hm, hr⟩ | ⟨a, x, b, hm, rfl, -, hr⟩
  · rw [hr, filter_ne_eq_self hm]
  · rw [ids, hm] at hn
    obtain ⟨ha, hb⟩ := not_mem_of_nodup_middle hn
    rw [hr, hm, filter_ne_middle ha hb]

theorem Valid.remove (hp : p.Valid) (id : SessionId) : (p.remove id).1.Valid := by
  refine ⟨?_, ?_⟩
  · exact hp.nodup.sublist ((members_remove_sublist p id).map _)
  · rcases remove_cases p id with ⟨-, hr⟩ | ⟨a, x, b, -, -, -, hr⟩
    · rw [hr]
      exact hp.cursor
    · rw [hr]
      dsimp only [size]
      generalize (if a.length < p.cursor then p.cursor - 1 else p.cursor) = c
      split
      next hc => exact .inl hc
      next hc =>
        by_cases hl : (a ++ b).length = 0
        · exact .inr ⟨List.length_eq_zero_iff.mp hl, rfl⟩
        · exact .inl (Nat.pos_of_ne_zero hl)

/-- Who leaves is struck out, and nobody else is moved. -/
theorem turns_remove (hp : p.Valid) (id : SessionId) :
    (p.remove id).1.turns = p.turns.filter (·.id != id) := by
  rcases remove_cases p id with ⟨hm, hr⟩ | ⟨a, x, b, hm, rfl, -, hr⟩
  · rw [hr, turns, filter_ne_eq_self]
    rwa [(List.rotate_perm _ _ |>.map _).mem_iff]
  · have hn := hp.nodup
    rw [ids, hm] at hn
    obtain ⟨ha, hb⟩ := not_mem_of_nodup_middle hn
    have hlt : p.cursor < (a ++ x :: b).length := by
      rcases hp.cursor with hc | ⟨hc, -⟩
      · rwa [size, hm] at hc
      · rw [hm] at hc
        simp at hc
    rw [List.length_append, List.length_cons] at hlt
    rw [hr]
    dsimp only [turns]
    rw [hm]
    by_cases hc : a.length < p.cursor
    · -- who leaves has had a turn in this round, and so has `u`
      obtain ⟨u, v, rfl, hu⟩ : ∃ u v, b = u ++ v ∧ p.cursor = (a ++ x :: u).length :=
        ⟨b.take (p.cursor - a.length - 1), b.drop (p.cursor - a.length - 1),
          (List.take_append_drop ..).symm, by
            rw [List.length_append, List.length_cons, List.length_take]; omega⟩
      have hu' : p.cursor - 1 = (a ++ u).length := by
        rw [hu, List.length_append, List.length_cons, List.length_append]; omega
      rw [List.map_append, List.mem_append, not_or] at hb
      have hold : (a ++ x :: (u ++ v)).rotate p.cursor = v ++ (a ++ x :: u) := by
        rw [hu, ← List.cons_append, ← List.append_assoc, List.rotate_append_length_eq]
      rw [hold, List.filter_append, filter_ne_eq_self hb.2, filter_ne_middle ha hb.1, if_pos hc,
        if_pos (by rw [List.length_append]; omega), hu', ← List.append_assoc a u v,
        List.rotate_append_length_eq]
    · -- who leaves is still to be served, behind `v`
      obtain ⟨u, v, rfl, hu⟩ : ∃ u v, a = u ++ v ∧ p.cursor = u.length :=
        ⟨a.take p.cursor, a.drop p.cursor, (List.take_append_drop ..).symm, by
          rw [List.length_take]; omega⟩
      rw [List.map_append, List.mem_append, not_or] at ha
      have hold : (u ++ v ++ x :: b).rotate p.cursor = (v ++ x :: b) ++ u := by
        rw [hu, List.append_assoc, List.rotate_append_length_eq]
      rw [hold, List.filter_append, filter_ne_eq_self ha.1, filter_ne_middle ha.2 hb, if_neg hc]
      split
      next => rw [hu, List.append_assoc, List.rotate_append_length_eq]
      next hend =>
        -- nobody is left behind the cursor
        simp only [List.length_append] at hend
        obtain rfl : v = [] := List.length_eq_zero_iff.mp (by omega)
        obtain rfl : b = [] := List.length_eq_zero_iff.mp (by omega)
        simp

end FrameGateway.Pool
