import FrameGateway.Cluster.ReplayCache
import Mathlib.Tactic.Common
/-! A replay cache is a list: the nonces that it knows, each with the time of its entry, oldest first.
Table and queue hold this list between them (`Knows`), and a check acts on it as `Timeline.check`
says: what has expired goes from the front, and a new nonce goes to the end. -/

namespace FrameGateway

/-- Nonces with the times of their entry, oldest first. -/
abbrev Timeline := List (NonceKey × Nat)

namespace Timeline

/-- The part from the first nonce on that is younger than `ttl`. -/
def recent (ttl now : Nat) (l : Timeline) : Timeline := l.dropWhile fun e => ttl ≤ now - e.2

/-- A new nonce at the end, for which the oldest make room. -/
def push (capacity now : Nat) (k : NonceKey) (l : Timeline) : Timeline :=
  l.drop (l.length + 1 - capacity) ++ [(k, now)]

/-- Is the nonce known? If not, it is entered. -/
def check (ttl capacity now : Nat) (k : NonceKey) (l : Timeline) : Timeline × Bool :=
  if ((l.recent ttl now).lookup k).isSome then (l.recent ttl now, true)
  else ((l.recent ttl now).push capacity now k, false)

/-- A nonce passes where all that is known has expired. -/
theorem check_of_recent_eq_nil {ttl now : Nat} {l : Timeline} (h : l.recent ttl now = [])
    (capacity : Nat) (k : NonceKey) : l.check ttl capacity now k = ([(k, now)], false) := by
  rw [check, h]
  simp [push]

theorem lookup_eq_none {l : Timeline} {k : NonceKey} (h : k ∉ l.map (·.1)) : l.lookup k = none := by
  rw [List.lookup_eq_none_iff]
  intro e he
  have : k ≠ e.1 := fun hk => h (hk ▸ List.mem_map_of_mem he)
  simpa using this

/-- The nonce is known since `t`, and at most `n` have come behind it. -/
def Keeps (l : Timeline) (k : NonceKey) (t n : Nat) : Prop :=
  ∃ before after, l = before ++ (k, t) :: after ∧ after.length ≤ n

theorem Keeps.lookup {l : Timeline} {k : NonceKey} {t n : Nat} (h : l.Keeps k t n) :
    (l.lookup k).isSome := by
  obtain ⟨before, after, rfl, -⟩ := h
  rw [Option.isSome_iff_ne_none]
  intro hn
  have := List.lookup_eq_none_iff.mp hn (k, t) (by simp)
  simp at this

/-- A nonce that is younger than `ttl` is not lost to time, whatever stands before it. -/
theorem Keeps.recent {l : Timeline} {k : NonceKey} {t n ttl now : Nat} (h : l.Keeps k t n)
    (hnow : now - t < ttl) : (l.recent ttl now).Keeps k t n := by
  obtain ⟨before, after, rfl, hn⟩ := h
  have hk : ((k, t) :: after).dropWhile (fun e => decide (ttl ≤ now - e.2)) = (k, t) :: after := by
    rw [List.dropWhile_cons, if_neg (by simpa using hnow)]
  rw [Timeline.recent, List.dropWhile_append]
  split
  next => exact ⟨[], after, hk, hn⟩
  next => exact ⟨_, after, rfl, hn⟩

/-- Nor is it lost for want of room while fewer than `capacity` have come behind it. -/
theorem Keeps.push {l : Timeline} {k : NonceKey} {t n capacity : Nat} (h : l.Keeps k t n)
    (hn : n + 1 < capacity) (now : Nat) (k' : NonceKey) :
    (l.push capacity now k').Keeps k t (n + 1) := by
  obtain ⟨before, after, rfl, ha⟩ := h
  refine ⟨before.drop ((before ++ (k, t) :: after).length + 1 - capacity), after ++ [(k', now)], ?_, ?_⟩
  · have hd : (before ++ (k, t) :: after).length + 1 - capacity ≤ before.length := by
      rw [List.length_append, List.length_cons]; omega
    rw [Timeline.push, List.drop_append_of_le_length hd, List.append_assoc, List.cons_append]
  · rw [List.length_append, List.length_singleton]; omega

theorem keeps_push (l : Timeline) (capacity now : Nat) (k : NonceKey) :
    (l.push capacity now k).Keeps k now 0 := ⟨_, [], rfl, Nat.le_refl 0⟩

end Timeline

namespace ReplayCache

/-- Table and queue hold the nonces of the list, each once. -/
structure Knows (c : ReplayCache) (l : Timeline) : Prop where
  order : c.order.toList = l.map (·.1)
  nodup : (l.map (·.1)).Nodup
  size : c.entries.size = l.length
  entry : ∀ k, c.entries[k]? = l.lookup k

theorem knows_create (ttl : Duration) (capacity : Nat) : (create ttl capacity).Knows [] :=
  ⟨rfl, List.nodup_nil, Std.HashMap.size_empty, fun _ => Std.HashMap.getElem?_empty⟩

theorem Knows.pop?_nil {c : ReplayCache} (h : c.Knows []) : c.order.pop? = none := by
  cases hp : c.order.pop? with
  | none => rfl
  | some p =>
    have := Fifo.toList_of_pop?_eq_some hp
    rw [h.order] at this
    cases this

theorem Knows.pop? {c : ReplayCache} {k : NonceKey} {t : Nat} {l : Timeline}
    (h : c.Knows ((k, t) :: l)) : ∃ rest, c.order.pop? = some (k, rest) ∧
      ({ c with entries := c.entries.erase k, order := rest } : ReplayCache).Knows l := by
  have hk : k ∉ l.map (·.1) := (List.nodup_cons.mp h.nodup).1
  cases hp : c.order.pop? with
  | none =>
    have := Fifo.toList_of_pop?_eq_none hp
    rw [h.order] at this
    cases this
  | some p =>
    obtain ⟨k', rest⟩ := p
    have ho := Fifo.toList_of_pop?_eq_some hp
    rw [h.order, List.map_cons, List.cons.injEq] at ho
    obtain ⟨rfl, ho⟩ := ho
    refine ⟨rest, rfl, ho.symm, (List.nodup_cons.mp h.nodup).2, ?_, fun j => ?_⟩
    · have hc : c.entries.contains k = true := by
        rw [Std.HashMap.contains_eq_isSome_getElem?, h.entry]
        simp
      have hs := h.size
      rw [List.length_cons] at hs
      simp only [Std.HashMap.size_erase, Std.HashMap.mem_iff_contains, hc, if_true]
      omega
    · rw [Std.HashMap.getElem?_erase]
      by_cases hj : k = j
      · subst hj
        simp [Timeline.lookup_eq_none hk]
      · have hj' : (j == k) = false := beq_eq_false_iff_ne.mpr (Ne.symm hj)
        simp [hj, h.entry, List.lookup_cons, hj']

theorem Knows.expire {c : ReplayCache} {l : Timeline} (h : c.Knows l) (now : Nat) :
    (c.expire now).Knows (l.recent c.ttl.nanos now) ∧
      (c.expire now).ttl = c.ttl ∧ (c.expire now).capacity = c.capacity := by
  induction l generalizing c with
  | nil =>
    rw [ReplayCache.expire]
    split
    next => exact ⟨h, rfl, rfl⟩
    next heq => rw [h.pop?_nil] at heq; cases heq
  | cons e l ih =>
    obtain ⟨k, t⟩ := e
    obtain ⟨rest, hp, hrest⟩ := h.pop?
    have hx : c.isExpired now k = decide (c.ttl.nanos ≤ now - t) := by
      rw [isExpired, h.entry]
      simp
    rw [ReplayCache.expire]
    split
    next heq => rw [hp] at heq; cases heq
    next k' rest' heq =>
      rw [hp] at heq
      cases heq
      rw [hx, Timeline.recent, List.dropWhile_cons]
      by_cases hexp : c.ttl.nanos ≤ now - t
      · simp only [hexp, decide_true, if_true]
        exact ih hrest
      · rw [decide_eq_false hexp, if_neg Bool.false_ne_true, if_neg Bool.false_ne_true]
        exact ⟨h, rfl, rfl⟩

theorem Knows.evict {c : ReplayCache} {l : Timeline} (h : c.Knows l) (n : Nat) :
    (c.evict n).Knows (l.drop n) ∧ (c.evict n).ttl = c.ttl ∧ (c.evict n).capacity = c.capacity := by
  induction n generalizing c l with
  | zero => exact ⟨h, rfl, rfl⟩
  | succ n ih =>
    cases l with
    | nil =>
      rw [ReplayCache.evict, h.pop?_nil]
      exact ⟨h, rfl, rfl⟩
    | cons e l =>
      obtain ⟨k, t⟩ := e
      obtain ⟨rest, hp, hrest⟩ := h.pop?
      rw [ReplayCache.evict, hp]
      exact ih hrest

theorem Knows.push {c : ReplayCache} {l : Timeline} (h : c.Knows l) {k : NonceKey}
    (hk : l.lookup k = none) (now : Nat) :
    ({ c with entries := c.entries.insert k now, order := c.order.push k } : ReplayCache).Knows
      (l ++ [(k, now)]) := by
  have hc : c.entries.contains k = false := by
    rw [Std.HashMap.contains_eq_isSome_getElem?, h.entry, hk]; rfl
  have hm : k ∉ l.map (·.1) := by
    intro hm
    obtain ⟨e, he, rfl⟩ := List.mem_map.mp hm
    have := List.lookup_eq_none_iff.mp hk e he
    simp at this
  refine ⟨by simp [h.order], ?_, ?_, fun j => ?_⟩
  · rw [List.map_append, List.nodup_append]
    refine ⟨h.nodup, by simp, fun a ha b hb => ?_⟩
    rintro rfl
    obtain rfl : a = k := List.mem_singleton.mp hb
    exact hm ha
  · simp [Std.HashMap.size_insert, Std.HashMap.mem_iff_contains, hc, h.size]
  · rw [Std.HashMap.getElem?_insert, List.lookup_append]
    by_cases hj : k = j
    · subst hj
      simp [hk]
    · have hj' : (j == k) = false := beq_eq_false_iff_ne.mpr (Ne.symm hj)
      simp [hj, h.entry, List.lookup_cons, hj']

/-- A check acts on the list alone. -/
theorem Knows.check {c : ReplayCache} {l : Timeline} (h : c.Knows l) (now : Nat) (machineId : String)
    (nonce : Nonce) :
    (c.check now machineId nonce).1.Knows (l.check c.ttl.nanos c.capacity now ⟨machineId, nonce⟩).1 ∧
      (c.check now machineId nonce).2 = (l.check c.ttl.nanos c.capacity now ⟨machineId, nonce⟩).2 ∧
      (c.check now machineId nonce).1.ttl = c.ttl ∧
      (c.check now machineId nonce).1.capacity = c.capacity := by
  obtain ⟨he, ht, hcap⟩ := h.expire now
  generalize hd : c.expire now = d at he ht hcap
  have hc : d.entries.contains ⟨machineId, nonce⟩ =
      ((l.recent c.ttl.nanos now).lookup ⟨machineId, nonce⟩).isSome := by
    rw [Std.HashMap.contains_eq_isSome_getElem?, he.entry]
  rw [ReplayCache.check, Timeline.check, hd]
  dsimp only
  rw [hc]
  split
  next => exact ⟨he, rfl, ht, hcap⟩
  next hk =>
    rw [Option.not_isSome_iff_eq_none] at hk
    have hev : (if d.capacity ≤ d.size then d.evict (d.size + 1 - d.capacity) else d) =
        d.evict (d.size + 1 - d.capacity) := by
      split
      next => rfl
      next hlt => rw [Nat.sub_eq_zero_of_le (by omega)]; rfl
    obtain ⟨hl, ht', hcap'⟩ := he.evict (d.size + 1 - d.capacity)
    rw [hev]
    refine ⟨?_, rfl, ht'.trans ht, hcap'.trans hcap⟩
    have hs : d.size = (l.recent c.ttl.nanos now).length := he.size
    rw [hs, hcap] at hl ⊢
    exact hl.push (List.lookup_eq_none_iff.mpr fun e hm =>
      List.lookup_eq_none_iff.mp hk e (List.mem_of_mem_drop hm)) now

end ReplayCache

end FrameGateway
