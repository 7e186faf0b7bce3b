import FrameGateway.Proofs.Gateway.Backends
import Mathlib.Data.List.Perm.Subperm
import Mathlib.Data.Nat.ModEq
/-! Ids in turn. A narrow token has fewer ids than there are counts, so the ids come round again, and once
more out of step where the count itself begins anew; still, as long as there are more ids than clients, the
search finds one that no client has (`Gateway.allocate_free`). -/

namespace FrameGateway

/-- How many ids there are that are given out in turn; none are where ids are drawn. -/
def TokenFormat.inTurn? (token : Option TokenFormat) : Option Nat :=
  (token.map (·.maxToken)).filter (· < 2 ^ 128 - 1)

theorem Relay.client?_eq_none_iff {r : Relay} {id : SessionId} :
    r.client? id = none ↔ id ∉ r.clients.map (·.id) := by
  rw [Relay.client?, List.find?_eq_none, List.mem_map, not_exists]
  refine forall_congr' fun h => ?_
  rw [not_and, beq_iff_eq]

namespace Gateway

variable {g : Gateway} {most tries : Nat}

/-- The search as a loop that has no end of its own: at which candidate it ends, and with what. -/
inductive Searches (most : Nat) : Gateway → Nat → Gateway × SessionId → Prop
  | found (g : Gateway) (h : g.relay.client? (numbered most g.counter) = none) :
    Searches most g 1 ({ g with counter := g.counter + 1 }, numbered most g.counter)
  | taken (g : Gateway) (n : Nat) (x : Gateway × SessionId) (h : g.relay.client? (numbered most g.counter) ≠ none)
    (hx : Searches most { g with counter := g.counter + 1 } n x) : Searches most g (n + 1) x

variable {n : Nat} {x : Gateway × SessionId}

theorem Searches.free (h : Searches most g n x) : g.relay.client? x.2 = none := by
  induction h with
  | found g hnow => exact hnow
  | taken g n x hnow hx ih => exact ih

theorem Searches.numbered (h : Searches most g n x) : ∃ count, x.2 = numbered most count := by
  induction h with
  | found g hnow => exact ⟨g.counter, rfl⟩
  | taken g n x hnow hx ih => exact ih

/-- With as many tries as the loop has candidates, or more, the search comes to the same. -/
theorem Searches.nextFree_eq (h : Searches most g n x) (hn : n ≤ tries) : g.nextFree most tries = x := by
  induction h generalizing tries with
  | found g hnow =>
    cases tries with
    | zero => exact absurd hn (by decide)
    | succ tries => exact if_pos (Option.isNone_iff_eq_none.mpr hnow)
  | taken g n x hnow hx ih =>
    cases tries with
    | zero => exact absurd hn (Nat.not_succ_le_zero n)
    | succ tries =>
      exact (if_neg (mt Option.isNone_iff_eq_none.mp hnow)).trans (ih (Nat.le_of_succ_le_succ hn))

/-- The loop ends, if there is an id that no client has among so many counts. -/
theorem exists_searches (h : ∃ j < tries, g.relay.client? (numbered most (g.counter + .ofNat j)) = none) :
    ∃ n ≤ tries, ∃ x, Searches most g n x := by
  induction tries generalizing g with
  | zero =>
    obtain ⟨j, hj, -⟩ := h
    exact absurd hj (Nat.not_lt_zero j)
  | succ tries ih =>
    obtain ⟨j, hj, hfree⟩ := h
    by_cases hnow : g.relay.client? (numbered most g.counter) = none
    · exact ⟨1, Nat.succ_le_succ (Nat.zero_le tries), _, .found g hnow⟩
    · -- the first count is not the one that is free, so that one is among the rest
      cases j with
      | zero =>
        rw [show g.counter + UInt64.ofNat 0 = g.counter from UInt64.add_zero _] at hfree
        exact absurd hfree hnow
      | succ j =>
        rw [UInt64.ofNat_add, UInt64.add_comm (UInt64.ofNat j), ← UInt64.add_assoc] at hfree
        obtain ⟨n, hn, x, hx⟩ := ih (g := { g with counter := g.counter + 1 })
          ⟨j, Nat.lt_of_succ_lt_succ hj, hfree⟩
        exact ⟨n + 1, Nat.succ_le_succ hn, x, .taken g n x hnow hx⟩

/-- Each remainder comes up in time. Where the count begins anew, one of them comes twice. -/
theorem exists_count_mod (hmost : most ∣ 2 ^ 64 - 1) (count : UInt64) {k : Nat} (hk : k + 1 < 2 ^ 64) :
    ∃ j ≤ k + 1, (count + .ofNat j).toNat % most = (count.toNat + k) % most := by
  obtain ⟨q, hq⟩ := hmost
  have hc := count.toNat_lt
  by_cases hwrap : count.toNat + k < 2 ^ 64
  · refine ⟨k, Nat.le_succ k, ?_⟩
    rw [UInt64.toNat_add, UInt64.toNat_ofNat', Nat.mod_eq_of_lt (by omega : k < 2 ^ 64), Nat.mod_eq_of_lt hwrap]
  · refine ⟨k + 1, Nat.le_refl _, ?_⟩
    have hagain : (count.toNat + (k + 1)) % 2 ^ 64 = count.toNat + (k + 1) - 2 ^ 64 := by omega
    have hround : count.toNat + k = (count.toNat + (k + 1) - 2 ^ 64) + most * q := by omega
    rw [UInt64.toNat_add, UInt64.toNat_ofNat', Nat.mod_eq_of_lt hk, hagain, hround, Nat.add_mul_mod_self_left]

/-- A round of ids has no id twice. -/
theorem nodup_round (count : Nat) {k : Nat} (hk : k ≤ most) (hmost : most < 2 ^ 64) :
    ((List.range k).map fun i => SessionId.ofNat ((count + i) % most + 1)).Nodup := by
  refine List.nodup_range.map_on fun a ha b hb he => ?_
  rw [List.mem_range] at ha hb
  have hlt : ∀ n, n % most + 1 < 2 ^ 128 := fun n => by
    have := Nat.mod_lt n (by omega : most > 0)
    omega
  have hval := congrArg SessionId.val he
  rw [SessionId.val_ofNat (hlt _), SessionId.val_ofNat (hlt _), Nat.add_right_cancel_iff] at hval
  have hmod : a % most = b % most := Nat.ModEq.add_left_cancel' count hval
  rwa [Nat.mod_eq_of_lt (by omega), Nat.mod_eq_of_lt (by omega)] at hmod

/-- Of more ids in a round than there are clients, one is free. -/
theorem exists_free_id (hmost : most ∣ 2 ^ 64 - 1) (hl : g.relay.clients.length < most) :
    ∃ j < g.relay.clients.length + 2, g.relay.client? (numbered most (g.counter + .ofNat j)) = none := by
  have hle := Nat.le_of_dvd (by decide) hmost
  by_contra hno
  have hn := nodup_round g.counter.toNat (Nat.succ_le_of_lt hl) (by omega)
  have hs : (List.range (g.relay.clients.length + 1)).map (fun i =>
      SessionId.ofNat ((g.counter.toNat + i) % most + 1)) ⊆ g.relay.clients.map (·.id) := by
    intro id hid
    obtain ⟨k, hk, rfl⟩ := List.mem_map.mp hid
    rw [List.mem_range] at hk
    obtain ⟨j, hj, hmod⟩ := exists_count_mod hmost g.counter (k := k) (by omega)
    by_contra hnot
    refine hno ⟨j, by omega, ?_⟩
    rw [Relay.client?_eq_none_iff, numbered, hmod]
    exact hnot
  have hlen := (hn.subperm hs).length_le
  rw [List.length_map, List.length_range, List.length_map] at hlen
  omega

/-- There is an id for one more session. Were there none, the search for it would have no end. -/
def hasId (g : Gateway) : Bool :=
  match TokenFormat.inTurn? g.relay.token with
  | some most => g.relay.clients.length < most
  | none => true

theorem dvd_of_inTurn? {token : Option TokenFormat} (h : TokenFormat.inTurn? token = some most) :
    most ∣ 2 ^ 64 - 1 := by
  obtain ⟨h, hlt⟩ := Option.filter_eq_some_iff.mp h
  obtain ⟨f, -, rfl⟩ := Option.map_eq_some_iff.mp h
  cases f with
  | u32 => decide
  | u64 => decide
  | uuid => exact absurd (of_decide_eq_true hlt) (by decide)

theorem allocate_of_drawn (h : TokenFormat.inTurn? g.relay.token = none) (fresh : SessionId) :
    g.allocate fresh = (g, fresh) := by
  rw [allocate, ← TokenFormat.inTurn?, h]

/-- Where ids are given out in turn and one is free, two more candidates than there are clients are enough. -/
theorem searches_allocate (hn : TokenFormat.inTurn? g.relay.token = some most)
    (hl : g.relay.clients.length < most) (fresh : SessionId) :
    ∃ n ≤ g.relay.clients.length + 2, Searches most g n (g.allocate fresh) := by
  obtain ⟨n, hle, x, hx⟩ := exists_searches (exists_free_id (dvd_of_inTurn? hn) hl)
  rw [allocate, ← TokenFormat.inTurn?, hn]
  dsimp only
  rw [hx.nextFree_eq hle]
  exact ⟨n, hle, hx⟩

/-- No client has a new session's id: not one that has been given out in turn, nor a new one drawn. -/
theorem allocate_free (hg : g.hasId = true) {fresh : SessionId}
    (hfresh : TokenFormat.inTurn? g.relay.token = none → fresh ∉ g.relay.clients.map (·.id)) :
    (g.allocate fresh).2 ∉ g.relay.clients.map (·.id) := by
  rw [hasId] at hg
  cases hn : TokenFormat.inTurn? g.relay.token with
  | none =>
    rw [allocate_of_drawn hn]
    exact hfresh hn
  | some most =>
    rw [hn] at hg
    obtain ⟨n, -, hx⟩ := searches_allocate hn (of_decide_eq_true hg) fresh
    exact Relay.client?_eq_none_iff.mp hx.free

end Gateway

end FrameGateway
