import FrameGateway.Proofs.Cluster.Timeline
/-! A replay cache against the plain history of its checks. Whether a nonce is known can be read off
that history alone: it is if it has passed less than the cache's span ago, and fewer nonces than the
cache has room for have passed since. What the cache holds is the end of the list of all that has
passed (`Timeline.Tail`), and whatever it let go of is too old, or too many have come behind it. -/

namespace FrameGateway

/-- A machine shows a nonce, at a reading of the clock. -/
structure Showing where
  machineId : String
  nonce : Nonce
  time : Nat

def Showing.key (x : Showing) : NonceKey := ⟨x.machineId, x.nonce⟩

structure Verdict where
  key : NonceKey
  time : Nat
  known : Bool

abbrev History := List Verdict

namespace History

def passed (h : History) : Timeline := (h.filter (!·.known)).map fun c => (c.key, c.time)

/-- The nonce has last passed less than `ttl` ago, and fewer than `capacity` have passed since. -/
def Recalls (h : History) (ttl capacity now : Nat) (k : NonceKey) : Prop :=
  ∃ before after t, h = before ++ ⟨k, t, false⟩ :: after ∧ (∀ c ∈ after, c.key = k → c.known = true) ∧
    now - t < ttl ∧ after.countP (!·.known) < capacity

theorem recalls_iff {h : History} {ttl capacity now : Nat} {k : NonceKey} :
    h.Recalls ttl capacity now k ↔ ∃ before after t, h.passed = before ++ (k, t) :: after ∧
      k ∉ after.map (·.1) ∧ now - t < ttl ∧ after.length < capacity := by
  constructor
  · rintro ⟨before, after, t, rfl, hlast, hyoung, hroom⟩
    refine ⟨passed before, passed after, t, by simp [passed], fun hm => ?_, hyoung, ?_⟩
    · simp only [passed, List.map_map, List.mem_map, List.mem_filter] at hm
      obtain ⟨c, ⟨hc, hpass⟩, hk⟩ := hm
      simp [hlast c hc hk] at hpass
    · rwa [passed, List.length_map, ← List.countP_eq_length_filter]
  · rintro ⟨before, after, t, hp, hlast, hyoung, hroom⟩
    obtain ⟨b, m, hf, -, hm⟩ := List.map_eq_append_iff.mp hp
    obtain ⟨c, a, rfl, hc, rfl⟩ := List.map_eq_cons_iff.mp hm
    obtain ⟨x, y, rfl, -, hy⟩ := List.filter_eq_append_iff.mp hf
    obtain ⟨u, v, rfl, hu, hpass, rfl⟩ := List.filter_eq_cons_iff.mp hy
    obtain ⟨key, time, known⟩ := c
    obtain ⟨rfl, rfl⟩ := Prod.mk.inj hc
    obtain rfl : known = false := by simpa using hpass
    refine ⟨x ++ u, v, time, by rw [List.append_assoc], fun c hc hk => ?_, hyoung, ?_⟩
    · by_contra hkn
      exact hlast (hk ▸ List.mem_map.mpr ⟨(c.key, c.time), List.mem_map_of_mem
        (List.mem_filter.mpr ⟨hc, by simpa using hkn⟩), rfl⟩)
    · rwa [List.length_map, ← List.countP_eq_length_filter] at hroom

end History

namespace Timeline

def Sorted (l : Timeline) : Prop := l.Pairwise (·.2 ≤ ·.2)

theorem recent_eq_drop (ttl now : Nat) (l : Timeline) :
    ∃ m, m ≤ l.length ∧ l.recent ttl now = l.drop m ∧
      ∀ i e, i < m → l[i]? = some e → ttl ≤ now - e.2 := by
  induction l with
  | nil => exact ⟨0, Nat.le_refl _, rfl, fun i e hi => absurd hi (Nat.not_lt_zero i)⟩
  | cons x l ih =>
    by_cases hx : ttl ≤ now - x.2
    · obtain ⟨m, hm, hd, hold⟩ := ih
      refine ⟨m + 1, Nat.succ_le_succ hm, ?_, fun i e hi he => ?_⟩
      · rw [recent, List.dropWhile_cons, if_pos (by simpa using hx), List.drop_succ_cons]
        exact hd
      · cases i with
        | zero => cases he; exact hx
        | succ i => exact hold i e (Nat.lt_of_succ_lt_succ hi) he
    · refine ⟨0, Nat.zero_le _, ?_, fun i e hi => absurd hi (Nat.not_lt_zero i)⟩
      rw [recent, List.dropWhile_cons, if_neg (by simpa using hx), List.drop_zero]

theorem Sorted.young_of_mem_recent {l : Timeline} (h : l.Sorted) {ttl now : Nat} {e : NonceKey × Nat}
    (he : e ∈ l.recent ttl now) : now - e.2 < ttl := by
  induction l with
  | nil => cases he
  | cons x l ih =>
    obtain ⟨hx, hl⟩ := List.pairwise_cons.mp h
    by_cases hexp : ttl ≤ now - x.2
    · rw [recent, List.dropWhile_cons, if_pos (by simpa using hexp)] at he
      exact ih hl he
    · rw [recent, List.dropWhile_cons, if_neg (by simpa using hexp)] at he
      rcases List.mem_cons.mp he with rfl | he
      · omega
      · have := hx e he
        omega

theorem isSome_lookup_iff {l : Timeline} {k : NonceKey} :
    (l.lookup k).isSome ↔ ∃ t, (k, t) ∈ l := by
  rw [Option.isSome_iff_ne_none, ne_eq, List.lookup_eq_none_iff]
  constructor
  · intro h
    by_contra hn
    refine h fun e he => ?_
    have : k ≠ e.1 := fun hk => hn ⟨e.2, hk ▸ he⟩
    simpa using this
  · rintro ⟨t, ht⟩ h
    have := h _ ht
    simp at this

/-- The list is the end of all that has passed. Whatever is missing is too old by now, or as many have
passed since as there is room for. -/
structure Tail (l all : Timeline) (ttl capacity now : Nat) : Prop where
  tail : ∃ n, n ≤ all.length ∧ l = all.drop n ∧
    ∀ i e, i < n → all[i]? = some e → ttl ≤ now - e.2 ∨ capacity + i < all.length
  sorted : all.Sorted
  past : ∀ e ∈ all, e.2 ≤ now
  room : l.length ≤ capacity

variable {l all : Timeline} {ttl capacity now now' : Nat} {k : NonceKey}

theorem Tail.sorted_tail (h : l.Tail all ttl capacity now) : l.Sorted := by
  obtain ⟨n, -, rfl, -⟩ := h.tail
  exact h.sorted.sublist (List.drop_sublist n all)

theorem Tail.recent (h : l.Tail all ttl capacity now) (hn : now ≤ now') :
    (l.recent ttl now').Tail all ttl capacity now' := by
  obtain ⟨n, hle, rfl, hlost⟩ := h.tail
  obtain ⟨m, hm, hd, hold⟩ := recent_eq_drop ttl now' (all.drop n)
  rw [List.length_drop] at hm
  refine ⟨⟨n + m, by omega, by rw [hd, List.drop_drop], fun i e hi he => ?_⟩, h.sorted,
    fun e he => Nat.le_trans (h.past e he) hn, ?_⟩
  · by_cases hin : i < n
    · rcases hlost i e hin he with hexp | hroom
      · exact .inl (by omega)
      · exact .inr hroom
    · refine .inl (hold (i - n) e (by omega) ?_)
      rw [List.getElem?_drop, Nat.add_sub_cancel' (by omega)]
      exact he
  · have := h.room
    rw [hd, List.length_drop]
    omega

theorem Tail.push (h : l.Tail all ttl capacity now) (hcap : 0 < capacity) (k : NonceKey) :
    (l.push capacity now k).Tail (all ++ [(k, now)]) ttl capacity now := by
  obtain ⟨n, hle, rfl, hlost⟩ := h.tail
  have hlen : (all.drop n).length = all.length - n := List.length_drop
  refine ⟨⟨n + ((all.drop n).length + 1 - capacity), ?_, ?_, fun i e hi he => ?_⟩, ?_, ?_, ?_⟩
  · rw [List.length_append, List.length_singleton]
    omega
  · rw [Timeline.push, List.drop_drop, List.drop_append_of_le_length (by omega)]
  · rw [List.length_append, List.length_singleton]
    by_cases hin : i < n
    · rw [List.getElem?_append_left (by omega)] at he
      rcases hlost i e hin he with hexp | hroom
      · exact .inl hexp
      · exact .inr (by omega)
    · exact .inr (by omega)
  · refine List.pairwise_append.mpr ⟨h.sorted, List.pairwise_singleton _ _, fun a ha b hb => ?_⟩
    rw [List.mem_singleton.mp hb]
    exact h.past a ha
  · intro e he
    rcases List.mem_append.mp he with he | he
    · exact h.past e he
    · obtain rfl := List.mem_singleton.mp he
      exact Nat.le_refl now
  · have := h.room
    rw [Timeline.push, List.length_append, List.length_drop, List.length_singleton]
    omega

/-- Of what is held, all young, the history says the same. -/
theorem Tail.isSome_lookup_iff (h : l.Tail all ttl capacity now) (hn : (l.map (·.1)).Nodup)
    (hyoung : ∀ e ∈ l, now - e.2 < ttl) :
    (l.lookup k).isSome ↔ ∃ before after t, all = before ++ (k, t) :: after ∧
      k ∉ after.map (·.1) ∧ now - t < ttl ∧ after.length < capacity := by
  obtain ⟨n, hle, hl, hlost⟩ := h.tail
  rw [Timeline.isSome_lookup_iff]
  constructor
  · rintro ⟨t, ht⟩
    obtain ⟨before, after, hsplit⟩ := List.append_of_mem ht
    refine ⟨all.take n ++ before, after, t, ?_, ?_, hyoung _ ht, ?_⟩
    · rw [List.append_assoc, ← hsplit, hl, List.take_append_drop]
    · rw [hsplit, List.map_append, List.map_cons, List.nodup_append] at hn
      exact (List.nodup_cons.mp hn.2.1).1
    · have := h.room
      rw [hsplit, List.length_append, List.length_cons] at this
      omega
  · rintro ⟨before, after, t, rfl, -, hy, hroom⟩
    refine ⟨t, ?_⟩
    have hnb : n ≤ before.length := by
      by_contra hlt
      have he : (before ++ (k, t) :: after)[before.length]? = some (k, t) := by simp
      rcases hlost before.length _ (by omega) he with hexp | hmany
      · exact absurd hy (Nat.not_lt.mpr hexp)
      · rw [List.length_append, List.length_cons] at hmany
        omega
    rw [hl, List.drop_append_of_le_length hnb]
    exact List.mem_append_right _ List.mem_cons_self

end Timeline

namespace ReplayCache

/-- A nonce is shown, and the history grows by what the cache makes of it. -/
def present (s : ReplayCache × History) (x : Showing) : ReplayCache × History :=
  let r := s.1.check x.time x.machineId x.nonce
  (r.1, s.2 ++ [⟨x.key, x.time, r.2⟩])

def run (c : ReplayCache) (showings : List Showing) : ReplayCache × History :=
  showings.foldl present (c, [])

structure Follows (s : ReplayCache × History) (ttl : Duration) (capacity now : Nat) : Prop where
  knows : ∃ l, s.1.Knows l ∧ l.Tail s.2.passed ttl.nanos capacity now
  ttl : s.1.ttl = ttl
  capacity : s.1.capacity = capacity

theorem follows_create (ttl : Duration) (capacity : Nat) :
    Follows (create ttl capacity, []) ttl (max capacity 1) 0 where
  knows := ⟨[], knows_create ttl capacity,
    ⟨⟨0, Nat.le_refl _, rfl, fun i _ hi => absurd hi (Nat.not_lt_zero i)⟩, .nil,
      fun _ he => absurd he List.not_mem_nil, Nat.zero_le _⟩⟩
  ttl := rfl
  capacity := rfl

variable {s : ReplayCache × History} {ttl : Duration} {capacity now : Nat} {x : Showing}

/-- The list that the cache goes by in a check: what is left of the end of the history by then. -/
theorem Follows.recent (h : Follows s ttl capacity now) (hx : now ≤ x.time) :
    ∃ l : Timeline, s.1.Knows l ∧ (l.recent ttl.nanos x.time).Tail s.2.passed ttl.nanos capacity x.time ∧
      (((l.recent ttl.nanos x.time).lookup x.key).isSome ↔
        s.2.Recalls ttl.nanos capacity x.time x.key) := by
  obtain ⟨l, hk, ht⟩ := h.knows
  have htail := ht.recent hx
  refine ⟨l, hk, htail, ?_⟩
  have hnodup : ((l.recent ttl.nanos x.time).map (·.1)).Nodup :=
    hk.nodup.sublist ((List.dropWhile_sublist _).map _)
  rw [History.recalls_iff]
  exact htail.isSome_lookup_iff hnodup fun e he => ht.sorted_tail.young_of_mem_recent he

theorem Follows.check_iff (h : Follows s ttl capacity now) (hx : now ≤ x.time) :
    (s.1.check x.time x.machineId x.nonce).2 = true ↔ s.2.Recalls ttl.nanos capacity x.time x.key := by
  obtain ⟨l, hk, -, hiff⟩ := h.recent hx
  rw [(hk.check x.time x.machineId x.nonce).2.1, h.ttl, ← hiff, Timeline.check]
  split
  next hsome => simpa [Showing.key] using hsome
  next hnone => simpa [Showing.key] using hnone

theorem Follows.present (h : Follows s ttl capacity now) (hcap : 0 < capacity) (hx : now ≤ x.time) :
    Follows (present s x) ttl capacity x.time := by
  obtain ⟨l, hk, htail, -⟩ := h.recent hx
  obtain ⟨hknows, hanswer, httl, hcapacity⟩ := hk.check x.time x.machineId x.nonce
  rw [h.ttl, h.capacity] at hknows hanswer
  refine ⟨⟨_, hknows, ?_⟩, httl.trans h.ttl, hcapacity.trans h.capacity⟩
  rw [ReplayCache.present]
  dsimp only
  rw [hanswer, Timeline.check]
  split
  next =>
    -- a nonce that is known adds nothing to what has passed
    simpa [History.passed] using htail
  next =>
    simpa [History.passed, Showing.key] using htail.push hcap x.key

theorem Follows.run {showings : List Showing} (h : Follows s ttl capacity now) (hcap : 0 < capacity)
    (hmono : showings.Pairwise (·.time ≤ ·.time)) (hnow : ∀ x ∈ showings, now ≤ x.time) :
    ∃ t, Follows (showings.foldl ReplayCache.present s) ttl capacity t ∧
      ∀ n, now ≤ n → (∀ x ∈ showings, x.time ≤ n) → t ≤ n := by
  induction showings generalizing s now with
  | nil => exact ⟨now, h, fun n hn _ => hn⟩
  | cons x showings ih =>
    obtain ⟨hx, hmono⟩ := List.pairwise_cons.mp hmono
    obtain ⟨t, ht, hlast⟩ := ih (h.present hcap (hnow x List.mem_cons_self)) hmono hx
    refine ⟨t, ht, fun n _ hn => hlast n (hn x List.mem_cons_self) fun y hy =>
      hn y (List.mem_cons_of_mem x hy)⟩

/-- A replay cache and the plain history of its checks agree. At readings of the clock that never go
back, a nonce is known if and only if it has last passed less than the span ago and fewer nonces than
there is room for have passed since. All along, table and queue hold the same nonces, each once, in the
order of their entry and never more than there is room for. -/
theorem agrees_with_history (ttl : Duration) (capacity : Nat) (showings : List Showing) (x : Showing)
    (hmono : (showings ++ [x]).Pairwise (·.time ≤ ·.time)) :
    let s := (create ttl capacity).run showings
    ((s.1.check x.time x.machineId x.nonce).2 = true ↔
      s.2.Recalls ttl.nanos (max capacity 1) x.time x.key) ∧
    ∃ l, s.1.Knows l ∧ l.Sorted ∧ l.length ≤ max capacity 1 := by
  obtain ⟨hbefore, -, hlast⟩ := List.pairwise_append.mp hmono
  obtain ⟨t, ht, hle⟩ := (follows_create ttl capacity).run (Nat.le_max_right capacity 1) hbefore
    fun x _ => Nat.zero_le x.time
  have htx : t ≤ x.time := hle x.time (Nat.zero_le _) fun y hy => hlast y hy x (List.mem_singleton_self x)
  refine ⟨ht.check_iff htx, ?_⟩
  obtain ⟨l, hk, htail⟩ := ht.knows
  exact ⟨l, hk, htail.sorted_tail, htail.room⟩

/-- A nonce is shown, and nine nanoseconds later again, to a cache that keeps one nonce for ten. -/
theorem agrees_with_history_of_two :
    let a : Showing := ⟨"machine-a", .replicate 16 0, 0⟩
    let b : Showing := ⟨"machine-a", .replicate 16 0, 9⟩
    ([a] ++ [b]).Pairwise (·.time ≤ ·.time) ∧
      (((create (.ofNanos 10) 0).run [a]).1.check 9 "machine-a" (.replicate 16 0)).2 = true := by
  intro a b
  have hmono : ([a] ++ [b]).Pairwise (·.time ≤ ·.time) := by simp [a, b]
  have hfirst : ((create (.ofNanos 10) 0).check 0 "machine-a" (.replicate 16 0)).2 = false := by
    refine Bool.eq_false_iff.mpr fun h => ?_
    obtain ⟨before, after, t, he, -⟩ := (agrees_with_history (.ofNanos 10) 0 [] a (by simp)).1.mp h
    simp [run] at he
  refine ⟨hmono, (agrees_with_history (.ofNanos 10) 0 [a] b hmono).1.mpr ⟨[], [], 0, ?_, ?_, ?_, ?_⟩⟩
  · simp [run, present, a, b, Showing.key, hfirst]
  · simp
  · decide
  · decide

end ReplayCache

end FrameGateway
