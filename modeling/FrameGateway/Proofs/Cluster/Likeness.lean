import FrameGateway.Proofs.Cluster.History
/-! Two replay caches that are alike as far as some nonces go: of those that are watched, the same ones
are young (`ReplayCache.Alike`). Such caches give the same answer to a watched nonce, and stay alike
when either of them is shown another one, as long as neither forgets a nonce for want of room. -/

namespace FrameGateway

namespace Timeline

variable {l l' : Timeline} {ttl capacity now now' : Nat} {k : NonceKey} {watch : NonceKey → Bool}

theorem Sorted.recent_eq_filter (h : l.Sorted) (ttl now : Nat) :
    l.recent ttl now = l.filter fun e => decide (now - e.2 < ttl) := by
  induction l with
  | nil => rfl
  | cons e l ih =>
    obtain ⟨he, hl⟩ := List.pairwise_cons.mp h
    by_cases hold : ttl ≤ now - e.2
    · rw [recent, List.dropWhile_cons, if_pos (by simpa using hold), List.filter_cons,
        if_neg (by simpa using hold)]
      exact ih hl
    · -- all that come behind a young one are younger still
      have hyoung : ∀ x ∈ e :: l, now - x.2 < ttl := by
        intro x hx
        rcases List.mem_cons.mp hx with rfl | hx
        · omega
        · have := he x hx
          omega
      rw [recent, List.dropWhile_cons, if_neg (by simpa using hold), List.filter_eq_self.mpr]
      intro x hx
      exact decide_eq_true (hyoung x hx)

/-- What is young at that time, of the nonces that are watched. -/
def young (watch : NonceKey → Bool) (ttl now : Nat) (l : Timeline) : Timeline :=
  l.filter fun e => watch e.1 && decide (now - e.2 < ttl)

theorem young_append (watch : NonceKey → Bool) (ttl now : Nat) (l l' : Timeline) :
    (l ++ l').young watch ttl now = l.young watch ttl now ++ l'.young watch ttl now :=
  List.filter_append ..

theorem Sorted.young_recent (h : l.Sorted) :
    (l.recent ttl now).young watch ttl now = l.young watch ttl now := by
  rw [h.recent_eq_filter, young, young, List.filter_filter]
  refine List.filter_congr fun e _ => ?_
  rw [Bool.and_assoc, Bool.and_self]

theorem Sorted.recent_eq_young (h : l.Sorted) (hall : ∀ k, watch k = true) :
    l.recent ttl now = l.young watch ttl now := by
  rw [h.recent_eq_filter, young]
  refine List.filter_congr fun e _ => ?_
  rw [hall, Bool.true_and]

/-- What is young later was young before. -/
theorem young_congr_of_le (h : l.young watch ttl now = l'.young watch ttl now) (hn : now ≤ now') :
    l.young watch ttl now' = l'.young watch ttl now' := by
  have hsub : ∀ l : Timeline, (l.young watch ttl now).young watch ttl now' = l.young watch ttl now' := by
    intro l
    rw [young, young, young, List.filter_filter]
    refine List.filter_congr fun e _ => ?_
    rw [Bool.eq_iff_iff]
    simp only [Bool.and_eq_true, decide_eq_true_eq]
    constructor
    · rintro ⟨h, -⟩
      exact h
    · rintro ⟨hw, hy⟩
      exact ⟨⟨hw, hy⟩, hw, by omega⟩
  rw [← hsub l, ← hsub l', h]

theorem check_snd (ttl capacity now : Nat) (k : NonceKey) (l : Timeline) :
    (l.check ttl capacity now k).2 = ((l.recent ttl now).lookup k).isSome := by
  rw [check]
  split
  next h => exact h.symm
  next h => exact (Bool.not_eq_true _ ▸ h).symm

/-- Whether a watched nonce is known, the young ones among the watched tell. -/
theorem Sorted.check_snd_eq (h : l.Sorted) (hk : watch k = true) :
    (l.check ttl capacity now k).2 = ((l.young watch ttl now).lookup k).isSome := by
  rw [check_snd, Bool.eq_iff_iff, isSome_lookup_iff, isSome_lookup_iff, h.recent_eq_filter]
  simp [young, hk]

/-- A check leaves what was young as it was, and adds a nonce that is new. -/
theorem Sorted.young_check (h : l.Sorted)
    (hroom : (l.check ttl capacity now k).2 = false → (l.recent ttl now).length < capacity) :
    (l.check ttl capacity now k).1.young watch ttl now = l.young watch ttl now ++
      if (l.check ttl capacity now k).2 then [] else young watch ttl now [(k, now)] := by
  rw [check] at hroom ⊢
  split
  next hknown => simp [h.young_recent]
  next hnew =>
    rw [if_neg hnew] at hroom
    have hfree := hroom rfl
    rw [push, Nat.sub_eq_zero_of_le (by omega), List.drop_zero, young_append, h.young_recent]
    rfl

theorem Sorted.check (h : l.Sorted) (hpast : ∀ e ∈ l, e.2 ≤ now) (ttl capacity : Nat) (k : NonceKey) :
    (l.check ttl capacity now k).1.Sorted ∧ ∀ e ∈ (l.check ttl capacity now k).1, e.2 ≤ now := by
  have hsub : (l.recent ttl now).Sublist l := List.dropWhile_sublist _
  rw [Timeline.check]
  split
  next => exact ⟨h.sublist hsub, fun e he => hpast e (hsub.subset he)⟩
  next =>
    have hsub' := (List.drop_sublist ((l.recent ttl now).length + 1 - capacity) _).trans hsub
    refine ⟨List.pairwise_append.mpr ⟨h.sublist hsub', List.pairwise_singleton _ _, fun e he x hx => ?_⟩,
      fun e he => ?_⟩
    · rw [List.mem_singleton.mp hx]
      exact hpast e (hsub'.subset he)
    · rcases List.mem_append.mp he with he | he
      · exact hpast e (hsub'.subset he)
      · obtain rfl := List.mem_singleton.mp he
        exact Nat.le_refl now

theorem length_check_le (ttl capacity now : Nat) (k : NonceKey) (l : Timeline) :
    (l.check ttl capacity now k).1.length ≤ l.length + 1 := by
  have hle : (l.recent ttl now).length ≤ l.length := (List.dropWhile_sublist _).length_le
  rw [check]
  split
  next => exact Nat.le_succ_of_le hle
  next =>
    rw [push, List.length_append, List.length_drop, List.length_singleton]
    omega

theorem mem_check_of_new (h : (l.check ttl capacity now k).2 = false) :
    (k, now) ∈ (l.check ttl capacity now k).1 := by
  rw [check_snd, Bool.eq_false_iff] at h
  rw [check, if_neg h]
  exact List.mem_append_right _ List.mem_cons_self

/-- What is young stays, as long as there is room. -/
theorem Sorted.mem_check (h : l.Sorted) {e : NonceKey × Nat} (he : e ∈ l) (hy : now - e.2 < ttl)
    (hroom : (l.check ttl capacity now k).2 = false → (l.recent ttl now).length < capacity) :
    e ∈ (l.check ttl capacity now k).1 := by
  have hyoung : e ∈ l.young (fun _ => true) ttl now := List.mem_filter.mpr ⟨he, by simpa using hy⟩
  have hstays := List.mem_append_left (if (l.check ttl capacity now k).2 then []
    else young (fun _ => true) ttl now [(k, now)]) hyoung
  rw [← h.young_check hroom] at hstays
  exact (List.mem_filter.mp hstays).1

theorem Sorted.check_of_mem (h : l.Sorted) {t : Nat} (hk : (k, t) ∈ l) (hy : now - t < ttl) :
    (l.check ttl capacity now k).2 = true := by
  rw [check_snd, isSome_lookup_iff, h.recent_eq_filter]
  exact ⟨t, List.mem_filter.mpr ⟨hk, decide_eq_true hy⟩⟩

end Timeline

namespace ReplayCache

/-- The cache knows the nonces of the list, which were entered in this order and not later than now. -/
structure Holds (c : ReplayCache) (l : Timeline) (now : Nat) : Prop where
  knows : c.Knows l
  sorted : l.Sorted
  past : ∀ e ∈ l, e.2 ≤ now

/-- A nonce is new, and the oldest has to make room for it. -/
def Evicts (c : ReplayCache) (now : Nat) (machineId : String) (nonce : Nonce) : Prop :=
  (c.check now machineId nonce).2 = false ∧ c.capacity ≤ (c.expire now).size

variable {c d : ReplayCache} {l : Timeline} {now now' : Nat} {machineId : String} {nonce : Nonce}
  {watch : NonceKey → Bool}

theorem holds_create (ttl : Duration) (capacity now : Nat) : (create ttl capacity).Holds [] now :=
  ⟨knows_create ttl capacity, .nil, nofun⟩

theorem Holds.of_le (h : c.Holds l now) (hn : now ≤ now') : c.Holds l now' :=
  ⟨h.knows, h.sorted, fun e he => Nat.le_trans (h.past e he) hn⟩

theorem Holds.check (h : c.Holds l now) (machineId : String) (nonce : Nonce) :
    (c.check now machineId nonce).1.Holds
      (l.check c.ttl.nanos c.capacity now ⟨machineId, nonce⟩).1 now := by
  obtain ⟨hsorted, hpast⟩ := h.sorted.check h.past c.ttl.nanos c.capacity ⟨machineId, nonce⟩
  exact ⟨(h.knows.check now machineId nonce).1, hsorted, hpast⟩

theorem Holds.room (h : c.Holds l now) (hev : ¬c.Evicts now machineId nonce) :
    (l.check c.ttl.nanos c.capacity now ⟨machineId, nonce⟩).2 = false →
      (l.recent c.ttl.nanos now).length < c.capacity := by
  intro hnew
  have hsize : (c.expire now).size = (l.recent c.ttl.nanos now).length := (h.knows.expire now).1.size
  rw [← (h.knows.check now machineId nonce).2.1] at hnew
  rw [← hsize]
  exact Nat.not_le.mp fun hfull => hev ⟨hnew, hfull⟩

/-- The nonce was entered at that time, and is not forgotten. -/
def Marked (c : ReplayCache) (k : NonceKey) (t now : Nat) : Prop := ∃ l, c.Holds l now ∧ (k, t) ∈ l

theorem Marked.of_le {k : NonceKey} {t : Nat} (h : c.Marked k t now) (hn : now ≤ now') : c.Marked k t now' := by
  obtain ⟨l, hl, hk⟩ := h
  exact ⟨l, hl.of_le hn, hk⟩

theorem Holds.marked_check (h : c.Holds l now) (hnew : (c.check now machineId nonce).2 = false) :
    (c.check now machineId nonce).1.Marked ⟨machineId, nonce⟩ now now := by
  rw [(h.knows.check now machineId nonce).2.1] at hnew
  exact ⟨_, h.check machineId nonce, Timeline.mem_check_of_new hnew⟩

theorem Marked.check_snd {t : Nat} (h : c.Marked ⟨machineId, nonce⟩ t now) (hy : now - t < c.ttl.nanos) :
    (c.check now machineId nonce).2 = true := by
  obtain ⟨l, hl, hk⟩ := h
  rw [(hl.knows.check now machineId nonce).2.1]
  exact hl.sorted.check_of_mem hk hy

theorem Marked.check {k : NonceKey} {t : Nat} (h : c.Marked k t now) (hy : now - t < c.ttl.nanos)
    (hev : ¬c.Evicts now machineId nonce) : (c.check now machineId nonce).1.Marked k t now := by
  obtain ⟨l, hl, hk⟩ := h
  exact ⟨_, hl.check machineId nonce, hl.sorted.mem_check hk hy (hl.room hev)⟩

/-- Of the nonces that are watched, both caches know the same ones. -/
structure Alike (watch : NonceKey → Bool) (now : Nat) (c d : ReplayCache) : Prop where
  ttl : d.ttl = c.ttl
  capacity : d.capacity = c.capacity
  lists : ∃ l l', c.Holds l now ∧ d.Holds l' now ∧
    l.young watch c.ttl.nanos now = l'.young watch c.ttl.nanos now

theorem Holds.alike (h : c.Holds l now) (watch : NonceKey → Bool) : Alike watch now c c :=
  ⟨rfl, rfl, l, l, h, h, rfl⟩

theorem Alike.of_le (h : Alike watch now c d) (hn : now ≤ now') : Alike watch now' c d := by
  obtain ⟨l, l', hc, hd, hy⟩ := h.lists
  exact ⟨h.ttl, h.capacity, l, l', hc.of_le hn, hd.of_le hn, Timeline.young_congr_of_le hy hn⟩

/-- A nonce that is known, or is not watched and finds room, makes no difference. -/
theorem Alike.check_left (h : Alike watch now c d) (machineId : String) (nonce : Nonce)
    (hk : (c.check now machineId nonce).2 = true ∨
      watch ⟨machineId, nonce⟩ = false ∧ ¬c.Evicts now machineId nonce) :
    Alike watch now (c.check now machineId nonce).1 d := by
  obtain ⟨l, l', hc, hd, hy⟩ := h.lists
  obtain ⟨-, hanswer, httl, hcapacity⟩ := hc.knows.check now machineId nonce
  refine ⟨h.ttl.trans httl.symm, h.capacity.trans hcapacity.symm, _, l', hc.check machineId nonce, hd, ?_⟩
  rw [httl, hc.sorted.young_check, ← hanswer, ← hy]
  · rcases hk with hknown | ⟨hk, -⟩
    · rw [if_pos hknown, List.append_nil]
    · simp [Timeline.young, hk]
  · rcases hk with hknown | ⟨-, hev⟩
    · rw [← hanswer, hknown]
      exact nofun
    · exact hc.room hev

/-- A nonce that is watched gets the same answer from both. -/
theorem Alike.check_snd (h : Alike watch now c d) (machineId : String) (nonce : Nonce)
    (hk : watch ⟨machineId, nonce⟩ = true) :
    (d.check now machineId nonce).2 = (c.check now machineId nonce).2 := by
  obtain ⟨l, l', hc, hd, hy⟩ := h.lists
  rw [(hc.knows.check now machineId nonce).2.1, (hd.knows.check now machineId nonce).2.1, h.ttl,
    hc.sorted.check_snd_eq hk, hd.sorted.check_snd_eq hk, hy]

/-- Both caches are shown one nonce. Where all nonces are watched, both make room alike. -/
theorem Alike.check (h : Alike watch now c d) (machineId : String) (nonce : Nonce)
    (hroom : (∀ k, watch k = true) ∨
      ¬c.Evicts now machineId nonce ∧ ¬d.Evicts now machineId nonce) :
    Alike watch now (c.check now machineId nonce).1 (d.check now machineId nonce).1 := by
  have hsame := h.check_snd machineId nonce
  obtain ⟨l, l', hc, hd, hy⟩ := h.lists
  obtain ⟨-, hanswer, httl, hcapacity⟩ := hc.knows.check now machineId nonce
  obtain ⟨-, hanswer', httl', hcapacity'⟩ := hd.knows.check now machineId nonce
  have hcheck := hc.check machineId nonce
  have hcheck' := hd.check machineId nonce
  have hroom' : ¬d.Evicts now machineId nonce → _ := hd.room
  rw [h.ttl, h.capacity] at hanswer' hcheck' hroom'
  refine ⟨httl'.trans (h.ttl.trans httl.symm), hcapacity'.trans (h.capacity.trans hcapacity.symm),
    _, _, hcheck, hcheck', ?_⟩
  rw [httl]
  rcases hroom with hall | ⟨hev, hev'⟩
  · rw [Timeline.check, Timeline.check, hc.sorted.recent_eq_young hall, hd.sorted.recent_eq_young hall, hy]
  · rw [hc.sorted.young_check (hc.room hev), hd.sorted.young_check (hroom' hev'), hy, ← hanswer, ← hanswer']
    cases hk : watch ⟨machineId, nonce⟩ with
    | true => rw [hsame hk]
    | false => simp [Timeline.young, hk]

end ReplayCache

end FrameGateway
