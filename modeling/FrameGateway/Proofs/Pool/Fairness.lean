import FrameGateway.Proofs.Pool.Turns
import Mathlib.Data.List.Permutation
/-! Fair turns in a pool whose members change. Sessions may come and leave between any two calls, in
any order, and callers may take turns with one another: of those who are there all the while, each is
served once before anyone is served again. -/

namespace FrameGateway

inductive PoolCall where
  | add (h : Handle)
  | remove (id : SessionId)
  | clear
  | get
  deriving DecidableEq

namespace Pool

def step (p : Pool) : PoolCall → Pool
  | .add h => (p.add h).1
  | .remove id => (p.remove id).1
  | .clear => p.clear.1
  | .get => p.get.1

def run (p : Pool) (calls : List PoolCall) : Pool := calls.foldl step p

def given? (p : Pool) : PoolCall → Option Handle
  | .get => p.get.2.toOption
  | _ => none

def served (p : Pool) : List PoolCall → List SessionId
  | [] => []
  | c :: calls => ((p.given? c).map (·.id)).toList ++ (p.step c).served calls

def stays (p : Pool) (id : SessionId) : List PoolCall → Bool
  | [] => p.contains id
  | c :: calls => p.contains id && (p.step c).stays id calls

/-- What a call does to the list of those who are there, in the order in which they came. -/
def enrol (l : List SessionId) : PoolCall → List SessionId
  | .add h => if h.id ∈ l then l else l ++ [h.id]
  | .remove id => l.filter (· != id)
  | .clear => []
  | .get => l

variable {p q : Pool} {h : Handle}

theorem get_of_next?_eq_none (e : p.next? = none) : p.get = (p, .error .noSessionsAvailable) := by
  rw [get, e]

theorem get_of_next?_eq_some (e : p.next? = some (h, q)) : p.get = (q, .ok h) := by
  rw [get, e]

theorem get_eq_ok {p : Pool} {h : Handle} (e : p.get.2 = .ok h) : p.next? = some (h, p.get.1) := by
  cases hn : p.next? with
  | none => rw [get_of_next?_eq_none hn] at e; cases e
  | some x =>
    obtain ⟨a, q⟩ := x
    rw [get_of_next?_eq_some hn] at e ⊢
    cases e
    rfl

theorem Valid.step (hp : p.Valid) (c : PoolCall) : (p.step c).Valid := by
  cases c with
  | add h => exact hp.add h
  | remove id => exact hp.remove id
  | clear => exact valid_empty
  | get =>
    cases hn : p.next? with
    | none => rwa [Pool.step, get_of_next?_eq_none hn]
    | some x =>
      obtain ⟨h, q⟩ := x
      rw [Pool.step, get_of_next?_eq_some hn]
      exact hp.next hn

theorem Valid.run (hp : p.Valid) (calls : List PoolCall) : (p.run calls).Valid := by
  induction calls generalizing p with
  | nil => exact hp
  | cons c calls ih => exact ih (hp.step c)

theorem ids_step (hp : p.Valid) (c : PoolCall) : (p.step c).ids = enrol p.ids c := by
  cases c with
  | add h =>
    by_cases hc : p.contains h.id = true
    · rw [enrol, if_pos (contains_iff.mp hc), Pool.step, add_of_contains hc]
    · rw [enrol, if_neg (contains_iff.not.mp hc), Pool.step, add_of_not_contains hc]
      simp [ids]
  | remove id =>
    rw [Pool.step, ids, members_remove hp.nodup, enrol, ids, List.filter_map]
    rfl
  | clear => rfl
  | get =>
    cases hn : p.next? with
    | none => rw [Pool.step, get_of_next?_eq_none hn, enrol]
    | some x =>
      obtain ⟨h, q⟩ := x
      rw [Pool.step, get_of_next?_eq_some hn]
      exact ids_of_next? hn

/-- The members stand in the order in which they came. -/
theorem ids_run (hp : p.Valid) (calls : List PoolCall) : (p.run calls).ids = calls.foldl enrol p.ids := by
  induction calls generalizing p with
  | nil => rfl
  | cons c calls ih =>
    rw [List.foldl_cons, ← ids_step hp c]
    exact ih (hp.step c)

/-! ### The line of those who stay -/

/-- Those of a kind, in the order of their turns. -/
def line (p : Pool) (keep : SessionId → Bool) : List SessionId := (p.turns.map (·.id)).filter keep

variable {keep : SessionId → Bool} {c : PoolCall}

theorem Valid.nodup_line (hp : p.Valid) (keep : SessionId → Bool) : (p.line keep).Nodup :=
  (((List.rotate_perm ..).map _).nodup_iff.mpr hp.nodup).sublist List.filter_sublist

theorem contains_of_stays {id : SessionId} {calls : List PoolCall} (h : p.stays id calls = true) :
    p.contains id = true := by
  cases calls with
  | nil => exact h
  | cons c calls => exact (Bool.and_eq_true_iff.mp h).1

/-- Calls that serve nobody leave the line of those who stay as it is. -/
theorem line_step (hp : p.Valid)
    (hk : ∀ id, keep id = true → p.contains id = true ∧ (p.step c).contains id = true)
    (hc : p.given? c = none) : (p.step c).line keep = p.line keep := by
  cases c with
  | add h =>
    by_cases hm : p.contains h.id = true
    · rw [Pool.step, add_of_contains hm]
    · obtain ⟨before, after, hb, ha⟩ := turns_add hp hm
      have hn : ¬ keep h.id = true := fun hkeep => hm (hk _ hkeep).1
      rw [Pool.step, line, line, ha, hb]
      simp [hn]
  | remove id =>
    rw [Pool.step, line, line, turns_remove hp, List.filter_map, List.filter_map, List.filter_filter]
    refine congrArg (List.map _) (List.filter_congr fun a _ => ?_)
    by_cases ha : keep a.id = true
    · have hm := (hk a.id ha).2
      rw [Pool.step, contains_iff, ids, members_remove hp.nodup] at hm
      obtain ⟨x, hx, hxa⟩ := List.mem_map.mp hm
      have hne := (List.mem_filter.mp hx).2
      rw [hxa] at hne
      simp [hne]
    · simp [ha]
  | clear =>
    have hn : ∀ l : List SessionId, l.filter keep = [] := fun l =>
      List.filter_eq_nil_iff.mpr fun a _ ha => by simpa [contains, empty, Pool.step, clear] using (hk a ha).2
    rw [line, line, hn, hn]
  | get =>
    cases hn : p.next? with
    | none => rw [Pool.step, get_of_next?_eq_none hn]
    | some x =>
      rw [given?, get_of_next?_eq_some hn] at hc
      cases hc

theorem next?_of_given? (hg : p.given? c = some h) : p.next? = some (h, p.step c) := by
  cases c with
  | get =>
    cases hn : p.next? with
    | none => rw [given?, get_of_next?_eq_none hn] at hg; cases hg
    | some x =>
      rw [given?, get_of_next?_eq_some hn] at hg
      cases hg
      rw [Pool.step, get_of_next?_eq_some hn]
  | add | remove | clear => cases hg

/-- Who is served goes from the front of the line to its end. -/
theorem line_serve (keep : SessionId → Bool) (hg : p.given? c = some h) :
    ∃ rest, p.line keep = [h.id].filter keep ++ rest ∧ (p.step c).line keep = rest ++ [h.id].filter keep := by
  obtain ⟨earlier, later, -, hturn, hturn'⟩ := turns_of_next? (next?_of_given? hg)
  refine ⟨((later ++ earlier).map (·.id)).filter keep, ?_, ?_⟩
  · rw [line, hturn, List.map_cons, ← List.singleton_append, List.filter_append]
  · rw [line, hturn', List.map_append, List.filter_append]
    rfl

/-- While `s` waits, those ahead of it are served in the order of the line and gather behind it. -/
theorem line_run {calls : List PoolCall} {s : SessionId} {ahead behind : List SessionId} (hp : p.Valid)
    (hk : ∀ id, keep id = true → p.stays id calls = true) (hs : s ∉ p.served calls)
    (hl : p.line keep = ahead ++ s :: behind) :
    ∃ left, ahead = (p.served calls).filter keep ++ left ∧
      (p.run calls).line keep = left ++ s :: (behind ++ (p.served calls).filter keep) := by
  induction calls generalizing p ahead behind with
  | nil => exact ⟨ahead, rfl, by rw [served, List.filter_nil, List.append_nil]; exact hl⟩
  | cons c calls ih =>
    have hnext : ∀ id, keep id = true → (p.step c).stays id calls = true := fun id hid =>
      (Bool.and_eq_true_iff.mp (hk id hid)).2
    rw [served, List.mem_append, not_or] at hs
    cases hg : p.given? c with
    | none =>
      have hsame := line_step hp
        (fun id hid => ⟨contains_of_stays (hk id hid), contains_of_stays (hnext id hid)⟩) hg
      rw [served, hg]
      exact ih (hp.step c) hnext hs.2 (hsame.trans hl)
    | some h =>
      obtain ⟨rest, hfront, hback⟩ := line_serve keep hg
      have hserved : (p.served (c :: calls)).filter keep =
          [h.id].filter keep ++ ((p.step c).served calls).filter keep := by
        rw [served, hg, List.filter_append]
        rfl
      rw [hl] at hfront
      by_cases hkeep : keep h.id = true
      · rw [List.filter_cons_of_pos hkeep, List.filter_nil] at hfront hback hserved
        have hne : s ≠ h.id := by simpa [hg] using hs.1
        cases ahead with
        | nil => exact absurd (List.cons.inj hfront).1 hne
        | cons a ahead =>
          obtain ⟨rfl, hrest⟩ := List.cons.inj hfront
          have hrest : rest = ahead ++ s :: behind := hrest.symm
          rw [hrest, List.append_assoc, List.cons_append] at hback
          obtain ⟨left, hleft, hrun⟩ := ih (hp.step c) hnext hs.2 hback
          refine ⟨left, ?_, ?_⟩
          · rw [hserved, hleft]
            rfl
          · rw [hserved, ← List.append_assoc]
            exact hrun
      · rw [List.filter_cons_of_neg hkeep, List.filter_nil] at hfront hback hserved
        rw [List.append_nil, ← hfront.trans (List.nil_append rest)] at hback
        rw [hserved, List.nil_append]
        exact ih (hp.step c) hnext hs.2 hback

/-- Between two turns of a session, those who stay have one turn each, in the order in which they came
and starting behind that session. -/
theorem served_between {between : List PoolCall} {s s' : Handle} (hp : p.Valid) (hs : p.get.2 = .ok s)
    (hs' : (p.get.1.run between).get.2 = .ok s') (hid : s'.id = s.id)
    (hnot : s.id ∉ p.get.1.served between) (hstay : p.get.1.stays s.id between = true) :
    ∃ earlier later, p.ids.filter (p.get.1.stays · between) = earlier ++ s.id :: later ∧
      (p.get.1.served between).filter (p.get.1.stays · between) = later ++ earlier := by
  have hn := get_eq_ok hs
  obtain ⟨earlier, later, hm, -, hturn⟩ := turns_of_next? hn
  generalize p.get.1 = q at *
  have hq : q.Valid := hp.next hn
  have hk : ∀ id, (fun id => q.stays id between) id = true → q.stays id between = true := fun _ h => h
  have hs : (fun id => q.stays id between) s.id = true := hstay
  generalize (fun id => q.stays id between) = keep at hk hs ⊢
  have hl : q.line keep = ((later ++ earlier).map (·.id)).filter keep ++ s.id :: [] := by
    rw [line, hturn, List.map_append, List.filter_append, List.map_singleton,
      List.filter_cons_of_pos hs, List.filter_nil]
  obtain ⟨left, hahead, hrun⟩ := line_run hq hk hnot hl
  refine ⟨(earlier.map (·.id)).filter keep, (later.map (·.id)).filter keep, ?_, ?_⟩
  · rw [ids, hm, List.map_append, List.map_cons, List.filter_append, List.filter_cons_of_pos hs]
  · -- `s` is served again, so nobody is left ahead of it
    have hfirst : left = [] := by
      obtain ⟨_, _, -, hturn', -⟩ := turns_of_next? (get_eq_ok hs')
      have hd := (hq.run between).nodup_line keep
      rw [hrun] at hd
      rw [line, hturn', List.map_cons, hid, List.filter_cons_of_pos hs] at hrun
      cases left with
      | nil => rfl
      | cons a left =>
        obtain ⟨rfl, -⟩ := List.cons.inj hrun
        simp at hd
    rw [hfirst, List.append_nil, List.map_append, List.filter_append] at hahead
    exact hahead.symm

theorem get_eq_error_iff (hp : p.Valid) : (∃ e, p.get.2 = .error e) ↔ p.members = [] := by
  rw [← next?_eq_none_iff hp]
  cases hn : p.next? with
  | none => simp [get_of_next?_eq_none hn]
  | some x => simp [get_of_next?_eq_some (h := x.1) (q := x.2) hn]

/-- Turns in a pool are fair, whatever comes and goes. After any calls at all no session is there
twice and the cursor is in range; a session is handed out unless the pool is empty; and between two
turns of a session that has stayed, each other one that has stayed all the while has had one turn, in
the order in which they came and starting behind the first. -/
theorem takes_turns (before : List PoolCall) :
    let p := empty.run before
    p.Valid ∧ p.ids = before.foldl enrol [] ∧
    ((∃ e, p.get.2 = .error e) ↔ p.members = []) ∧ (∀ h, p.get.2 = .ok h → h ∈ p.members) ∧
    ∀ between s s', p.get.2 = .ok s → (p.get.1.run between).get.2 = .ok s' → s'.id = s.id →
      s.id ∉ p.get.1.served between → p.get.1.stays s.id between = true →
      (∀ id, id ≠ s.id → p.get.1.stays id between = true → (p.get.1.served between).count id = 1) ∧
      ∃ earlier later, p.ids.filter (p.get.1.stays · between) = earlier ++ s.id :: later ∧
        (p.get.1.served between).filter (p.get.1.stays · between) = later ++ earlier := by
  intro p
  have hp : p.Valid := valid_empty.run before
  refine ⟨hp, ids_run valid_empty before, get_eq_error_iff hp,
    fun h hg => (members_of_next? (get_eq_ok hg)).1, fun between s s' hs hs' hid hnot hstay => ?_⟩
  obtain ⟨earlier, later, hids, hserved⟩ := served_between hp hs hs' hid hnot hstay
  refine ⟨fun id hne hkeep => ?_, earlier, later, hids, hserved⟩
  have hd : (p.ids.filter (p.get.1.stays · between)).Nodup := hp.nodup.sublist List.filter_sublist
  have hm : id ∈ p.ids.filter (p.get.1.stays · between) := by
    refine List.mem_filter.mpr ⟨?_, hkeep⟩
    rw [← ids_of_next? (get_eq_ok hs), ← contains_iff]
    exact contains_of_stays hkeep
  rw [hids, List.nodup_middle, List.nodup_cons] at hd
  rw [hids, List.mem_append, List.mem_cons] at hm
  rw [← List.count_filter (p := (p.get.1.stays · between)) hkeep, hserved]
  refine List.count_eq_one_of_mem (List.nodup_append_comm.mp hd.2) ?_
  rcases hm with hm | rfl | hm
  · exact List.mem_append_right _ hm
  · exact absurd rfl hne
  · exact List.mem_append_left _ hm

/-- Four sessions take turns while the third leaves at its turn and a fifth comes. -/
theorem takes_turns_of_four :
    let a := Handle.mk (.ofNat 1) ⟨0⟩
    let before : List PoolCall := [.add a, .add ⟨.ofNat 2, ⟨1⟩⟩, .add ⟨.ofNat 3, ⟨2⟩⟩, .add ⟨.ofNat 4, ⟨3⟩⟩]
    let between : List PoolCall := [.get, .remove (.ofNat 3), .add ⟨.ofNat 5, ⟨4⟩⟩, .get, .get]
    let q := (empty.run before).get.1
    (empty.run before).get.2 = .ok a ∧ (q.run between).get.2 = .ok a ∧ a.id ∉ q.served between ∧
      q.stays a.id between = true ∧
      ∀ id, id ≠ a.id → q.stays id between = true → (q.served between).count id = 1 := by
  intro a before between q
  have hs : (empty.run before).get.2 = .ok a := by cbv
  have hs' : (q.run between).get.2 = .ok a := by cbv
  have hserved : q.served between = [.ofNat 2, .ofNat 4, .ofNat 5] := by cbv
  have hnot : a.id ∉ q.served between := by rw [hserved]; decide
  have hstay : q.stays a.id between = true := by cbv
  exact ⟨hs, hs', hnot, hstay, ((takes_turns before).2.2.2.2 between a a hs hs' rfl hnot hstay).1⟩

end Pool

end FrameGateway
