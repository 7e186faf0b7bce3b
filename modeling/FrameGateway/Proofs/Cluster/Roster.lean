import FrameGateway.Proofs.Cluster.Binding
/-! A table of nodes, with registrations and departures in any order: what a single call keeps, and what
any run of them keeps (`Roster.stays_consistent`). Ids are words: all of this lasts until their
counter comes round, which takes `2 ^ 64 - 1` of them. -/

namespace FrameGateway

inductive TableCall where
  | register (machineId : String) (publicKey : Bytes) (services : List Service)
  | unregister (id : NodeId)

/-- A table of nodes and the ids that it has given out, oldest first. -/
structure Roster where
  table : NodeTable
  given : List NodeId

namespace Roster

def create (capacity : Nat) : Roster := ⟨.create capacity, []⟩

def step (s : Roster) : TableCall → Roster
  | .register machineId publicKey services =>
    match s.table.register machineId publicKey services with
    | (table, .ok id) => ⟨table, s.given ++ [id]⟩
    | (table, .error _) => ⟨table, s.given⟩
  | .unregister id => { s with table := (s.table.unregister id).1 }

def run (s : Roster) (calls : List TableCall) : Roster := calls.foldl step s

inductive Stepped (s : Roster) : TableCall → Roster → Prop
  | refused (machineId : String) (publicKey : Bytes) (services : List Service) :
    Stepped s (.register machineId publicKey services) s
  | entered (machineId : String) (publicKey : Bytes) (services : List Service)
      (h : s.table.Admits machineId publicKey) :
    Stepped s (.register machineId publicKey services)
      ⟨(s.table.enter machineId publicKey services).1, s.given ++ [⟨s.table.nextId⟩]⟩
  | left (id : NodeId) : Stepped s (.unregister id) { s with table := (s.table.unregister id).1 }

theorem stepped (s : Roster) (a : TableCall) : s.Stepped a (s.step a) := by
  cases a with
  | register machineId publicKey services =>
    have hr := s.table.registered machineId publicKey services
    rw [step]
    generalize s.table.register machineId publicKey services = out at hr
    cases hr with
    | mismatch r h hkey => exact .refused ..
    | full h hfull => exact .refused ..
    | entered h => exact .entered _ _ _ h
  | unregister id => exact .left id

variable {s s' : Roster} {a : TableCall} {m : String} {key : Bytes} {id : NodeId}

theorem Stepped.given_grows (hs : s.Stepped a s') : s.given <+: s'.given := by
  cases hs with
  | refused => exact List.prefix_refl _
  | entered => exact List.prefix_append _ _
  | left => exact List.prefix_refl _

theorem given_grows_run (s : Roster) (calls : List TableCall) : s.given <+: (s.run calls).given := by
  induction calls generalizing s with
  | nil => exact List.prefix_refl _
  | cons a calls ih => exact (s.stepped a).given_grows.trans (ih (s.step a))

/-- The counter of ids has not come round. -/
def Kept (s : Roster) : Prop := s.table.Kept s.given

theorem Kept.step (h : s.Kept) (hs : s.Stepped a s') (hlt : s'.given.length < 2 ^ 64 - 1) : s'.Kept := by
  cases hs with
  | refused => exact h
  | entered machineId publicKey services hadm =>
    rw [List.length_append, List.length_singleton] at hlt
    exact NodeTable.Kept.enter h hadm hlt
  | left id => exact NodeTable.Kept.unregister h id

theorem Kept.capacity_step (h : s.Kept) (hs : s.Stepped a s') : s'.table.capacity = s.table.capacity := by
  cases hs with
  | refused => rfl
  | entered => exact NodeTable.capacity_enter ..
  | left id => exact (NodeTable.Kept.unregister_eq h id).2.2.2

/-- An id that has been given out and is not live stays so. -/
theorem Kept.gone_step (h : s.Kept) (hs : s.Stepped a s') (hid : id ∈ s.given)
    (hn : s.table.get? id = none) : s'.table.get? id = none := by
  cases hs with
  | refused => exact hn
  | entered machineId publicKey services hadm =>
    rw [NodeTable.get?_eq_none_iff] at hn ⊢
    rw [NodeTable.Kept.nodes_enter h]
    intro r hr
    rcases List.mem_append.mp hr with hr | hr
    · exact hn r (List.mem_filter.mp hr).1
    · rw [List.mem_singleton.mp hr]
      exact (NodeTable.Kept.next_ne h hid).symm
  | left id' =>
    rw [NodeTable.get?_eq_none_iff] at hn ⊢
    rw [(NodeTable.Kept.unregister_eq h id').1]
    exact fun r hr => hn r (List.mem_filter.mp hr).1

/-- A machine keeps its key, unless its own node departs. -/
theorem Kept.binds_step (h : s.Kept) (hs : s.Stepped a s') (hb : s.table.Binds m key)
    (hstays : ∀ id, a = .unregister id → s.table.nodeOf? m ≠ some id) : s'.table.Binds m key := by
  obtain ⟨r, hr, rfl, rfl⟩ := hb
  cases hs with
  | refused => exact ⟨r, hr, rfl, rfl⟩
  | entered machineId publicKey services hadm =>
    rw [NodeTable.Binds, NodeTable.Kept.nodes_enter h]
    by_cases hm : r.machineId = machineId
    · have hkey : r.publicKey = publicKey := by
        have hrec := (NodeTable.Kept.recordOf?_eq_some_iff h).mpr ⟨hr, hm⟩
        rcases hadm with ⟨r', hr', hkey⟩ | ⟨hn, -⟩
        · rw [hrec] at hr'
          cases hr'
          exact hkey
        · rw [hrec] at hn
          cases hn
      exact ⟨_, List.mem_append_right _ List.mem_cons_self, hm.symm, hkey.symm⟩
    · exact ⟨r, List.mem_append_left _ (List.mem_filter.mpr ⟨hr, by simpa using hm⟩), rfl, rfl⟩
  | left id =>
    have hne : r.nodeId ≠ id := by
      intro hid
      refine hstays id rfl ((h.indexed _ _).mpr ⟨r, hr, rfl, hid⟩)
    rw [NodeTable.Binds, (NodeTable.Kept.unregister_eq h id).1]
    exact ⟨r, List.mem_filter.mpr ⟨hr, by simpa using hne⟩, rfl, rfl⟩

/-- What a step keeps under `Kept`, a run keeps. -/
theorem Kept.run {P : Roster → Prop} (hstep : ∀ s a s', Kept s → s.Stepped a s' → P s → P s')
    {calls : List TableCall} (h : s.Kept) (hp : P s) (hlt : (s.run calls).given.length < 2 ^ 64 - 1) :
    (s.run calls).Kept ∧ P (s.run calls) := by
  induction calls generalizing s with
  | nil => exact ⟨h, hp⟩
  | cons a calls ih =>
    have hs := s.stepped a
    have hle := (given_grows_run (s.step a) calls).length_le
    exact ih (h.step hs (Nat.lt_of_le_of_lt hle hlt)) (hstep s a _ h hs hp) hlt

theorem kept_create (capacity : Nat) : (create capacity).Kept := NodeTable.kept_create capacity

/-- Some calls to an empty table have led here. -/
def Reached (s : Roster) : Prop := ∃ capacity calls, s = (create capacity).run calls

theorem Reached.kept (h : s.Reached) (hlt : s.given.length < 2 ^ 64 - 1) : s.Kept := by
  obtain ⟨capacity, calls, rfl⟩ := h
  exact ((kept_create capacity).run (fun _ _ _ _ _ _ => trivial) trivial hlt).1

theorem run_append (s : Roster) (before after : List TableCall) :
    s.run (before ++ after) = (s.run before).run after := List.foldl_append

theorem Reached.step (h : s.Reached) (a : TableCall) : (s.step a).Reached := by
  obtain ⟨capacity, calls, rfl⟩ := h
  exact ⟨capacity, calls ++ [a], by rw [run_append]; rfl⟩

theorem Kept.binds_run {calls : List TableCall} (h : s.Kept)
    (hlt : (s.run calls).given.length < 2 ^ 64 - 1) (hb : s.table.Binds m key)
    (hstays : ∀ before id after, calls = before ++ .unregister id :: after →
      (s.run before).table.nodeOf? m ≠ some id) : (s.run calls).table.Binds m key := by
  induction calls generalizing s with
  | nil => exact hb
  | cons a calls ih =>
    have hs := s.stepped a
    have hle := (given_grows_run (s.step a) calls).length_le
    refine ih (h.step hs (Nat.lt_of_le_of_lt hle hlt)) hlt (h.binds_step hs hb ?_) ?_
    · rintro id rfl
      exact hstays [] id calls rfl
    · rintro before id after rfl
      exact hstays (a :: before) id after rfl

/-- A table of nodes under any registrations and departures, of which fewer than `2 ^ 64 - 1` have given
out an id. Records and index lead to each other, each machine has one record at most, and there is
room for all. Ids grow; one that has been replaced or has departed is never live again, and its departure
changes nothing. A machine keeps its key until its node departs. A registration fails where the machine
is bound to another key, or is not known while the table is full, and leaves the table as it was; else the machine has
the new record, under the new id, in the place of the one it had. -/
theorem stays_consistent (capacity : Nat) (before after : List TableCall)
    (h : ((create capacity).run (before ++ after)).given.length < 2 ^ 64 - 1) :
    let s := (create capacity).run before
    let s' := (create capacity).run (before ++ after)
    s'.table.Consistent capacity ∧ s'.given.Pairwise (·.toNat < ·.toNat) ∧
    (∀ id, (s'.table.unregister id).1.get? id = none) ∧
    (∀ id ∈ s.given, s.table.get? id = none →
      s'.table.get? id = none ∧ s'.table.unregister id = (s'.table, none)) ∧
    (∀ m key, s.table.Binds m key →
      (∀ first id rest, after = first ++ .unregister id :: rest →
        (s.run first).table.nodeOf? m ≠ some id) → s'.table.Binds m key) ∧
    ∀ m key services, s'.table.Registers capacity s'.given m key services (s'.table.register m key services) := by
  rw [run_append] at h
  have hbefore := Nat.lt_of_le_of_lt (given_grows_run _ after).length_le h
  have hcap : ∀ s a s', Kept s → s.Stepped a s' → s.table.capacity = capacity →
      s'.table.capacity = capacity := fun s a s' hk hs hc => (hk.capacity_step hs).trans hc
  obtain ⟨hk, hc⟩ := (kept_create capacity).run hcap rfl hbefore
  obtain ⟨hk', hc'⟩ := hk.run hcap hc h
  intro s s'
  have hs' : s' = s.run after := run_append _ before after
  rw [← hs'] at hk' hc'
  refine ⟨hc' ▸ hk'.consistent, hk'.inTurn, NodeTable.Kept.get?_unregister hk', fun id hid hn => ?_,
    fun m key hb hstays => ?_, fun m key services => ?_⟩
  · have hgone := (hk.run (P := fun s => id ∈ s.given ∧ s.table.get? id = none)
      (fun s a s' hk hs hp => ⟨hs.given_grows.subset hp.1, hk.gone_step hs hp.1 hp.2⟩) ⟨hid, hn⟩ h).2.2
    rw [← hs'] at hgone
    exact ⟨hgone, by rw [NodeTable.unregister, hgone]⟩
  · exact hs' ▸ hk.binds_run h hb hstays
  · exact hc' ▸ NodeTable.Kept.registers hk' (s'.table.registered m key services)

/-- A machine comes back under its key to a table with room for two, and its old id departs once more. -/
theorem stays_consistent_of_return :
    let before : List TableCall := [.register "machine-a" [1] [], .register "machine-b" [2] []]
    let after : List TableCall := [.register "machine-a" [1] [], .unregister ⟨1⟩]
    ((create 2).run (before ++ after)).given.length < 2 ^ 64 - 1 ∧
      ((create 2).run (before ++ after)).table.Consistent 2 ∧
      ((create 2).run (before ++ after)).table.Binds "machine-b" [2] := by
  intro before after
  have h : ((create 2).run (before ++ after)).given.length < 2 ^ 64 - 1 := by decide
  obtain ⟨hc, -, -, -, hkeys, -⟩ := stays_consistent 2 before after h
  refine ⟨h, hc, hkeys "machine-b" [2] ⟨⟨⟨2⟩, "machine-b", [2], []⟩, by decide, rfl, rfl⟩ ?_⟩
  intro first id rest hsplit
  -- the departure is the second of the two calls
  rcases first with _ | ⟨x, _ | ⟨y, first⟩⟩
  · simp [after] at hsplit
  · simp only [after, List.cons_append, List.nil_append, List.cons.injEq, TableCall.unregister.injEq] at hsplit
    obtain ⟨rfl, rfl, -⟩ := hsplit
    decide
  · simp [after] at hsplit

end Roster

end FrameGateway
