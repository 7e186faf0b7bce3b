import FrameGateway.Proofs.Cluster.Login
import Mathlib.Data.List.Nodup
import Mathlib.Tactic.Common
/-! What registrations and departures do to a table of nodes. Records and index lead to each other, and
ids are given out in turn (`NodeTable.Kept`), so that a record is found by its id and by its machine
alike, and a machine that registers takes the place of its own record. -/

namespace FrameGateway

namespace NodeTable

def recordOf? (t : NodeTable) (machineId : String) : Option NodeRecord := (t.nodeOf? machineId).bind t.get?

/-- The machine is registered under that key. -/
def Binds (t : NodeTable) (machineId : String) (publicKey : Bytes) : Prop :=
  ∃ r ∈ t.nodes, r.machineId = machineId ∧ r.publicKey = publicKey

/-- A machine that is known shows its key, or there is room for one that is not. -/
def Admits (t : NodeTable) (machineId : String) (publicKey : Bytes) : Prop :=
  (∃ r, t.recordOf? machineId = some r ∧ r.publicKey = publicKey) ∨
    t.recordOf? machineId = none ∧ t.size < t.capacity

inductive Registered (t : NodeTable) (machineId : String) (publicKey : Bytes) (services : List Service) :
    NodeTable × Except RegistrationFault NodeId → Prop
  | mismatch (r : NodeRecord) (h : t.recordOf? machineId = some r) (hkey : r.publicKey ≠ publicKey) :
    Registered t machineId publicKey services (t, .error .keyMismatch)
  | full (h : t.recordOf? machineId = none) (hfull : t.capacity ≤ t.size) :
    Registered t machineId publicKey services (t, .error (.full t.capacity))
  | entered (h : t.Admits machineId publicKey) :
    Registered t machineId publicKey services
      ((t.enter machineId publicKey services).1, .ok ⟨t.nextId⟩)

theorem register_of_admits {t : NodeTable} {machineId : String} {publicKey : Bytes}
    (h : t.Admits machineId publicKey) (services : List Service) :
    t.register machineId publicKey services =
      ((t.enter machineId publicKey services).1, .ok ⟨t.nextId⟩) := by
  rcases h with ⟨r, hr, hkey⟩ | ⟨hn, hroom⟩
  · exact register_of_some hr hkey
  · exact register_of_none hn hroom

theorem registered (t : NodeTable) (machineId : String) (publicKey : Bytes) (services : List Service) :
    t.Registered machineId publicKey services (t.register machineId publicKey services) := by
  cases h : t.recordOf? machineId with
  | some r =>
    by_cases hkey : r.publicKey = publicKey
    · have hadm : t.Admits machineId publicKey := .inl ⟨r, h, hkey⟩
      rw [register_of_admits hadm]
      exact .entered hadm
    · have hr : t.register machineId publicKey services = (t, .error .keyMismatch) := by
        rw [recordOf?] at h
        rw [register, h]
        exact if_pos hkey
      exact hr ▸ .mismatch r h hkey
  | none =>
    by_cases hroom : t.size < t.capacity
    · have hadm : t.Admits machineId publicKey := .inr ⟨h, hroom⟩
      rw [register_of_admits hadm]
      exact .entered hadm
    · have hfull : t.capacity ≤ t.size := Nat.not_lt.mp hroom
      have hr : t.register machineId publicKey services = (t, .error (.full t.capacity)) := by
        rw [recordOf?] at h
        rw [register, h]
        exact if_pos hfull
      exact hr ▸ .full h hfull

theorem lookup_filter_ne (index : List (String × NodeId)) (m m' : String) :
    (index.filter (·.1 != m)).lookup m' = if m' = m then none else index.lookup m' := by
  induction index with
  | nil => simp
  | cons e index ih =>
    obtain ⟨k, id⟩ := e
    by_cases hk : k = m
    · subst hk
      rw [List.filter_cons, if_neg (by simp), ih, List.lookup_cons]
      by_cases hm : m' = k
      · rw [if_pos hm, if_pos hm]
      · rw [if_neg hm, if_neg hm, beq_eq_false_iff_ne.mpr hm]
    · rw [List.filter_cons, if_pos (by simpa using hk), List.lookup_cons, List.lookup_cons, ih]
      by_cases hm : m' = k
      · subst hm
        simp [hk]
      · rw [beq_eq_false_iff_ne.mpr hm]

theorem nodeOf?_enter (t : NodeTable) (machineId m : String) (publicKey : Bytes) (services : List Service) :
    (t.enter machineId publicKey services).1.nodeOf? m =
      if m = machineId then some ⟨t.nextId⟩ else t.nodeOf? m := by
  have hindex : (t.enter machineId publicKey services).1.byMachine =
      (machineId, ⟨t.nextId⟩) :: t.byMachine.filter (·.1 != machineId) := by
    rw [enter]
  rw [nodeOf?, hindex, List.lookup_cons, lookup_filter_ne]
  by_cases hm : m = machineId
  · simp [hm]
  · rw [beq_eq_false_iff_ne.mpr hm, if_neg hm, if_neg hm, nodeOf?]

theorem nextId_enter (t : NodeTable) (machineId : String) (publicKey : Bytes) (services : List Service) :
    (t.enter machineId publicKey services).1.nextId = t.nextId + 1 := by
  rw [enter]

theorem capacity_enter (t : NodeTable) (machineId : String) (publicKey : Bytes) (services : List Service) :
    (t.enter machineId publicKey services).1.capacity = t.capacity := by
  rw [enter]
  cases t.nodeOf? machineId <;> rfl

/-- Records and index lead to each other, the ids given out are those from 1 on in turn, and all records
have one of them. -/
structure Kept (t : NodeTable) (given : List NodeId) : Prop where
  increasing : t.nodes.Pairwise (·.nodeId.toNat < ·.nodeId.toNat)
  indexed : ∀ m id, t.nodeOf? m = some id ↔ ∃ r ∈ t.nodes, r.machineId = m ∧ r.nodeId = id
  room : t.size ≤ t.capacity
  issued : ∀ r ∈ t.nodes, r.nodeId ∈ given
  inTurn : given.Pairwise (·.toNat < ·.toNat)
  next : ∀ id ∈ given, id.toNat < t.nextId.toNat
  count : t.nextId.toNat = given.length + 1

variable {t : NodeTable} {given : List NodeId} {machineId m : String} {publicKey : Bytes}
  {services : List Service} {id : NodeId} {r r' : NodeRecord}

theorem kept_create (capacity : Nat) : (create capacity).Kept [] :=
  ⟨.nil, fun m id => by simp [create, nodeOf?], Nat.zero_le _, nofun, .nil, nofun, rfl⟩

theorem Kept.nodup_ids (h : t.Kept given) : (t.nodes.map (·.nodeId)).Nodup := by
  rw [List.Nodup, List.pairwise_map]
  refine h.increasing.imp fun {r r'} hlt he => ?_
  rw [he] at hlt
  exact Nat.lt_irrefl _ hlt

theorem Kept.eq_of_nodeId (h : t.Kept given) (hr : r ∈ t.nodes) (hr' : r' ∈ t.nodes)
    (hid : r.nodeId = r'.nodeId) : r = r' :=
  List.inj_on_of_nodup_map h.nodup_ids hr hr' hid

theorem Kept.eq_of_machineId (h : t.Kept given) (hr : r ∈ t.nodes) (hr' : r' ∈ t.nodes)
    (hm : r.machineId = r'.machineId) : r = r' := by
  have h₁ := (h.indexed r'.machineId r.nodeId).mpr ⟨r, hr, hm, rfl⟩
  have h₂ := (h.indexed r'.machineId r'.nodeId).mpr ⟨r', hr', rfl, rfl⟩
  exact h.eq_of_nodeId hr hr' (Option.some.inj (h₁.symm.trans h₂))

theorem Kept.nodup_machines (h : t.Kept given) : (t.nodes.map (·.machineId)).Nodup := by
  rw [List.Nodup, List.pairwise_map]
  refine h.increasing.imp_of_mem fun hr hr' hlt hm => ?_
  rw [h.eq_of_machineId hr hr' hm] at hlt
  exact Nat.lt_irrefl _ hlt

theorem Kept.get?_eq_some_iff (h : t.Kept given) : t.get? id = some r ↔ r ∈ t.nodes ∧ r.nodeId = id := by
  constructor
  · intro hg
    exact ⟨List.mem_of_find?_eq_some hg, by simpa using List.find?_some hg⟩
  · rintro ⟨hr, rfl⟩
    cases hg : t.get? r.nodeId with
    | none => simpa using List.find?_eq_none.mp hg r hr
    | some r' =>
      have hid : r'.nodeId = r.nodeId := by simpa using List.find?_some hg
      rw [h.eq_of_nodeId (List.mem_of_find?_eq_some hg) hr hid]

theorem get?_eq_none_iff : t.get? id = none ↔ ∀ r ∈ t.nodes, r.nodeId ≠ id := by
  simp [get?, List.find?_eq_none]

theorem Kept.recordOf?_eq_some_iff (h : t.Kept given) :
    t.recordOf? m = some r ↔ r ∈ t.nodes ∧ r.machineId = m := by
  rw [recordOf?, Option.bind_eq_some_iff]
  constructor
  · rintro ⟨id, hid, hg⟩
    obtain ⟨r', hr', hm, hid'⟩ := (h.indexed m id).mp hid
    obtain ⟨hr, hid⟩ := h.get?_eq_some_iff.mp hg
    obtain rfl := h.eq_of_nodeId hr hr' (hid.trans hid'.symm)
    exact ⟨hr, hm⟩
  · rintro ⟨hr, hm⟩
    exact ⟨r.nodeId, (h.indexed m _).mpr ⟨r, hr, hm, rfl⟩, h.get?_eq_some_iff.mpr ⟨hr, rfl⟩⟩

theorem Kept.recordOf?_eq_none_iff (h : t.Kept given) :
    t.recordOf? m = none ↔ t.nodeOf? m = none := by
  rw [Option.eq_none_iff_forall_ne_some, Option.eq_none_iff_forall_ne_some]
  constructor
  · intro hn id hid
    obtain ⟨r, hr, hm, -⟩ := (h.indexed m id).mp hid
    exact hn r (h.recordOf?_eq_some_iff.mpr ⟨hr, hm⟩)
  · intro hn r hr
    obtain ⟨hr, hm⟩ := h.recordOf?_eq_some_iff.mp hr
    exact hn r.nodeId ((h.indexed m _).mpr ⟨r, hr, hm, rfl⟩)

/-- A record takes the place of the machine's record before it, at the end of the table. -/
theorem Kept.nodes_enter (h : t.Kept given) : (t.enter machineId publicKey services).1.nodes =
    t.nodes.filter (·.machineId != machineId) ++ [⟨⟨t.nextId⟩, machineId, publicKey, services⟩] := by
  rw [enter]
  cases hp : t.nodeOf? machineId with
  | none =>
    have hnone : ∀ r ∈ t.nodes, (r.machineId != machineId) = true := by
      intro r hr
      rw [bne_iff_ne]
      intro hm
      rw [(h.indexed machineId r.nodeId).mpr ⟨r, hr, hm, rfl⟩] at hp
      cases hp
    rw [List.filter_eq_self.mpr hnone]
  | some previous =>
    obtain ⟨p, hpm, hm, rfl⟩ := (h.indexed machineId previous).mp hp
    refine congrArg (· ++ _) (List.filter_congr fun r hr => ?_)
    rw [Bool.eq_iff_iff, bne_iff_ne, bne_iff_ne, not_iff_not]
    constructor
    · intro hid
      rw [h.eq_of_nodeId hr hpm hid, hm]
    · intro hrm
      rw [h.eq_of_machineId hr hpm (hrm.trans hm.symm)]

theorem Kept.size_enter_le (h : t.Kept given) (hadm : t.Admits machineId publicKey) :
    (t.enter machineId publicKey services).1.size ≤ t.capacity := by
  rw [size, h.nodes_enter, List.length_append, List.length_singleton]
  have hroom := h.room
  rw [size] at hroom
  rcases hadm with ⟨r, hr, -⟩ | ⟨-, hfree⟩
  · obtain ⟨hr, hm⟩ := h.recordOf?_eq_some_iff.mp hr
    have hlt : (t.nodes.filter (·.machineId != machineId)).length < t.nodes.length :=
      List.length_filter_lt_length_iff_exists.mpr ⟨r, hr, by simp [hm]⟩
    omega
  · have hle := List.length_filter_le (·.machineId != machineId) t.nodes
    rw [size] at hfree
    omega

theorem Kept.next_ne (h : t.Kept given) (hid : id ∈ given) : id ≠ ⟨t.nextId⟩ := by
  rintro rfl
  exact Nat.lt_irrefl _ (h.next _ hid)

theorem Kept.enter (h : t.Kept given) (hadm : t.Admits machineId publicKey)
    (hlt : given.length + 1 < 2 ^ 64 - 1) :
    (t.enter machineId publicKey services).1.Kept (given ++ [⟨t.nextId⟩]) := by
  have hcount := h.count
  have hnext : (t.nextId + 1).toNat = t.nextId.toNat + 1 := by
    rw [UInt64.toNat_add, UInt64.toNat_one]
    exact Nat.mod_eq_of_lt (by omega)
  have hlast : NodeId.toNat ⟨t.nextId⟩ = t.nextId.toNat := rfl
  refine ⟨?_, fun m id => ?_, ?_, fun r hr => ?_, ?_, fun id hid => ?_, ?_⟩
  · rw [h.nodes_enter, List.pairwise_append]
    refine ⟨h.increasing.sublist List.filter_sublist, List.pairwise_singleton _ _, fun r hr r' hr' => ?_⟩
    rw [List.mem_singleton.mp hr']
    exact h.next _ (h.issued r (List.mem_filter.mp hr).1)
  · rw [nodeOf?_enter, h.nodes_enter]
    simp only [List.mem_append, List.mem_filter, List.mem_singleton, bne_iff_ne]
    by_cases hm : m = machineId
    · subst hm
      rw [if_pos rfl]
      constructor
      · intro he
        exact ⟨_, .inr rfl, rfl, Option.some.inj he⟩
      · rintro ⟨r, ⟨-, hne⟩ | rfl, hm, rfl⟩
        · exact absurd hm hne
        · rfl
    · rw [if_neg hm, h.indexed]
      constructor
      · rintro ⟨r, hr, hrm, hid⟩
        exact ⟨r, .inl ⟨hr, fun he => hm (hrm.symm.trans he)⟩, hrm, hid⟩
      · rintro ⟨r, ⟨hr, -⟩ | rfl, hrm, hid⟩
        · exact ⟨r, hr, hrm, hid⟩
        · exact absurd hrm.symm hm
  · rw [capacity_enter]
    exact h.size_enter_le hadm
  · rw [h.nodes_enter] at hr
    rcases List.mem_append.mp hr with hr | hr
    · exact List.mem_append_left _ (h.issued r (List.mem_filter.mp hr).1)
    · rw [List.mem_singleton.mp hr]
      exact List.mem_append_right _ List.mem_cons_self
  · refine List.pairwise_append.mpr ⟨h.inTurn, List.pairwise_singleton _ _, fun a ha b hb => ?_⟩
    rw [List.mem_singleton.mp hb]
    exact h.next a ha
  · rw [nextId_enter, hnext]
    rcases List.mem_append.mp hid with hid | hid
    · exact Nat.lt_succ_of_lt (h.next id hid)
    · rw [List.mem_singleton.mp hid, hlast]
      exact Nat.lt_succ_self _
  · rw [nextId_enter, hnext, List.length_append, List.length_singleton, hcount]

/-- A departure takes out the record under that id, and its machine from the index. -/
theorem Kept.unregister_eq (h : t.Kept given) (id : NodeId) :
    (t.unregister id).1.nodes = t.nodes.filter (·.nodeId != id) ∧
      (∀ m, (t.unregister id).1.nodeOf? m =
        if t.nodeOf? m = some id then none else t.nodeOf? m) ∧
      (t.unregister id).1.nextId = t.nextId ∧ (t.unregister id).1.capacity = t.capacity := by
  rw [unregister]
  cases hg : t.get? id with
  | none =>
    have hnone := get?_eq_none_iff.mp hg
    refine ⟨(List.filter_eq_self.mpr fun r hr => by simpa using hnone r hr).symm, fun m => ?_, rfl, rfl⟩
    rw [if_neg]
    intro hid
    obtain ⟨r, hr, -, he⟩ := (h.indexed m id).mp hid
    exact hnone r hr he
  | some r =>
    obtain ⟨hr, rfl⟩ := h.get?_eq_some_iff.mp hg
    have hid : t.nodeOf? r.machineId = some r.nodeId := (h.indexed _ _).mpr ⟨r, hr, rfl, rfl⟩
    refine ⟨rfl, fun m => ?_, rfl, rfl⟩
    dsimp only
    rw [if_pos hid, nodeOf?, lookup_filter_ne]
    by_cases hm : m = r.machineId
    · rw [if_pos hm, hm, if_pos hid]
    · rw [if_neg hm, if_neg]
      · rfl
      · intro he
        obtain ⟨r', hr', hm', hid'⟩ := (h.indexed m _).mp he
        exact hm (hm'.symm.trans (congrArg _ (h.eq_of_nodeId hr' hr hid')))

theorem Kept.unregister (h : t.Kept given) (id : NodeId) : (t.unregister id).1.Kept given := by
  obtain ⟨hnodes, hindex, hnext, hcapacity⟩ := h.unregister_eq id
  refine ⟨?_, fun m i => ?_, ?_, fun r hr => ?_, h.inTurn, fun i hi => ?_, ?_⟩
  · rw [hnodes]
    exact h.increasing.sublist List.filter_sublist
  · rw [hnodes, hindex]
    simp only [List.mem_filter, bne_iff_ne]
    constructor
    · intro he
      split at he
      next => cases he
      next hne =>
        obtain ⟨r, hr, hm, rfl⟩ := (h.indexed m i).mp he
        exact ⟨r, ⟨hr, fun hid => hne (hid ▸ he)⟩, hm, rfl⟩
    · rintro ⟨r, ⟨hr, hne⟩, rfl, rfl⟩
      have he := (h.indexed r.machineId r.nodeId).mpr ⟨r, hr, rfl, rfl⟩
      rw [he, if_neg fun hid => hne (Option.some.inj hid)]
  · rw [size, hnodes, hcapacity]
    exact Nat.le_trans (List.length_filter_le _ _) h.room
  · rw [hnodes] at hr
    exact h.issued r (List.mem_filter.mp hr).1
  · rw [hnext]
    exact h.next i hi
  · rw [hnext]
    exact h.count

theorem Kept.get?_unregister (h : t.Kept given) (id : NodeId) : (t.unregister id).1.get? id = none := by
  rw [get?_eq_none_iff, (h.unregister_eq id).1]
  intro r hr
  simpa using (List.mem_filter.mp hr).2

theorem Kept.get?_enter_previous (h : t.Kept given) (hp : t.nodeOf? machineId = some id) :
    (t.enter machineId publicKey services).1.get? id = none := by
  obtain ⟨p, hpm, hm, rfl⟩ := (h.indexed machineId id).mp hp
  rw [get?_eq_none_iff, h.nodes_enter]
  intro r hr
  rcases List.mem_append.mp hr with hr | hr
  · obtain ⟨hr, hne⟩ := List.mem_filter.mp hr
    intro hid
    rw [h.eq_of_nodeId hr hpm hid, hm] at hne
    simp at hne
  · rw [List.mem_singleton.mp hr]
    exact (h.next_ne (h.issued p hpm)).symm

theorem Kept.get?_enter_next (h : t.Kept given) : (t.enter machineId publicKey services).1.get? ⟨t.nextId⟩ =
    some ⟨⟨t.nextId⟩, machineId, publicKey, services⟩ := by
  have hold : ∀ r ∈ t.nodes.filter (·.machineId != machineId), ¬(r.nodeId == ⟨t.nextId⟩) = true := by
    intro r hr
    rw [beq_iff_eq]
    exact h.next_ne (h.issued r (List.mem_filter.mp hr).1)
  rw [get?, h.nodes_enter, List.find?_append, List.find?_eq_none.mpr hold]
  simp

structure Consistent (t : NodeTable) (capacity : Nat) : Prop where
  inverse : ∀ m id, t.nodeOf? m = some id ↔ ∃ r, t.get? id = some r ∧ r.machineId = m ∧ r.nodeId = id
  alone : (t.nodes.map (·.machineId)).Nodup
  room : t.size ≤ capacity

theorem Kept.consistent (h : t.Kept given) : t.Consistent t.capacity where
  inverse m id := by
    rw [h.indexed]
    constructor
    · rintro ⟨r, hr, hm, hid⟩
      exact ⟨r, h.get?_eq_some_iff.mpr ⟨hr, hid⟩, hm, hid⟩
    · rintro ⟨r, hg, hm, hid⟩
      exact ⟨r, (h.get?_eq_some_iff.mp hg).1, hm, hid⟩
  alone := h.nodup_machines
  room := h.room

/-- What a registration does where it fails, when it fails, whose id it gives out, and what it enters. -/
structure Registers (t : NodeTable) (capacity : Nat) (given : List NodeId) (machineId : String)
    (publicKey : Bytes) (services : List Service) (out : NodeTable × Except RegistrationFault NodeId) : Prop where
  refused : ∀ e, out.2 = .error e → out.1 = t
  mismatch : out.2 = .error .keyMismatch ↔ ∃ key, t.Binds machineId key ∧ key ≠ publicKey
  full : ∀ n, out.2 = .error (.full n) ↔ n = capacity ∧ t.nodeOf? machineId = none ∧ t.size = capacity
  fresh : ∀ id, out.2 = .ok id → id ∉ given ∧
    ∀ previous, t.nodeOf? machineId = some previous → out.1.get? previous = none
  entered : ∀ id, out.2 = .ok id → out.1.get? id = some ⟨id, machineId, publicKey, services⟩ ∧
    (∀ m, out.1.nodeOf? m = if m = machineId then some id else t.nodeOf? m) ∧
    out.1.nodes = t.nodes.filter (·.machineId != machineId) ++ [⟨id, machineId, publicKey, services⟩]

theorem Kept.binds_iff (h : t.Kept given) :
    t.Binds m publicKey ↔ ∃ r, t.recordOf? m = some r ∧ r.publicKey = publicKey := by
  constructor
  · rintro ⟨r, hr, hm, hkey⟩
    exact ⟨r, h.recordOf?_eq_some_iff.mpr ⟨hr, hm⟩, hkey⟩
  · rintro ⟨r, hr, hkey⟩
    obtain ⟨hr, hm⟩ := h.recordOf?_eq_some_iff.mp hr
    exact ⟨r, hr, hm, hkey⟩

theorem Kept.eq_of_binds (h : t.Kept given) {key : Bytes} (hb : t.Binds m publicKey) (hb' : t.Binds m key) :
    key = publicKey := by
  obtain ⟨r, hr, hm, rfl⟩ := hb
  obtain ⟨r', hr', hm', rfl⟩ := hb'
  rw [h.eq_of_machineId hr' hr (hm'.trans hm.symm)]

theorem Kept.not_binds (h : t.Kept given) (hn : t.recordOf? m = none) : ¬t.Binds m publicKey := by
  rintro ⟨r, hr, hm, -⟩
  rw [h.recordOf?_eq_some_iff.mpr ⟨hr, hm⟩] at hn
  cases hn

theorem Kept.registers (h : t.Kept given) {out : NodeTable × Except RegistrationFault NodeId}
    (hout : t.Registered machineId publicKey services out) :
    t.Registers t.capacity given machineId publicKey services out := by
  have hroom := h.room
  cases hout with
  | mismatch r hr hkey =>
    have hb := h.binds_iff.mpr ⟨r, hr, rfl⟩
    refine ⟨fun _ _ => rfl, iff_of_true rfl ⟨_, hb, hkey⟩, fun n => ?_, nofun, nofun⟩
    refine iff_of_false nofun ?_
    rintro ⟨-, hn, -⟩
    rw [h.recordOf?_eq_none_iff.mpr hn] at hr
    cases hr
  | full hn hfull =>
    refine ⟨fun _ _ => rfl, iff_of_false nofun ?_, fun n => ?_, nofun, nofun⟩
    · rintro ⟨key, hb, -⟩
      exact h.not_binds hn hb
    · constructor
      · intro he
        cases he
        exact ⟨rfl, h.recordOf?_eq_none_iff.mp hn, Nat.le_antisymm hroom hfull⟩
      · rintro ⟨rfl, -, -⟩
        rfl
  | entered hadm =>
    refine ⟨nofun, iff_of_false nofun ?_, fun n => iff_of_false nofun ?_, fun id hid => ?_, fun id hid => ?_⟩
    · rintro ⟨key, hb, hne⟩
      rcases hadm with hknown | ⟨hn, -⟩
      · exact hne (h.eq_of_binds (h.binds_iff.mpr hknown) hb)
      · exact h.not_binds hn hb
    · rintro ⟨-, hn, hsize⟩
      rcases hadm with ⟨r, hr, -⟩ | ⟨-, hfree⟩
      · rw [h.recordOf?_eq_none_iff.mpr hn] at hr
        cases hr
      · omega
    · cases hid
      exact ⟨fun hm => h.next_ne hm rfl, fun previous hp => h.get?_enter_previous hp⟩
    · cases hid
      exact ⟨h.get?_enter_next, fun m => nodeOf?_enter .., h.nodes_enter⟩

end NodeTable

end FrameGateway
