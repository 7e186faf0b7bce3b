import FrameGateway.Proofs.Relay.Books
/-! What is reported while frames of one session are relayed: deliveries of these frames that have failed,
and backends that have left the pool, each as often as it has left (`Relay.Reports`). A backend's frame finds
nobody closed, and the pool stays as it is. -/

namespace FrameGateway

namespace Pool

variable {p : Pool} {id : SessionId}

theorem count_remove (hn : p.ids.Nodup) (id other : SessionId) :
    (p.remove id).1.ids.count other = if other = id then 0 else p.ids.count other := by
  have hids : (p.remove id).1.ids = p.ids.filter (· != id) := by
    rw [ids, members_remove hn, ids, List.filter_map]
    rfl
  rw [hids]
  split
  next h =>
    rw [h, List.count_eq_zero]
    simp
  next h => exact List.count_filter (bne_iff_ne.mpr h)

end Pool

namespace Relay

/-- What has been reported while these frames of a session were relayed. -/
structure Reports (source : SessionId) (frames : List Bytes) (r r' : Relay) (news : List Event) : Prop where
  events : r'.events = r.events ++ news
  kinds : ∀ e ∈ news,
    (∃ frame ∈ frames, ∃ fault, e = .dropped source frame fault) ∨ ∃ id, e = .closed id .backend
  /-- whoever was in the pool is there still, or has been reported -/
  leavers : ∀ id, news.count (.closed id .backend) + r'.pool.ids.count id = r.pool.ids.count id

variable {source : SessionId} {frames later : List Bytes} {frame : Bytes} {r r' r'' : Relay}
  {news more : List Event}

theorem Reports.of_same (he : r'.events = r.events) (hp : r'.pool.ids = r.pool.ids) :
    Reports source frames r r' [] := by
  refine ⟨?_, ?_, ?_⟩
  · simp [he]
  · simp
  · simp [hp]

theorem Reports.trans (h : Reports source frames r r' news) (h' : Reports source later r' r'' more) :
    Reports source (frames ++ later) r r'' (news ++ more) := by
  refine ⟨?_, ?_, ?_⟩
  · rw [h'.events, h.events, List.append_assoc]
  · intro e he
    rcases List.mem_append.mp he with he | he
    · obtain ⟨f, hf, fault, rfl⟩ | hclosed := h.kinds e he
      · exact .inl ⟨f, List.mem_append_left _ hf, fault, rfl⟩
      · exact .inr hclosed
    · obtain ⟨f, hf, fault, rfl⟩ | hclosed := h'.kinds e he
      · exact .inl ⟨f, List.mem_append_right _ hf, fault, rfl⟩
      · exact .inr hclosed
  · intro id
    have hfirst := h.leavers id
    have hsecond := h'.leavers id
    rw [List.count_append]
    omega

theorem Reports.nodup (h : Reports source frames r r' news) (hn : r.pool.ids.Nodup) : r'.pool.ids.Nodup := by
  rw [List.nodup_iff_count_le_one] at hn ⊢
  intro id
  have hl := h.leavers id
  have hle := hn id
  omega

/-! ### One frame -/

/-- Something has been reported of this frame, or nothing. -/
def ReportsSome (source : SessionId) (frame : Bytes) (r r' : Relay) : Prop := ∃ news, Reports source [frame] r r' news

theorem ReportsSome.of_same (he : r'.events = r.events) (hp : r'.pool.ids = r.pool.ids) :
    ReportsSome source frame r r' :=
  ⟨[], .of_same he hp⟩

theorem ReportsSome.trans (h : ReportsSome source frame r r') (h' : ReportsSome source frame r' r'') :
    ReportsSome source frame r r'' := by
  obtain ⟨news, h⟩ := h
  obtain ⟨more, h'⟩ := h'
  refine ⟨news ++ more, (h.trans h').events, ?_, (h.trans h').leavers⟩
  intro e he
  obtain ⟨f, hf, rest⟩ | hclosed := (h.trans h').kinds e he
  · exact .inl ⟨f, by simpa using hf, rest⟩
  · exact .inr hclosed

theorem reportsSome_drop (r : Relay) (source : SessionId) (frame : Bytes) (fault : Fault) :
    ReportsSome source frame r (r.drop source frame fault) := by
  refine ⟨[.dropped source frame fault], rfl, ?_, ?_⟩
  · intro e he
    exact .inl ⟨frame, List.mem_singleton_self _, fault, List.mem_singleton.mp he⟩
  · intro id
    simp [drop, report]

theorem reportsSome_prune (hn : r.pool.ids.Nodup) (id : SessionId) : ReportsSome source frame r (r.prune id) := by
  have hcount := Pool.count_remove hn id
  rcases Pool.remove_cases r.pool id with ⟨-, hr⟩ | ⟨a, x, b, hm, rfl, -, hr⟩
  · have hkeep : r.prune id = r := by
      simp [prune, removeBackend, hr]
    rw [hkeep]
    exact .of_same rfl rfl
  · have hleave : r.prune x.id = { r with pool := (r.pool.remove x.id).1 }.report (.closed x.id .backend) := by
      simp [prune, removeBackend, hr]
    rw [hleave]
    refine ⟨[.closed x.id .backend], rfl, ?_, ?_⟩
    · intro e he
      exact .inr ⟨x.id, List.mem_singleton.mp he⟩
    · intro id
      change _ + (r.pool.remove x.id).1.ids.count id = _
      rw [hcount]
      by_cases hid : id = x.id
      · rw [hid, if_pos rfl, List.count_eq_one_of_mem hn (by simp [Pool.ids, hm])]
        simp
      · rw [if_neg hid, List.count_eq_zero.mpr (by simpa using hid), Nat.zero_add]

theorem nodup_prune (hn : r.pool.ids.Nodup) (id : SessionId) : (r.prune id).pool.ids.Nodup := by
  obtain ⟨news, h⟩ : ReportsSome id [] r (r.prune id) := reportsSome_prune hn id
  exact h.nodup hn

theorem reportsSome_fanOut (r : Relay) (source : SessionId) (frame : Bytes) (targets : List Handle) :
    ReportsSome source frame r (r.fanOut source frame targets).1 ∧ (r.fanOut source frame targets).1.pool = r.pool := by
  induction targets generalizing r with
  | nil => exact ⟨.of_same rfl rfl, rfl⟩
  | cons h rest ih =>
    unfold fanOut
    cases r.boxes.offer h.outbox frame with
    | ok boxes =>
      obtain ⟨htold, hpool⟩ := ih { r with boxes }
      have hsame : ReportsSome source frame r { r with boxes } := .of_same rfl rfl
      exact ⟨hsame.trans htold, hpool⟩
    | error e =>
      obtain ⟨htold, hpool⟩ := ih (r.drop source frame e)
      exact ⟨(reportsSome_drop r source frame e).trans htold, hpool⟩

theorem reportsSome_pruneAll (hn : r.pool.ids.Nodup) (gone : List Handle) :
    ReportsSome source frame r (gone.foldl (fun r h => r.prune h.id) r) := by
  induction gone generalizing r with
  | nil => exact .of_same rfl rfl
  | cons h gone ih => exact (reportsSome_prune hn h.id).trans (ih (nodup_prune hn h.id))

theorem reportsSome_forwardNext (hn : r.pool.ids.Nodup) (source : SessionId) (frame : Bytes) :
    ReportsSome source frame r (r.forwardNext frame).1 := by
  induction r using forwardNext.induct frame with
  | case1 r h =>
    rw [forwardNext_of_none h]
    exact .of_same rfl rfl
  | case2 r target p h _ turned boxes ho =>
    rw [forwardNext_of_some h, show r.boxes.offer target.outbox frame = .ok boxes from ho]
    exact .of_same rfl (Pool.ids_of_next? h)
  | case3 r target p h _ turned ho ih =>
    rw [forwardNext_of_some h, show r.boxes.offer target.outbox frame = .error .connectionClosed from ho]
    have hids : turned.pool.ids = r.pool.ids := Pool.ids_of_next? h
    have hturned : turned.pool.ids.Nodup := hids ▸ hn
    have hsame : ReportsSome source frame r turned := .of_same rfl hids
    exact (hsame.trans (reportsSome_prune hturned target.id)).trans (ih (nodup_prune hturned target.id))
  | case4 r target p h _ turned e he ho =>
    rw [forwardNext_of_some h, show r.boxes.offer target.outbox frame = .error e from ho]
    split
    next heq => cases heq
    next heq => exact absurd (Except.error.inj heq) he
    next => exact .of_same rfl (Pool.ids_of_next? h)

theorem reportsSome_forwardTo (hn : r.pool.ids.Nodup) (target : Handle) (source : SessionId) (frame : Bytes) :
    ReportsSome source frame r (r.forwardTo target frame).1 := by
  unfold forwardTo
  split
  · exact .of_same rfl rfl
  · exact (reportsSome_prune hn target.id).trans (reportsSome_forwardNext (nodup_prune hn target.id) source frame)
  · exact .of_same rfl rfl

theorem reportsSome_routeView (hn : r.pool.ids.Nodup) (role : Role) (source : SessionId) (frame : Bytes) (v : Route) :
    ReportsSome source frame r (r.routeView role source frame v).1 := by
  unfold routeView
  cases role with
  | client =>
    dsimp only
    split_ifs
    · exact .of_same rfl rfl
    · obtain ⟨htold, hpool⟩ := reportsSome_fanOut r source frame r.pool.members
      refine htold.trans (reportsSome_pruneAll ?_ _)
      rw [hpool]
      exact hn
    · split
      · exact reportsSome_forwardTo hn _ source frame
      · exact reportsSome_forwardNext hn source frame
  | backend =>
    dsimp only
    split_ifs
    · exact .of_same rfl rfl
    · exact (reportsSome_fanOut r source frame r.clients).1
    · repeat' split
      all_goals exact .of_same rfl rfl

theorem pool_routeView_backend (r : Relay) (source : SessionId) (frame : Bytes) (v : Route) :
    (r.routeView .backend source frame v).1.pool = r.pool := by
  unfold routeView
  dsimp only
  split_ifs
  · rfl
  · exact (reportsSome_fanOut r source frame r.clients).2
  · repeat' split
    all_goals rfl

theorem reportsSome_finish (r : Relay) (source : SessionId) (frame : Bytes) (result : Except Fault Nat) :
    ReportsSome source frame r (finish source frame (r, result)).1 := by
  cases result with
  | ok n => exact .of_same rfl rfl
  | error e => exact reportsSome_drop r source frame e

theorem reportsSome_pass (hn : r.pool.ids.Nodup) (role : Role) (source : SessionId) (frame : Bytes) :
    ReportsSome source frame r (r.pass role source frame).1 := by
  have hs := sameSessions_taken r frame
  have htaken : ReportsSome source frame r (r.taken frame) := .of_same (events_taken r frame) (congrArg _ hs.pool)
  rw [pass_eq, parse_receive]
  cases parseFrame r.token frame with
  | error e => exact htaken.trans (reportsSome_finish _ source frame _)
  | ok view =>
    have hroute := reportsSome_routeView (hs.pool ▸ hn) role source frame view.route
    exact (htaken.trans hroute).trans (reportsSome_finish _ source frame _)

theorem pool_pass_backend (r : Relay) (source : SessionId) (frame : Bytes) :
    (r.pass .backend source frame).1.pool = r.pool := by
  have hs := (sameSessions_taken r frame).pool
  rw [pass_eq, parse_receive]
  cases parseFrame r.token frame with
  | error e => exact hs
  | ok view =>
    have hpool := pool_routeView_backend (r.taken frame) source frame view.route
    dsimp only
    generalize (r.taken frame).routeView .backend source frame view.route = out at hpool ⊢
    obtain ⟨r', e | n⟩ := out
    · exact hpool.trans hs
    · exact hpool.trans hs

end Relay

end FrameGateway
