import FrameGateway.Proofs.Gateway.State
/-! What becomes of a backend that connects. It is always counted and its reader always starts, but it
joins the pool only where no other backend there has its id, and its end takes only itself out of the
pool under that same condition (`GatewayState.attached_backend_iff`). The gateway never gives out an id twice
within the first round of a narrow token, so the other one is a session that the host has put there. -/

namespace FrameGateway

theorem TokenFormat.maxToken_lt {f : TokenFormat} (h : f.maxToken < 2 ^ 128 - 1) : f.maxToken < 2 ^ 64 := by
  cases f with
  | u32 => decide
  | u64 => decide
  | uuid => exact absurd h (by decide)

namespace Gateway

variable {g : Gateway} {f : TokenFormat}

/-- A narrow token gets the next id in turn, if no client has it. -/
theorem allocate_of_free (hf : g.relay.token = some f) (hn : f.maxToken < 2 ^ 128 - 1)
    (hfree : g.relay.client? (numbered f.maxToken g.counter) = none) (fresh : SessionId) :
    g.allocate fresh = ({ g with counter := g.counter + 1 }, numbered f.maxToken g.counter) := by
  have hmost : (g.relay.token.map (·.maxToken)).filter (· < 2 ^ 128 - 1) = some f.maxToken := by
    rw [hf, Option.map_some, Option.filter_some, if_pos (decide_eq_true hn)]
  rw [allocate, hmost]
  dsimp only
  rw [nextFree]
  exact if_pos (by rw [hfree]; rfl)

end Gateway

namespace GatewayState

variable {s s' : GatewayState} {b : Handle} {role : Role} {f : TokenFormat}

/-- No id has been given out twice. -/
def Distinct (s : GatewayState) : Prop := (s.opened.map (·.1.id)).Nodup

/-- Among sessions of the gateway's own, an id names one. -/
theorem Inv.hosted_of_id (h : s.Inv) (hd : s.Distinct) (hb : (b, role) ∈ s.opened) {w : Handle}
    (hw : w ∈ s.gateway.relay.pool.members) (hid : w.id = b.id) : w = b ∨ w ∈ s.hosted := by
  rcases List.mem_append.mp (h.pool w hw) with hw | hw
  · exact .inr hw
  · obtain ⟨⟨w, r⟩, hm, rfl⟩ := List.mem_map.mp hw
    exact .inl (congrArg Prod.fst (List.inj_on_of_nodup_map hd hm hb hid))

/-! ### Ids in turn -/

/-- The first ids of a narrow token are 1, 2 and so on, one for each session. -/
structure Numbered (s : GatewayState) (f : TokenFormat) : Prop where
  token : s.gateway.relay.token = some f
  ids : s.opened.length ≤ f.maxToken → s.gateway.counter.toNat = s.opened.length ∧
    s.opened.map (·.1.id.val) = List.range' 1 s.opened.length

theorem numbered_create {config : Config} (hf : config.codec.token = some f) : (create config).Numbered f :=
  ⟨hf, fun _ => ⟨rfl, rfl⟩⟩

theorem Numbered.distinct (h : s.Numbered f) (hl : s.opened.length ≤ f.maxToken) : s.Distinct := by
  have hn : ((s.opened.map (·.1.id)).map SessionId.val).Nodup := by
    rw [List.map_map]
    exact (h.ids hl).2 ▸ List.nodup_range'
  exact hn.of_map _

theorem Numbered.opens (hnum : s.Numbered f) (h : s.Inv) (hn : f.maxToken < 2 ^ 128 - 1)
    {fresh : SessionId} {g : Gateway} (wrapping : Nat) (ho : s.gateway.Opens fresh role g b) :
    Numbered { s with gateway := g, wrapping, opened := s.opened ++ [(b, role)] } f := by
  refine ⟨ho.token.trans hnum.token, fun hl => ?_⟩
  rw [List.length_append, List.length_singleton] at hl
  obtain ⟨hcount, hids⟩ := hnum.ids (Nat.le_of_succ_le hl)
  have hmost := TokenFormat.maxToken_lt hn
  have hval : (Gateway.numbered f.maxToken s.gateway.counter).val = s.opened.length + 1 := by
    rw [Gateway.numbered, hcount, Nat.mod_eq_of_lt hl, SessionId.val_ofNat (by omega)]
  -- no client has it, for the ids of all sessions are smaller
  have hfree : s.gateway.relay.client? (Gateway.numbered f.maxToken s.gateway.counter) = none := by
    refine List.find?_eq_none.mpr fun c hc he => ?_
    have hm : c.id.val ∈ s.opened.map (·.1.id.val) := List.mem_map.mpr ⟨_, h.clients c hc, rfl⟩
    rw [hids, List.mem_range'_1, eq_of_beq he, hval] at hm
    omega
  have halloc := Gateway.allocate_of_free hnum.token hn hfree fresh
  refine ⟨?_, ?_⟩
  · rw [ho.counter, halloc, UInt64.toNat_add, hcount, List.length_append, UInt64.toNat_one]
    exact Nat.mod_eq_of_lt (by omega)
  · rw [List.map_append, hids, ho.handle, halloc, List.length_append, List.length_singleton,
      List.range'_1_concat, Nat.add_comm 1]
    exact congrArg (_ ++ [·]) hval

theorem Numbered.step (hnum : s.Numbered f) (h : s.Inv) (hn : f.maxToken < 2 ^ 128 - 1) {m : Move}
    (hs : s.Stepped m s') : s'.Numbered f := by
  cases hs with
  | leavesOnly m g binding wrapping hw =>
    exact ⟨hw.relay.token.trans hnum.token, fun hl => hw.counter ▸ hnum.ids hl⟩
  | entered fresh now wrapping =>
    exact hnum.opens h hn wrapping (Gateway.enterClient_opens s.gateway fresh now).1
  | attached fresh now g b he => exact hnum.opens h hn s.wrapping (Gateway.attachBackend_opens he).1
  | hosted id capacity => exact ⟨hnum.token, hnum.ids⟩
  | added b hm hid => exact ⟨hnum.token, hnum.ids⟩

theorem Numbered.run (hnum : s.Numbered f) (h : s.Inv) (hn : f.maxToken < 2 ^ 128 - 1) {moves : List Move}
    (hr : s.run? moves = some s') : s'.Numbered f := by
  induction moves generalizing s with
  | nil => cases hr; exact hnum
  | cons m moves ih =>
    obtain ⟨t, ht, hr⟩ := run?_cons_eq_some.mp hr
    have hs := stepped_of_step? h.sound ht
    exact ih (hnum.step h hn hs) (h.step hs) hr

/-! ### Joining and leaving -/

theorem Stepped.mem_opened {m : Move} (hs : s.Stepped m s') {x : Handle × Role} (hx : x ∈ s.opened) :
    x ∈ s'.opened := by
  cases hs with
  | leavesOnly m g binding wrapping hw => exact hx
  | entered fresh now wrapping => exact List.mem_append_left _ hx
  | attached fresh now g b he => exact List.mem_append_left _ hx
  | hosted id capacity => exact hx
  | added b hm hid => exact hx

theorem Inv.mem_opened (h : s.Inv) {moves : List Move} (hr : s.run? moves = some s') {x : Handle × Role}
    (hx : x ∈ s.opened) : x ∈ s'.opened := by
  induction moves generalizing s with
  | nil => cases hr; exact hx
  | cons m moves ih =>
    obtain ⟨t, ht, hr⟩ := run?_cons_eq_some.mp hr
    have hs := stepped_of_step? h.sound ht
    exact ih (h.step hs) hr (hs.mem_opened hx)

def backends (s : GatewayState) : List Handle := s.gateway.relay.pool.members

/-- No other backend in the pool has the id of this session. -/
def Alone (s : GatewayState) (b : Handle) : Prop := ∀ w ∈ s.backends, w.id = b.id → w = b

/-- The end of a reader takes its own session out of the pool, if it is there, and no other. -/
def SparesOthers (s : GatewayState) (a : Attachment) : Prop :=
  (s.gateway.finish a).relay.pool.members = s.backends.filter (·.outbox != a.outbox)

theorem Inv.sparesOthers_iff (h : s.Inv) (hb : (b, .backend) ∈ s.opened) {a : Attachment}
    (ha : a ∈ s.gateway.attached) (he : a.outbox = b.outbox) : s.SparesOthers a ↔ s.Alone b := by
  obtain ⟨hid, hrole⟩ := h.reader hb ha he
  have hpool : (s.gateway.finish a).relay.pool.members = s.backends.filter (·.id != b.id) := by
    have hleft : (s.gateway.finish a).relay.pool = (s.gateway.relay.pool.remove a.id).1 := by
      rw [Gateway.finish, hrole]
      rfl
    rw [hleft, hid]
    exact Pool.members_remove h.poolIds b.id
  rw [SparesOthers, hpool, he]
  constructor
  · intro hf w hw hwid
    by_contra hne
    have hout : w.outbox ≠ b.outbox := fun ho => hne (h.eq_of_outbox (h.pool w hw) (mem_known hb) ho)
    have hm : w ∈ s.backends.filter (·.outbox != b.outbox) := List.mem_filter.mpr ⟨hw, bne_iff_ne.mpr hout⟩
    rw [← hf] at hm
    exact bne_iff_ne.mp (List.mem_filter.mp hm).2 hwid
  · intro halone
    refine List.filter_congr fun w hw => ?_
    rw [Bool.eq_iff_iff, bne_iff_ne, bne_iff_ne]
    exact not_congr ⟨fun hwid => congrArg _ (halone w hw hwid),
      fun ho => congrArg _ (h.eq_of_outbox (h.pool w hw) (mem_known hb) ho)⟩

theorem Inv.not_hosted (h : s.Inv) (hb : (b, role) ∈ s.opened) : b ∉ s.hosted := fun hm => by
  have hn := h.queues
  rw [known, List.map_append, List.nodup_append] at hn
  exact hn.2.2 _ (List.mem_map_of_mem hm) _ (List.mem_map_of_mem (List.mem_map_of_mem hb)) rfl

theorem Inv.alone_iff (h : s.Inv) (hd : s.Distinct) (hb : (b, role) ∈ s.opened) :
    s.Alone b ↔ ∀ w ∈ s.backends, w ∈ s.hosted → w.id ≠ b.id := by
  constructor
  · intro halone w hw hhost hid
    exact h.not_hosted hb (halone w hw hid ▸ hhost)
  · intro hno w hw hid
    exact (h.hosted_of_id hd hb hw hid).resolve_right fun hhost => hno w hw hhost hid

/-- A new session has joined the pool: nobody there had its id, and it stands behind all others. -/
structure Joins (s s' : GatewayState) (b : Handle) : Prop where
  free : ∀ w ∈ s.backends, w.id ≠ b.id
  last : s'.backends = s.backends ++ [b]

theorem Inv.joins_iff (h : s.Inv) {fresh : SessionId} {now : Nat} {g : Gateway}
    (he : s.gateway.attachBackend fresh now = (g, .ok b)) :
    let s' : GatewayState := { s with gateway := g, opened := s.opened ++ [(b, .backend)] }
    (s.Joins s' b ↔ s'.Alone b) ∧ (¬ s'.Alone b → g.relay.pool = s.gateway.relay.pool) := by
  intro s'
  have hs' : s'.Inv := h.step (.attached fresh now g b he)
  obtain ⟨ho, hp, -⟩ := Gateway.attachBackend_opens he
  -- its queue is new, so it is not in the pool yet
  have hnew : b ∉ s.backends := fun hm => by
    have := h.made b (h.pool b hm)
    rw [ho.handle] at this
    exact absurd this (Nat.lt_irrefl _)
  rcases Pool.add_cases s.gateway.relay.pool b with ⟨hid, hadd⟩ | ⟨hid, hadd⟩
  · rw [hadd] at hp
    obtain ⟨w, hw, hwid⟩ := List.mem_map.mp hid
    have hnot : ¬ s'.Alone b := fun halone => by
      have hw' : w ∈ s'.backends := by
        rw [backends, hp]
        exact hw
      exact hnew (halone w hw' hwid ▸ hw)
    exact ⟨⟨fun hj => absurd hwid (hj.free w hw), fun halone => absurd halone hnot⟩, fun _ => hp⟩
  · rw [hadd] at hp
    have hlast : s'.backends = s.backends ++ [b] := congrArg Pool.members hp
    have hjoins : s.Joins s' b := ⟨fun w hw hwid => hid (hwid ▸ List.mem_map_of_mem hw), hlast⟩
    have hb : b ∈ s'.backends := by
      rw [hlast]
      exact List.mem_append_right _ (List.mem_singleton_self b)
    have halone : s'.Alone b := fun w hw hwid => List.inj_on_of_nodup_map hs'.poolIds hw hb hwid
    exact ⟨⟨fun _ => halone, fun _ => hjoins⟩, fun hnot => absurd halone hnot⟩

/-- What becomes of a backend that connects to a gateway, whatever has gone on before. It is counted. It
joins the pool exactly if nobody there has its id, and else the pool stays as it is. From then on, whenever
its reader ends, that spares all other backends exactly if none of them has its id by then. Who else has it
was put there by the host, as long as the gateway has given out no id twice; and of a narrow token it
has not, before the ids have gone round. -/
theorem attached_backend_iff (config : Config) (moves : List Move) (s : GatewayState)
    (hr : (create config).run? moves = some s) (fresh : SessionId) (now : Nat) (g : Gateway) (b : Handle)
    (he : s.gateway.attachBackend fresh now = (g, .ok b)) :
    let s' : GatewayState := { s with gateway := g, opened := s.opened ++ [(b, .backend)] }
    g.relay.counters.backendsAttached = s.gateway.relay.counters.backendsAttached + 1 ∧
    (s.Joins s' b ↔ s'.Alone b) ∧ (¬ s'.Alone b → g.relay.pool = s.gateway.relay.pool) ∧
    ∀ rest t, s'.run? rest = some t →
      (∀ a ∈ t.gateway.attached, a.outbox = b.outbox → (t.SparesOthers a ↔ t.Alone b)) ∧
      (t.Distinct → (t.Alone b ↔ ∀ w ∈ t.backends, w ∈ t.hosted → w.id ≠ b.id)) ∧
      ∀ f, config.codec.token = some f → f.maxToken < 2 ^ 128 - 1 → t.opened.length ≤ f.maxToken →
        t.Distinct := by
  intro s'
  have hs := (inv_create config).run hr
  have hs' : s'.Inv := hs.step (.attached fresh now g b he)
  obtain ⟨hjoins, hkept⟩ := hs.joins_iff he
  refine ⟨(Gateway.attachBackend_opens he).2.2.2, hjoins, hkept, fun rest t ht => ?_⟩
  have hinv := hs'.run ht
  have hb : (b, .backend) ∈ t.opened :=
    hs'.mem_opened ht (List.mem_append_right _ (List.mem_singleton_self _))
  refine ⟨fun a ha ho => hinv.sparesOthers_iff hb ha ho, fun hd => hinv.alone_iff hd hb,
    fun f hf hn hl => ?_⟩
  have hnum := (numbered_create hf).run (inv_create config) hn hr
  exact ((hnum.step hs hn (.attached fresh now g b he)).run hs' hn ht).distinct hl

/-- A backend that connects behind a client joins the pool. -/
theorem attached_backend_behind_client :
    ∃ s g b, (create { codec := { token := some .u32 } }).run?
        [.start, .bound (.ok "127.0.0.1:7100"), .connect, .enter .nil 0] = some s ∧
      s.gateway.attachBackend .nil 0 = (g, .ok b) ∧
      s.Joins { s with gateway := g, opened := s.opened ++ [(b, .backend)] } b := by
  let client : Handle := ⟨.ofNat 1, ⟨0⟩⟩
  let s : GatewayState :=
    { gateway :=
        { server := {}
          relay :=
            { token := some .u32, clients := [client], pool := .empty, boxes := ⟨[.create 256]⟩
              counters := { connectionsTotal := 1, connectionsActive := 1 }, events := [.bound client.id 0] }
          phase := .running, address := some "127.0.0.1:7100", closing := false, permits := 9999, counter := 1
          attached := [⟨client.id, .client, client.outbox, [], 300000⟩] }
      binding := 0, wrapping := 0, hosted := [], opened := [(client, .client)] }
  have hr : (create { codec := { token := some .u32 } }).run?
      [.start, .bound (.ok "127.0.0.1:7100"), .connect, .enter .nil 0] = some s := by
    rfl
  have he : s.gateway.attachBackend .nil 0 = ((s.gateway.attachBackend .nil 0).1, .ok ⟨.ofNat 2, ⟨1⟩⟩) := rfl
  refine ⟨s, _, _, hr, he, ((attached_backend_iff _ _ s hr .nil 0 _ _ he).2.1).mpr ?_⟩
  intro w hw _
  exact List.mem_singleton.mp hw

/-- The host has a worker under the id that comes next. A backend that connects is told that it is in, and
it is counted, but the pool stays as it is; and when that backend goes, the worker is out. -/
theorem attached_backend_under_taken_id :
    ∃ s g b a, (create { codec := { token := some .u32 } }).run?
        [.start, .bound (.ok "127.0.0.1:7100"), .host (.ofNat 1) 4, .add ⟨.ofNat 1, ⟨0⟩⟩] = some s ∧
      s.gateway.attachBackend .nil 0 = (g, .ok b) ∧ s.backends = [⟨.ofNat 1, ⟨0⟩⟩] ∧ b = ⟨.ofNat 1, ⟨1⟩⟩ ∧
      g.relay.pool = s.gateway.relay.pool ∧ s.gateway.relay.counters.backendsAttached = 1 ∧
      g.relay.counters.backendsAttached = 2 ∧ g.attached = [a] ∧ a.outbox = b.outbox ∧
      (g.finish a).relay.pool.members = [] := by
  let worker : Handle := ⟨.ofNat 1, ⟨0⟩⟩
  let s : GatewayState :=
    { gateway :=
        { server := {}
          relay :=
            { token := some .u32, clients := [], pool := ⟨[worker], 0⟩, boxes := ⟨[.create 4]⟩
              counters := { backendsAttached := 1 }, events := [] }
          phase := .running, address := some "127.0.0.1:7100", closing := false, permits := 10000, counter := 0
          attached := [] }
      binding := 0, wrapping := 0, hosted := [worker], opened := [] }
  let a : Attachment := ⟨worker.id, .backend, ⟨1⟩, [], 300000⟩
  exact ⟨s, (s.gateway.attachBackend .nil 0).1, ⟨worker.id, ⟨1⟩⟩, a,
    rfl, rfl, rfl, rfl, rfl, rfl, rfl, by decide, rfl, rfl⟩

end GatewayState

end FrameGateway
