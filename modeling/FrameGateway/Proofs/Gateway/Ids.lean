import FrameGateway.Proofs.Gateway.Attaching
/-! Ids that keep clients apart. Given out in turn, an id is never nil, fits its token and is no client's; so the
table of clients has a place of its own for each of them, whatever else happens to the gateway, and there is an
id for every call that waits as long as the limit of connections is no larger than a token can be
(`AttachCalls.ids_keep_apart`). -/

namespace FrameGateway

theorem TokenFormat.inTurn?_of_narrow {f : TokenFormat} (hf : f = .u32 ∨ f = .u64) :
    inTurn? (some f) = some f.maxToken := by
  rcases hf with rfl | rfl
  · rfl
  · rfl

namespace Gateway

variable {f : TokenFormat}

/-- The ids in turn are the numbers from one up to the largest token. -/
theorem val_numbered (f : TokenFormat) (count : UInt64) :
    (numbered f.maxToken count).val = count.toNat % f.maxToken + 1 ∧
      count.toNat % f.maxToken + 1 ≤ f.maxToken := by
  have hpos : 0 < f.maxToken := by cases f <;> decide
  have hwide : f.maxToken < 2 ^ 128 := by cases f <;> decide
  have hmod := Nat.mod_lt count.toNat hpos
  exact ⟨SessionId.val_ofNat (by omega), hmod⟩

theorem numbered_ne_nil (f : TokenFormat) (count : UInt64) : numbered f.maxToken count ≠ .nil := by
  intro h
  have hval := (val_numbered f count).1
  rw [h, show SessionId.nil.val = 0 from rfl] at hval
  omega

theorem fits_numbered (f : TokenFormat) (count : UInt64) : f.fits (numbered f.maxToken count) = true := by
  obtain ⟨hval, hle⟩ := val_numbered f count
  rw [TokenFormat.fits, hval]
  exact decide_eq_true hle

end Gateway

namespace AttachCalls

variable {r r' : AttachCalls} {config : Config}

/-- A call that waits has a permit, so there are fewer clients than connections may come. -/
theorem Inv.length_clients_lt (h : r.Inv config) (hsub : r.gateway.relay.clients ⊆ r.gateway.loops) {i : Nat}
    (hi : i ∈ r.waiting) : r.gateway.relay.clients.length < config.server.maxConnections.toNat := by
  have hle : r.gateway.relay.clients.length ≤ _ := (h.state.clientIds.of_map.subperm hsub).length_le
  have hpermits : r.gateway.permits + r.waiting.length + r.gateway.loops.length = _ := h.balanced.permits
  have hwaits := List.length_pos_of_mem hi
  omega

/-- A call goes on as soon as its client can have an id. -/
theorem Inv.exists_wrapped (h : r.Inv config) {i : Nat} (hi : i ∈ r.waiting) (hid : r.gateway.hasId = true)
    (fresh : SessionId) (now : Nat) : ∃ r', r.step? (.wrapped i fresh now) = some r' := by
  have hw : r.state.wrapping ≠ 0 := by
    rw [h.wrapping]
    exact Nat.ne_of_gt (List.length_pos_of_mem hi)
  rw [step?, if_pos ⟨hi, hid⟩, GatewayState.step?, if_neg hw]
  exact ⟨_, rfl⟩

/-- A client who is let in gets a place of its own behind all others. -/
theorem clients_of_wrapped (hn : (TokenFormat.inTurn? r.gateway.relay.token).isSome) {i now : Nat}
    {fresh : SessionId} (hs : r.step? (.wrapped i fresh now) = some r') :
    ∃ h : Handle, h.id ∉ r.gateway.relay.clients.map (·.id) ∧
      r'.gateway.relay.clients = r.gateway.relay.clients ++ [h] ∧ r'.answers = r.answers ++ [(i, .ok h.id)] := by
  cases turn_of_step? hs with
  | enters i fresh now hi hid =>
    obtain ⟨ho, -, hclients⟩ := Gateway.enterClient_opens r.gateway fresh now
    have hfree : (r.gateway.enterClient fresh now).2.id ∉ r.gateway.relay.clients.map (·.id) := by
      rw [ho.handle]
      exact Gateway.allocate_free hid fun hnone => absurd (hnone ▸ hn) (by decide)
    refine ⟨_, hfree, ?_, rfl⟩
    -- nobody is taken out to make room, since nobody has the id
    have hall : r.gateway.relay.clients.filter (·.id != (r.gateway.enterClient fresh now).2.id) =
        r.gateway.relay.clients :=
      List.filter_eq_self.mpr fun b hb => bne_iff_ne.mpr fun he => hfree (he ▸ List.mem_map_of_mem hb)
    change (r.gateway.enterClient fresh now).1.relay.clients = _
    rw [hclients, Relay.addClient, hall]

/-- How ids of a narrow token keep clients apart. Whatever the count and whoever is connected, fewer than there
are ids: the search, which has no end of its own, ends after two candidates more than there are clients at the
latest, it can come to nothing else than `allocate`, and the id is not nil, fits the token and is no client's. In a
gateway, whatever happens and in which order, no two clients have one id; as long as there has been no stop, these
are the clients that are read from; a call that waits goes on, if the limit of connections does not exceed the
ids; and the client that it lets in takes nobody's place. The search for an id and the entry under it are one step
of the gateway, so two threads that are between the two at once are not covered. -/
theorem ids_keep_apart (f : TokenFormat) (hf : f = .u32 ∨ f = .u64) :
    (∀ (g : Gateway) (fresh : SessionId), g.relay.token = some f → g.relay.clients.length < f.maxToken →
      (∃ n ≤ g.relay.clients.length + 2, Gateway.Searches f.maxToken g n (g.allocate fresh)) ∧
      (∀ n x, Gateway.Searches f.maxToken g n x → x = g.allocate fresh) ∧
      (g.allocate fresh).2 ≠ .nil ∧ f.fits (g.allocate fresh).2 = true ∧
      (g.allocate fresh).2 ∉ g.relay.clients.map (·.id)) ∧
    ∀ (config : Config) (steps : List AttachStep) (r : AttachCalls), config.codec.token = some f →
      (create config).run? steps = some r →
      (r.gateway.relay.clients.map (·.id)).Nodup ∧
      (.meanwhile .stop ∉ steps → r.gateway.relay.clients = r.gateway.loops) ∧
      (config.server.maxConnections.toNat ≤ f.maxToken → ∀ i ∈ r.waiting, ∀ fresh now,
        ∃ r', r.step? (.wrapped i fresh now) = some r') ∧
      ∀ i fresh now r', r.step? (.wrapped i fresh now) = some r' → ∃ h : Handle,
        h.id ∉ r.gateway.relay.clients.map (·.id) ∧
        r'.gateway.relay.clients = r.gateway.relay.clients ++ [h] ∧
        r'.answers = r.answers ++ [(i, .ok h.id)] := by
  have hturns := TokenFormat.inTurn?_of_narrow hf
  refine ⟨fun g fresh hg hl => ?_, fun config steps r hconfig hr => ?_⟩
  · obtain ⟨n, hn, hx⟩ := Gateway.searches_allocate (hg ▸ hturns) hl fresh
    obtain ⟨count, hcount⟩ := hx.numbered
    refine ⟨⟨n, hn, hx⟩, fun n' x' hx' => ?_, ?_, ?_, Relay.client?_eq_none_iff.mp hx.free⟩
    · rw [← hx'.nextFree_eq (Nat.le_max_left n' n), hx.nextFree_eq (Nat.le_max_right n' n)]
    · rw [hcount]
      exact Gateway.numbered_ne_nil f count
    · rw [hcount]
      exact Gateway.fits_numbered f count
  · have h := (inv_create config).run hr
    have htoken : TokenFormat.inTurn? r.gateway.relay.token = some f.maxToken := by
      rw [h.token, hconfig, hturns]
    have hdrawn : TokenFormat.inTurn? (create config).gateway.relay.token ≠ none := by
      rw [(inv_create config).token, hconfig, hturns]
      exact nofun
    refine ⟨h.state.clientIds, fun hstop => ?_, fun hlimit i hi fresh now => ?_,
      fun i fresh now r' hs => clients_of_wrapped (htoken ▸ rfl) hs⟩
    · have hseated : (create config).ReadersListed steps := ⟨rfl, fun hnone => absurd hnone hdrawn⟩
      exact ((inv_create config).readersListed_run hseated hr hstop).table
    · have hlt := h.length_clients_lt (table_subset_run (inv_create config) (List.nil_subset _) hr) hi
      refine h.exists_wrapped hi ?_ fresh now
      rw [Gateway.hasId, htoken]
      exact decide_eq_true (Nat.lt_of_lt_of_le hlt hlimit)

/-- A gateway whose count is about to begin anew, with one client. -/
def beforeWrap : Gateway :=
  { Gateway.create {} with
    relay := { Relay.create (some .u32) with clients := [⟨.ofNat 1, ⟨0⟩⟩] }
    counter := 18446744073709551615 }

/-- Where the count begins anew the id 1 comes up twice, and a client has it: of three candidates the last one is
free. And of two calls that wait, both let their clients in. -/
theorem ids_keep_apart_where_count_wraps :
    (∃ n ≤ 3, Gateway.Searches TokenFormat.u32.maxToken beforeWrap n (beforeWrap.allocate .nil)) ∧
    beforeWrap.allocate .nil = ({ beforeWrap with counter := 2 }, .ofNat 2) ∧
    ∃ r r' h, (create { codec := { token := some .u32 } }).run? [.call, .call, .wrapped 1 .nil 0] = some r ∧
      r.gateway.relay.clients = [⟨.ofNat 1, ⟨0⟩⟩] ∧ r.step? (.wrapped 0 .nil 0) = some r' ∧
      r'.gateway.relay.clients = [⟨.ofNat 1, ⟨0⟩⟩, h] := by
  obtain ⟨hsearch, hreach⟩ := ids_keep_apart .u32 (.inl rfl)
  refine ⟨(hsearch beforeWrap .nil rfl (by decide)).1, rfl, ?_⟩
  obtain ⟨-, -, hgoes, hplace⟩ := hreach { codec := { token := some .u32 } } [.call, .call, .wrapped 1 .nil 0] _ rfl rfl
  obtain ⟨r', hr'⟩ := hgoes (by decide) 0 (List.mem_singleton_self 0) .nil 0
  obtain ⟨h, -, hclients, -⟩ := hplace 0 .nil 0 r' hr'
  exact ⟨_, r', h, rfl, rfl, hr', hclients⟩

end AttachCalls

end FrameGateway
