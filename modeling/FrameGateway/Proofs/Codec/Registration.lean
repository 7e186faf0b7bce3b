import FrameGateway.Dispatcher
import FrameGateway.Proofs.Codec.Growth
import FrameGateway.Proofs.Frame.Layout
/-! What registrations do. The tables by type and by id hold the same entries (`TypeTable.Matched`), and a
codec reads nothing under an id but the type that the table has there (`Codec.Bound`); so whatever is
read without knowing its type is read as it would be with knowing it (`Codec.decodeAny_eq_ok_iff`), and
goes to a handler of that type (`Dispatcher.Wired.downcast`). -/

namespace FrameGateway

theorem lookup_cons_ite {α β : Type} [DecidableEq α] (k a : α) (b : β) (l : List (α × β)) :
    ((k, b) :: l).lookup a = if a = k then some b else l.lookup a := by
  rw [List.lookup_cons]
  by_cases h : a = k
  · rw [if_pos h, beq_iff_eq.mpr h]
  · rw [if_neg h, beq_eq_false_iff_ne.mpr h]

variable {τ : Type} [MessageFamily τ]

namespace TypeTable

variable [DecidableEq τ] {m m' : TypeTable τ} {t u : τ} {id : PacketId} {e : TypeEntry τ}

/-- A type has one entry, which both its type and its id lead to. -/
structure Matched (m : TypeTable τ) : Prop where
  typed : ∀ t e, m.byType.lookup t = some e → e = ⟨e.id, MessageFamily.name t, t⟩
  inverse : ∀ id e, m.byId.lookup id = some e ↔ e.id = id ∧ m.byType.lookup e.type = some e

theorem matched_empty : (empty : TypeTable τ).Matched :=
  ⟨fun _ _ h => by simp [empty] at h, fun _ _ => by simp [empty]⟩

theorem Matched.registerWithId (hm : m.Matched) (h : m.registerWithId t id = .ok m') : m'.Matched := by
  obtain ⟨hnew, hfree, rfl⟩ := registerWithId_eq_ok_iff.mp h
  refine ⟨fun u e he => ?_, fun i e => ?_⟩
  · rw [lookup_cons_ite] at he
    split at he
    next hu => cases he; rw [hu]
    next hu => exact hm.typed u e he
  · rw [lookup_cons_ite, lookup_cons_ite]
    by_cases hi : i = id
    · subst hi
      rw [if_pos rfl]
      constructor
      · intro he
        cases he
        exact ⟨rfl, if_pos rfl⟩
      · rintro ⟨hid, he⟩
        split at he
        next => exact he
        next =>
          rw [(hm.inverse i e).mpr ⟨hid, he⟩] at hfree
          cases hfree
    · rw [if_neg hi, hm.inverse]
      refine and_congr_right fun hid => ?_
      by_cases hu : e.type = t
      · rw [hu, if_pos rfl, hnew]
        refine iff_of_false nofun fun he => hi ?_
        rw [← hid, ← Option.some.inj he]
      · rw [if_neg hu]

omit [MessageFamily τ] in
theorem id?_eq_some_iff : m.id? t = some id ↔ ∃ e, m.byType.lookup t = some e ∧ e.id = id := by
  rw [id?, Option.map_eq_some_iff]

omit [DecidableEq τ] [MessageFamily τ] in
theorem getType_eq_ok_iff_lookup : m.getType id = .ok e ↔ m.byId.lookup id = some e := by
  rw [getType]
  cases m.byId.lookup id <;> simp

/-- What stands under an id is the type that has this id. -/
theorem Matched.getType_eq_ok_iff (hm : m.Matched) :
    m.getType id = .ok e ↔ e = ⟨id, MessageFamily.name e.type, e.type⟩ ∧ m.id? e.type = some id := by
  rw [getType_eq_ok_iff_lookup, hm.inverse, id?_eq_some_iff]
  constructor
  · rintro ⟨rfl, he⟩
    exact ⟨hm.typed e.type e he, e, he, rfl⟩
  · rintro ⟨heq, e', he', hid⟩
    have he : e' = e := by rw [hm.typed e.type e' he', hid, ← heq]
    subst he
    exact ⟨hid, he'⟩

theorem Matched.getType_of_id? (hm : m.Matched) (h : m.id? t = some id) :
    m.getType id = .ok ⟨id, MessageFamily.name t, t⟩ :=
  hm.getType_eq_ok_iff.mpr ⟨rfl, h⟩

/-- Two types never share an id. -/
theorem Matched.eq_of_id? (hm : m.Matched) (ht : m.id? t = some id) (hu : m.id? u = some id) : t = u := by
  have h := (hm.getType_of_id? ht).symm.trans (hm.getType_of_id? hu)
  rw [Except.ok.injEq, TypeEntry.mk.injEq] at h
  exact h.2.2

theorem id?_registerWithId (h : m.registerWithId t id = .ok m') (u : τ) :
    m'.id? u = if u = t then some id else m.id? u := by
  obtain ⟨-, -, rfl⟩ := registerWithId_eq_ok_iff.mp h
  rw [id?, lookup_cons_ite]
  split <;> rfl

theorem id?_of_registered (h : m.registerWithId t id = .ok m') : m'.id? t = some id := by
  rw [id?_registerWithId h, if_pos rfl]

end TypeTable

namespace Codec

variable {c c' : Codec τ} {m m' : TypeTable τ} {t : τ} {id : PacketId}

/-- The same codec with more types, none of the old ones lost. -/
structure Grows (c c' : Codec τ) : Prop where
  body : c'.body = c.body
  token : c'.token = c.token
  overrides : c'.overrides = c.overrides
  decoders : ∀ id t, c.decoders.lookup id = some t → c'.decoders.lookup id = some t

theorem Grows.refl (c : Codec τ) : c.Grows c := ⟨rfl, rfl, rfl, fun _ _ h => h⟩

theorem Grows.trans {c'' : Codec τ} (h : c.Grows c') (h' : c'.Grows c'') : c.Grows c'' :=
  ⟨h'.body.trans h.body, h'.token.trans h.token, h'.overrides.trans h.overrides,
    fun id t hd => h'.decoders id t (h.decoders id t hd)⟩

theorem hasDecoder_eq_false_iff : c.hasDecoder id = false ↔ c.decoders.lookup id = none := by
  rw [hasDecoder, Option.isSome_eq_false_iff, Option.isNone_iff_eq_none]

variable [DecidableEq τ]

/-- Frames under this id are read as that type, which has the id. -/
def Readable (c : Codec τ) (m : TypeTable τ) (t : τ) (id : PacketId) : Prop :=
  m.id? t = some id ∧ c.decoders.lookup id = some t

/-- What frames are read as under an id is the type that has it. -/
def Bound (c : Codec τ) (m : TypeTable τ) : Prop := ∀ id t, c.decoders.lookup id = some t → m.id? t = some id

theorem Bound.of_grows (hc : c.Bound m) (h : m.Grows m') : c.Bound m' :=
  fun id t hd => h.id?_eq_some (hc id t hd)

theorem Readable.of_grows (h : c.Readable m t id) (hc : c.Grows c') (hm : m.Grows m') : c'.Readable m' t id :=
  ⟨hm.id?_eq_some h.1, hc.decoders id t h.2⟩

/-- A type that has an id is readable under it as soon as anything is. -/
theorem Bound.readable (hc : c.Bound m) (hm : m.Matched) (ht : m.id? t = some id)
    (hd : c.hasDecoder id = true) : c.Readable m t id := by
  obtain ⟨u, hu⟩ := Option.isSome_iff_exists.mp hd
  exact ⟨ht, hm.eq_of_id? (hc id u hu) ht ▸ hu⟩

inductive Attaches (c : Codec τ) (m : TypeTable τ) (t : τ) (requested : Option PacketId) :
    Attached τ → Prop
  | elsewhere (existing r : PacketId) (h : m.id? t = some existing) (hr : requested = some r)
      (hne : r ≠ existing) :
    Attaches c m t requested
      ((c, m), .error (.idCollision r (MessageFamily.name t) (MessageFamily.name t)))
  | twice (id : PacketId) (h : c.Readable m t id) :
    Attaches c m t requested ((c, m), .error (.duplicateRegistration (MessageFamily.name t)))
  | taken (id : PacketId) (holder : TypeEntry τ) (h : m.id? t = none)
      (hid : m.byId.lookup id = some holder) :
    Attaches c m t requested ((c, m), .error (.idCollision id (MessageFamily.name t) holder.name))
  | known (id : PacketId) (h : m.id? t = some id) (hfree : c.decoders.lookup id = none) :
    Attaches c m t requested (({ c with decoders := (id, t) :: c.decoders }, m), .ok id)
  | entered (id : PacketId) (m' : TypeTable τ) (h : m.registerWithId t id = .ok m')
      (hfree : c.decoders.lookup id = none) :
    Attaches c m t requested (({ c with decoders := (id, t) :: c.decoders }, m'), .ok id)

theorem attaches (hc : c.Bound m) (hm : m.Matched) (t : τ) (requested : Option PacketId) :
    c.Attaches m t requested (c.attach m t requested) := by
  rw [attach]
  cases ht : m.id? t with
  | some existing =>
    dsimp only
    cases hr : requested.filter (· ≠ existing) with
    | some r =>
      obtain ⟨hr, hne⟩ := Option.filter_eq_some_iff.mp hr
      exact .elsewhere existing r ht hr (by simpa using hne)
    | none =>
      dsimp only
      cases hd : c.hasDecoder existing with
      | true =>
        rw [if_pos rfl]
        exact .twice existing (hc.readable hm ht hd)
      | false =>
        rw [if_neg Bool.false_ne_true]
        exact .known existing ht (hasDecoder_eq_false_iff.mp hd)
  | none =>
    dsimp only
    generalize requested.getD (TypeTable.derivedId t) = id
    have hi := m.inserts t id
    generalize m.insert t id = out at hi ⊢
    cases hi with
    | twice i h =>
      rw [ht] at h
      cases h
    | taken holder _ hid => exact .taken id holder ht hid
    | entered m' _ hfree hm' =>
      have hd : c.decoders.lookup id = none := by
        -- a decoder under the id would have its type in the table there
        rw [Option.eq_none_iff_forall_ne_some]
        intro u hu
        obtain ⟨e, he, hid⟩ := TypeTable.id?_eq_some_iff.mp (hc id u hu)
        have htype : e.type = u := by rw [hm.typed u e he]
        rw [(hm.inverse id e).mpr ⟨hid, htype ▸ he⟩] at hfree
        cases hfree
      dsimp only
      rw [hasDecoder_eq_false_iff.mpr hd, if_neg Bool.false_ne_true]
      exact .entered id m' hm' hd

/-- What is left of a codec and its table after a registration, and what its outcome says. -/
structure Settles (c : Codec τ) (m : TypeTable τ) (t : τ) (out : Attached τ) : Prop where
  matched : out.1.2.Matched
  bound : out.1.1.Bound out.1.2
  table : m.Grows out.1.2
  codec : c.Grows out.1.1
  readable : ∀ id, out.2 = .ok id → out.1.1.Readable out.1.2 t id
  refused : ∀ e, out.2 = .error e → out.1 = (c, m)

theorem settles_refused (hc : c.Bound m) (hm : m.Matched) (t : τ) (e : Fault) :
    c.Settles m t ((c, m), .error e) :=
  ⟨hm, hc, .refl, .refl c, nofun, fun _ _ => rfl⟩

theorem settles_added (hc : c.Bound m) (hm : m'.Matched) (hg : m.Grows m') (ht : m'.id? t = some id)
    (hfree : c.decoders.lookup id = none) :
    c.Settles m t (({ c with decoders := (id, t) :: c.decoders }, m'), .ok id) := by
  refine ⟨hm, fun i u hu => ?_, hg, ⟨rfl, rfl, rfl, fun i u hu => ?_⟩, ?_, nofun⟩
  · rw [lookup_cons_ite] at hu
    split at hu
    next hi => cases hu; rw [hi, ht]
    next => exact hc.of_grows hg i u hu
  · rw [lookup_cons_ite, if_neg]
    · exact hu
    · rintro rfl
      rw [hfree] at hu
      cases hu
  · rintro _ ⟨⟩
    exact ⟨ht, by rw [lookup_cons_ite, if_pos rfl]⟩

theorem settles_attach (hc : c.Bound m) (hm : m.Matched) (t : τ) (requested : Option PacketId) :
    c.Settles m t (c.attach m t requested) := by
  have h := attaches hc hm t requested
  generalize c.attach m t requested = out at h
  cases h with
  | elsewhere existing r h hr hne => exact settles_refused hc hm t _
  | twice id h => exact settles_refused hc hm t _
  | taken id holder h hid => exact settles_refused hc hm t _
  | known id h hfree => exact settles_added hc hm .refl h hfree
  | entered id m' h hfree =>
    exact settles_added hc (hm.registerWithId h) (.single ⟨t, id, h⟩) (TypeTable.id?_of_registered h) hfree

/-- A type that is not readable yet is registered, and with one that is nothing happens. -/
theorem ensure_cases (hc : c.Bound m) (hm : m.Matched) (t : τ) :
    (∃ id, c.Readable m t id ∧ c.ensure m t = ((c, m), .ok id)) ∨
      (∀ id, ¬c.Readable m t id) ∧ c.ensure m t = c.register m t := by
  rw [ensure]
  cases hf : (m.id? t).filter c.hasDecoder with
  | some id =>
    obtain ⟨ht, hd⟩ := Option.filter_eq_some_iff.mp hf
    exact .inl ⟨id, hc.readable hm ht hd, rfl⟩
  | none =>
    have hnot : ∀ id, ¬c.Readable m t id := by
      rintro id ⟨ht, hd⟩
      rw [ht, Option.filter_some, if_pos (by rw [hasDecoder, hd]; rfl)] at hf
      cases hf
    refine .inr ⟨hnot, ?_⟩
    have h := attaches hc hm t none
    rw [register]
    generalize c.attach m t none = out at h
    cases h with
    | elsewhere existing r h hr hne => cases hr
    | twice id h => exact absurd h (hnot id)
    | taken id holder h hid => rfl
    | known id h hfree => rfl
    | entered id m' h hfree => rfl

theorem settles_ensure (hc : c.Bound m) (hm : m.Matched) (t : τ) : c.Settles m t (c.ensure m t) := by
  rcases ensure_cases hc hm t with ⟨id, h, he⟩ | ⟨-, he⟩
  · rw [he]
    exact ⟨hm, hc, .refl, .refl c, fun i hi => by cases hi; exact h, nofun⟩
  · rw [he]
    exact settles_attach hc hm t none

theorem decode_eq_ok_iff {frame : Bytes} {q : Packet τ t} : c.decode m t frame = .ok q ↔
    ∃ body, c.decodeHeader frame = .ok ⟨q.header, q.token, body⟩ ∧ m.id? t = some q.header.packetId ∧
      c.decodeBody t body = .ok q.message := by
  rw [decode]
  constructor
  · intro h
    obtain ⟨⟨header, token, body⟩, hview, h⟩ := bind_eq_ok_iff.mp h
    obtain ⟨expected, hid, h⟩ := bind_eq_ok_iff.mp h
    dsimp only at h
    split at h
    · cases h
    next heq =>
      obtain ⟨msg, hmsg, h⟩ := bind_eq_ok_iff.mp h
      cases h
      rw [not_not] at heq
      exact ⟨body, hview, heq ▸ TypeTable.getId_eq_ok_iff.mp hid, hmsg⟩
  · rintro ⟨body, hview, hid, hmsg⟩
    simp only [hview, TypeTable.getId_eq_ok_iff.mpr hid, hmsg, bind, Except.bind]
    rw [if_neg (not_not_intro rfl)]
    rfl

/-- What is read without knowing its type is what is read with knowing it, wherever the codec has
anything under the id. -/
theorem decodeAny_eq_ok_iff (hc : c.Bound m) (hm : m.Matched) {frame : Bytes} {p : DecodedPacket τ} :
    c.decodeAny m frame = .ok p ↔ p.typeName = MessageFamily.name p.type ∧
      c.hasDecoder p.header.packetId = true ∧
      c.decode m p.type frame = .ok ⟨p.header, p.token, p.message⟩ := by
  rw [decode_eq_ok_iff, decodeAny]
  constructor
  · intro h
    obtain ⟨⟨header, token, body⟩, hview, h⟩ := bind_eq_ok_iff.mp h
    dsimp only at h
    cases hd : c.decoders.lookup header.packetId with
    | none => rw [hd] at h; cases h
    | some t =>
      rw [hd] at h
      have ht := hc header.packetId t hd
      obtain ⟨e, he, h⟩ := bind_eq_ok_iff.mp h
      rw [hm.getType_of_id? ht] at he
      cases he
      obtain ⟨msg, hmsg, h⟩ := bind_eq_ok_iff.mp h
      cases h
      exact ⟨rfl, by rw [hasDecoder, hd]; rfl, body, hview, ht, hmsg⟩
  · rintro ⟨hname, hd, body, hview, hid, hmsg⟩
    obtain ⟨header, token, typeName, t, message⟩ := p
    dsimp only at hname hd hview hid hmsg
    subst hname
    simp only [hview, (hc.readable hm hid hd).2, hm.getType_of_id? hid, hmsg, bind, Except.bind]
    rfl

end Codec

namespace DecodedPacket

variable [DecidableEq τ]

theorem downcast_type (p : DecodedPacket τ) : p.downcast p.type = .ok ⟨p.header, p.token, p.message⟩ :=
  dif_pos rfl

theorem downcast_of_ne {p : DecodedPacket τ} {t : τ} (h : t ≠ p.type) : p.downcast t = .error p :=
  dif_neg h.symm

end DecodedPacket

namespace Dispatcher

variable [DecidableEq τ] {σ : Type} {d : Dispatcher τ σ} {m : TypeTable τ}

/-- Every handler stands under the id of its request type, and the dispatcher's codec reads its request
type and its reply type. -/
structure Wired (d : Dispatcher τ σ) (m : TypeTable τ) : Prop where
  matched : m.Matched
  bound : d.codec.Bound m
  request : ∀ id h, d.handlers.lookup id = some h → d.codec.Readable m h.request id
  reply : ∀ id h, d.handlers.lookup id = some h → ∃ i, d.codec.Readable m h.reply i

/-- The packet that a handler gets is of its request type. -/
theorem Wired.downcast (hw : d.Wired m) {frame : Bytes} {p : DecodedPacket τ} {h : Handler τ σ}
    (hp : d.codec.decodeAny m frame = .ok p) (hh : d.handlers.lookup p.header.packetId = some h) :
    ∃ q, p.downcast h.request = .ok q ∧ d.codec.decode m h.request frame = .ok q := by
  obtain ⟨-, -, hdec⟩ := (Codec.decodeAny_eq_ok_iff hw.bound hw.matched).mp hp
  obtain ⟨body, -, hid, -⟩ := Codec.decode_eq_ok_iff.mp hdec
  rw [← hw.matched.eq_of_id? hid (hw.request _ h hh).1]
  exact ⟨_, p.downcast_type, hdec⟩

theorem dispatch_of_downcast {frame : Bytes} {p : DecodedPacket τ} {h : Handler τ σ}
    {q : Packet τ h.request} (hp : d.codec.decodeAny m frame = .ok p)
    (hh : d.handlers.lookup p.header.packetId = some h) (hq : p.downcast h.request = .ok q) (s : σ) :
    d.dispatch m frame s =
      ((h.run q.message s).1, (h.run q.message s).2.bind fun msg => d.encodeReply m h.reply msg q.token) := by
  rw [dispatch, hp]
  dsimp only
  rw [hh]
  dsimp only
  rw [hq]

/-- All that a registration of a handler can come to: its request type or its reply type is refused, or it
stands in front of the handlers so far. -/
theorem register_cases (hb : d.codec.Bound m) (hm : m.Matched) (h : Handler τ σ) :
    (∃ e, d.codec.ensure m h.request = ((d.codec, m), .error e) ∧ d.register m h = ((d, m), .error e)) ∨
    ∃ c m' id, d.codec.ensure m h.request = ((c, m'), .ok id) ∧
      ((∃ e, c.ensure m' h.reply = ((c, m'), .error e) ∧
          d.register m h = (({ d with codec := c }, m'), .error e)) ∨
        ∃ c' m'' i, c.ensure m' h.reply = ((c', m''), .ok i) ∧
          d.register m h = ((⟨c', (id, h) :: d.handlers⟩, m''), .ok id)) := by
  have hs := Codec.settles_ensure hb hm h.request
  rw [register]
  rcases he : d.codec.ensure m h.request with ⟨⟨c, m'⟩, e | id⟩
  · rw [he] at hs
    cases hs.refused e rfl
    exact .inl ⟨e, rfl, rfl⟩
  · rw [he] at hs
    have hs' := Codec.settles_ensure hs.bound hs.matched h.reply
    refine .inr ⟨c, m', id, rfl, ?_⟩
    dsimp only at hs' ⊢
    rcases he' : c.ensure m' h.reply with ⟨⟨c', m''⟩, e | i⟩
    · rw [he'] at hs'
      cases hs'.refused e rfl
      exact .inl ⟨e, rfl, rfl⟩
    · exact .inr ⟨c', m'', i, rfl, rfl⟩

/-- A reply type that shares its name with the request type finds its id taken. -/
theorem register_namesake (hd : d.codec.decoders = []) {h : Handler τ σ} (hne : h.reply ≠ h.request)
    (hname : MessageFamily.name h.reply = MessageFamily.name h.request) :
    ∃ e, d.register .empty h = (({ d with
      codec := { d.codec with decoders := [(TypeTable.derivedId h.request, h.request)] } },
      ⟨[(h.request, e)], [(TypeTable.derivedId h.request, e)]⟩),
      .error (.idCollision (TypeTable.derivedId h.request) (MessageFamily.name h.request) e.name)) := by
  have hid : TypeTable.derivedId h.reply = TypeTable.derivedId h.request := by
    rw [TypeTable.derivedId, hname, TypeTable.derivedId]
  refine ⟨⟨TypeTable.derivedId h.request, MessageFamily.name h.request, h.request⟩, ?_⟩
  simp [register, Codec.ensure, Codec.register, Codec.attach, Codec.hasDecoder, hd, TypeTable.id?,
    TypeTable.empty, TypeTable.insert, lookup_cons_ite, hne, hid, hname]

end Dispatcher

end FrameGateway
