import FrameGateway.Proofs.Codec.Registration
import FrameGateway.Record
import Mathlib.Logic.Function.Basic
/-! Codecs that share a table of packet ids, and dispatchers before them, under registrations in any order.
Whatever is registered with whom and whatever of it fails, what a codec makes of a frame does not depend
on whether the type is known beforehand (`Assembly.reads_alike`). A registration that fails changes
nothing, unless it is one of a handler and fails for its reply type: then the request type is there
(`Assembly.request_outlasts_failure`). -/

namespace FrameGateway

structure Assembly (ι κ τ σ : Type) [MessageFamily τ] where
  table : TypeTable τ
  codecs : ι → Codec τ
  /-- the codec that a dispatcher stands before -/
  place : κ → ι
  handlers : κ → List (PacketId × Handler τ σ)

inductive Registration (ι κ τ σ : Type) [MessageFamily τ] where
  /-- a type with the table alone -/
  | type (t : τ) (id : PacketId)
  /-- a type with a codec, under a certain id or under any -/
  | decoder (i : ι) (t : τ) (requested : Option PacketId)
  | handler (k : κ) (h : Handler τ σ)

namespace Assembly

variable {ι κ τ σ : Type} [MessageFamily τ]

def dispatcher (a : Assembly ι κ τ σ) (k : κ) : Dispatcher τ σ := ⟨a.codecs (a.place k), a.handlers k⟩

def Fresh (a : Assembly ι κ τ σ) : Prop :=
  a.table = ⟨[], []⟩ ∧ (∀ i, (a.codecs i).decoders = []) ∧ ∀ k, a.handlers k = []

variable [DecidableEq ι] [DecidableEq κ] [DecidableEq τ]

def step (a : Assembly ι κ τ σ) : Registration ι κ τ σ → Assembly ι κ τ σ × Except Fault PacketId
  | .type t id =>
    let (m, r) := a.table.insert t id
    ({ a with table := m }, r)
  | .decoder i t requested =>
    let ((c, m), r) := (a.codecs i).attach a.table t requested
    ({ a with table := m, codecs := Function.update a.codecs i c }, r)
  | .handler k h =>
    let ((d, m), r) := (a.dispatcher k).register a.table h
    ({ a with
        table := m
        codecs := Function.update a.codecs (a.place k) d.codec
        handlers := Function.update a.handlers k d.handlers }, r)

def run (a : Assembly ι κ τ σ) (calls : List (Registration ι κ τ σ)) : Assembly ι κ τ σ :=
  calls.foldl (fun a call => (a.step call).1) a

def Reached (a : Assembly ι κ τ σ) : Prop := ∃ start calls, Fresh start ∧ a = start.run calls

/-- The table is sound, no codec contradicts it, and every dispatcher is wired up. -/
structure Inv (a : Assembly ι κ τ σ) : Prop where
  matched : a.table.Matched
  bound : ∀ i, (a.codecs i).Bound a.table
  wired : ∀ k, (a.dispatcher k).Wired a.table

variable {a : Assembly ι κ τ σ} {m : TypeTable τ} {k : κ} {i : ι}

omit [DecidableEq ι] [DecidableEq κ] in
theorem inv_fresh (h : a.Fresh) : a.Inv := by
  obtain ⟨htable, hcodecs, hhandlers⟩ := h
  have hm : a.table.Matched := by
    rw [htable]
    exact TypeTable.matched_empty
  have hc : ∀ i, (a.codecs i).Bound a.table := fun i id t hd => by
    rw [hcodecs i] at hd
    cases hd
  have hh : ∀ k id h, (a.handlers k).lookup id ≠ some h := fun k id h hl => by
    rw [hhandlers k] at hl
    cases hl
  exact ⟨hm, hc, fun k => ⟨hm, hc _, fun id h hl => absurd hl (hh k id h),
    fun id h hl => absurd hl (hh k id h)⟩⟩

omit [DecidableEq κ] in
/-- The table grows, and one codec with it. -/
theorem Inv.grow (h : a.Inv) {c : Codec τ} (hm : m.Matched) (hg : a.table.Grows m) (hc : c.Bound m)
    (hci : (a.codecs i).Grows c) :
    Inv { a with table := m, codecs := Function.update a.codecs i c } := by
  have hgrows : ∀ j, (a.codecs j).Grows (Function.update a.codecs i c j) := by
    intro j
    by_cases hj : j = i
    · subst hj
      rw [Function.update_self]
      exact hci
    · rw [Function.update_of_ne hj]
      exact .refl _
  have hbound : ∀ j, (Function.update a.codecs i c j).Bound m := by
    intro j
    by_cases hj : j = i
    · subst hj
      rw [Function.update_self]
      exact hc
    · rw [Function.update_of_ne hj]
      exact (h.bound j).of_grows hg
  refine ⟨hm, hbound, fun k => ⟨hm, hbound _, fun id hd hl => ?_, fun id hd hl => ?_⟩⟩
  · exact ((h.wired k).request id hd hl).of_grows (hgrows _) hg
  · obtain ⟨j, hj⟩ := (h.wired k).reply id hd hl
    exact ⟨j, hj.of_grows (hgrows _) hg⟩

omit [DecidableEq ι] in
/-- One dispatcher gets other handlers. -/
theorem Inv.rewire (h : a.Inv) {hs : List (PacketId × Handler τ σ)}
    (hw : Dispatcher.Wired ⟨a.codecs (a.place k), hs⟩ a.table) :
    Inv { a with handlers := Function.update a.handlers k hs } := by
  refine ⟨h.matched, h.bound, fun j => ?_⟩
  rw [dispatcher]
  by_cases hj : j = k
  · subst hj
    dsimp only
    rw [Function.update_self]
    exact hw
  · dsimp only
    rw [Function.update_of_ne hj]
    exact h.wired j

/-- A handler comes to a dispatcher whose codec reads its types. -/
theorem Inv.enter (h : a.Inv) {c : Codec τ} {hd : Handler τ σ} {id : PacketId} (hm : m.Matched)
    (hg : a.table.Grows m) (hc : c.Bound m) (hcodec : (a.codecs (a.place k)).Grows c)
    (hrequest : c.Readable m hd.request id) (hreply : ∃ i, c.Readable m hd.reply i) :
    Inv { a with
      table := m
      codecs := Function.update a.codecs (a.place k) c
      handlers := Function.update a.handlers k ((id, hd) :: a.handlers k) } := by
  have hgrown := h.grow hm hg hc hcodec
  have hself : Function.update a.codecs (a.place k) c (a.place k) = c := Function.update_self ..
  have hold := hgrown.wired k
  rw [dispatcher] at hold
  dsimp only at hold
  rw [hself] at hold
  refine hgrown.rewire ?_
  dsimp only
  rw [hself]
  refine ⟨hm, hc, fun i h' hl => ?_, fun i h' hl => ?_⟩
  · rw [lookup_cons_ite] at hl
    split at hl
    next hi => cases hl; rw [hi]; exact hrequest
    next => exact hold.request i h' hl
  · rw [lookup_cons_ite] at hl
    split at hl
    next => cases hl; exact hreply
    next => exact hold.reply i h' hl

theorem step_handler (a : Assembly ι κ τ σ) (k : κ) (h : Handler τ σ) : a.step (.handler k h) =
    ({ a with
        table := ((a.dispatcher k).register a.table h).1.2
        codecs := Function.update a.codecs (a.place k) ((a.dispatcher k).register a.table h).1.1.codec
        handlers := Function.update a.handlers k ((a.dispatcher k).register a.table h).1.1.handlers },
      ((a.dispatcher k).register a.table h).2) := rfl

theorem dispatcher_step_handler (a : Assembly ι κ τ σ) (k : κ) (h : Handler τ σ) :
    (a.step (.handler k h)).1.dispatcher k = ((a.dispatcher k).register a.table h).1.1 := by
  rw [step_handler, dispatcher]
  dsimp only
  rw [Function.update_self, Function.update_self]

theorem step_decoder (a : Assembly ι κ τ σ) (i : ι) (t : τ) (requested : Option PacketId) :
    a.step (.decoder i t requested) =
      ({ a with
          table := ((a.codecs i).attach a.table t requested).1.2
          codecs := Function.update a.codecs i ((a.codecs i).attach a.table t requested).1.1 },
        ((a.codecs i).attach a.table t requested).2) := rfl

/-- A dispatcher's registration fails at once, or leaves what that of its request type leaves, or is complete. -/
theorem Inv.step_handler_cases (h : a.Inv) (k : κ) (hd : Handler τ σ) :
    (∃ e, a.step (.handler k hd) = (a, .error e)) ∨
    (∃ e b id, a.step (.decoder (a.place k) hd.request none) = (b, .ok id) ∧
      (b.codecs (a.place k)).ensure b.table hd.reply = ((b.codecs (a.place k), b.table), .error e) ∧
      a.step (.handler k hd) = (b, .error e)) ∨
    ∃ c m id, a.step (.handler k hd) =
        ({ a with
            table := m
            codecs := Function.update a.codecs (a.place k) c
            handlers := Function.update a.handlers k ((id, hd) :: a.handlers k) }, .ok id) ∧
      m.Matched ∧ a.table.Grows m ∧ c.Bound m ∧ (a.codecs (a.place k)).Grows c ∧
      c.Readable m hd.request id ∧ ∃ i, c.Readable m hd.reply i := by
  have hb := h.bound (a.place k)
  have hu := Function.update_eq_self (a.place k) a.codecs
  have hk := Function.update_eq_self k a.handlers
  have hs := Codec.settles_ensure hb h.matched hd.request
  rw [step_handler]
  rcases Dispatcher.register_cases (d := a.dispatcher k) hb h.matched hd with
    ⟨e, -, hr⟩ | ⟨c, m, id, he, ⟨e, hreply, hr⟩ | ⟨c', m', i, hreply, hr⟩⟩
  · rw [hr]
    exact .inl ⟨e, by rw [dispatcher, hu, hk]⟩
  · rw [hr]
    rcases Codec.ensure_cases hb h.matched hd.request with ⟨id', -, he'⟩ | ⟨-, he'⟩
    · rw [dispatcher, he'] at he
      cases he
      exact .inl ⟨e, by rw [dispatcher, hu, hk]⟩
    · rw [Codec.register] at he'
      rw [dispatcher, he'] at he
      refine .inr (.inl ⟨e, _, id, by rw [step_decoder, he], ?_, by rw [dispatcher, hk]⟩)
      dsimp only
      rw [Function.update_self]
      exact hreply
  · rw [dispatcher] at he
    rw [he] at hs
    have hs' := Codec.settles_ensure hs.bound hs.matched hd.reply
    rw [hreply] at hs'
    rw [hr]
    exact .inr (.inr ⟨c', m', id, rfl, hs'.matched, hs.table.trans hs'.table, hs'.bound,
      hs.codec.trans hs'.codec, (hs.readable id rfl).of_grows hs'.codec hs'.table, i, hs'.readable i rfl⟩)

/-- Where a handler is registered, it stands in front of the handlers so far. -/
theorem Inv.step_handler_ok (h : a.Inv) {hd : Handler τ σ} {id : PacketId}
    (hs : (a.step (.handler k hd)).2 = .ok id) : a.table.Grows (a.step (.handler k hd)).1.table ∧
      (a.step (.handler k hd)).1.handlers k = (id, hd) :: a.handlers k := by
  rcases h.step_handler_cases k hd with ⟨e, he⟩ | ⟨e, b, id, -, -, he⟩ | ⟨c, m, i, he, -, hg, -⟩
  · rw [he] at hs
    cases hs
  · rw [he] at hs
    cases hs
  · rw [he] at hs ⊢
    cases hs
    exact ⟨hg, Function.update_self ..⟩

theorem Inv.step_decoder (h : a.Inv) (i : ι) (t : τ) (requested : Option PacketId) :
    (a.step (.decoder i t requested)).1.Inv := by
  have hs := Codec.settles_attach (h.bound i) h.matched t requested
  exact h.grow hs.matched hs.table hs.bound hs.codec

theorem Inv.step (h : a.Inv) (call : Registration ι κ τ σ) : (a.step call).1.Inv := by
  cases call with
  | type t id =>
    rw [Assembly.step]
    have hi := a.table.inserts t id
    generalize a.table.insert t id = out at hi ⊢
    cases hi with
    | twice i _ => exact h
    | taken holder _ _ => exact h
    | entered m _ _ hm =>
      have hg : a.table.Grows m := .single ⟨t, id, hm⟩
      refine ⟨h.matched.registerWithId hm, fun i => (h.bound i).of_grows hg, fun k => ?_⟩
      refine ⟨h.matched.registerWithId hm, (h.bound _).of_grows hg, fun i hd hl => ?_, fun i hd hl => ?_⟩
      · exact ((h.wired k).request i hd hl).of_grows (.refl _) hg
      · obtain ⟨j, hj⟩ := (h.wired k).reply i hd hl
        exact ⟨j, hj.of_grows (.refl _) hg⟩
  | decoder i t requested => exact h.step_decoder i t requested
  | handler k hd =>
    rcases h.step_handler_cases k hd with ⟨e, hs⟩ | ⟨e, b, id, hreg, -, hs⟩ |
      ⟨c, m, id, hs, hm, hg, hc, hcodec, hrequest, hreply⟩
    · rw [hs]
      exact h
    · have hb := h.step_decoder (a.place k) hd.request none
      rw [hreg] at hb
      rw [hs]
      exact hb
    · rw [hs]
      exact h.enter hm hg hc hcodec hrequest hreply

theorem Inv.run (h : a.Inv) (calls : List (Registration ι κ τ σ)) : (a.run calls).Inv := by
  induction calls generalizing a with
  | nil => exact h
  | cons call calls ih => exact ih (h.step call)

theorem Reached.step (h : a.Reached) (call : Registration ι κ τ σ) : (a.step call).1.Reached := by
  obtain ⟨start, calls, hfresh, rfl⟩ := h
  refine ⟨start, calls ++ [call], hfresh, ?_⟩
  rw [Assembly.run, Assembly.run, List.foldl_append]
  rfl

theorem Reached.inv (h : a.Reached) : a.Inv := by
  obtain ⟨start, calls, hfresh, rfl⟩ := h
  exact (inv_fresh hfresh).run calls

/-- What a codec makes of a frame whose type it does not know beforehand is what it makes of it with knowing
the type, which is the only one under the packet id; so no handler gets a packet of another type. A
registration that fails changes nothing, unless it is one of a handler whose request type is new and
whose reply type is refused: it leaves what registering the request type alone does. -/
theorem reads_alike (ha : a.Reached) :
    (∀ i frame p, (a.codecs i).decodeAny a.table frame = .ok p →
      ((∀ t, a.table.id? t = some p.header.packetId ↔ t = p.type) ∧
        a.table.getType p.header.packetId = .ok ⟨p.header.packetId, p.typeName, p.type⟩) ∧
      p.typeName = MessageFamily.name p.type ∧
      (∃ q, p.downcast p.type = .ok q ∧ (a.codecs i).decode a.table p.type frame = .ok q) ∧
      ∀ t ≠ p.type, p.downcast t = .error p) ∧
    (∀ i frame t id q, a.table.id? t = some id → (a.codecs i).hasDecoder id = true →
      (a.codecs i).decode a.table t frame = .ok q → (a.codecs i).decodeAny a.table frame =
        .ok ⟨q.header, q.token, MessageFamily.name t, t, q.message⟩) ∧
    (∀ k frame p h, (a.dispatcher k).codec.decodeAny a.table frame = .ok p →
      (a.dispatcher k).handlers.lookup p.header.packetId = some h → ∃ q,
        p.downcast h.request = .ok q ∧ ∀ s, (a.dispatcher k).dispatch a.table frame s =
          ((h.run q.message s).1,
            (h.run q.message s).2.bind fun msg => (a.dispatcher k).encodeReply a.table h.reply msg q.token)) ∧
    (∀ t id e, (a.step (.type t id)).2 = .error e → (a.step (.type t id)).1 = a) ∧
    (∀ i t requested e, (a.step (.decoder i t requested)).2 = .error e →
      (a.step (.decoder i t requested)).1 = a) ∧
    ∀ k h e, (a.step (.handler k h)).2 = .error e → (a.step (.handler k h)).1 = a ∨
      ∃ b id, (a.step (.handler k h)).1 = b ∧
        a.step (.decoder (a.place k) h.request none) = (b, .ok id) ∧
        (b.codecs (a.place k)).ensure b.table h.reply = ((b.codecs (a.place k), b.table), .error e) := by
  have hinv := ha.inv
  refine ⟨fun i frame p hp => ?_, fun i frame t id q ht hd hq => ?_, fun k frame p h hp hh => ?_,
    fun t id e he => ?_, fun i t requested e he => ?_, fun k h e he => ?_⟩
  · obtain ⟨hname, -, hdec⟩ := (Codec.decodeAny_eq_ok_iff (hinv.bound i) hinv.matched).mp hp
    obtain ⟨body, -, hid, -⟩ := Codec.decode_eq_ok_iff.mp hdec
    refine ⟨⟨fun t => ⟨fun ht => hinv.matched.eq_of_id? ht hid, fun ht => ht ▸ hid⟩, ?_⟩, hname,
      ⟨_, p.downcast_type, hdec⟩, fun t ht => DecodedPacket.downcast_of_ne ht⟩
    rw [hname]
    exact hinv.matched.getType_of_id? hid
  · obtain ⟨body, -, hid, -⟩ := Codec.decode_eq_ok_iff.mp hq
    rw [ht, Option.some.injEq] at hid
    exact (Codec.decodeAny_eq_ok_iff (hinv.bound i) hinv.matched).mpr ⟨rfl, hid ▸ hd, hq⟩
  · obtain ⟨q, hcast, -⟩ := (hinv.wired k).downcast hp hh
    exact ⟨q, hcast, fun s => Dispatcher.dispatch_of_downcast hp hh hcast s⟩
  · rw [step] at he ⊢
    have hi := a.table.inserts t id
    generalize a.table.insert t id = out at hi he ⊢
    cases hi with
    | twice i _ => rfl
    | taken holder _ _ => rfl
    | entered m _ _ _ => cases he
  · have hs := Codec.settles_attach (hinv.bound i) hinv.matched t requested
    have hsame := hs.refused e he
    rw [step_decoder, hsame]
    dsimp only
    rw [Function.update_eq_self]
  · rcases hinv.step_handler_cases k h with ⟨e', hs⟩ | ⟨e', b, id, hreg, hreply, hs⟩ | ⟨c, m, id, hs, -⟩
    · rw [hs]
      exact .inl rfl
    · rw [hs] at he ⊢
      cases he
      exact .inr ⟨b, id, rfl, hreg, hreply⟩
    · rw [hs] at he
      cases he

/-- Two message types of one name. -/
def countTypes : List (String × RecordType) := [
  ("count", .plain "tests.CountTestMessage" [("adder", .int .i32)]),
  ("impostor", .plain "tests.CountTestMessage" [("adder", .int .i32)])]

def count : RecordKey countTypes := ⟨"count"⟩

def impostor : RecordKey countTypes := ⟨"impostor"⟩

/-- Two codecs, and a dispatcher before the second one. -/
def twoCodecs : Assembly Bool Unit (RecordKey countTypes) Unit where
  table := .empty
  codecs _ := .create BodyFormat.bincode.codec none .empty
  place _ := true
  handlers _ := []

theorem fresh_twoCodecs : twoCodecs.Fresh := ⟨rfl, fun _ => rfl, fun _ => rfl⟩

def answerImpostor : Handler (RecordKey countTypes) Unit := ⟨impostor, count, fun r s => (s, .ok r)⟩

/-- Each type under an id of its own: the first codec gives one out, and the second the other. -/
def bothRegistered : Assembly Bool Unit (RecordKey countTypes) Unit :=
  twoCodecs.run [.decoder false count (some ⟨7⟩), .decoder true impostor (some ⟨8⟩), .decoder true count none,
    .handler () answerImpostor]

theorem reads_alike_of_namesakes : bothRegistered.Reached ∧ ∃ p q,
    (bothRegistered.codecs true).decodeAny bothRegistered.table [10, 0, 0, 0, 0, 0, 7, 0, 42, 0, 0, 0] = .ok p ∧
    p.typeName = MessageFamily.name impostor ∧ p.downcast impostor = .error p ∧
    p.downcast p.type = .ok q ∧
    (bothRegistered.codecs true).decode bothRegistered.table p.type [10, 0, 0, 0, 0, 0, 7, 0, 42, 0, 0, 0] = .ok q := by
  have hr : bothRegistered.Reached := ⟨twoCodecs, _, fresh_twoCodecs, rfl⟩
  obtain ⟨p, hp, htype⟩ : ∃ p, (bothRegistered.codecs true).decodeAny bothRegistered.table
      [10, 0, 0, 0, 0, 0, 7, 0, 42, 0, 0, 0] = .ok p ∧ p.type = count := ⟨_, rfl, rfl⟩
  obtain ⟨-, hname, ⟨q, hcast, hdec⟩, hothers⟩ := (reads_alike hr).1 true _ p hp
  exact ⟨hr, p, q, hp, hname.trans (by rw [htype]; rfl), hothers impostor (by rw [htype]; decide), hcast, hdec⟩

/-- The two types share a name, and so the id that goes with it: the reply type is refused, but the request
type has been registered. -/
theorem request_outlasts_failure : twoCodecs.Reached ∧ ∃ e, (twoCodecs.step (.handler () answerImpostor)).2 = .error e ∧
    (twoCodecs.step (.handler () answerImpostor)).1.table ≠ twoCodecs.table ∧
    ((twoCodecs.step (.handler () answerImpostor)).1.codecs true).decoders ≠ (twoCodecs.codecs true).decoders := by
  obtain ⟨e, he⟩ := Dispatcher.register_namesake (d := twoCodecs.dispatcher ()) rfl (h := answerImpostor)
    (show count ≠ impostor by decide) rfl
  refine ⟨⟨twoCodecs, [], fresh_twoCodecs, rfl⟩, ?_⟩
  rw [step_handler, show twoCodecs.table = .empty from rfl, he]
  exact ⟨_, rfl, by simp [TypeTable.empty], by simp [twoCodecs, Codec.create]⟩

end Assembly

end FrameGateway
