import FrameGateway.Proofs.Codec.Assembly
import FrameGateway.Proofs.Codec.Faults
/-! Sessions that are served frame by frame. What is promised: a frame that cannot be read or has no handler
is passed over, every other one gets its handler's reply, and the first failure of a handler ends the
session (`Dispatcher.promised`). Whether a session goes on is decided by the kind of the fault alone,
wherever it comes from; so the promise is kept up to the first frame whose type has a field without a
serializer, or whose handler fails as if the frame were at fault (`Assembly.serves_as_promised`). -/

namespace FrameGateway

/-- What a frame does to a session: it goes on, with a reply or without, or it ends there. -/
inductive Turn (σ : Type) where
  | next (state : σ) (reply : Option Bytes)
  | last (state : σ) (fault : Fault)

namespace Turn

variable {σ : Type}

/-- A session that one turn is put before. -/
def before (turn : Turn σ) (rest : σ → Dispatcher.Served σ) : Dispatcher.Served σ :=
  match turn with
  | next s reply => { rest s with replies := reply.toList ++ (rest s).replies }
  | last s e => ⟨s, [], some e⟩

def alone (turn : Turn σ) : Dispatcher.Served σ := turn.before fun s => ⟨s, [], none⟩

theorem alone_injective : Function.Injective (alone : Turn σ → Dispatcher.Served σ) := by
  rintro (⟨s, _ | reply⟩ | ⟨s, e⟩) (⟨s', _ | reply'⟩ | ⟨s', e'⟩) h
  all_goals simp [alone, before] at h ⊢
  all_goals exact h

end Turn

def serveTurns {σ : Type} (turn : Bytes → σ → Turn σ) : List Bytes → σ → Dispatcher.Served σ
  | [], s => ⟨s, [], none⟩
  | frame :: rest, s => (turn frame s).before (serveTurns turn rest)

section Conduct

variable {σ : Type} {f g : Bytes → σ → Turn σ} {frame : Bytes} {rest : List Bytes} {s s' : σ}

theorem serveTurns_cons_of_next {reply : Option Bytes} (h : f frame s = .next s' reply) :
    serveTurns f (frame :: rest) s =
      { serveTurns f rest s' with replies := reply.toList ++ (serveTurns f rest s').replies } := by
  rw [serveTurns, h, Turn.before]

theorem serveTurns_cons_of_last {e : Fault} (h : f frame s = .last s' e) :
    serveTurns f (frame :: rest) s = ⟨s', [], some e⟩ := by
  rw [serveTurns, h, Turn.before]

theorem serveTurns_eq_cons_of_next_iff {reply : Option Bytes} (hf : f frame s = .next s' reply)
    (hg : g frame s = .next s' reply) :
    (∀ sent, sent <+: frame :: rest → serveTurns f sent s = serveTurns g sent s) ↔
      ∀ sent, sent <+: rest → serveTurns f sent s' = serveTurns g sent s' := by
  constructor
  · intro h sent hsent
    have hcons := h (frame :: sent) (List.cons_prefix_cons.mpr ⟨rfl, hsent⟩)
    rw [serveTurns_cons_of_next hf, serveTurns_cons_of_next hg, Dispatcher.Served.mk.injEq] at hcons
    obtain ⟨hstate, hreplies, hfault⟩ := hcons
    rw [show serveTurns f sent s' = ⟨(serveTurns f sent s').state, (serveTurns f sent s').replies,
      (serveTurns f sent s').fault⟩ from rfl, hstate, List.append_cancel_left hreplies, hfault]
  · intro h sent hsent
    cases sent with
    | nil => rfl
    | cons frame' sent =>
      obtain ⟨rfl, hrest⟩ := List.cons_prefix_cons.mp hsent
      rw [serveTurns_cons_of_next hf, serveTurns_cons_of_next hg, h sent hrest]

theorem serveTurns_eq_cons_of_last {e : Fault} (hf : f frame s = .last s' e) (hg : g frame s = .last s' e) :
    ∀ sent, sent <+: frame :: rest → serveTurns f sent s = serveTurns g sent s := by
  intro sent hsent
  cases sent with
  | nil => rfl
  | cons frame' sent =>
    obtain ⟨rfl, -⟩ := List.cons_prefix_cons.mp hsent
    rw [serveTurns_cons_of_last hf, serveTurns_cons_of_last hg]

theorem turns_eq_cons_of_next_iff {reply : Option Bytes} (hfg : f frame s = g frame s)
    (hg : g frame s = .next s' reply) :
    (∀ before frame' after, frame :: rest = before ++ frame' :: after → (serveTurns g before s).fault = none →
        f frame' (serveTurns g before s).state = g frame' (serveTurns g before s).state) ↔
      ∀ before frame' after, rest = before ++ frame' :: after → (serveTurns g before s').fault = none →
        f frame' (serveTurns g before s').state = g frame' (serveTurns g before s').state := by
  constructor
  · intro h before frame' after he hnone
    have hcons := h (frame :: before) frame' after (by rw [he, List.cons_append])
    rw [serveTurns_cons_of_next hg] at hcons
    exact hcons hnone
  · intro h before frame' after he hnone
    cases before with
    | nil =>
      cases he
      exact hfg
    | cons frame'' before =>
      cases he
      rw [serveTurns_cons_of_next hg] at hnone ⊢
      exact h before frame' after rfl hnone

/-- The session is over after such a frame. -/
theorem turns_eq_cons_of_last {e : Fault} (hfg : f frame s = g frame s) (hg : g frame s = .last s' e) :
    ∀ before frame' after, frame :: rest = before ++ frame' :: after → (serveTurns g before s).fault = none →
      f frame' (serveTurns g before s).state = g frame' (serveTurns g before s).state := by
  intro before frame' after he hnone
  cases before with
  | nil =>
    cases he
    exact hfg
  | cons frame'' before =>
    cases he
    rw [serveTurns_cons_of_last hg] at hnone
    cases hnone

/-- Two ways to take turns come to the same on a stream, however much of it has come, exactly if they take
the same turn at each of its frames up to the end of the session. -/
theorem serveTurns_eq_iff (frames : List Bytes) (s : σ) :
    (∀ sent, sent <+: frames → serveTurns f sent s = serveTurns g sent s) ↔
      ∀ before frame after, frames = before ++ frame :: after → (serveTurns g before s).fault = none →
        f frame (serveTurns g before s).state = g frame (serveTurns g before s).state := by
  induction frames generalizing s with
  | nil =>
    refine iff_of_true (fun sent h => ?_) fun before frame after h => absurd h (by simp)
    rw [List.prefix_nil.mp h, serveTurns, serveTurns]
  | cons frame rest ih =>
    by_cases hfg : f frame s = g frame s
    · cases hg : g frame s with
      | last s' e =>
        exact iff_of_true (serveTurns_eq_cons_of_last (hfg.trans hg) hg) (turns_eq_cons_of_last hfg hg)
      | next s' reply =>
        rw [serveTurns_eq_cons_of_next_iff (hfg.trans hg) hg, turns_eq_cons_of_next_iff hfg hg, ih]
    · -- a stream that ends with this frame tells the two apart
      refine iff_of_false (fun h => hfg ?_) fun h => hfg (h [] frame rest rfl rfl)
      exact Turn.alone_injective (h [frame] (List.cons_prefix_cons.mpr ⟨rfl, List.nil_prefix⟩))

end Conduct

namespace Dispatcher

variable {τ : Type} [DecidableEq τ] [MessageFamily τ] {σ : Type}

/-- A message, with the handler that it goes to. -/
structure Request (τ : Type) [MessageFamily τ] (σ : Type) where
  handler : Handler τ σ
  packet : Packet τ handler.request

variable (d : Dispatcher τ σ) (m : TypeTable τ)

/-- The request in a frame: there is none if nothing can be read, or if the packet id has no handler. -/
def request? (frame : Bytes) : Option (Request τ σ) :=
  match d.codec.decodeAny m frame with
  | .error _ => none
  | .ok p => (d.handlers.lookup p.header.packetId).bind fun h =>
      (d.codec.decode m h.request frame).toOption.map (Request.mk h)

/-- The handler's answer as a frame, and the state that the handler leaves. -/
def answer (q : Request τ σ) (s : σ) : σ × Except Fault Bytes :=
  let (s, r) := q.handler.run q.packet.message s
  (s, r.bind fun msg => d.encodeReply m q.handler.reply msg q.packet.token)

/-- What is promised: no request, no reply; and whatever a handler fails with ends the session. -/
def promised (frame : Bytes) (s : σ) : Turn σ :=
  match d.request? m frame with
  | none => .next s none
  | some q => match d.answer m q s with
    | (s, .ok reply) => .next s (some reply)
    | (s, .error e) => .last s e

def turn (frame : Bytes) (s : σ) : Turn σ :=
  match d.dispatch m frame s with
  | (s, .ok reply) => .next s (some reply)
  | (s, .error e) => if e.isFrameFault then .next s none else .last s e

/-- A session breaks its promise at a frame: a field that no serializer reads ends it, or a handler's
failure, which reads like that of a frame, does not. -/
inductive Lapses (frame : Bytes) (s : σ) : Prop
  | unread (typeName field : String) (h : d.codec.decodeAny m frame = .error (.missingFieldCodec typeName field))
  | forgiven (q : Request τ σ) (e : Fault) (h : d.request? m frame = some q)
      (he : (q.handler.run q.packet.message s).2 = .error e) (hforgiven : e.isFrameFault = true)

variable {d m} {frame : Bytes} {s : σ} {p : DecodedPacket τ} {q : Request τ σ} {e : Fault}

theorem serve_eq_serveTurns (frames : List Bytes) (s : σ) : d.serve m frames s = serveTurns (d.turn m) frames s := by
  induction frames generalizing s with
  | nil => rw [serve, serveTurns]
  | cons frame rest ih =>
    rw [serve, serveTurns, turn]
    rcases d.dispatch m frame s with ⟨s', e | reply⟩
    · cases he : e.isFrameFault <;> simp [Turn.before, ih, he]
    · simp [Turn.before, ih]

theorem turn_of_unread (h : d.codec.decodeAny m frame = .error e) :
    d.turn m frame s = if e.isFrameFault then .next s none else .last s e := by
  rw [turn, dispatch, h]

theorem promised_of_unread (h : d.codec.decodeAny m frame = .error e) :
    d.promised m frame s = .next s none := by
  rw [promised, request?, h]

theorem turn_of_unhandled (hp : d.codec.decodeAny m frame = .ok p)
    (hh : d.handlers.lookup p.header.packetId = none) : d.turn m frame s = .next s none := by
  rw [turn, dispatch, hp]
  dsimp only
  rw [hh]
  rfl

theorem promised_of_unhandled (hp : d.codec.decodeAny m frame = .ok p)
    (hh : d.handlers.lookup p.header.packetId = none) : d.promised m frame s = .next s none := by
  rw [promised, request?, hp]
  dsimp only
  rw [hh]
  rfl

/-- Where a handler stands under the packet id, the frame holds a request for it. -/
theorem Wired.request?_of_handler (hw : d.Wired m) {h : Handler τ σ}
    (hp : d.codec.decodeAny m frame = .ok p) (hh : d.handlers.lookup p.header.packetId = some h) :
    ∃ q, d.request? m frame = some q ∧ q.handler = h ∧
      ∀ s, d.dispatch m frame s = d.answer m q s := by
  obtain ⟨q, hcast, hdec⟩ := hw.downcast hp hh
  refine ⟨⟨h, q⟩, ?_, rfl, dispatch_of_downcast hp hh hcast⟩
  rw [request?, hp]
  dsimp only
  rw [hh, Option.bind_some, hdec]
  rfl

/-- A frame without a request is one that cannot be read or has no handler. -/
theorem Wired.request?_eq_none_iff (hw : d.Wired m) : d.request? m frame = none ↔
    (∃ e, d.codec.decodeAny m frame = .error e) ∨
      ∃ p, d.codec.decodeAny m frame = .ok p ∧ d.handlers.lookup p.header.packetId = none := by
  cases hp : d.codec.decodeAny m frame with
  | error e =>
    refine iff_of_true ?_ (.inl ⟨e, rfl⟩)
    rw [request?, hp]
  | ok p =>
    cases hh : d.handlers.lookup p.header.packetId with
    | none =>
      refine iff_of_true ?_ (.inr ⟨p, rfl, hh⟩)
      rw [request?, hp]
      dsimp only
      rw [hh]
      rfl
    | some h =>
      obtain ⟨q, hq, -⟩ := hw.request?_of_handler hp hh
      refine iff_of_false (by rw [hq]; nofun) ?_
      rintro (⟨e, ⟨⟩⟩ | ⟨p', ⟨⟩, hnone⟩)
      rw [hh] at hnone
      cases hnone

/-- A request goes to its handler. -/
theorem Wired.dispatch_of_request? (hw : d.Wired m) (h : d.request? m frame = some q) :
    d.dispatch m frame s = d.answer m q s := by
  cases hp : d.codec.decodeAny m frame with
  | error e =>
    rw [hw.request?_eq_none_iff.mpr (.inl ⟨e, hp⟩)] at h
    cases h
  | ok p =>
    cases hh : d.handlers.lookup p.header.packetId with
    | none =>
      rw [hw.request?_eq_none_iff.mpr (.inr ⟨p, hp, hh⟩)] at h
      cases h
    | some hd =>
      obtain ⟨q', hq, -, hdispatch⟩ := hw.request?_of_handler hp hh
      rw [h, Option.some.injEq] at hq
      rw [hdispatch, hq]

/-- A handler's answer fails with the handler, or with its reply. -/
theorem answer_eq_error_iff : (d.answer m q s).2 = .error e ↔
    (q.handler.run q.packet.message s).2 = .error e ∨ ∃ msg, (q.handler.run q.packet.message s).2 = .ok msg ∧
      d.encodeReply m q.handler.reply msg q.packet.token = .error e := bind_eq_error_iff

/-- A reply that cannot be written is never taken for a frame at fault. -/
theorem Wired.encodeReply_fault (hw : d.Wired m) (ho : d.codec.overrides.BuiltIn) (hb : d.codec.body.Plain)
    {id : PacketId} {h : Handler τ σ} (hh : d.handlers.lookup id = some h) {msg : Msg h.reply}
    {token : Option SessionId} (he : d.encodeReply m h.reply msg token = .error e) :
    e.isFrameFault = false := by
  obtain ⟨i, ht, -⟩ := hw.reply id h hh
  rw [encodeReply] at he
  cases hf : d.codec.token with
  | none =>
    rw [hf] at he
    exact Codec.encodeFrame_fault ho hb ht he
  | some f =>
    rw [hf] at he
    dsimp only at he
    rw [Codec.encodeRouted, hf, if_neg (by simp)] at he
    exact Codec.encodeFrame_fault ho hb ht he

theorem lapses_iff_of_unread (hnone : d.request? m frame = none) : d.Lapses m frame s ↔
    ∃ typeName field, d.codec.decodeAny m frame = .error (.missingFieldCodec typeName field) := by
  constructor
  · rintro (⟨typeName, field, h⟩ | ⟨q, e, h, -, -⟩)
    · exact ⟨typeName, field, h⟩
    · rw [hnone] at h
      cases h
  · rintro ⟨typeName, field, h⟩
    exact .unread typeName field h

/-- Only the handler's own failures can be mistaken for those of a frame, not those of its reply. -/
theorem Wired.lapses_iff_of_request? (hw : d.Wired m) (ho : d.codec.overrides.BuiltIn) (hb : d.codec.body.Plain)
    (hp : d.codec.decodeAny m frame = .ok p) (hh : d.handlers.lookup p.header.packetId = some q.handler)
    (hq : d.request? m frame = some q) :
    d.Lapses m frame s ↔ ∃ e, (d.answer m q s).2 = .error e ∧ e.isFrameFault = true := by
  constructor
  · rintro (⟨typeName, field, h⟩ | ⟨q', e, h, he, hforgiven⟩)
    · rw [hp] at h
      cases h
    · rw [hq, Option.some.injEq] at h
      subst h
      exact ⟨e, answer_eq_error_iff.mpr (.inl he), hforgiven⟩
  · rintro ⟨e, he, hforgiven⟩
    rcases answer_eq_error_iff.mp he with he | ⟨msg, -, he⟩
    · exact .forgiven q e hq he hforgiven
    · rw [hw.encodeReply_fault ho hb hh he] at hforgiven
      cases hforgiven

/-- A session keeps its promise at each frame that is no lapse, and breaks it at each that is. -/
theorem Wired.turn_eq_promised_iff (hw : d.Wired m) (ho : d.codec.overrides.BuiltIn)
    (hb : d.codec.body.Plain) : d.turn m frame s = d.promised m frame s ↔ ¬d.Lapses m frame s := by
  cases hp : d.codec.decodeAny m frame with
  | error e =>
    rw [turn_of_unread hp, promised_of_unread hp,
      lapses_iff_of_unread (hw.request?_eq_none_iff.mpr (.inl ⟨e, hp⟩)), hp]
    rcases Codec.decodeAny_fault ho hb hp with hfault | ⟨typeName, field, rfl⟩
    · refine iff_of_true (if_pos hfault) ?_
      rintro ⟨typeName, field, ⟨⟩⟩
      cases hfault
    · exact iff_of_false nofun (not_not_intro ⟨typeName, field, rfl⟩)
  | ok p =>
    cases hh : d.handlers.lookup p.header.packetId with
    | none =>
      rw [turn_of_unhandled hp hh, promised_of_unhandled hp hh,
        lapses_iff_of_unread (hw.request?_eq_none_iff.mpr (.inr ⟨p, hp, hh⟩)), hp]
      exact iff_of_true rfl nofun
    | some h =>
      obtain ⟨q, hq, rfl, hdispatch⟩ := hw.request?_of_handler hp hh
      rw [hw.lapses_iff_of_request? ho hb hp hh hq, turn, promised, hdispatch, hq]
      dsimp only
      rcases d.answer m q s with ⟨s', e | reply⟩
      · cases he : e.isFrameFault <;> simp [he]
      · simp

theorem turn_of_forgiven (hw : d.Wired m) (h : d.request? m frame = some q)
    (he : (q.handler.run q.packet.message s).2 = .error e) (hforgiven : e.isFrameFault = true) :
    d.turn m frame s = .next (q.handler.run q.packet.message s).1 none := by
  have ha : d.answer m q s = ((q.handler.run q.packet.message s).1, .error e) :=
    Prod.ext rfl (answer_eq_error_iff.mpr (.inl he))
  rw [turn, hw.dispatch_of_request? h, ha]
  exact if_pos hforgiven

end Dispatcher

namespace Assembly

variable {ι κ τ σ : Type} [DecidableEq ι] [DecidableEq κ] [DecidableEq τ] [MessageFamily τ]
  {a : Assembly ι κ τ σ} {k : κ}

/-- A session is served as promised as long as no frame is a lapse, and no longer. There are two lapses: a
frame whose type has a field without a serializer ends the session, and a handler's failure that reads
like that of a frame does not. -/
theorem serves_as_promised (ha : a.Reached) (ho : (a.dispatcher k).codec.overrides.BuiltIn)
    (hb : (a.dispatcher k).codec.body.Plain) :
    (∀ frame, (a.dispatcher k).request? a.table frame = none ↔
      (∃ e, (a.dispatcher k).codec.decodeAny a.table frame = .error e) ∨
        ∃ p, (a.dispatcher k).codec.decodeAny a.table frame = .ok p ∧
          (a.dispatcher k).hasHandler p.header.packetId = false) ∧
    (∀ frames s,
      (∀ sent, sent <+: frames →
        (a.dispatcher k).serve a.table sent s = serveTurns ((a.dispatcher k).promised a.table) sent s) ↔
      ∀ before frame after, frames = before ++ frame :: after →
        (serveTurns ((a.dispatcher k).promised a.table) before s).fault = none →
        ¬(a.dispatcher k).Lapses a.table frame (serveTurns ((a.dispatcher k).promised a.table) before s).state) ∧
    (∀ frame rest s typeName field,
      (a.dispatcher k).codec.decodeAny a.table frame = .error (.missingFieldCodec typeName field) →
        (a.dispatcher k).serve a.table (frame :: rest) s = ⟨s, [], some (.missingFieldCodec typeName field)⟩) ∧
    ∀ frame rest s q e, (a.dispatcher k).request? a.table frame = some q →
      (q.handler.run q.packet.message s).2 = .error e → e.isFrameFault = true →
        (a.dispatcher k).serve a.table (frame :: rest) s =
          (a.dispatcher k).serve a.table rest (q.handler.run q.packet.message s).1 := by
  have hw := ha.inv.wired k
  refine ⟨fun frame => ?_, fun frames s => ?_, fun frame rest s typeName field h => ?_,
    fun frame rest s q e h he hforgiven => ?_⟩
  · simp only [Dispatcher.hasHandler, Option.isSome_eq_false_iff, Option.isNone_iff_eq_none]
    exact hw.request?_eq_none_iff
  · simp only [Dispatcher.serve_eq_serveTurns, serveTurns_eq_iff, hw.turn_eq_promised_iff ho hb]
  · rw [Dispatcher.serve_eq_serveTurns]
    exact serveTurns_cons_of_last (Dispatcher.turn_of_unread h)
  · rw [Dispatcher.serve_eq_serveTurns, Dispatcher.serve_eq_serveTurns]
    exact serveTurns_cons_of_next (Dispatcher.turn_of_forgiven hw h he hforgiven)

def echo : Handler (RecordKey countTypes) Nat := ⟨count, count, fun r n => (n + 1, .ok r)⟩

/-- Refuses every message, as a frame that cannot be read is refused. -/
def refuseAsUnreadable : Handler (RecordKey countTypes) Nat :=
  ⟨impostor, count, fun _ n => (n + 1, .error (.deserialize "not a count"))⟩

/-- A dispatcher for both types, which counts how often its handlers run. -/
def countingAssembly : Assembly Unit Unit (RecordKey countTypes) Nat :=
  (Assembly.mk .empty (fun _ => .create BodyFormat.bincode.codec none .empty) id fun _ => []).run [
    .decoder () count (some ⟨7⟩), .decoder () impostor (some ⟨8⟩), .handler () echo, .handler () refuseAsUnreadable]

def countFrame : Bytes := [10, 0, 0, 0, 0, 0, 7, 0, 42, 0, 0, 0]

def impostorFrame : Bytes := [10, 0, 0, 0, 0, 0, 8, 0, 42, 0, 0, 0]

theorem reached_countingAssembly : countingAssembly.Reached := ⟨_, _, ⟨rfl, fun _ => rfl, fun _ => rfl⟩, rfl⟩

theorem builtIn_countingAssembly : (countingAssembly.dispatcher ()).codec.overrides.BuiltIn := nofun

/-- A frame cut short is passed over, and the next one is answered. -/
theorem serves_as_promised_past_stub :
    countingAssembly.Reached ∧ (countingAssembly.dispatcher ()).codec.overrides.BuiltIn ∧
    (countingAssembly.dispatcher ()).codec.body.Plain ∧ (∀ sent, sent <+: [[10, 0], countFrame] →
      (countingAssembly.dispatcher ()).serve countingAssembly.table sent 0 =
        serveTurns ((countingAssembly.dispatcher ()).promised countingAssembly.table) sent 0) ∧
    (countingAssembly.dispatcher ()).serve countingAssembly.table [[10, 0], countFrame] 0 =
      ⟨1, [[10, 0, 1, 0, 0, 0, 7, 0, 42, 0, 0, 0]], none⟩ := by
  have hb : (countingAssembly.dispatcher ()).codec.body.Plain := BodyFormat.plain_codec .bincode
  refine ⟨reached_countingAssembly, builtIn_countingAssembly, hb, ?_, rfl⟩
  refine ((serves_as_promised (k := ()) reached_countingAssembly builtIn_countingAssembly hb).2.1 _ _).mpr
    fun before frame after h hnone => ?_
  match before, h with
  | [], h =>
    cases h
    rintro (⟨_, _, h⟩ | ⟨q, e, h, -, -⟩) <;> cases h
  | [_], h =>
    cases h
    rintro (⟨_, _, h⟩ | ⟨q, e, h, he, -⟩)
    · cases h
    · cases h
      cases he
  | _ :: _ :: _, h => simp at h

/-- After a handler has failed, the session goes on to the next frame. -/
theorem serves_past_failed_handler :
    countingAssembly.Reached ∧ (countingAssembly.dispatcher ()).codec.overrides.BuiltIn ∧
    (countingAssembly.dispatcher ()).codec.body.Plain ∧
    (countingAssembly.dispatcher ()).serve countingAssembly.table [impostorFrame, countFrame] 0 =
      ⟨2, [[10, 0, 1, 0, 0, 0, 7, 0, 42, 0, 0, 0]], none⟩ ∧
    serveTurns ((countingAssembly.dispatcher ()).promised countingAssembly.table) [impostorFrame, countFrame] 0 =
      ⟨1, [], some (.deserialize "not a count")⟩ :=
  ⟨reached_countingAssembly, builtIn_countingAssembly, BodyFormat.plain_codec .bincode, rfl, rfl⟩

end Assembly

end FrameGateway
