import FrameGateway.Proofs.Codec.Assembly
import FrameGateway.Proofs.Dispatcher.Answering
/-! Handlers succeed one another. A handler stands under the packet id of its request type, which no other type
ever has; so it goes on answering the messages of this type until another handler for it is registered, whatever
else is registered meanwhile, with its dispatcher or with codecs that share the table
(`Assembly.latest_handler_answers`). -/

namespace FrameGateway.Assembly

variable {ι κ τ σ : Type} [MessageFamily τ] [DecidableEq ι] [DecidableEq κ] [DecidableEq τ]
  {a : Assembly ι κ τ σ} {k : κ} {id : PacketId} {h : Handler τ σ}

/-- Of the handlers that a dispatcher has taken for this request type, `h` is the one that came last: what was
registered for the type behind it was refused. -/
def Latest (start : Assembly ι κ τ σ) (calls : List (Registration ι κ τ σ)) (k : κ) (h : Handler τ σ) : Prop :=
  ∃ before after, calls = before ++ .handler k h :: after ∧
    (∃ id, ((start.run before).step (.handler k h)).2 = .ok id) ∧
    ∀ between h' rest, after = between ++ .handler k h' :: rest → h'.request = h.request →
      ∃ e, ((start.run (before ++ .handler k h :: between)).step (.handler k h')).2 = .error e

omit [DecidableEq ι] [DecidableEq κ] in
theorem Inv.id?_of_lookup (hi : a.Inv) (hl : (a.handlers k).lookup id = some h) :
    a.table.id? h.request = some id :=
  ((hi.wired k).request id h hl).1

/-- A registration leaves a handler where it is, unless it is one for the same type with the same dispatcher. -/
theorem Inv.lookup_step (hi : a.Inv) (hl : (a.handlers k).lookup id = some h) {call : Registration ι κ τ σ}
    (hcall : ∀ h', call = .handler k h' → h'.request = h.request → ∃ e, (a.step call).2 = .error e) :
    ((a.step call).1.handlers k).lookup id = some h := by
  cases call with
  | type t i =>
    exact hl
  | decoder i t requested =>
    rw [Assembly.step_decoder]
    exact hl
  | handler k' h' =>
    rcases hi.step_handler_cases k' h' with ⟨e, hs⟩ | ⟨e, b, i, hreg, -, hs⟩ |
      ⟨c, m, i, hs, hm, hgrows, -, -, hread, -⟩
    · rw [hs]
      exact hl
    · rw [Assembly.step_decoder, Prod.mk.injEq] at hreg
      rw [hs, ← hreg.1]
      exact hl
    · rw [hs]
      dsimp only
      by_cases hk : k = k'
      · subst hk
        rw [Function.update_self, lookup_cons_ite, if_neg]
        · exact hl
        · -- the same id would be the same type, and then the call was refused
          rintro rfl
          have htype := hm.eq_of_id? hread.1 (hgrows.id?_eq_some (hi.id?_of_lookup hl))
          obtain ⟨e, he⟩ := hcall h' rfl htype
          rw [hs] at he
          cases he
      · rw [Function.update_of_ne hk]
        exact hl

theorem Inv.lookup_run (hi : a.Inv) (hl : (a.handlers k).lookup id = some h) {calls : List (Registration ι κ τ σ)}
    (hcalls : ∀ between h' rest, calls = between ++ .handler k h' :: rest → h'.request = h.request →
      ∃ e, ((a.run between).step (.handler k h')).2 = .error e) :
    ((a.run calls).handlers k).lookup id = some h := by
  induction calls generalizing a with
  | nil => exact hl
  | cons call calls ih =>
    refine ih (hi.step call) (hi.lookup_step hl fun h' hcall htype => ?_) fun between h' rest he htype => ?_
    · exact hcall ▸ hcalls [] h' calls (hcall ▸ rfl) htype
    · exact hcalls (call :: between) h' rest (he ▸ rfl) htype

theorem run_append (a : Assembly ι κ τ σ) (before after : List (Registration ι κ τ σ)) :
    a.run (before ++ after) = (a.run before).run after := List.foldl_append

/-- The handler that was taken last for its type is the one that the dispatcher has for it. -/
theorem Latest.exists_lookup {calls : List (Registration ι κ τ σ)} (hf : a.Fresh) (hh : Latest a calls k h) :
    ∃ id, ((a.run calls).handlers k).lookup id = some h := by
  obtain ⟨before, after, rfl, ⟨id, hid⟩, hlater⟩ := hh
  have hi := (inv_fresh hf).run before
  have hl : ((a.run (before ++ [.handler k h])).handlers k).lookup id = some h := by
    rw [run_append]
    have hnew := (hi.step_handler_ok hid).2
    rw [show (a.run before).run [.handler k h] = ((a.run before).step (.handler k h)).1 from rfl, hnew,
      lookup_cons_ite, if_pos rfl]
  refine ⟨id, ?_⟩
  rw [show before ++ Registration.handler k h :: after = (before ++ [.handler k h]) ++ after by simp,
    run_append]
  refine ((inv_fresh hf).run _).lookup_run hl fun between h' rest he htype => ?_
  rw [← run_append, List.append_assoc]
  exact hlater between h' rest he htype

/-- Whatever a codec writes of a message for which its dispatcher has a handler, the dispatcher hands this message
to the handler that came last for the type, and what becomes of the host's state is what a single run of this
handler makes of it. If the handler fails, its fault is the answer. If it makes a reply that a frame has room for,
this is the answer: a frame from which the codec reads the reply, under the token of the request, if there are
tokens, and with no flag but that it comes from a server. -/
theorem latest_handler_answers (hf : a.Fresh) {calls : List (Registration ι κ τ σ)} (hh : Latest a calls k h)
    {Same : Msg h.request → Msg h.request → Prop} {msg : Msg h.request}
    (hsound : ((a.run calls).dispatcher k).codec.Sound h.request Same msg) {flags : Flags} {under : Option SessionId}
    {frame : Bytes} (hframe : ((a.run calls).dispatcher k).codec.encodeUnder (a.run calls).table h.request msg flags
      under = .ok frame) (s : σ) :
    let d := (a.run calls).dispatcher k
    let m := (a.run calls).table
    (d.dispatch m frame s).1 = (h.run msg s).1 ∧
    (∀ e, (h.run msg s).2 = .error e → (d.dispatch m frame s).2 = .error e) ∧
    ∀ reply Same', (h.run msg s).2 = .ok reply → d.codec.Sound h.reply Same' reply →
      d.codec.Fits h.reply reply → ∃ answer, (d.dispatch m frame s).2 = .ok answer ∧
        d.codec.Delivers m answer (m.id? h.reply) .serverToClient (d.codec.token.map fun _ => under.getD .nil)
          h.reply reply := by
  intro d m
  obtain ⟨id, hl⟩ := hh.exists_lookup hf
  have hw : d.Wired m := ((inv_fresh hf).run calls).wired k
  have hid := hw.request id h hl
  obtain ⟨hcarries, -⟩ := Codec.parts_of_encodeUnder hid.1 hframe
  rw [hcarries.encodeUnder_eq] at hframe
  obtain ⟨header, -, -, -, hdec⟩ := Codec.delivers_encodeFrame hsound rfl rfl rfl (.inl .refl) hframe
  have hdispatch := hw.dispatch_of_decode hl hdec s
  refine ⟨by rw [hdispatch], fun e he => ?_, fun reply Same' hreply hsound' hfits => ?_⟩
  · rw [hdispatch]
    dsimp only
    rw [he]
    rfl
  · have hrun : h.run msg s = ((h.run msg s).1, .ok reply) := Prod.ext rfl hreply
    obtain ⟨answer, hok, hanswer⟩ := hw.answers hl hdec hrun hfits
    refine ⟨answer, by rw [hok], ?_⟩
    have hdelivers := Codec.delivers_encodeFrame hsound' rfl rfl rfl (.inl .refl) hanswer
    convert hdelivers using 1
    cases d.codec.token <;> rfl

/-- Two codecs that share a table, and a dispatcher before one of them. -/
def sharedAssembly : Assembly Bool Unit (RecordKey countTypes) (List Record) where
  table := .empty
  codecs _ := .create BodyFormat.bincode.codec (some .u64) .empty
  place _ := true
  handlers _ := []

def replacedHandler : Handler (RecordKey countTypes) (List Record) :=
  ⟨count, count, fun _ seen => (seen, .error (.custom "retired"))⟩

/-- Notes every count that it gets, and sends it back. -/
def recordingHandler : Handler (RecordKey countTypes) (List Record) :=
  ⟨count, count, fun r seen => (seen ++ [r], .ok r)⟩

/-- The other codec gives out the id; one handler takes over from the other. -/
def takeover : List (Registration Bool Unit (RecordKey countTypes) (List Record)) := [
  .decoder false count (some ⟨7⟩), .handler () replacedHandler, .handler () recordingHandler, .type impostor ⟨8⟩]

def fortyTwo : Record := ⟨.record [("adder", .int .i32 42)], []⟩

theorem latest_handler_answers_after_takeover :
    let d := (sharedAssembly.run takeover).dispatcher ()
    let m := (sharedAssembly.run takeover).table
    sharedAssembly.Fresh ∧ Latest sharedAssembly takeover () recordingHandler ∧ ∃ frame,
      d.codec.encodeUnder m count fortyTwo .broadcast (some (.ofNat 9)) = .ok frame ∧
      (d.dispatch m frame []).1 = [fortyTwo] ∧ ∃ answer, (d.dispatch m frame []).2 = .ok answer ∧
        d.codec.Delivers m answer (some ⟨7⟩) .serverToClient (some (.ofNat 9)) count fortyTwo := by
  intro d m
  have hf : sharedAssembly.Fresh := ⟨rfl, fun _ => rfl, fun _ => rfl⟩
  have hh : Latest sharedAssembly takeover () recordingHandler := by
    refine ⟨takeover.take 2, takeover.drop 3, rfl, ⟨_, rfl⟩, fun between h' rest he => ?_⟩
    -- nothing comes behind it but a type that is no dispatcher's
    match between, he with
    | [], he => cases he
    | _ :: between, he => simp [takeover] at he
  have hs : d.codec.Sound count count.Same fortyTwo := by
    refine ⟨fun place s p hs _ => ?_, fun _ => RecordKey.composed rfl rfl, fun _ b hb => ?_⟩
    · cases hs
    · cases hb
      exact ⟨fortyTwo, rfl, rfl, ⟨fun _ => 0, rfl⟩, fun _ => 0, rfl⟩
  obtain ⟨frame, hframe⟩ : ∃ frame,
      d.codec.encodeUnder m count fortyTwo .broadcast (some (.ofNat 9)) = .ok frame := ⟨_, rfl⟩
  obtain ⟨hstate, -, hreply⟩ := latest_handler_answers hf hh hs hframe []
  obtain ⟨answer, hok, hdelivers⟩ := hreply fortyTwo count.Same rfl hs ⟨_, rfl, by decide⟩
  exact ⟨hf, hh, frame, hframe, hstate, answer, hok, hdelivers⟩

end FrameGateway.Assembly
