import FrameGateway.Proofs.Dispatcher.Answering
import FrameGateway.Proofs.Dispatcher.Serving
import FrameGateway.Proofs.Relay.Books
import FrameGateway.Proofs.Relay.Choice
/-! A request through a relay, and its reply back. The request goes to the first open backend in line, as
it is. The backend's dispatcher writes the reply under the token that the client has put into its request;
so, whatever has become of the relay meanwhile, the reply goes to this client and to nobody else
(`Relay.reply_returns`). -/

namespace FrameGateway

/-- A relay sees the flags and the token that a frame was written with. -/
theorem Codec.parseFrame_encodeFrame {τ : Type} [DecidableEq τ] [MessageFamily τ] {c : Codec τ}
    {m : TypeTable τ} {t : τ} {msg : Msg t} {flags : Flags} {token : SessionId} {frame : Bytes}
    (h : c.encodeFrame m t msg flags token = .ok frame) : ∃ view, parseFrame c.token frame = .ok view ∧
      view.header.flags = flags ∧ view.token = c.token.map fun _ => token := by
  obtain ⟨header, routing, body, -, hflags, hr, -, hl, rfl⟩ := Codec.encodeFrame_eq_ok h
  exact ⟨_, parseFrame_append hr hl, hflags, rfl⟩

namespace Relay

variable {r r' : Relay} {role : Role} {target : Handle} {frame : Bytes} {view : FrameView}

/-- Of those whom a frame from that side can be for, one has got it, at the end of a queue of its own that
had room for it; and no other queue has changed. -/
structure DeliversTo (r r' : Relay) (role : Role) (target : Handle) (frame : Bytes) : Prop where
  member : target ∈ r.broadcastTargets role
  delivered : ∃ o, r.boxes.get? target.outbox = some o ∧ o.isOpen = true ∧ o.frames.length < o.capacity ∧
    r'.boxes.get? target.outbox = some { o with frames := o.frames ++ [frame] }
  apart : ∀ h ∈ r.broadcastTargets role, h ≠ target → h.outbox ≠ target.outbox
  untouched : ∀ i ≠ target.outbox, r'.boxes.get? i = r.boxes.get? i

theorem Sound.deliversTo (hs : r.Sound) (role : Role) (hm : target ∈ r.broadcastTargets role) {o : Outbox}
    (ho : r.boxes.get? target.outbox = some o) (hopen : o.isOpen = true)
    (hroom : o.frames.length < o.capacity) (hb : r'.boxes = r.boxes.push frame target.outbox) :
    r.DeliversTo r' role target frame := by
  refine ⟨hm, ⟨o, ho, hopen, hroom, ?_⟩, fun h hh hne he => hne ?_, fun i hi => ?_⟩
  · rw [hb, Outboxes.get?_push_self, ho, Option.map_some]
  · exact List.inj_on_of_nodup_map (hs.nodup_outboxes role) hh hm he
  · rw [hb, Outboxes.get?_push_of_ne (Ne.symm hi)]

/-! ### To a backend -/

def first? (r : Relay) : Option Handle := r.pool.turns.find? fun h => !r.isClosed h

theorem mem_of_first? (h : r.first? = some target) : target ∈ r.pool.members :=
  Pool.mem_turns.mp (List.mem_of_find?_eq_some h)

theorem forwardNext_of_closed_line (hp : r.pool.Valid) (h : r.first? = none) (frame : Bytes) :
    (r.forwardNext frame).2 = .error .noSessionsAvailable := by
  rw [first?, List.find?_not_eq_head?_dropWhile, List.head?_eq_none_iff] at h
  obtain ⟨p, -, -, hforward⟩ := forwardNext_eq hp frame
  rw [h] at hforward
  rw [hforward.2]

theorem forwardNext_of_first (hp : r.pool.Valid) (h : r.first? = some target) (frame : Bytes) :
    r.Tried (r.forwardNext frame).1 target frame (r.forwardNext frame).2 := by
  rw [first?, List.find?_not_eq_head?_dropWhile, List.head?_eq_some_iff] at h
  obtain ⟨rest, h⟩ := h
  obtain ⟨p, -, -, hforward⟩ := forwardNext_eq hp frame
  rw [h] at hforward
  obtain ⟨-, hopen, hforward⟩ := hforward
  rw [hforward]
  exact (offerTo_of_open (r := r.withPruned p (r.pool.turns.takeWhile r.isClosed)) hopen frame).1

/-- A frame that names no backend is tried with the first open one in line. -/
theorem fromClient_first (hp : r.pool.Valid) (hv : parseFrame r.token frame = .ok view)
    (hb : view.header.flags.isBroadcast = false) (hd : view.header.flags.isRedirect = false)
    (source : SessionId) :
    let out := r.fromClient source frame
    (r.first? = none → out.2 = .error .noSessionsAvailable) ∧
      ∀ target, r.first? = some target → r.Tried out.1 target frame out.2 := by
  intro out
  have hname : r.named? view = none := by simp [named?, hd]
  have hout : out = finish source frame ((r.receive frame).forwardNext frame) := by
    rw [show out = _ from fromClient_of_view hv hb source, hname]
  obtain ⟨hresult, -, hboxes, -⟩ := finish_eq source frame ((r.receive frame).forwardNext frame)
  rw [← hout] at hresult hboxes
  refine ⟨fun hf => hresult.trans ?_, fun target hf => ?_⟩
  · exact forwardNext_of_closed_line (r := r.receive frame) hp hf frame
  · obtain ⟨o, ho, hopen, htried⟩ := forwardNext_of_first (r := r.receive frame) hp hf frame
    refine ⟨o, ho, hopen, ?_⟩
    rwa [hresult, hboxes]

/-- What is relayed has gone to the first open backend, and it is relayed if there is room. -/
theorem fromClient_deliversTo (hs : r.Sound) (hp : r.pool.Valid) (hv : parseFrame r.token frame = .ok view)
    (hb : view.header.flags.isBroadcast = false) (hd : view.header.flags.isRedirect = false)
    (source : SessionId) :
    let out := r.fromClient source frame
    (∀ n, out.2 = .ok n →
      n = 1 ∧ ∃ backend, r.first? = some backend ∧ r.DeliversTo out.1 .client backend frame) ∧
    ∀ backend, r.first? = some backend → r.boxes.refusal? backend.outbox = none → out.2 = .ok 1 := by
  intro out
  obtain ⟨hnobody, htried⟩ := fromClient_first hp hv hb hd source
  refine ⟨fun n hn => ?_, fun backend hf hroom => ?_⟩
  · cases hf : r.first? with
    | none =>
      rw [show out.2 = _ from hnobody hf] at hn
      cases hn
    | some target =>
      obtain ⟨o, ho, hopen, ⟨hroom, hresult, hboxes⟩ | ⟨-, hresult, -⟩⟩ := htried target hf
      · rw [show out.2 = _ from hresult] at hn
        cases hn
        exact ⟨rfl, target, rfl, hs.deliversTo .client (mem_of_first? hf) ho hopen hroom hboxes⟩
      · rw [show out.2 = _ from hresult] at hn
        cases hn
  · obtain ⟨o, ho, -, ⟨-, hresult, -⟩ | ⟨hfull, -⟩⟩ := htried backend hf
    · exact hresult
    · obtain ⟨o', ho', -, hfree⟩ := Outboxes.exists_of_refusal?_eq_none hroom
      rw [ho, Option.some.injEq] at ho'
      subst ho'
      omega

/-! ### To a client -/

theorem Sound.client?_eq (hs : r.Sound) (hm : target ∈ r.clients) : r.client? target.id = some target := by
  unfold client?
  cases hf : r.clients.find? (·.id == target.id) with
  | none =>
    have hnone := List.find?_eq_none.mp hf target hm
    simp at hnone
  | some h =>
    have hid : h.id = target.id := by simpa using List.find?_some hf
    rw [List.inj_on_of_nodup_map hs.clients (List.mem_of_find?_eq_some hf) hm hid]

theorem fromBackend_deliversTo (hs : r.Sound) (hv : parseFrame r.token frame = .ok view)
    (hb : view.header.flags.isBroadcast = false) (hm : target ∈ r.clients)
    (ht : view.token = some target.id) (hr : r.boxes.refusal? target.outbox = none) (source : SessionId) :
    (r.fromBackend source frame).2 = .ok 1 ∧
      r.DeliversTo (r.fromBackend source frame).1 .backend target frame := by
  have hclient : (r.receive frame).client? target.id = some target := hs.client?_eq hm
  have hoffer : (r.receive frame).boxes.offer target.outbox frame = .ok (r.boxes.push frame target.outbox) := by
    rw [show (r.receive frame).boxes = r.boxes from rfl, Outboxes.offer_eq, hr]
  have hout : r.fromBackend source frame =
      finish source frame ({ r.receive frame with boxes := r.boxes.push frame target.outbox }, .ok 1) := by
    unfold fromBackend routeFromBackend
    simp only [parse_of_view hv, hb, ht, hclient, hoffer]
    rfl
  obtain ⟨o, ho, hopen, hroom⟩ := Outboxes.exists_of_refusal?_eq_none hr
  rw [hout]
  exact ⟨rfl, hs.deliversTo .backend hm ho hopen hroom rfl⟩

/-! ### There and back -/

section

variable {ι κ τ σ : Type} [DecidableEq ι] [DecidableEq κ] [DecidableEq τ] [MessageFamily τ]

/-- A client sends a request under its own id, for nobody in particular, through a relay that reads the
tokens of its codec. What is relayed of it has gone to one open backend, and it is relayed if the first
open backend in line has room. If the handler there makes a reply of it that fits into a frame, this is
what the dispatcher answers; and whichever relay the answer comes to that has the client among its
clients, and room in its queue, hands it to this client and to no other, who reads in it the reply, its
own id, and that it comes from a server. -/
theorem reply_returns {a : Assembly ι κ τ σ} (ha : a.Reached) {k : κ} {id : PacketId} {h : Handler τ σ}
    (hh : (a.dispatcher k).handlers.lookup id = some h) {c : Codec τ} {m : TypeTable τ}
    (hbody : c.body = (a.dispatcher k).codec.body) (hoverrides : c.overrides = (a.dispatcher k).codec.overrides)
    (htoken : c.token = (a.dispatcher k).codec.token) (hrequest : m.Agree a.table h.request)
    (hreply : a.table.Agree m h.reply) {f : TokenFormat} (hf : c.token = some f) {client : Handle}
    {msg : Msg h.request} {Same : Msg h.request → Msg h.request → Prop} (hsound : c.Sound h.request Same msg)
    {flags : Flags} (hb : flags.isBroadcast = false) (hd : flags.isRedirect = false) {frame : Bytes}
    (hframe : c.encodeRouted m h.request msg flags client.id = .ok frame) {r : Relay} (hr : r.Sound)
    (hp : r.pool.Valid) (hrf : r.token = some f) :
    let sent := r.fromClient client.id frame
    (∀ n, sent.2 = .ok n →
      n = 1 ∧ ∃ backend, r.first? = some backend ∧ r.DeliversTo sent.1 .client backend frame) ∧
    (∀ backend, r.first? = some backend → r.boxes.refusal? backend.outbox = none → sent.2 = .ok 1) ∧
    ∀ s s' reply Same', h.run msg s = (s', .ok reply) → (a.dispatcher k).codec.Fits h.reply reply →
      (a.dispatcher k).codec.Sound h.reply Same' reply → ∃ answer,
        (a.dispatcher k).dispatch a.table frame s = (s', .ok answer) ∧
        (∀ later : Relay, later.Sound → later.token = some f → client ∈ later.clients →
          later.boxes.refusal? client.outbox = none → ∀ source,
            (later.fromBackend source answer).2 = .ok 1 ∧
            later.DeliversTo (later.fromBackend source answer).1 .backend client answer) ∧
        c.Delivers m answer (a.table.id? h.reply) .serverToClient (some client.id) h.reply reply := by
  intro sent
  rw [Codec.encodeRouted_eq hf] at hframe
  obtain ⟨view, hv, hflags, -⟩ := Codec.parseFrame_encodeFrame hframe
  rw [hf, ← hrf] at hv
  obtain ⟨hgone, hgoes⟩ := fromClient_deliversTo hr hp hv (hflags ▸ hb) (hflags ▸ hd) client.id
  refine ⟨hgone, hgoes, fun s s' reply Same' hrun hfits hsound' => ?_⟩
  obtain ⟨header, -, -, -, hdec⟩ :=
    Codec.delivers_encodeFrame hsound hbody.symm hoverrides.symm htoken.symm hrequest hframe
  rw [hf, Option.map_some] at hdec
  obtain ⟨answer, hdispatch, hanswer⟩ := (ha.inv.wired k).answers hh hdec hrun hfits
  rw [Option.getD_some] at hanswer
  refine ⟨answer, hdispatch, fun later hs ht hm hroom source => ?_, ?_⟩
  · obtain ⟨view, hv, hflags, hid⟩ := Codec.parseFrame_encodeFrame hanswer
    rw [← htoken, hf] at hv hid
    rw [← ht] at hv
    exact fromBackend_deliversTo hs hv (by rw [hflags]; rfl) hm hid hroom source
  · have hdelivers := Codec.delivers_encodeFrame hsound' hbody hoverrides htoken hreply hanswer
    rw [← htoken, hf] at hdelivers
    exact hdelivers

end

open Assembly (count countTypes echo)

/-- A dispatcher that answers counts, behind a gateway with small tokens. -/
def countServer : Assembly Unit Unit (RecordKey countTypes) Nat :=
  (Assembly.mk .empty (fun _ => .create BodyFormat.bincode.codec (some .u32) .empty) id fun _ => []).run [
    .decoder () count (some ⟨7⟩), .handler () echo]

def aCount : Record := ⟨.record [("adder", .int .i32 42)], []⟩

theorem sound_countServer : (countServer.dispatcher ()).codec.Sound count count.Same aCount := by
  refine ⟨fun place s p hs _ => ?_, fun _ => RecordKey.composed rfl rfl, fun _ b hb => ?_⟩
  · cases hs
  · cases hb
    exact ⟨aCount, rfl, rfl, ⟨fun _ => 0, rfl⟩, fun _ => 0, rfl⟩

def askingClient : Handle := ⟨.ofNat 9, ⟨0⟩⟩

def openBackend : Handle := ⟨.ofNat 2, ⟨3⟩⟩

/-- Two clients and two backends, the first of which is gone. -/
def closedBeforeOpen : Relay := { create (some .u32) with
  clients := [askingClient, ⟨.ofNat 8, ⟨1⟩⟩]
  pool := ⟨[⟨.ofNat 1, ⟨2⟩⟩, openBackend], 0⟩
  boxes := ⟨[.create 1, .create 1, (Outbox.create 1).close, .create 1]⟩ }

def countRequest : Bytes := [14, 0, 0, 0, 0, 0, 7, 0, 9, 0, 0, 0, 42, 0, 0, 0]

/-- One of the clients asks, and gets its answer through the relay as it is after the request. -/
theorem reply_returns_past_closed :
    let d := countServer.dispatcher ()
    let later := (closedBeforeOpen.fromClient askingClient.id countRequest).1
    d.codec.encodeRouted countServer.table count aCount .none askingClient.id = .ok countRequest ∧
      closedBeforeOpen.DeliversTo later .client openBackend countRequest ∧ ∃ answer,
      d.dispatch countServer.table countRequest 0 = (1, .ok answer) ∧
      later.DeliversTo (later.fromBackend openBackend.id answer).1 .backend askingClient answer ∧
      d.codec.Delivers countServer.table answer (some ⟨7⟩) .serverToClient (some askingClient.id) count aCount := by
  intro d later
  have hreached : countServer.Reached := ⟨_, _, ⟨rfl, fun _ => rfl, fun _ => rfl⟩, rfl⟩
  have hecho : (countServer.dispatcher ()).handlers.lookup ⟨7⟩ = some echo := rfl
  have hquestion : d.codec.encodeRouted countServer.table count aCount .none askingClient.id = .ok countRequest := rfl
  have hr : closedBeforeOpen.Sound := ⟨by decide, by decide, by decide⟩
  have hp : closedBeforeOpen.pool.Valid := ⟨by decide, .inl (by decide)⟩
  obtain ⟨hgone, hgoes, hanswers⟩ := reply_returns hreached hecho rfl rfl rfl (.inl .refl) (.inl .refl) rfl
    sound_countServer (by rfl) (by rfl) hquestion hr hp rfl
  have hfirst : closedBeforeOpen.first? = some openBackend := by decide
  obtain ⟨-, backend, hbackend, deliversTo⟩ := hgone 1 (hgoes openBackend hfirst (by decide))
  rw [hfirst, Option.some.injEq] at hbackend
  subst hbackend
  obtain ⟨answer, hdispatch, hback, hdelivers⟩ :=
    hanswers 0 1 aCount count.Same rfl ⟨[42, 0, 0, 0], by rfl, by decide⟩ sound_countServer
  -- the backend that was gone has left, and the other one has the question
  have hlater : (closedBeforeOpen.fromClient askingClient.id countRequest).1 = { closedBeforeOpen with
      pool := ⟨[openBackend], 0⟩
      boxes := closedBeforeOpen.boxes.push countRequest openBackend.outbox
      counters := { framesReceived := 1, bytesReceived := 16, framesRelayed := 1 }
      events := [.closed (.ofNat 1) .backend] } := by cbv
  have hs : later.Sound := by
    rw [show later = _ from hlater]
    exact ⟨by decide, by decide, by decide⟩
  have hm : later.token = some .u32 ∧ askingClient ∈ later.clients ∧
      later.boxes.refusal? askingClient.outbox = none := by
    rw [show later = _ from hlater]
    decide
  obtain ⟨-, hreturned⟩ := hback later hs hm.1 hm.2.1 hm.2.2 openBackend.id
  exact ⟨hquestion, deliversTo, answer, hdispatch, hreturned, hdelivers⟩

end Relay

end FrameGateway
