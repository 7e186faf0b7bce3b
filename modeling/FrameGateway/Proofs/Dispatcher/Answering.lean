import FrameGateway.Proofs.Codec.Registration
import FrameGateway.Proofs.Codec.Room
/-! From a request to its reply. What a dispatcher reads goes to the handler of its type, whose reply is
written under the token of the request; and it can be written if a frame has room for it
(`Dispatcher.Wired.answers`). -/

namespace FrameGateway

variable {τ : Type} [MessageFamily τ]

namespace Codec

/-- A token that was read can be written again. -/
theorem routing_of_decodeHeader {c : Codec τ} {frame body : Bytes} {header : Header} {token : Option SessionId}
    (h : c.decodeHeader frame = .ok ⟨header, token, body⟩) :
    (c.token.map fun _ => token.getD .nil) = token ∧
      ∃ routing, routingBytes c.token (token.getD .nil) = .ok routing := by
  obtain ⟨routing, hr, htoken, -⟩ := parseFrame_eq_ok_iff.mp h
  exact ⟨htoken, routing, hr⟩

end Codec

namespace Dispatcher

variable [DecidableEq τ] {σ : Type} {d : Dispatcher τ σ} {m : TypeTable τ} {frame : Bytes} {id : PacketId}
  {h : Handler τ σ}

/-- A reply is encoded under the token of its request, if there is one. -/
theorem encodeReply_eq {token : Option SessionId}
    (htoken : (d.codec.token.map fun _ => token.getD .nil) = token) {t : τ} (msg : Msg t) :
    d.encodeReply m t msg token = d.codec.encodeFrame m t msg .serverToClient (token.getD .nil) := by
  unfold encodeReply
  cases hf : d.codec.token with
  | none =>
    rw [hf] at htoken
    obtain rfl : token = none := htoken.symm
    rfl
  | some format => exact Codec.encodeRouted_eq hf

/-- A request whose type is known gets the answer of its handler. -/
theorem Wired.dispatch_of_decode (hw : d.Wired m) (hh : d.handlers.lookup id = some h)
    {q : Packet τ h.request} (hq : d.codec.decode m h.request frame = .ok q) (s : σ) :
    d.dispatch m frame s =
      ((h.run q.message s).1, (h.run q.message s).2.bind fun msg => d.encodeReply m h.reply msg q.token) := by
  obtain ⟨body, -, hid, -⟩ := Codec.decode_eq_ok_iff.mp hq
  have hread := hw.request id h hh
  rw [hread.1, Option.some.injEq] at hid
  subst hid
  have hp := (Codec.decodeAny_eq_ok_iff hw.bound hw.matched
    (p := ⟨q.header, q.token, MessageFamily.name h.request, h.request, q.message⟩)).mpr
      ⟨rfl, by rw [Codec.hasDecoder, hread.2]; rfl, hq⟩
  exact dispatch_of_downcast hp hh (DecodedPacket.downcast_type _) s

/-- A reply that fits goes out under the token of the request. -/
theorem Wired.answers (hw : d.Wired m) (hh : d.handlers.lookup id = some h) {q : Packet τ h.request}
    (hq : d.codec.decode m h.request frame = .ok q) {s s' : σ} {reply : Msg h.reply}
    (hrun : h.run q.message s = (s', .ok reply)) (hfits : d.codec.Fits h.reply reply) : ∃ answer,
      d.dispatch m frame s = (s', .ok answer) ∧
        d.codec.encodeFrame m h.reply reply .serverToClient (q.token.getD .nil) = .ok answer := by
  obtain ⟨i, hi, -⟩ := hw.reply id h hh
  obtain ⟨body, hview, -, -⟩ := Codec.decode_eq_ok_iff.mp hq
  obtain ⟨htoken, routing, hr⟩ := Codec.routing_of_decodeHeader hview
  obtain ⟨answer, hok⟩ := hfits.encodeFrame hi hr .serverToClient
  refine ⟨answer, ?_, hok⟩
  rw [hw.dispatch_of_decode hh hq, hrun]
  dsimp only [Except.bind]
  rw [encodeReply_eq htoken, hok]

end Dispatcher

end FrameGateway
