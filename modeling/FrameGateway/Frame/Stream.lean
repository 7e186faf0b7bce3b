import FrameGateway.Frame.Header
/-! Frames out of a byte stream. A stream is cut by its length fields alone; what has not arrived
yet is waited for, and a length field too small to cover a header ends the stream's usefulness. -/

namespace FrameGateway.FrameStream

/-- The first frame of a buffer and what follows it; `none` while its bytes are still missing. -/
def next? (buf : Bytes) : Except Fault (Option (Bytes × Bytes)) :=
  match buf with
  | l0 :: l1 :: _ =>
    let declared := leNat [l0, l1]
    if declared < minDeclared then .error .truncatedHeader
    else
      let total := lengthSize + declared
      let (frame, rest) := buf.splitAt total
      if frame.length < total then .ok none else .ok (some (frame, rest))
  | _ => .ok none

theorem length_rest_lt {buf frame rest : Bytes} (h : next? buf = .ok (some (frame, rest))) :
    rest.length < buf.length := by
  unfold next? at h
  split at h
  · dsimp only at h
    split at h
    · cases h
    · split at h
      · cases h
      · simp only [Except.ok.injEq, Option.some.injEq, List.splitAt_eq, Prod.mk.injEq] at h
        rw [← h.2]
        simp [lengthSize]
        omega
  · cases h

/-- Bytes that the first frame of a buffer still lacks; zero while its length has not arrived. -/
def missing (buf : Bytes) : Nat :=
  match buf with
  | l0 :: l1 :: _ => lengthSize + leNat [l0, l1] - buf.length
  | _ => 0

/-- Where taking frames off a buffer stopped: the frames, the bytes left, and the fault if one
stopped it. -/
structure Drained where
  frames : List Bytes
  rest : Bytes
  fault : Option Fault

def drain (buf : Bytes) : Drained :=
  match h : next? buf with
  | .error e => ⟨[], buf, some e⟩
  | .ok none => ⟨[], buf, none⟩
  | .ok (some (frame, rest)) =>
    have := length_rest_lt h
    let d := drain rest
    ⟨frame :: d.frames, d.rest, d.fault⟩
termination_by buf.length

/-- The last frames of a stream that has ended: left-over bytes are a fault. -/
def finish? (buf : Bytes) : Except Fault (Option (Bytes × Bytes)) := do
  match ← next? buf with
  | some r => return some r
  | none => if buf.isEmpty then return none else throw .bytesRemaining

/-- A frame is written as it is, once its header has been checked. -/
def encode (frame : Bytes) : Except Fault Bytes := do
  let _ ← Header.parse frame
  return frame

end FrameGateway.FrameStream
