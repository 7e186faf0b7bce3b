import FrameGateway.Tls.Der
/-! Which certificates can stand for an authority: those whose parts are all in their places. Neither
their dates nor their signatures are looked at here. -/

namespace FrameGateway.Certificate

open Der

/-- The kinds of extension that are understood, `2.5.29.n` each. All others have to be optional. -/
def knownKinds : List UInt8 := [15, 17, 19, 30, 37]

/-- The kind that allows uses of a key. What it says is not looked at, unlike that of the others, each of
which is one sequence. -/
def keyUsage : UInt8 := 15

/-- One extension: its kind, if that is known, once its parts are in their places. -/
def extension? (bs : Bytes) : Option (Option UInt8) := do
  let (kind, rest) ← value? oid bs
  let (critical, rest) ← match value? boolean rest with
    | some ([b], rest) => if b = 0xff then some (true, rest) else if b = 0 then some (false, rest) else none
    | some _ => none
    | none => some (false, rest)
  let content ← whole? octetString rest
  match kind with
  | [0x55, 0x1d, n] =>
    if knownKinds.contains n then
      if n ≠ keyUsage then
        let _ ← whole? sequence content
      return some n
    else if critical then none else return none
  | _ => if critical then none else return none

/-- There is an extension at least, and no known kind comes twice. -/
def extensions? (bs : Bytes) : Option Unit := do
  let kinds ← (← items? sequence (← whole? sequence (← whole? (context 3) bs))).mapM extension?
  if ¬ kinds.isEmpty ∧ (kinds.filterMap id).Nodup then return () else none

/-- The signed part behind the version: serial number, algorithm, issuer, validity, subject and key;
what follows the key is handed back. -/
def body? (algorithm : Option Bytes) (bs : Bytes) : Option Bytes := do
  let (_, bs) ← value? integer bs
  let (a, bs) ← value? sequence bs
  if algorithm.any (· ≠ a) then none
  let (_, bs) ← value? sequence bs
  let (_, bs) ← value? sequence bs
  let (_, bs) ← value? sequence bs
  let (_, bs) ← value? sequence bs
  return bs

/-- A certificate has fewer bytes inside its sequence. -/
def sizeLimit : Nat := 0xffff

/-- The signed part and the algorithm; a signature follows them. -/
def parts? (bs : Bytes) : Option (Bytes × Bytes) := do
  let content ← whole? sequence bs
  if sizeLimit ≤ content.length then none
  let (signed, rest) ← value? sequence content
  let (algorithm, rest) ← value? sequence rest
  let (_, rest) ← bits? bitString rest
  if rest.isEmpty then return (signed, algorithm) else none

/-- A certificate of the third version, with extensions, or of the first, without. -/
def isAuthority (bs : Bytes) : Bool := Option.isSome do
  let (signed, algorithm) ← parts? bs
  match (value? (context 0) signed).bind fun (v, rest) => do
      let (n, r) ← small? v
      if n = 2 && r.isEmpty then some rest else none with
  | some rest =>
    let rest ← body? (some algorithm) rest
    if rest.isEmpty then return () else extensions? rest
  | none =>
    let rest ← body? none signed
    if rest.isEmpty then return () else none

end FrameGateway.Certificate
