import FrameGateway.Signature.Ed25519
import FrameGateway.Signature.PrimeCurve
import FrameGateway.Signature.Rsa
import FrameGateway.Tls.Der
/-! Which private keys can sign: those of a known kind and size, whose parts belong together. A key is wrapped
with the name of its algorithm; one with two prime factors, or on a prime curve, may also come bare. -/

namespace FrameGateway.SigningKey

open Der

structure Wrapped where
  algorithm : Bytes
  key : Bytes
  /-- comes with keys of the second version -/
  publicKey : Option Bytes
  deriving DecidableEq

/-- The public key behind a wrapped one, with its tag in the place of that of a bit string, or around it. -/
def publicKey? (bs : Bytes) : Option Bytes := do
  let (key, rest) ← match value? (context 1) bs with
    | some (v, rest) => (whole? bitString v).bind fun v => (wholeBytes? v).map (·, rest)
    | none => bits? (implicit 1) bs
  if rest.isEmpty then return key else none

/-- Takes the wrapping off. Attributes are passed over. -/
def unwrap? (bs : Bytes) : Option Wrapped := do
  let (version, rest) ← small? (← whole? sequence bs)
  let (algorithm, rest) ← value? sequence rest
  let (key, rest) ← value? octetString rest
  let rest := ((value? (context 0) rest).map (·.2)).getD rest
  match version with
  | 0 => if rest.isEmpty then return ⟨algorithm, key, none⟩ else none
  | 1 => return ⟨algorithm, key, some (← publicKey? rest)⟩
  | _ => none

/-- The key inside a wrapping of the first version for an algorithm. -/
def plain? (algorithm bs : Bytes) : Option Bytes := do
  let w ← unwrap? bs
  if w.algorithm = algorithm ∧ w.publicKey = none then return w.key else none

/-! ### Keys with two prime factors -/

/-- The name `1.2.840.113549.1.1.1`, and no parameters. -/
def rsaAlgorithm : Bytes :=
  [0x06, 0x09, 0x2a, 0x86, 0x48, 0x86, 0xf7, 0x0d, 0x01, 0x01, 0x01, 0x05, 0x00]

/-- A key with two factors: a version, and its eight numbers. -/
def rsaKey? (bs : Bytes) : Option RsaKey := do
  let (version, rest) ← small? (← whole? sequence bs)
  match version, ← naturals? rest with
  | 0, [n, e, d, p, q, dp, dq, i] => return ⟨n, e, d, p, q, dp, dq, i⟩
  | _, _ => none

def isRsa (bs : Bytes) : Bool := (rsaKey? bs).any (·.isSound)

/-! ### Keys on prime curves -/

def curveName : List (PrimeCurve × Bytes) :=
  [(.p256, [0x06, 0x08, 0x2a, 0x86, 0x48, 0xce, 0x3d, 0x03, 0x01, 0x07]),
    (.p384, [0x06, 0x05, 0x2b, 0x81, 0x04, 0x00, 0x22])]

/-- The name `1.2.840.10045.2.1`, and that of the curve. -/
def curveAlgorithm (name : Bytes) : Bytes :=
  [0x06, 0x07, 0x2a, 0x86, 0x48, 0xce, 0x3d, 0x02, 0x01] ++ name

/-- A key on a curve: a version, the secret, perhaps the curve's name, and the public key, which has to be
there and to be the right one. -/
def isOnCurve (c : PrimeCurve) (name : Bytes) (bs : Bytes) : Bool := Option.isSome do
  let (version, rest) ← small? (← whole? sequence bs)
  if version ≠ 1 then none
  let (secret, rest) ← value? octetString rest
  let rest ← match value? (context 0) rest with
    | some (given, rest) => if given = name then some rest else none
    | none => some rest
  let key ← wholeBytes? (← whole? bitString (← whole? (context 1) rest))
  if c.publicKey? secret = some key then return () else none

/-! ### Ed25519 keys -/

/-- The name `1.3.101.112`. -/
def ed25519Algorithm : Bytes := [0x06, 0x03, 0x2b, 0x65, 0x70]

/-- A wrapped secret. If a public key comes with it, it has to be the right one. -/
def isEd25519 (w : Wrapped) : Bool := Option.isSome do
  let secret ← whole? octetString w.key
  if w.algorithm = ed25519Algorithm ∧ secret.length = 32 ∧
    w.publicKey.all (· == (KeyPair.ofSecret secret).publicKey) then return () else none

end SigningKey

def isSigningKey (bs : Bytes) : Bool :=
  SigningKey.isRsa bs || (SigningKey.plain? SigningKey.rsaAlgorithm bs).any SigningKey.isRsa
    || SigningKey.curveName.any (fun (c, name) => SigningKey.isOnCurve c name bs
      || (SigningKey.plain? (SigningKey.curveAlgorithm name) bs).any (SigningKey.isOnCurve c name))
    || (SigningKey.unwrap? bs).any SigningKey.isEd25519

end FrameGateway
