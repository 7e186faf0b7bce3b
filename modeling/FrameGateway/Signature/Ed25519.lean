import FrameGateway.Digest.Sha512
import FrameGateway.Signature.Curve
import FrameGateway.Text.Debug
/-! Ed25519 signatures. Verification is strict: keys and commitments of small order are refused, the
scalar has to be reduced, and the commitment is compared by its bytes, without the cofactor. -/

namespace FrameGateway

inductive SignatureFault where
  | invalidPublicKey (reason : String)
  | malformedSignature (expected found : Nat)
  | verifyFailed
  deriving DecidableEq, Repr

def SignatureFault.message : SignatureFault → String
  | invalidPublicKey t => s!"Invalid public key: {t}"
  | malformedSignature e f => s!"Invalid signature encoding: expected {e} bytes, found {f}"
  | verifyFailed => "Signature verification failed"

def SignatureFault.kind : SignatureFault → String
  | invalidPublicKey _ => "InvalidPublicKey"
  | malformedSignature .. => "MalformedSignature"
  | verifyFailed => "VerifyFailed"

/-- Checks a signature: public key, message, signature. -/
abbrev Verifier := Bytes → Bytes → Bytes → Except SignatureFault Unit

namespace Ed25519

open Curve

def keySize : Nat := 32
def signatureSize : Nat := 64

def challenge (r key msg : Bytes) : Nat := leNat (sha512 (r ++ (key ++ msg))) % order

/-- The strict verifier: key length, key, signature length, then the signature itself. -/
def verify : Verifier := fun key msg sig => do
  if key.length ≠ keySize then
    throw (.invalidPublicKey s!"expected {keySize} bytes, found {key.length}")
  let some a := Point.decode? key | throw (.invalidPublicKey "not a point of the curve")
  if sig.length ≠ signatureSize then throw (.malformedSignature signatureSize sig.length)
  let r := sig.take 32
  let s := leNat (sig.drop 32)
  if s ≥ order then throw .verifyFailed
  let some rp := Point.decode? r | throw .verifyFailed
  if rp.isSmallOrder || a.isSmallOrder then throw .verifyFailed
  let expected := (Point.base.mul s).add (a.neg.mul (challenge r key msg))
  if expected.encode = r then return () else throw .verifyFailed

/-- Clears the cofactor's bits and fixes the highest bit. -/
def clamp (n : Nat) : Nat := n % 2 ^ 254 / 8 * 8 + 2 ^ 254

end Ed25519

/-- A key pair, from 32 secret bytes. -/
structure KeyPair where
  secret : Bytes
  scalar : Nat
  nonceKey : Bytes
  publicKey : Bytes

namespace KeyPair

open Curve Ed25519

def ofSecret (secret : Bytes) : KeyPair :=
  let h := sha512 secret
  let scalar := clamp (leNat (h.take 32))
  ⟨secret, scalar, h.drop 32, (Point.base.mul scalar).encode⟩

/-- The signature of a message; the same message is always signed alike. -/
def sign (k : KeyPair) (msg : Bytes) : Bytes :=
  let n := leNat (sha512 (k.nonceKey ++ msg)) % order
  let r := (Point.base.mul n).encode
  let s := (n + challenge r k.publicKey msg * k.scalar) % order
  r ++ leBytes 32 s

def debugText (k : KeyPair) : String :=
  debugOpenRecord "NodeKeypair" [("public_key", debugList (k.publicKey.map fun b => toString b.toNat))]

end KeyPair

end FrameGateway
