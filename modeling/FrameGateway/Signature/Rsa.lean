/-! Private keys made of two primes, with what speeds up their use. -/

namespace FrameGateway

structure RsaKey where
  modulus : Nat
  publicExponent : Nat
  privateExponent : Nat
  /-- the two primes -/
  p : Nat
  q : Nat
  /-- the private exponent for each of the primes alone -/
  exponentP : Nat
  exponentQ : Nat
  /-- the inverse of `q` modulo `p` -/
  inverse : Nat
  deriving DecidableEq

namespace RsaKey

def bitLength (n : Nat) : Nat := if n = 0 then 0 else n.log2 + 1

def isOdd (n : Nat) : Bool := n % 2 = 1

/-- Is the key of a size in use, and do its parts fit together? Whether the factors are prime is not looked at,
nor whether the exponents belong to each other. -/
def isSound (k : RsaKey) : Bool :=
  let size := bitLength k.modulus
  let half := (size + 1) / 2
  let isFactor (r : Nat) : Bool := isOdd r && bitLength r = half
  let isExponent (e modulus : Nat) : Bool := isOdd e && e < modulus
  isOdd k.modulus && 2048 ≤ (size + 7) / 8 * 8 && size ≤ 4096 && half % 512 = 0
    && isExponent k.publicExponent (2 ^ 33) && 65537 ≤ k.publicExponent
    && isFactor k.p && isFactor k.q && k.p * k.q % k.modulus = 0
    && isExponent k.privateExponent k.modulus && half < bitLength k.privateExponent
    && isExponent k.exponentP k.p && isExponent k.exponentQ k.q
    && k.inverse < k.p && k.inverse * k.q % k.p = 1

end RsaKey

end FrameGateway
