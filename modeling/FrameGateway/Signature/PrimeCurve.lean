import FrameGateway.Bytes
import FrameGateway.Signature.Doubling
/-! The curves `y² = x³ - 3 x + b` of the standard for signatures, over the integers modulo a prime, and
the public key that belongs to a secret one. The constant `b` takes no part in the addition of points. -/

namespace FrameGateway

structure PrimeCurve where
  /-- the field's prime -/
  p : Nat
  /-- the base point, by its coordinates -/
  base : Nat × Nat
  /-- the prime order of the base point -/
  order : Nat
  /-- bytes of a coordinate, and of a secret key -/
  width : Nat

namespace PrimeCurve

def p256 : PrimeCurve where
  p := 2 ^ 256 - 2 ^ 224 + 2 ^ 192 + 2 ^ 96 - 1
  base := (0x6b17d1f2e12c4247f8bce6e563a440f277037d812deb33a0f4a13945d898c296,
    0x4fe342e2fe1a7f9b8ee7eb4a7c0f9e162bce33576b315ececbb6406837bf51f5)
  order := 0xffffffff00000000ffffffffffffffffbce6faada7179e84f3b9cac2fc632551
  width := 32

def p384 : PrimeCurve where
  p := 2 ^ 384 - 2 ^ 128 - 2 ^ 96 + 2 ^ 32 - 1
  base :=
    (0xaa87ca22be8b05378eb1c71ef320ad746e1d3b628ba79b9859f741e082542a385502f25dbf55296c3a545e3872760ab7,
      0x3617de4a96262c6f5d9e98bf9292dc29f8f41dbd289a147ce9da3113b5f0b8c00a60b1ce1d7e819d7a431d7c90ea0e5f)
  order :=
    0xffffffffffffffffffffffffffffffffffffffffffffffffc7634d81f4372ddf581a0db248b0a77aecec196accc52973
  width := 48

/-- A point by its coordinates, or none for the point at infinity. -/
abbrev Point := Option (Nat × Nat)

variable (c : PrimeCurve)

def inv (a : Nat) : Nat := copies (fun x y => x * y % c.p) (1 % c.p) (8 * c.width) (c.p - 2) a

def div (a b : Nat) : Nat := a * c.inv b % c.p

/-- The slope of the line through two points, or of the tangent if they are the same; none if the line is
upright. -/
def slope? : Nat × Nat → Nat × Nat → Option Nat
  | (x₁, y₁), (x₂, y₂) =>
    if x₁ ≠ x₂ then some (c.div (y₂ + c.p - y₁) (x₂ + c.p - x₁))
    else if y₁ = y₂ ∧ y₁ ≠ 0 then some (c.div (3 * x₁ * x₁ + c.p - 3) (2 * y₁))
    else none

/-- The third point of the line, on the other side of the axis. -/
def add : Point → Point → Point
  | none, b => b
  | a, none => a
  | some (x₁, y₁), some (x₂, y₂) => (c.slope? (x₁, y₁) (x₂, y₂)).map fun k =>
    let x := (k * k + 2 * c.p - x₁ - x₂) % c.p
    (x, (k * (x₁ + c.p - x) + c.p - y₁) % c.p)

def mul (n : Nat) (a : Point) : Point := copies c.add none (8 * c.width) n a

/-- The public key of a secret one: a mark, and both coordinates. -/
def publicKey? (secret : Bytes) : Option Bytes := do
  let n := beNat secret
  if secret.length ≠ c.width ∨ n = 0 ∨ c.order ≤ n then none
  let (x, y) ← c.mul n (some c.base)
  return 0x04 :: (beBytes c.width x ++ beBytes c.width y)

end PrimeCurve

end FrameGateway
