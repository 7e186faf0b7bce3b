import FrameGateway.Bytes
import FrameGateway.Signature.Doubling
/-! The twisted Edwards curve `-x² + y² = 1 + d x² y²` over the integers modulo `2 ^ 255 - 19`, in
extended coordinates, with the 32-byte form of its points. -/

namespace FrameGateway.Curve

def p : Nat := 2 ^ 255 - 19

def order : Nat := 2 ^ 252 + 27742317777372353535851937790883648493

structure Elem where
  val : Nat
  deriving DecidableEq, Inhabited

namespace Elem

def ofNat (n : Nat) : Elem := ⟨n % p⟩
def add (a b : Elem) : Elem := ofNat (a.val + b.val)
def neg (a : Elem) : Elem := ofNat (p - a.val)
def sub (a b : Elem) : Elem := a.add b.neg
def mul (a b : Elem) : Elem := ofNat (a.val * b.val)

instance : Add Elem := ⟨add⟩
instance : Neg Elem := ⟨neg⟩
instance : Sub Elem := ⟨sub⟩
instance : Mul Elem := ⟨mul⟩

def zero : Elem := ⟨0⟩
def one : Elem := ⟨1⟩

def pow (a : Elem) (n : Nat) : Elem := copies (· * ·) one 256 n a

def inv (a : Elem) : Elem := a.pow (p - 2)

/-- A square root of minus one. -/
def rootOfMinusOne : Elem := (ofNat 2).pow ((p - 1) / 4)

/-- The even one of the two roots of `u / v`, if the quotient is a square. -/
def sqrtRatio? (u v : Elem) : Option Elem :=
  let v3 := v * v * v
  let r := u * v3 * (u * v3 * v3 * v).pow ((p - 5) / 8)
  let check := v * r * r
  let root? := if check = u then some r else if check = -u then some (r * rootOfMinusOne) else none
  root?.map fun r => if r.val % 2 = 1 then -r else r

end Elem

def d : Elem := -(Elem.ofNat 121665 * (Elem.ofNat 121666).inv)

/-- The point `(x / z, y / z)`, with `x y = z t`. -/
structure Point where
  (x y z t : Elem)
  deriving Inhabited

namespace Point

def identity : Point := ⟨.zero, .one, .one, .zero⟩

/-- The curve's addition; it holds for equal points too. -/
def add (a b : Point) : Point :=
  let aa := (a.y - a.x) * (b.y - b.x)
  let bb := (a.y + a.x) * (b.y + b.x)
  let cc := (d + d) * a.t * b.t
  let dd := (a.z + a.z) * b.z
  let e := bb - aa
  let f := dd - cc
  let g := dd + cc
  let h := bb + aa
  ⟨e * f, g * h, f * g, e * h⟩

def neg (a : Point) : Point := ⟨-a.x, a.y, a.z, -a.t⟩

def double (a : Point) : Point := add a a

def mul (n : Nat) (a : Point) : Point := copies add identity 256 n a

def isIdentity (a : Point) : Bool := a.x = .zero && a.y = a.z

def isSmallOrder (a : Point) : Bool := a.double.double.double.isIdentity

/-- The little-endian `y`, with the parity of `x` in the highest bit. -/
def encode (a : Point) : Bytes :=
  let zi := a.z.inv
  let x := a.x * zi
  let y := a.y * zi
  leBytes 32 (y.val + (x.val % 2) * 2 ^ 255)

/-- The point with these 32 bytes. A `y` that is not reduced is taken modulo the prime. -/
def decode? (bs : Bytes) : Option Point :=
  let n := leNat bs
  let y := Elem.ofNat (n % 2 ^ 255)
  let yy := y * y
  (Elem.sqrtRatio? (yy - .one) (yy * d + .one)).map fun x =>
    let x := if n ≥ 2 ^ 255 then -x else x
    ⟨x, y, .one, x * y⟩

def base : Point := (decode? (leBytes 32 (Elem.ofNat 4 * (Elem.ofNat 5).inv).val)).getD identity

end Point

end FrameGateway.Curve
