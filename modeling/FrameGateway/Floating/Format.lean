/-! Binary floating-point formats on their bit patterns. Rounding and decoding work on exact
ratios of natural numbers, so no arithmetic is left to the machine's floating-point unit. -/

namespace FrameGateway

structure FloatFormat where
  /-- significant bits, the leading one included -/
  precision : Nat
  exponentBits : Nat
  deriving DecidableEq, Repr

namespace FloatFormat

def single : FloatFormat := ⟨24, 8⟩
def double : FloatFormat := ⟨53, 11⟩

/-- The exponent of the last bit of the smallest values. -/
def minExponent (f : FloatFormat) : Int := 3 - (2 ^ (f.exponentBits - 1) : Nat) - f.precision

/-- The bits below the exponent field. -/
def fractionUnit (f : FloatFormat) : Nat := 2 ^ (f.precision - 1)

def infinity (f : FloatFormat) : Nat := (2 ^ f.exponentBits - 1) * f.fractionUnit

def signBit (f : FloatFormat) : Nat := 2 ^ (f.precision - 1 + f.exponentBits)

def isNegative (f : FloatFormat) (bits : Nat) : Bool := bits ≥ f.signBit

def magnitude (f : FloatFormat) (bits : Nat) : Nat := bits % f.signBit

def isFinite (f : FloatFormat) (bits : Nat) : Bool := f.magnitude bits < f.infinity

def isNan (f : FloatFormat) (bits : Nat) : Bool := f.magnitude bits > f.infinity

def withSign (f : FloatFormat) (negative : Bool) (magnitude : Nat) : Nat :=
  if negative then f.signBit + magnitude else magnitude

/-- `m` and `q` with `m * 2 ^ q` the value of a finite magnitude. -/
def parts (f : FloatFormat) (magnitude : Nat) : Nat × Int :=
  let e := magnitude / f.fractionUnit
  let m := magnitude % f.fractionUnit
  if e = 0 then (m, f.minExponent) else (m + f.fractionUnit, f.minExponent + (e - 1 : Nat))

def ratio (m : Nat) (q : Int) : Nat × Nat :=
  if 0 ≤ q then (m * 2 ^ q.toNat, 1) else (m, 2 ^ (-q).toNat)

end FloatFormat

/-- The integer nearest `num / den`, a half going to the even one. -/
def roundDiv (num den : Nat) : Nat :=
  let q := num / den
  let r := num % den
  if 2 * r > den ∨ (2 * r = den ∧ q % 2 = 1) then q + 1 else q

namespace FloatFormat

/-- The magnitude nearest `num / den`; past the largest finite value it is infinity. -/
def nearest (f : FloatFormat) (num den : Nat) : Nat :=
  if num = 0 then 0
  else
    let scaled (e : Int) : Nat × Nat :=
      if 0 ≤ e then (num, den * 2 ^ e.toNat) else (num * 2 ^ (-e).toNat, den)
    let guess : Int := (num.log2 : Int) - den.log2 - f.precision
    let wide := let (n, d) := scaled guess; decide (n ≥ d * 2 ^ f.precision)
    let e := max (if wide then guess + 1 else guess) f.minExponent
    let (n, d) := scaled e
    min ((e - f.minExponent).toNat * f.fractionUnit + roundDiv n d) f.infinity

/-- Rounds a number of one format to another; a NaN becomes quiet and keeps its sign and the leading
bits of its fraction. -/
def convert (source target : FloatFormat) (bits : Nat) : Nat :=
  let m := source.magnitude bits
  target.withSign (source.isNegative bits) <|
    if source.isNan bits then
      let fraction := m % source.fractionUnit * target.fractionUnit / source.fractionUnit
      target.infinity + (fraction ||| target.fractionUnit / 2)
    else if m = source.infinity then target.infinity
    else
      let (n, d) := let (a, q) := source.parts m; ratio a q
      target.nearest n d

def ofInt (f : FloatFormat) (i : Int) : Nat := f.withSign (i < 0) (f.nearest i.natAbs 1)

end FloatFormat

end FrameGateway
