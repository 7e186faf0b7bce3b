import FrameGateway.Json.Tree
import FrameGateway.Floating.Shortest
/-! What JSON numbers amount to. Integers of 64 bits are exact. All else is a double: the leading
digits that fit 64 bits, multiplied or divided once by a power of ten, so the result can differ from
the nearest double in the last bits. -/

namespace FrameGateway.Json

inductive Number where
  | natural (n : Nat)
  | negative (i : Int)
  | double (bits : Nat)
  deriving DecidableEq, Repr

/-- Doubles by exact ratios: each operation rounds once. -/
def doubleOf (num den : Nat) : Nat := FloatFormat.double.nearest num den

def doubleRatio (bits : Nat) : Nat × Nat :=
  let (m, q) := FloatFormat.double.parts bits
  FloatFormat.ratio m q

def timesPower (bits k : Nat) : Nat :=
  let (n, d) := doubleRatio bits
  let (n', d') := doubleRatio (doubleOf (10 ^ k) 1)
  doubleOf (n * n') (d * d')

def overPower (bits k : Nat) : Nat :=
  let (n, d) := doubleRatio bits
  let (n', d') := doubleRatio (doubleOf (10 ^ k) 1)
  doubleOf (n * d') (d * n')

/-- Scales a magnitude down by more than the largest power of ten there is. -/
def shrink : Nat → Nat → Nat → Nat
  | 0, _, _ => 0
  | n + 1, bits, k =>
    if k ≤ 308 then overPower bits k
    else if bits = 0 then 0
    else shrink n (overPower bits 308) (k - 308)

/-- `significand * 10 ^ exponent`, or `none` when that is past the largest double. -/
def scaled? (significand : Nat) (exponent : Int) : Option Nat :=
  let bits := doubleOf significand 1
  if 0 ≤ exponent then
    if exponent ≤ 308 then
      let r := timesPower bits exponent.toNat
      if r = FloatFormat.double.infinity then none else some r
    else if bits = 0 then some 0 else none
  else some (shrink (exponent.natAbs / 308 + 1) bits exponent.natAbs)

/-- The digits that fit 64 bits, and how many digits were left off. -/
def significand : Nat → List Nat → Nat × List Nat
  | n, [] => (n, [])
  | n, d :: ds => if 10 * n + d < 2 ^ 64 then significand (10 * n + d) ds else (n, d :: ds)

def maxExponent : Nat := 2 ^ 31 - 1

def exponentOf (ds : List Nat) : Option Nat :=
  ds.foldl (fun e d => e.bind fun e => if 10 * e + d ≤ maxExponent then some (10 * e + d) else none) (some 0)

def magnitude? (n : Numeral) : Option Nat :=
  let (s, cut) := significand 0 n.whole
  let (s, shift) : Nat × Int := match n.fraction with
    | none => (s, cut.length)
    | some fs =>
      let (s', left) := significand s fs
      (s', (cut.length : Int) - (fs.length - left.length : Nat))
  match n.exponent with
  | none => scaled? s shift
  | some (minus, ds) => match exponentOf ds with
    | some e => scaled? s (if minus then max (shift - e) (-2 ^ 31) else min (shift + e) maxExponent)
    | none => if s ≠ 0 ∧ !minus then none else some 0

def Numeral.number? (n : Numeral) : Option Number :=
  let signed (bits : Nat) : Number := .double (FloatFormat.double.withSign n.negative bits)
  match n.fraction, n.exponent, significand 0 n.whole with
  | none, none, (v, []) =>
    if !n.negative then some (.natural v)
    else if v = 0 ∨ v > 2 ^ 63 then some (signed (doubleOf v 1))
    else some (.negative (-v))
  | _, _, _ => (magnitude? n).map signed

/-- Doubles are spelt positionally from `0.00001` to below `1e16`, singles from `0.000001` to below
`1e13`. -/
def doubleStyle : DecimalStyle := ⟨-5, 15⟩
def singleStyle : DecimalStyle := ⟨-6, 12⟩

/-- The shortest text that reads back; what is not finite is `null`. -/
def floatText (f : FloatFormat) (style : DecimalStyle) (bits : Nat) : String :=
  if f.isFinite bits then
    let m := f.magnitude bits
    (if f.isNegative bits then "-" else "") ++ (if m = 0 then "0.0" else style.text (f.shortest m))
  else "null"

end FrameGateway.Json
