import FrameGateway.Floating.Format
/-! The shortest decimal that reads back as a given binary number. Grids of decimals are tried from
coarse to fine; on each one only the value's two neighbours can fall into the interval of reals
that round to it. -/

namespace FrameGateway

structure Decimal where
  digits : Nat
  exponent : Int
  deriving DecidableEq, Repr

namespace FloatFormat

/-- Bounds of the reals that round to `m * 2 ^ q`, in units of `2 ^ (q - 2)`. Below a power of two
the spacing halves. -/
def roundingInterval (f : FloatFormat) (m : Nat) (q : Int) : Nat × Nat :=
  (if m = f.fractionUnit ∧ q > f.minExponent then 4 * m - 1 else 4 * m - 2, 4 * m + 2)

/-- The neighbour of the value on the grid of multiples of `10 ^ k` that lies in the interval, the
nearer of two; `num / den` is the value in units of `2 ^ (q - 2)`. -/
def gridPoint? (lo v hi : Nat) (closed : Bool) (unitNum unitDen : Nat) (k : Int) : Option Nat :=
  -- value `x * unitNum / unitDen` against `d * 10 ^ k`, both multiplied out
  let (a, b) := if 0 ≤ k then (unitNum, unitDen * 10 ^ k.toNat) else (unitNum * 10 ^ (-k).toNat, unitDen)
  let inside (d : Nat) : Bool :=
    let x := d * b
    if closed then lo * a ≤ x && x ≤ hi * a else lo * a < x && x < hi * a
  let d := v * a / b
  match inside d, inside (d + 1) with
  | true, true =>
    let below := v * a - d * b
    let above := (d + 1) * b - v * a
    some (if below < above ∨ (below = above ∧ d % 2 = 0) then d else d + 1)
  | true, false => some d
  | false, true => some (d + 1)
  | false, false => none

def shortestFrom (lo v hi : Nat) (closed : Bool) (unitNum unitDen : Nat) : Nat → Int → Decimal
  | 0, k => ⟨0, k⟩
  | fuel + 1, k =>
    match gridPoint? lo v hi closed unitNum unitDen k with
    | some d => if d = 0 then shortestFrom lo v hi closed unitNum unitDen fuel (k - 1) else ⟨d, k⟩
    | none => shortestFrom lo v hi closed unitNum unitDen fuel (k - 1)

/-- The shortest decimal that rounds to this finite magnitude, the nearest of those. -/
def shortest (f : FloatFormat) (magnitude : Nat) : Decimal :=
  if magnitude = 0 then ⟨0, 0⟩
  else
    let (m, q) := f.parts magnitude
    let (lo, hi) := f.roundingInterval m q
    let (un, ud) := ratio 1 (q - 2)
    -- an upper bound of the decimal exponent, at most two too large
    let top : Int := ((m.log2 : Int) + 1 + q) * 30103 / 100000 + 1
    shortestFrom lo (4 * m) hi (m % 2 = 0) un ud (f.precision + 2) top

end FloatFormat

/-- How a decimal is spelt: positionally while its leading digit's exponent is in range. -/
structure DecimalStyle where
  lowest : Int
  highest : Int

namespace DecimalStyle

def text (s : DecimalStyle) (d : Decimal) : String :=
  let ds := (toString d.digits).toList
  let n : Int := ds.length
  let e := n + d.exponent - 1
  let zeros (k : Int) := List.replicate k.toNat '0'
  if s.lowest ≤ e ∧ e ≤ s.highest then
    if n - 1 ≤ e then String.ofList (ds ++ zeros (e - (n - 1)) ++ ['.', '0'])
    else if 0 ≤ e then String.ofList (ds.take (e.toNat + 1) ++ '.' :: ds.drop (e.toNat + 1))
    else String.ofList ('0' :: '.' :: zeros (-e - 1) ++ ds)
  else
    let rest := ds.drop 1
    let head := ds.take 1 ++ (if rest.isEmpty then [] else '.' :: rest)
    String.ofList head ++ "e" ++ (if e < 0 then "-" else "+") ++ toString e.natAbs

end DecimalStyle

end FrameGateway
