import SchemaContract.Number.Binary64

/-!
# The fewest digits that read back

`shortest` selects, among the decimals that lie in the rounding interval of a double, one with the
fewest digits, and of those the nearest. The interval runs from halfway to the double below to
halfway to the double above and holds its ends exactly when the mantissa is even.
-/

namespace SchemaContract

/-- The decimal `digits * 10 ^ exponent`. -/
structure Decimal where
  digits : Nat
  exponent : Int
  deriving DecidableEq, Repr, Inhabited

namespace Decimal

/-- Compares `a * 10 ^ i` with `b * 2 ^ j`, exactly. -/
def compareScaled (a : Nat) (i : Int) (b : Nat) (j : Int) : Ordering :=
  compare (a * Nat.pow 10 i.toNat * Nat.pow 2 (-j).toNat)
    (b * Nat.pow 2 j.toNat * Nat.pow 10 (-i).toNat)

/-- The gap below a power of two is half the gap above it. -/
def narrowBelow (x : Binary64) : Bool :=
  x.mantissa == Nat.pow 2 52 && decide (x.exponent > Binary64.minExponent)

/-- The decimal lies among the reals that round to the magnitude of the double. -/
def readsBack (d : Decimal) (x : Binary64) : Bool :=
  let low := if narrowBelow x then 4 * x.mantissa - 1 else 4 * x.mantissa - 2
  let ends := x.mantissa % 2 == 0
  let below := compareScaled d.digits d.exponent low (x.exponent - 2)
  let above := compareScaled d.digits d.exponent (4 * x.mantissa + 2) (x.exponent - 2)
  (below == .gt || (ends && below == .eq)) && (above == .lt || (ends && above == .eq))

/-- The largest whole number of units `10 ^ unit` that fits into the magnitude. -/
def floorIn (x : Binary64) (unit : Int) : Nat :=
  (x.mantissa * Nat.pow 2 x.exponent.toNat * Nat.pow 10 (-unit).toNat)
    / (Nat.pow 2 (-x.exponent).toNat * Nat.pow 10 unit.toNat)

/-- The point of the grid `10 ^ unit` that reads back and lies nearest, if one does. -/
def onGrid (x : Binary64) (unit : Int) : Option Decimal :=
  let low := floorIn x unit
  let lower : Decimal := ⟨low, unit⟩
  let upper : Decimal := ⟨low + 1, unit⟩
  match lower.readsBack x, upper.readsBack x with
  | true, true =>
    match compareScaled (2 * low + 1) unit (2 * x.mantissa) x.exponent with
    | .lt => some upper
    | .gt => some lower
    | .eq => some (if low % 2 = 0 then lower else upper)
  | true, false => some lower
  | false, true => some upper
  | false, false => none

/-- Trailing zeros of the digits, at most `fuel` of them, moved into the exponent. -/
def strip : Nat → Decimal → Decimal
  | 0, d => d
  | fuel + 1, d =>
    if d.digits ≠ 0 ∧ d.digits % 10 = 0 then strip fuel ⟨d.digits / 10, d.exponent + 1⟩ else d

/-- The least `k` with magnitude below `10 ^ k`, for a magnitude other than zero. -/
def scale (x : Binary64) : Int :=
  let bits : Int := (x.mantissa.log2 : Int) + x.exponent
  let guess := (bits * 30103) / 100000
  match [guess - 1, guess, guess + 1, guess + 2].find? fun k =>
      compareScaled 1 k x.mantissa x.exponent == .gt with
  | some k => k
  | none => guess + 3

def exact (x : Binary64) : Decimal :=
  if x.exponent ≥ 0 then ⟨x.mantissa * Nat.pow 2 x.exponent.toNat, 0⟩
  else ⟨x.mantissa * Nat.pow 5 (-x.exponent).toNat, x.exponent⟩

/-- The shortest decimal that reads back to the magnitude of the double. -/
def shortest (x : Binary64) : Decimal :=
  if x.isZero then ⟨0, 0⟩
  else
    let k := scale x
    match (List.range 17).findSome? fun (n : Nat) => onGrid x (k - (n + 1 : Nat)) with
    | some d => strip 20 d
    | none => exact x

end Decimal

end SchemaContract
