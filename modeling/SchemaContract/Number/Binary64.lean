/-!
# Doubles as exact dyadic values

A finite IEEE double is a sign, a natural mantissa and a power of two, so every operation below is
exact arithmetic on naturals and integers followed by one rounding. Rounding is to nearest, a tie
goes to the even mantissa, and a magnitude past the largest double has no value here: infinities
and NaN never arise in a JSON document.
-/

namespace SchemaContract

/-- The value `mantissa * 2 ^ exponent`. The sign is kept for zero too. -/
structure Binary64 where
  negative : Bool
  mantissa : Nat
  exponent : Int
  deriving DecidableEq, Repr, Inhabited

namespace Binary64

/-- The exponent of the subnormal doubles. -/
def minExponent : Int := -1074

/-- The exponent of the largest doubles. -/
def maxExponent : Int := 971

def zero (negative : Bool) : Binary64 := ⟨negative, 0, minExponent⟩

def one : Binary64 := ⟨false, Nat.pow 2 52, -52⟩

def largest (negative : Bool) : Binary64 := ⟨negative, Nat.pow 2 53 - 1, maxExponent⟩

/-- The quotient rounded to nearest, a half to the even neighbour. -/
def roundHalfEven (num den : Nat) : Nat :=
  let q := num / den
  let r := num % den
  if 2 * r < den then q else if den < 2 * r then q + 1 else q + q % 2

theorem roundHalfEven_one (n : Nat) : roundHalfEven n 1 = n := by
  simp [roundHalfEven, Nat.mod_one]

/-- The fraction `num / den * 2 ^ scale` counted in units of `2 ^ unit`. -/
def inUnits (num den : Nat) (scale unit : Int) : Nat × Nat :=
  (num * Nat.pow 2 (scale - unit).toNat, den * Nat.pow 2 (unit - scale).toNat)

/-- The double nearest to `num / den * 2 ^ scale`, unless that is past the largest one. -/
def ofRatio (negative : Bool) (num den : Nat) (scale : Int) : Option Binary64 :=
  if num = 0 then some (zero negative)
  else
    let estimate : Int := (num.log2 : Int) - (den.log2 : Int) + scale
    let guess := max minExponent (estimate - 52)
    let rough := inUnits num den scale guess
    let unit := if rough.1 / rough.2 < Nat.pow 2 52 then max minExponent (guess - 1) else guess
    let exact := inUnits num den scale unit
    let m := roundHalfEven exact.1 exact.2
    let (m, unit) := if m = Nat.pow 2 53 then (Nat.pow 2 52, unit + 1) else (m, unit)
    if unit > maxExponent then none else some ⟨negative, m, unit⟩

/-- The nearest double. Integers of a JSON document have at most 64 bits and always have one. -/
def ofInt (i : Int) : Binary64 :=
  (ofRatio (decide (i < 0)) i.natAbs 1 0).getD (largest (decide (i < 0)))

def isZero (x : Binary64) : Bool := x.mantissa == 0

/-- The mantissa with the sign of the value. -/
def signed (x : Binary64) : Int := if x.negative then -(x.mantissa : Int) else x.mantissa

def ratio (x : Binary64) : Int × Nat :=
  (x.signed * (Nat.pow 2 x.exponent.toNat : Nat), Nat.pow 2 (-x.exponent).toNat)

theorem ratio_den_pos (x : Binary64) : 0 < x.ratio.2 := Nat.two_pow_pos _

def isIntegral (x : Binary64) : Bool := x.ratio.1 % (x.ratio.2 : Int) == 0

/-- The value without its fraction, toward zero. -/
def trunc (x : Binary64) : Int := x.ratio.1.tdiv x.ratio.2

def mul (x y : Binary64) : Option Binary64 :=
  ofRatio (x.negative != y.negative) (x.mantissa * y.mantissa) 1 (x.exponent + y.exponent)

/-- The rounded quotient, for a divisor other than zero. -/
def div (x y : Binary64) : Option Binary64 :=
  if y.isZero then none
  else ofRatio (x.negative != y.negative) x.mantissa y.mantissa (x.exponent - y.exponent)

def sub (x y : Binary64) : Option Binary64 :=
  let low := min x.exponent y.exponent
  let d := x.signed * (Nat.pow 2 (x.exponent - low).toNat : Nat)
    - y.signed * (Nat.pow 2 (y.exponent - low).toNat : Nat)
  ofRatio (decide (d < 0)) d.natAbs 1 low

/-- A product of powers by repeated squaring, each product rounded; `none` is past the range. -/
def powerFrom (result square : Option Binary64) (n : Nat) : Option Binary64 :=
  if n = 0 then result
  else
    let result := if n % 2 = 1 then
        result.bind fun r => square.bind fun s => r.mul s
      else result
    if n / 2 = 0 then result
    else powerFrom result (square.bind fun s => s.mul s) (n / 2)
termination_by n
decreasing_by omega

def power (x : Binary64) (n : Nat) : Option Binary64 := powerFrom (some one) (some x) n

def tenTo (n : Nat) : Option Binary64 := ofRatio false (Nat.pow 10 n) 1 0

/-- The double that a decimal literal with this significand and exponent of ten denotes: the
significand rounded, then one rounded multiplication or division by a power of ten, with powers past
the range of doubles applied in steps of `10 ^ 308`. `none` is a value past the largest double. -/
def ofDecimal (significand : Nat) (exponent : Int) : Option Binary64 :=
  let start := ofInt significand
  if exponent ≥ 0 then
    if exponent ≤ 308 then (tenTo exponent.toNat).bind start.mul
    else if start.isZero then some start
    else none
  else steps start (-exponent).toNat (-exponent).toNat
where
  /-- Division by `10 ^ n`; the first argument bounds the number of steps. -/
  steps (x : Binary64) : Nat → Nat → Option Binary64
    | 0, _ => some x
    | fuel + 1, n =>
      if n ≤ 308 then (tenTo n).bind x.div
      else if x.isZero then some x
      else (tenTo 308).bind fun p => (x.div p).bind fun q => steps q fuel (n - 308)

def withSign (negative : Bool) (x : Binary64) : Binary64 := { x with negative := negative }

end Binary64

end SchemaContract
