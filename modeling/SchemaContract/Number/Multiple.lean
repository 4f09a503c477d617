import SchemaContract.Number

/-!
# Multiples

Whether one number is a multiple of another is decided on doubles. A whole divisor divides whole
values only. Otherwise both sides are first read as decimal fractions: a double stands for `n / 10 ^
p` with the least `p` at which its product with `10 ^ p` is all but whole, so that `0.3` is a
multiple of `0.1` although their doubles are not. A divisor that stands for nothing at all divides
every value that is not below it.
-/

namespace SchemaContract

namespace Number

/-- The distance between one and the next double. -/
def epsilon : Binary64 := ⟨false, Nat.pow 2 52, -104⟩

/-- The value is above its floor by less than `epsilon`. -/
def nearlyWhole (x : Binary64) : Bool :=
  let r := x.ratio
  decide ((r.1 % (r.2 : Int)) * (Nat.pow 2 52 : Nat) < r.2)

/-- The decimal fraction `numerator / 10 ^ places` that a positive double stands for. Products past
the range of doubles end the search, and the shortest decimal text decides. -/
def decimalFraction (x : Binary64) : Nat × Nat :=
  search 1100 0
where
  fromText : Nat × Nat :=
    let d := Decimal.shortest x
    if d.exponent ≥ 0 then (d.digits * Nat.pow 10 d.exponent.toNat, 0)
    else (d.digits, (-d.exponent).toNat)
  search : Nat → Nat → Nat × Nat
    | 0, _ => fromText
    | fuel + 1, p =>
      let product := if p = 0 then some x else ((Binary64.ofInt 10).power p).bind x.mul
      match product with
      | none => fromText
      | some y => if nearlyWhole y then (y.trunc.natAbs, p) else search fuel (p + 1)

/-- Whether the first number is a multiple of the second, which is positive. -/
def isMultipleOf (value divisor : Number) : Bool :=
  let v := value.toBinary64
  let d := divisor.toBinary64
  if d.isIntegral then
    v.isIntegral && v.trunc % d.trunc == 0
  else if v.isZero then true
  else if order (.double v) (.double d) == .lt then false
  else
    let a := decimalFraction v
    let b := decimalFraction d
    b.1 == 0 || (a.1 * Nat.pow 10 b.2) % (b.1 * Nat.pow 10 a.2) == 0

/-- Closer than `epsilon` as doubles. -/
def nearlyEqual (a b : Number) : Bool :=
  match a.toBinary64.sub b.toBinary64 with
  | some d => order (.double { d with negative := false }) (.double epsilon) == .lt
  | none => false

end Number

end SchemaContract
