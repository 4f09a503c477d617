import SchemaContract.Number.Shortest

/-!
# Numbers of a JSON document

A number is an exact integer or a double, and the two stay apart: `1` and `1.0` print differently
although they are equal in value. Comparisons are exact across the two kinds.
-/

namespace SchemaContract

inductive Number where
  | int (value : Int)
  | double (value : Binary64)
  deriving DecidableEq, Repr, Inhabited

namespace Number

def ofNat (n : Nat) : Number := .int n

def toBinary64 : Number → Binary64
  | .int i => Binary64.ofInt i
  | .double x => x

/-- The exact value as an integer over a positive denominator. -/
def ratio : Number → Int × Nat
  | .int i => (i, 1)
  | .double x => x.ratio

def order (a b : Number) : Ordering :=
  compare (a.ratio.1 * b.ratio.2) (b.ratio.1 * a.ratio.2)

def same (a b : Number) : Bool := order a b == .eq

def isIntegral : Number → Bool
  | .int _ => true
  | .double x => x.isIntegral

/-- A value without fraction as a natural number, held within 64 bits. -/
def toLimit? : Number → Option Nat
  | .int i => if i ≥ 0 then some i.toNat else none
  | .double x => if x.isIntegral then some (min x.trunc.toNat (Nat.pow 2 64 - 1)) else none

/-- The text of a decimal with digits to spare on neither side: positional for leading exponents
from -5 to 15, with a signed exponent otherwise. A value without fraction keeps `.0`. -/
def layout (d : Decimal) : String :=
  let digits := (toString d.digits).toList
  let lead : Int := (digits.length : Int) - 1 + d.exponent
  if d.digits = 0 then "0.0"
  else if -5 ≤ lead ∧ lead ≤ 15 then
    if d.exponent ≥ 0 then
      String.ofList (digits ++ List.replicate d.exponent.toNat '0' ++ ['.', '0'])
    else if lead ≥ 0 then
      String.ofList (digits.take (lead.toNat + 1) ++ ['.'] ++ digits.drop (lead.toNat + 1))
    else
      String.ofList (['0', '.'] ++ List.replicate (-lead - 1).toNat '0' ++ digits)
  else
    let fraction := digits.drop 1
    let mantissa := if fraction.isEmpty then digits else digits.take 1 ++ ['.'] ++ fraction
    let sign := if lead < 0 then '-' else '+'
    String.ofList (mantissa ++ ['e', sign] ++ (toString lead.natAbs).toList)

def render : Number → String
  | .int i => toString i
  | .double x => (if x.negative then "-" else "") ++ layout (Decimal.shortest x)

end Number

end SchemaContract
