/-!
# Punycode

The encoding of RFC 3492 writes a label with letters beyond ASCII in ASCII: first its ASCII
characters, then a hyphen, then for each of the others, in ascending order, the distance from the
one before, as a number whose digits have a base that adapts.
-/

namespace SchemaContract.Punycode

def digitChar (d : Nat) : Nat := if d < 26 then 0x61 + d else 0x30 + d - 26

/-- The value of a digit, which has no capital. -/
def digitValue? (c : Nat) : Option Nat :=
  if 0x61 ≤ c ∧ c ≤ 0x7A then some (c - 0x61)
  else if 0x30 ≤ c ∧ c ≤ 0x39 then some (c - 0x30 + 26)
  else none

theorem digitValue_digitChar : ∀ d < 36, digitValue? (digitChar d) = some d := by decide

/-- The threshold of the digit at position `k`, which counts in steps of 36. -/
def threshold (k bias : Nat) : Nat :=
  if k ≤ bias then 1 else if bias + 26 ≤ k then 26 else k - bias

def adaptLoop : Nat → Nat → Nat → Nat × Nat
  | 0, delta, k => (delta, k)
  | rounds + 1, delta, k =>
    if 455 < delta then adaptLoop rounds (delta / 35) (k + 36) else (delta, k)

def adapt (delta count : Nat) (first : Bool) : Nat :=
  let scaled := if first then delta / 700 else delta / 2
  let start := scaled + scaled / count
  let (rest, k) := adaptLoop start start 0
  k + 36 * rest / (rest + 38)

def startBias : Nat := 72

def isBasic (n : Nat) : Bool := n < 0x80

/-! ## Encoding -/

/-- The digits of a number from position `k` on; the first argument bounds their number. -/
def digitsOf (bias : Nat) : Nat → Nat → Nat → List Nat
  | 0, _, q => [digitChar q]
  | rounds + 1, k, q =>
    let t := threshold k bias
    if q < t then [digitChar q]
    else digitChar (t + (q - t) % (36 - t)) :: digitsOf bias rounds (k + 36) ((q - t) / (36 - t))

/-- The encoding in the making: the digits so far, the distance, the bias and the number of
characters that are written. -/
structure Writing where
  digits : List Nat
  delta : Nat
  bias : Nat
  written : Nat

/-- Passes a character of the label while `m` is the one to write. -/
def Writing.pass (basics m : Nat) (w : Writing) (c : Nat) : Writing :=
  if c < m then { w with delta := w.delta + 1 }
  else if c = m then
    { digits := w.digits ++ digitsOf w.bias w.delta 36 w.delta
      delta := 0
      bias := adapt w.delta (w.written + 1) (w.written == basics)
      written := w.written + 1 }
  else w

/-- Writes the given characters, which ascend, beginning with `n`. -/
def writeAll (label : List Nat) (basics : Nat) : List Nat → Nat → Writing → Writing
  | [], _, w => w
  | m :: rest, n, w =>
    let start := { w with delta := w.delta + (m - n) * (w.written + 1) }
    let done := label.foldl (Writing.pass basics m) start
    writeAll label basics rest (m + 1) { done with delta := done.delta + 1 }

def insertNew (n : Nat) : List Nat → List Nat
  | [] => [n]
  | m :: rest =>
    if n < m then n :: m :: rest else if n = m then m :: rest else m :: insertNew n rest

def ascending (ns : List Nat) : List Nat := ns.foldr insertNew []

def encode (label : List Nat) : List Nat :=
  let basic := label.filter isBasic
  let others := ascending (label.filter fun n => !isBasic n)
  let done := writeAll label basic.length others 0x80 ⟨[], 0, startBias, basic.length⟩
  basic ++ (if basic.isEmpty then [] else [0x2D]) ++ done.digits

/-! ## Decoding -/

/-- Reads a number from position `k` on with the given weight and adds it. -/
def readNumber (bias : Nat) : List Nat → Nat → Nat → Nat → Option (Nat × List Nat)
  | [], _, _, _ => none
  | c :: rest, k, weight, sum =>
    match digitValue? c with
    | none => none
    | some d =>
      let t := threshold k bias
      if d < t then some (sum + d * weight, rest)
      else readNumber bias rest (k + 36) (weight * (36 - t)) (sum + d * weight)

/-- Inserts the characters whose distances are left; the first argument bounds their number. -/
def insertAll : Nat → Nat → Nat → Nat → List Nat → List Nat → Option (List Nat)
  | 0, _, _, _, label, rest => if rest.isEmpty then some label else none
  | rounds + 1, bias, n, i, label, rest =>
    if rest.isEmpty then some label
    else
      match readNumber bias rest 36 1 i with
      | none => none
      | some (sum, rest) =>
        let count := label.length + 1
        let c := n + sum / count
        let place := sum % count
        if c.isValidChar then
          insertAll rounds (adapt (sum - i) count (i == 0)) c (place + 1)
            (label.take place ++ c :: label.drop place) rest
        else none

def cutAtLastHyphen (text : List Nat) : List Nat × List Nat :=
  let digits := (text.reverse.takeWhile (· != 0x2D)).reverse
  (text.take (text.length - digits.length - 1), digits)

def decode? (text : List Nat) : Option (List Nat) :=
  let (basic, digits) := cutAtLastHyphen text
  if basic.all isBasic then insertAll digits.length startBias 0x80 0 basic digits else none

end SchemaContract.Punycode
