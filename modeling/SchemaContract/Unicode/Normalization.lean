import SchemaContract.Unicode.Data.Normalization
import SchemaContract.Unicode.Table

/-!
# Canonical composition

Texts that look the same can be written with composed characters or with their parts. The composed
form takes all characters apart, sorts the combining marks behind each starter by their classes and
puts together what can be put together. The syllables of Hangul follow a rule of their own.
-/

namespace SchemaContract.Unicode

def combiningClassRuns : List (Run Nat) :=
  runs (fun digits => (Text.hexNumber? digits).getD 0) Data.combiningClassRuns

/-- The combining class of a character; that of a starter is zero. -/
def combiningClassOf (n : Nat) : Nat :=
  if n < 0x300 then 0 else valueAt 0 combiningClassRuns n

def decompositions : List (Nat × List Nat) := expansions Data.decompositions

def uncomposed : List (Nat × Nat) := ranges Data.uncomposed

/-! ## Hangul -/

def syllableBase : Nat := 0xAC00
def leadBase : Nat := 0x1100
def vowelBase : Nat := 0x1161
def tailBase : Nat := 0x11A7
def leads : Nat := 19
def vowels : Nat := 21
def tails : Nat := 28

def syllableParts? (n : Nat) : Option (List Nat) :=
  if syllableBase ≤ n ∧ n < syllableBase + leads * vowels * tails then
    let k := n - syllableBase
    let lead := leadBase + k / (vowels * tails)
    let vowel := vowelBase + k % (vowels * tails) / tails
    if k % tails = 0 then some [lead, vowel] else some [lead, vowel, tailBase + k % tails]
  else none

def syllable? (a b : Nat) : Option Nat :=
  if leadBase ≤ a ∧ a < leadBase + leads ∧ vowelBase ≤ b ∧ b < vowelBase + vowels then
    some (syllableBase + ((a - leadBase) * vowels + (b - vowelBase)) * tails)
  else if syllableBase ≤ a ∧ a < syllableBase + leads * vowels * tails ∧
      (a - syllableBase) % tails = 0 ∧ tailBase < b ∧ b < tailBase + tails then
    some (a + (b - tailBase))
  else none

/-! ## Decomposition -/

/-- The parts of a character, taken apart so many times. -/
def partsOf : Nat → Nat → List Nat
  | 0, n => [n]
  | depth + 1, n =>
    if n < 0xC0 then [n]
    else
      match syllableParts? n with
      | some parts => parts
      | none =>
        match expansionAt? decompositions n with
        | some parts => parts.flatMap (partsOf depth)
        | none => [n]

/-- No character has parts of parts of parts of parts. -/
def decompositionDepth : Nat := 4

/-- Puts a mark in front of those that have a higher class. -/
def insertMark (m : Nat) : List Nat → List Nat
  | [] => [m]
  | n :: rest =>
    if combiningClassOf m < combiningClassOf n then m :: n :: rest else n :: insertMark m rest

/-- Sorts the marks behind every starter. The first argument holds the marks since the last one. -/
def sortMarks : List Nat → List Nat → List Nat
  | marks, [] => marks
  | marks, n :: rest =>
    if combiningClassOf n = 0 then marks ++ n :: sortMarks [] rest
    else sortMarks (insertMark n marks) rest

def decomposed (text : List Nat) : List Nat :=
  sortMarks [] (text.flatMap (partsOf decompositionDepth))

/-! ## Composition -/

def composite? (a b : Nat) : Option Nat :=
  match syllable? a b with
  | some n => some n
  | none =>
    (decompositions.find? fun e => e.2 == [a, b] && !isWithin uncomposed e.1).map (·.1)

/-- Composes what follows a starter. `between` holds the characters behind it that stayed, last
first. -/
def composeFrom (starter : Nat) (between : List Nat) : List Nat → List Nat
  | [] => starter :: between.reverse
  | n :: rest =>
    let c := combiningClassOf n
    let blocked := match between with
      | [] => false
      | m :: _ => combiningClassOf m == 0 || combiningClassOf m ≥ c
    match if blocked then none else composite? starter n with
    | some m => composeFrom m between rest
    | none =>
      if c = 0 then starter :: between.reverse ++ composeFrom n [] rest
      else composeFrom starter (n :: between) rest

def compose : List Nat → List Nat
  | [] => []
  | n :: rest => if combiningClassOf n = 0 then composeFrom n [] rest else n :: compose rest

def normalized (text : List Nat) : List Nat :=
  if text.all (· < 0x300) then text else compose (decomposed text)

end SchemaContract.Unicode
