import SchemaContract.Text.Hex
import SchemaContract.Text.Pieces
import SchemaContract.Unicode.Ranges

/-!
# Tables of code points

The properties of characters come in tables: texts of words with blanks between them, and numbers
that are hexadecimal. A table of runs covers all code points in order, a table of ranges those with
a property, and a table of images those that are mapped to others.
-/

namespace SchemaContract.Unicode

namespace Table

def words (lines : List String) : List (List Char) :=
  lines.flatMap fun line => Text.pieces ' ' line.toList

/-- The numbers of a word, which has points between them. -/
def numbers (word : List Char) : List Nat :=
  (Text.pieces '.' word).map fun digits => (Text.hexNumber? digits).getD 0

end Table

/-! ## Ranges -/

/-- The ranges of a table, from the given code point on. -/
def rangesFrom : Nat → List (List Char) → List (Nat × Nat)
  | _, [] => []
  | start, word :: rest =>
    match Table.numbers word with
    | [gap, count] =>
      (start + gap, start + gap + count - 1) :: rangesFrom (start + gap + count) rest
    | _ => rangesFrom start rest

def ranges (lines : List String) : List (Nat × Nat) := rangesFrom 0 (Table.words lines)

/-! ## Runs -/

/-- Consecutive code points with a common value. -/
structure Run (α : Type) where
  last : Nat
  value : α

/-- The runs of a table, from the given code point on. -/
def runsFrom {α : Type} (read : List Char → α) : Nat → List (List Char) → List (Run α)
  | _, [] => []
  | start, word :: rest =>
    let (value, count) := Text.cutAt ':' word
    let next := start + (Text.hexNumber? (count.getD [])).getD 0
    ⟨next - 1, read value⟩ :: runsFrom read next rest

def runs {α : Type} (read : List Char → α) (lines : List String) : List (Run α) :=
  runsFrom read 0 (Table.words lines)

def valueAt {α : Type} (other : α) : List (Run α) → Nat → α
  | [], _ => other
  | r :: rest, n => if n ≤ r.last then r.value else valueAt other rest n

/-! ## Images -/

/-- Code points at equal distances with images at equal distances. -/
structure Shift where
  first : Nat
  count : Nat
  step : Nat
  image : Nat
  imageStep : Nat

def shiftOf? (word : List Char) : Option Shift :=
  match Table.numbers word with
  | [c, image] => some ⟨c, 1, 1, image, 1⟩
  | [first, count, step, image, imageStep] => some ⟨first, count, step, image, imageStep⟩
  | _ => none

def shifts (lines : List String) : List Shift := (Table.words lines).filterMap shiftOf?

/-- The image of a code point under a shift that covers it. -/
def Shift.image? (s : Shift) (n : Nat) : Option Nat :=
  if s.first ≤ n ∧ (n - s.first) % s.step = 0 ∧ (n - s.first) / s.step < s.count then
    some (s.image + (n - s.first) / s.step * s.imageStep)
  else none

/-- The code points that the shift maps to the given one. -/
def Shift.sources (s : Shift) (image : Nat) : List Nat :=
  if s.imageStep = 0 then
    if s.image = image then (List.range s.count).map fun k => s.first + k * s.step else []
  else if s.image ≤ image ∧ (image - s.image) % s.imageStep = 0 ∧
      (image - s.image) / s.imageStep < s.count then
    [s.first + (image - s.image) / s.imageStep * s.step]
  else []

def imageAt? (table : List Shift) (n : Nat) : Option Nat := table.findSome? (·.image? n)

/-- A code point with those that stand for it. -/
def expansionOf (word : List Char) : Nat × List Nat :=
  let (c, images) := Text.cutAt ':' word
  ((Text.hexNumber? c).getD 0,
    (Text.pieces '+' (images.getD [])).map fun digits => (Text.hexNumber? digits).getD 0)

def expansions (lines : List String) : List (Nat × List Nat) :=
  (Table.words lines).map expansionOf

def expansionAt? (table : List (Nat × List Nat)) (n : Nat) : Option (List Nat) :=
  (table.find? fun e => e.1 == n).map (·.2)

end SchemaContract.Unicode
