import SchemaContract.Unicode.Age
import SchemaContract.Unicode.CaseFolding
import SchemaContract.Unicode.Property
import SchemaContract.Unicode.Script

/-!
# Sets of characters

A set is built from ranges and properties by the operations of a bracket expression. Folding a set
adds the other cases of its characters.
-/

namespace SchemaContract.Pattern

open Unicode

inductive CharSet where
  | ranges (ranges : List (Nat × Nat))
  | property (property : Property)
  | categories (categories : List Category)
  | script (code : String)
  | usedScript (code : String)
  | ofAge (version : String)
  | word
  | folded (set : CharSet)
  | complement (set : CharSet)
  | union (left right : CharSet)
  | inter (left right : CharSet)
  deriving DecidableEq, Repr

namespace CharSet

def single (c : Char) : CharSet := .ranges [(c.toNat, c.toNat)]

def empty : CharSet := .ranges []

def hasCode : CharSet → Nat → Bool
  | .ranges rs, n => rs.any fun r => r.1 ≤ n && n ≤ r.2
  | .property p, n => p.holds n
  | .categories cs, n => isIn cs n
  | .script code, n => scriptOf n == code
  | .usedScript code, n => (scriptsOf n).contains code
  | .ofAge version, n => isOfAge version n
  | .word, n => isWord n
  | .folded s, n => s.hasCode n || (casesOf n).any s.hasCode
  | .complement s, n => !s.hasCode n
  | .union s t, n => s.hasCode n || t.hasCode n
  | .inter s t, n => s.hasCode n && t.hasCode n

def has (s : CharSet) (c : Char) : Bool := s.hasCode c.toNat

def diff (s t : CharSet) : CharSet := .inter s (.complement t)

def symmetricDiff (s t : CharSet) : CharSet := .inter (.union s t) (.complement (.inter s t))

def negateIf (negated : Bool) (s : CharSet) : CharSet := if negated then .complement s else s

def foldIf (insensitive : Bool) (s : CharSet) : CharSet := if insensitive then .folded s else s

/-! ## Common sets -/

def anything : CharSet := .complement .empty

def sameLine : CharSet := .complement (.single '\n')

def hexDigits : CharSet := .ranges [(0x30, 0x39), (0x41, 0x46), (0x61, 0x66)]

def digits : CharSet := .categories [.decimalNumber]

def blanks : CharSet := .property .whiteSpace

/-- The sets that have a name between `[:` and `:]`. -/
def named? (name : String) : Option CharSet :=
  match name with
  | "alnum" => some (.ranges [(0x30, 0x39), (0x41, 0x5A), (0x61, 0x7A)])
  | "alpha" => some (.ranges [(0x41, 0x5A), (0x61, 0x7A)])
  | "ascii" => some (.ranges [(0x00, 0x7F)])
  | "blank" => some (.ranges [(0x09, 0x09), (0x20, 0x20)])
  | "cntrl" => some (.ranges [(0x00, 0x1F), (0x7F, 0x7F)])
  | "digit" => some (.ranges [(0x30, 0x39)])
  | "graph" => some (.ranges [(0x21, 0x7E)])
  | "lower" => some (.ranges [(0x61, 0x7A)])
  | "print" => some (.ranges [(0x20, 0x7E)])
  | "punct" => some (.ranges [(0x21, 0x2F), (0x3A, 0x40), (0x5B, 0x60), (0x7B, 0x7E)])
  | "space" => some (.ranges [(0x09, 0x0D), (0x20, 0x20)])
  | "upper" => some (.ranges [(0x41, 0x5A)])
  | "word" => some (.ranges [(0x30, 0x39), (0x41, 0x5A), (0x5F, 0x5F), (0x61, 0x7A)])
  | "xdigit" => some hexDigits
  | _ => none

/-! ## Cost -/

/-- The bytes that an automaton takes for one character of a set: a single step for ASCII, several
for the sequences of bytes of other characters, and many for the sets of the character tables. -/
def cost : CharSet → Nat
  | .ranges rs => if rs.all (·.2 < 0x80) then 32 + 8 * rs.length else 376 + 64 * rs.length
  | .folded s => s.cost + 64
  | .complement s => s.cost + 376
  | .union s t => s.cost + t.cost
  | .inter s t => s.cost + t.cost
  | .property _ | .categories _ | .script _ | .usedScript _ | .ofAge _ | .word => 8192

end CharSet

end SchemaContract.Pattern
