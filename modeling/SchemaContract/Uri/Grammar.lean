import SchemaContract.Text.Hex

/-!
# Characters of URIs and IRIs

The characters that each component may hold as they are: RFC 3986, and RFC 3987 where letters beyond
ASCII are welcome. Any other character has to be escaped.
-/

namespace SchemaContract.Uri

inductive Alphabet where
  | ascii
  | international
  deriving DecidableEq, Repr

/-- The characters that only the international form takes. -/
def internationalRanges : List (Nat × Nat) :=
  [(0xA0, 0xD7FF), (0xF900, 0xFDCF), (0xFDF0, 0xFFEF), (0x10000, 0x1FFFD), (0x20000, 0x2FFFD),
   (0x30000, 0x3FFFD), (0x40000, 0x4FFFD), (0x50000, 0x5FFFD), (0x60000, 0x6FFFD),
   (0x70000, 0x7FFFD), (0x80000, 0x8FFFD), (0x90000, 0x9FFFD), (0xA0000, 0xAFFFD),
   (0xB0000, 0xBFFFD), (0xC0000, 0xCFFFD), (0xD0000, 0xDFFFD), (0xE1000, 0xEFFFD)]

/-- The private characters that only international queries take. -/
def privateRanges : List (Nat × Nat) :=
  [(0xE000, 0xF8FF), (0xF0000, 0xFFFFD), (0x100000, 0x10FFFD)]

def inAny (ranges : List (Nat × Nat)) (c : Char) : Bool :=
  ranges.any fun r => r.1 ≤ c.toNat && c.toNat ≤ r.2

def isSchemeChar (c : Char) : Bool := c.isAlphanum || c == '+' || c == '-' || c == '.'

def isUnreserved (a : Alphabet) (c : Char) : Bool :=
  c.isAlphanum || ['-', '.', '_', '~'].contains c ||
    (a == .international && inAny internationalRanges c)

def isSubDelimiter (c : Char) : Bool :=
  ['!', '$', '&', '\'', '(', ')', '*', '+', ',', ';', '='].contains c

def isRegular (a : Alphabet) (c : Char) : Bool := isUnreserved a c || isSubDelimiter c

def isUserChar (a : Alphabet) (c : Char) : Bool := isRegular a c || c == ':'

/-- A character of a first path segment where a colon would be taken for the end of a scheme. -/
def isSegmentChar (a : Alphabet) (c : Char) : Bool := isRegular a c || c == '@'

def isPathChar (a : Alphabet) (c : Char) : Bool := isSegmentChar a c || c == ':' || c == '/'

def isQueryChar (a : Alphabet) (c : Char) : Bool :=
  isPathChar a c || c == '?' || (a == .international && inAny privateRanges c)

def isFragmentChar (a : Alphabet) (c : Char) : Bool := isPathChar a c || c == '?'

/-- A character behind the version of an address of the future form. -/
def isFutureChar (c : Char) : Bool := isRegular .ascii c || c == ':'

end SchemaContract.Uri
