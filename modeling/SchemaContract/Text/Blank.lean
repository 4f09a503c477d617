import SchemaContract.Unicode.Ranges

/-!
# White space

The Unicode property White_Space: 25 characters in ten ranges.
-/

namespace SchemaContract.Text

def blankRanges : List (Nat × Nat) :=
  [(0x09, 0x0D), (0x20, 0x20), (0x85, 0x85), (0xA0, 0xA0), (0x1680, 0x1680), (0x2000, 0x200A),
   (0x2028, 0x2029), (0x202F, 0x202F), (0x205F, 0x205F), (0x3000, 0x3000)]

theorem blankRanges_wellFormed : Unicode.wellFormed blankRanges = true := by decide

def isBlank (c : Char) : Bool := Unicode.isWithin blankRanges c.toNat

def trimChars (cs : List Char) : List Char :=
  ((cs.dropWhile isBlank).reverse.dropWhile isBlank).reverse

def trim (s : String) : String := String.ofList (trimChars s.toList)

end SchemaContract.Text
