import SchemaContract.Text.Pieces

/-!
# Host names

Labels of letters, digits and hyphens with dots between them.
-/

namespace SchemaContract.Format

def maxHostname : Nat := 253

def maxLabel : Nat := 63

def hasOuterHyphen (cs : List Char) : Bool := cs.head? == some '-' || cs.getLast? == some '-'

def isLabel (cs : List Char) : Bool :=
  !cs.isEmpty && cs.length ≤ maxLabel && !hasOuterHyphen cs &&
    cs.all fun c => c.isAlphanum || c == '-'

def isHostname (cs : List Char) : Bool :=
  cs.length ≤ maxHostname && (Text.pieces '.' cs).all isLabel

end SchemaContract.Format
