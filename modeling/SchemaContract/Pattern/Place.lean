import SchemaContract.Unicode.Property

/-!
# Places in a text

A place lies between two characters, with the text before it and the text after it. Places of the
same text are told apart by their positions.
-/

namespace SchemaContract.Pattern

/-- The characters before a place, last first, and those after it. -/
structure Place where
  before : List Char
  after : List Char
  position : Nat
  deriving DecidableEq, Repr

namespace Place

def start (text : List Char) : Place := ⟨[], text, 0⟩

/-- The next character with the place behind it. -/
def advance? (p : Place) : Option (Char × Place) :=
  match p.after with
  | [] => none
  | c :: rest => some (c, ⟨c :: p.before, rest, p.position + 1⟩)

/-- The place so many characters earlier. -/
def back? : Nat → Place → Option Place
  | 0, p => some p
  | n + 1, p =>
    match p.before with
    | [] => none
    | c :: rest => back? n ⟨rest, c :: p.after, p.position - 1⟩

/-- The place and those behind it. -/
def onwards : List Char → List Char → Nat → List Place
  | before, [], position => [⟨before, [], position⟩]
  | before, c :: rest, position =>
    ⟨before, c :: rest, position⟩ :: onwards (c :: before) rest (position + 1)

def all (text : List Char) : List Place := onwards [] text 0

/-- The text from an earlier place to this one. -/
def textSince (p earlier : Place) : List Char :=
  (p.before.take (p.position - earlier.position)).reverse

def isAmong (p : Place) (ps : List Place) : Bool := ps.any fun q => q.position == p.position

def wordBefore (p : Place) : Bool := p.before.head?.any fun c => Unicode.isWord c.toNat

def wordAfter (p : Place) : Bool := p.after.head?.any fun c => Unicode.isWord c.toNat

end Place

/-- Conditions on a place that look at line breaks only. -/
inductive Anchor where
  | textStart
  | textEnd
  | lineStart
  | lineEnd
  | lastLines
  deriving DecidableEq, Repr

def Anchor.holds (a : Anchor) (p : Place) : Bool :=
  match a with
  | .textStart => p.before.isEmpty
  | .textEnd => p.after.isEmpty
  | .lineStart => p.before.isEmpty || p.before.head? == some '\n'
  | .lineEnd => p.after.isEmpty || p.after.head? == some '\n'
  | .lastLines => p.after.all (· == '\n')

/-- Conditions on a place that look at the words around it. -/
inductive Edge where
  | either
  | neither
  | wordStart
  | wordEnd
  deriving DecidableEq, Repr

def Edge.holds (e : Edge) (p : Place) : Bool :=
  match e with
  | .either => p.wordBefore != p.wordAfter
  | .neither => p.wordBefore == p.wordAfter
  | .wordStart => !p.wordBefore && p.wordAfter
  | .wordEnd => p.wordBefore && !p.wordAfter

end SchemaContract.Pattern
