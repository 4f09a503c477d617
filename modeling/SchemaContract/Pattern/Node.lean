import SchemaContract.Pattern.Regular

/-!
# Syntax of patterns

The tree that a pattern is read into. Flags are gone at this point: they are settled in the sets,
anchors and back references they act on. A group keeps its number as long as something may refer to
it. Parts that look around, look back or hold on to a choice need a machine with a memory; all
others are regular.
-/

namespace SchemaContract.Pattern

inductive Node where
  | empty
  | set (set : CharSet)
  | anchor (anchor : Anchor)
  | edge (edge : Edge)
  | seq (parts : List Node)
  | either (branches : List Node)
  | repeated (low : Nat) (high : Option Nat) (greedy : Bool) (body : Node)
  | group (number : Option Nat) (body : Node)
  | look (ahead negated : Bool) (body : Node)
  | atomic (body : Node)
  | same (group : Nat) (insensitive : Bool)
  | isSet (group : Nat)
  | choose (condition yes no : Node)
  | dropBefore
  | atSearchStart
  deriving Repr

namespace Node

def sequence : List Node → Node
  | [] => .empty
  | [n] => n
  | ns => .seq ns

def isEmpty : Node → Bool
  | .empty => true
  | _ => false

/-- The nodes that may be repeated: conditions on a place may not. -/
def isRepeatable : Node → Bool
  | .empty | .anchor _ | .edge _ | .look _ _ _ => false
  | _ => true

mutual

/-- The tree with the numbers of the groups that are referred to, and no others. -/
def numbering (referred : List Nat) : Node → Node
  | .seq parts => .seq (numberingIn referred parts)
  | .either branches => .either (numberingIn referred branches)
  | .repeated low high greedy body => .repeated low high greedy (body.numbering referred)
  | .group number body => .group (number.filter referred.contains) (body.numbering referred)
  | .look ahead negated body => .look ahead negated (body.numbering referred)
  | .atomic body => .atomic (body.numbering referred)
  | .choose condition yes no =>
    .choose (condition.numbering referred) (yes.numbering referred) (no.numbering referred)
  | n => n

def numberingIn (referred : List Nat) : List Node → List Node
  | [] => []
  | n :: rest => n.numbering referred :: numberingIn referred rest

end

mutual

def isRegular : Node → Bool
  | .empty | .set _ | .anchor _ => true
  | .seq parts => allRegular parts
  | .either branches => allRegular branches
  | .repeated _ _ _ body => body.isRegular
  | .group none body => body.isRegular
  | _ => false

def allRegular : List Node → Bool
  | [] => true
  | n :: rest => n.isRegular && allRegular rest

end

mutual

/-- The least number of characters that a match has. -/
def minWidth : Node → Nat
  | .set _ => 1
  | .seq parts => totalWidth parts
  | .either branches => leastWidth branches
  | .repeated low _ _ body => low * body.minWidth
  | .group _ body => body.minWidth
  | .atomic body => body.minWidth
  | .choose condition yes no => condition.minWidth + min yes.minWidth no.minWidth
  | _ => 0

def totalWidth : List Node → Nat
  | [] => 0
  | n :: rest => n.minWidth + totalWidth rest

def leastWidth : List Node → Nat
  | [] => 0
  | [n] => n.minWidth
  | n :: rest => min n.minWidth (leastWidth rest)

end

def sameWidths : List Node → Bool
  | n :: m :: rest => n.minWidth == m.minWidth && sameWidths (m :: rest)
  | _ => true

mutual

/-- Whether all matches have the same number of characters. -/
def isFixed : Node → Bool
  | .seq parts => allFixed parts
  | .either branches => allFixed branches && sameWidths branches
  | .repeated low high _ body => body.isFixed && high == some low
  | .group _ body => body.isFixed
  | .atomic body => body.isFixed
  | .choose condition yes no =>
    condition.isFixed && yes.isFixed && no.isFixed &&
      condition.minWidth + yes.minWidth == no.minWidth
  | .same _ _ => false
  | _ => true

def allFixed : List Node → Bool
  | [] => true
  | n :: rest => n.isFixed && allFixed rest

end

mutual

/-- The expression of a regular node. There is none if bounds are in the wrong order. -/
def regular? : Node → Option Regular
  | .empty => some .empty
  | .set s => some (.set s)
  | .anchor a => some (.anchor a)
  | .seq parts => (allRegular? parts).map .sequence
  | .either branches => (allRegular? branches).map .choice
  | .repeated low high greedy body =>
    if high.any (· < low) then none else body.regular?.map (.repeated low high greedy)
  | .group none body => body.regular?
  | _ => none

def allRegular? : List Node → Option (List Regular)
  | [] => some []
  | n :: rest =>
    match n.regular?, allRegular? rest with
    | some r, some rs => some (r :: rs)
    | _, _ => none

end

end Node

end SchemaContract.Pattern
