import SchemaContract.Pattern.CharSet

/-!
# Bracket expressions

A bracket expression is read unit by unit: a character that may have a meaning between brackets, one
that stands for itself, a set, or a whole bracket expression. How a unit is written is left to the
reader that is handed in.
-/

namespace SchemaContract.Pattern

/-- Why reading stopped: at something that another reader knows, at a control escape with so many
characters left from its backslash on, or at an error. -/
inductive Stop where
  | extended
  | control (left : Nat)
  | malformed
  deriving DecidableEq, Repr

/-- The text that is left, and the number of characters that were left at each escape such as `\d`,
last first. -/
structure Cursor where
  rest : List Char
  shorthands : List Nat

namespace Bracket

inductive Unit where
  | plain (c : Char)
  | exact (c : Char)
  | set (set : CharSet)
  | brackets (set : CharSet)

/-- Reads the next unit, if the text is not at its end. -/
abbrev Next := Cursor → Except Stop (Option (Unit × Cursor))

def Unit.char? : Unit → Option Char
  | .plain c => some c
  | .exact c => some c
  | .set _ | .brackets _ => none

def Unit.asSet : Unit → CharSet
  | .plain c => .single c
  | .exact c => .single c
  | .set s | .brackets s => s

/-- Whether the next unit is the given character in its own meaning; if so, the cursor behind it. -/
def take? (next : Next) (c : Char) (cursor : Cursor) : Except Stop (Option Cursor) :=
  match next cursor with
  | .error e => .error e
  | .ok (some (.plain d, behind)) => .ok (if c = d then some behind else none)
  | .ok _ => .ok none

/-- The range that begins with a unit, or the unit by itself. A hyphen makes no range in front of
another one or of the closing bracket. -/
def range (next : Next) (first : Unit) (cursor : Cursor) : Except Stop (CharSet × Cursor) := do
  match ← take? next '-' cursor with
  | none => return (first.asSet, cursor)
  | some behind =>
    match ← next behind with
    | none => throw .malformed
    | some (.plain ']', _) | some (.plain '-', _) => return (first.asSet, cursor)
    | some (last, behind) =>
      match first.char?, last.char? with
      | some a, some b =>
        if a.toNat ≤ b.toNat then return (.ranges [(a.toNat, b.toNat)], behind)
        else throw .malformed
      | _, _ => throw .malformed

/-- A named set, behind the two characters `[:`. -/
def namedSet? (rest : List Char) : Option (CharSet × List Char) :=
  let (negated, body) := match rest with
    | '^' :: rest => (true, rest)
    | _ => (false, rest)
  let name := body.takeWhile (· != ':')
  match body.drop name.length with
  | ':' :: ']' :: rest =>
    (CharSet.named? (String.ofList name)).map fun s => (s.negateIf negated, rest)
  | _ => none

inductive Operator where
  | inter
  | diff
  | symmetric

/-- The operator that a character stands for when it is doubled. -/
def Operator.ofChar? : Char → Option Operator
  | '&' => some .inter
  | '-' => some .diff
  | '~' => some .symmetric
  | _ => none

def Operator.apply : Operator → CharSet → CharSet → CharSet
  | .inter, a, b => .inter a b
  | .diff, a, b => a.diff b
  | .symmetric, a, b => a.symmetricDiff b

/-- The operator that begins with a unit, with the cursor behind it. -/
def operator? (next : Next) (first : Unit) (cursor : Cursor) :
    Except Stop (Option (Operator × Cursor)) :=
  match first with
  | .plain c =>
    match Operator.ofChar? c, take? next c cursor with
    | none, _ => .ok none
    | some _, .error e => .error e
    | some op, .ok behind => .ok (behind.map (op, ·))
  | _ => .ok none

/-- A bracket expression in the making: an operator waiting for its right side, and the union that
is being collected. -/
structure Reading where
  pending : Option (Operator × CharSet)
  union : CharSet

namespace Reading

def value (s : Reading) : CharSet :=
  match s.pending with
  | none => s.union
  | some (op, left) => op.apply left s.union

def add (s : Reading) (set : CharSet) : Reading := { s with union := .union s.union set }

def operate (s : Reading) (op : Operator) : Reading := ⟨some (op, s.value), .empty⟩

end Reading

/-- The hyphens that stand for themselves at the beginning; the first argument bounds their
number. -/
def skipHyphens (next : Next) : Nat → Cursor → Except Stop Cursor
  | 0, cursor => .ok cursor
  | budget + 1, cursor => do
    match ← take? next '-' cursor with
    | some behind => skipHyphens next budget behind
    | none => return cursor

/-- What stands behind an opening bracket: whether the set is negated, and the hyphens or the
bracket that stand for themselves. -/
def opening (next : Next) (budget : Nat) (cursor : Cursor) :
    Except Stop (Bool × CharSet × Cursor) := do
  let caret ← take? next '^' cursor
  let cursor := caret.getD cursor
  match ← take? next '-' cursor with
  | some behind => return (caret.isSome, .single '-', ← skipHyphens next budget behind)
  | none =>
    match ← take? next ']' cursor with
    | some behind => return (caret.isSome, .single ']', behind)
    | none => return (caret.isSome, .empty, cursor)

/-- The members up to the closing bracket. Every step reads a character, so the length of the text
is budget enough. -/
def members (next : Next) (insensitive : Bool) :
    Nat → Reading → Cursor → Except Stop (CharSet × Cursor)
  | 0, _, _ => .error .malformed
  | budget + 1, s, cursor => do
    match ← next cursor with
    | none => throw .malformed
    | some (.plain ']', cursor) => return (s.value, cursor)
    | some (.plain '[', cursor) =>
      let known := match cursor.rest with
        | ':' :: body => namedSet? body
        | _ => none
      match known with
      | some (set, rest) =>
        members next insensitive budget (s.add (set.foldIf insensitive))
          { cursor with rest := rest }
      | none =>
        let (negated, first, cursor) ← opening next budget cursor
        let (set, cursor) ← members next insensitive budget ⟨none, first⟩ cursor
        members next insensitive budget (s.add (set.negateIf negated)) cursor
    | some (.brackets set, cursor) => members next insensitive budget (s.add set) cursor
    | some (first, behind) =>
      match ← operator? next first behind with
      | some (op, cursor) => members next insensitive budget (s.operate op) cursor
      | none =>
        let (set, cursor) ← range next first behind
        members next insensitive budget (s.add (set.foldIf insensitive)) cursor

/-- A bracket expression, behind its opening bracket. -/
def read (next : Next) (insensitive : Bool) (cursor : Cursor) : Except Stop (CharSet × Cursor) := do
  let budget := cursor.rest.length + 1
  let (negated, first, cursor) ← opening next budget cursor
  let (set, cursor) ← members next insensitive budget ⟨none, first⟩ cursor
  return (set.negateIf negated, cursor)

end Bracket

end SchemaContract.Pattern
