import SchemaContract.Pattern.Assembly
import SchemaContract.Pattern.Portable
import SchemaContract.Pattern.Reader

/-!
# Patterns

A regular expression with the text it is shown by. In that text `\d`, `\w` and `\s` are written out
as the ASCII sets they stand for, and a control escape as its character. A pattern with look-around
or back references keeps its text, with Unicode sets for these escapes.
-/

namespace SchemaContract

inductive Pattern.Matcher where
  | regular (expression : Pattern.Regular)
  | machine (program : Pattern.Program)
  deriving Repr

structure Pattern where
  text : String
  matcher : Pattern.Matcher
  deriving Repr

namespace Pattern

/-- The tree with what is looked ahead for at its end as a part of the match, since nothing comes
behind it. -/
def withEnding (n : Node) : Node :=
  match n with
  | .seq parts =>
    match parts.getLast? with
    | some (.look true false body) => .seq [.sequence parts.dropLast, body]
    | _ => n
  | n => n

/-- The matcher of a tree, if there is room for it and all it looks behind for has a fixed width. -/
def matcher? (r : Reader.Result) : Option Matcher :=
  let n := (withEnding r.node).numbering r.references
  if n.isRegular then (n.regular?.filter Regular.isAffordable).map .regular
  else (n.program? r.groups).map .machine

def portable? (text : String) : Option (List Char) :=
  Portable.rewritten? (text.length + 1) text.toList

/-- Whether a text has the form of a pattern. It may still have no pattern, since the reader that
patterns are matched by knows another grammar. -/
def isWellFormed (text : String) : Bool := (portable? text).isSome

def ofText? (text : String) : Option Pattern := do
  let portable ← portable? text
  let matcher ← (Reader.whole? portable).bind matcher?
  return ⟨String.ofList portable, matcher⟩

def search (p : Pattern) (text : String) : Verdict :=
  match p.matcher with
  | .regular r => if r.isFoundIn text.toList then .found else .absent
  | .machine m => m.search text.toList

/-- Whether some part of the text is found to match. -/
def matchesIn (p : Pattern) (text : String) : Bool := p.search text == .found

end Pattern

end SchemaContract
