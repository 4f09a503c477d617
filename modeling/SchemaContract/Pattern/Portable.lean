import SchemaContract.Pattern.Bracket
import SchemaContract.Text.Hex

/-!
# Portable patterns

The grammar that a pattern is checked against first. It knows neither look-around nor back
references and stops where one begins, and where a control escape stands, so that the caller can
replace it. Names of sets and repeated repetitions are not looked into. In the verbose form blanks
and comments are skipped everywhere but in the names of groups.
-/

namespace SchemaContract.Pattern.Portable

/-- Drops the blanks and comments of the verbose form; the first argument tells that a comment is
open. -/
def skipBlanks : Bool → List Char → List Char
  | _, [] => []
  | true, c :: rest => skipBlanks (c != '\n') rest
  | false, c :: rest =>
    if c = '#' then skipBlanks true rest
    else if Text.isBlank c then skipBlanks false rest
    else c :: rest

def ready (verbose : Bool) (rest : List Char) : List Char :=
  if verbose then skipBlanks false rest else rest

/-- Takes characters with a property, at most as many as given, and what is skipped behind them. -/
def takeWhile (verbose : Bool) (has : Char → Bool) :
    Nat → Bool → List Char → List Char × List Char
  | _, _, [] => ([], [])
  | limit, true, c :: rest => takeWhile verbose has limit (c != '\n') rest
  | limit, false, c :: rest =>
    if verbose && c == '#' then takeWhile verbose has limit true rest
    else if verbose && Text.isBlank c then takeWhile verbose has limit false rest
    else if limit > 0 && has c then
      let (taken, rest) := takeWhile verbose has (limit - 1) false rest
      (c :: taken, rest)
    else ([], c :: rest)

def takeAll (verbose : Bool) (has : Char → Bool) (rest : List Char) : List Char × List Char :=
  takeWhile verbose has rest.length false rest

/-! ## Escapes -/

inductive Escape where
  | char (c : Char)
  | bell
  | shorthand
  | property
  | place

def charOf? (n : Nat) : Option Char := if n.isValidChar then some (Char.ofNat n) else none

/-- The character of a code point in braces, or in as many digits as given. -/
def codePoint? (verbose : Bool) (digits : Nat) (rest : List Char) : Option (Char × List Char) :=
  let read (body : List Char) : Option Char := (Text.hexNumber? body).bind charOf?
  match ready verbose rest with
  | '\x7b' :: rest =>
    match takeAll verbose Text.isHexDigit rest with
    | (body, '\x7d' :: rest) => if body.isEmpty then none else (read body).map (·, rest)
    | _ => none
  | rest =>
    let (body, rest) := takeWhile verbose Text.isHexDigit digits false rest
    if body.length = digits then (read body).map (·, rest) else none

/-- What stands behind `\b`. A word in braces belongs to it; anything else between braces is left
for a repetition. -/
def edge? (verbose : Bool) : List Char → Option (List Char)
  | '\x7b' :: rest =>
    let isWordChar (c : Char) : Bool := c.isAlpha || c == '-'
    match ready verbose rest with
    | [] => none
    | c :: _ =>
      if isWordChar c then
        match takeAll verbose isWordChar rest with
        | (word, '\x7d' :: rest) =>
          if ["start", "end", "start-half", "end-half"].contains (String.ofList word) then some rest
          else none
        | _ => none
      else some ('\x7b' :: rest)
  | rest => some rest

/-- The name of a set behind `\p`: in braces, or a single character. -/
def setName? (verbose : Bool) (rest : List Char) : Option (List Char) :=
  match ready verbose rest with
  | [] => none
  | '\x7b' :: rest =>
    match takeAll verbose (· != '\x7d') rest with
    | (_, '\x7d' :: rest) => some rest
    | _ => none
  | '\\' :: _ => none
  | _ :: rest => some rest

def orMalformed {α : Type} : Option α → Except Stop α
  | some a => .ok a
  | none => .error .malformed

def escape (verbose : Bool) : List Char → Except Stop (Escape × List Char)
  | [] => .error .malformed
  | c :: rest =>
    let codePoint (digits : Nat) : Except Stop (Escape × List Char) :=
      orMalformed ((codePoint? verbose digits rest).map fun r => (.char r.1, r.2))
    match c with
    | 'x' => codePoint 2
    | 'u' => codePoint 4
    | 'U' => codePoint 8
    | 'p' | 'P' => orMalformed ((setName? verbose rest).map (.property, ·))
    | 'd' | 'D' | 's' | 'S' | 'w' | 'W' => .ok (.shorthand, rest)
    | 'a' => .ok (.bell, rest)
    | 'f' => .ok (.char '\x0c', rest)
    | 't' => .ok (.char '\t', rest)
    | 'n' => .ok (.char '\n', rest)
    | 'r' => .ok (.char '\r', rest)
    | 'v' => .ok (.char '\x0b', rest)
    | 'b' => orMalformed ((edge? verbose rest).map (.place, ·))
    | 'A' | 'z' | 'B' | '<' | '>' => .ok (.place, rest)
    | c =>
      if c.isDigit then .error .extended
      else if c = 'c' ∧ rest.head?.any Char.isAlpha then .error (.control (rest.length + 2))
      else if c.toNat < 0x80 ∧ !c.isAlphanum then .ok (.char c, rest)
      else .error .malformed

/-- A unit of a bracket expression. What a set holds is of no interest here. -/
def unit (verbose : Bool) : Bracket.Next := fun cursor =>
  match ready verbose cursor.rest with
  | [] => .ok none
  | '\\' :: rest =>
    match escape verbose rest with
    | .error e => .error e
    | .ok (.char c, behind) => .ok (some (.exact c, { cursor with rest := behind }))
    | .ok (.bell, behind) => .ok (some (.exact '\x07', { cursor with rest := behind }))
    | .ok (.shorthand, behind) =>
      .ok (some (.set .empty, ⟨behind, (rest.length + 1) :: cursor.shorthands⟩))
    | .ok (.property, behind) => .ok (some (.set .empty, { cursor with rest := behind }))
    | .ok (.place, _) => .error .malformed
  | c :: rest => .ok (some (.plain c, { cursor with rest := rest }))

/-! ## Repetitions -/

/-- The largest bound of a repetition. -/
def maxBound : Nat := Nat.pow 2 32 - 1

/-- A bound, with blanks around it in any form. -/
def bound? (verbose : Bool) (rest : List Char) : Option (Nat × List Char) :=
  let (digits, rest) := takeAll verbose Char.isDigit (rest.dropWhile Text.isBlank)
  let n := Text.decimalValue digits
  if digits.isEmpty ∨ n > maxBound then none
  else some (n, ready verbose (rest.dropWhile Text.isBlank))

/-- What stands behind bounds in braces, behind the opening one. -/
def bounds? (verbose : Bool) (rest : List Char) : Option (List Char) :=
  match bound? verbose (ready verbose rest) with
  | some (_, '\x7d' :: rest) => some rest
  | some (low, ',' :: rest) =>
    match ready verbose rest with
    | '\x7d' :: rest => some rest
    | rest =>
      match bound? verbose rest with
      | some (high, '\x7d' :: rest) => if low ≤ high then some rest else none
      | _ => none
  | _ => none

def skipReluctant : List Char → List Char
  | '?' :: rest => rest
  | rest => rest

/-! ## Groups -/

/-- The flags up to the colon or parenthesis that ends them, behind those seen so far, last first.
The result tells whether the verbose form is on. -/
def flags? : List Char → Bool → List Char → Option (List Char × Bool × List Char)
  | seen, verbose, c :: rest =>
    if c = ':' ∨ c = ')' then
      if seen.head? = some '-' then none else some (seen, verbose, c :: rest)
    else if seen.contains c ∨ !"-imsURux".toList.contains c then none
    else flags? (c :: seen) (if c = 'x' then !seen.contains '-' else verbose) rest
  | _, _, [] => none

def beginsName (c : Char) : Bool :=
  c == '_' || (if c.toNat < 0x80 then c.isAlpha else Unicode.isAlphabetic c.toNat)

def continuesName (c : Char) : Bool :=
  ['_', '.', '[', ']'].contains c || Unicode.isAlphanumeric c.toNat

/-- The name of a group up to its closing bracket. -/
def groupName? (rest : List Char) : Option (List Char × List Char) :=
  let name := rest.takeWhile continuesName
  match name, rest.drop name.length with
  | c :: _, '>' :: rest => if beginsName c then some (name, rest) else none
  | _, _ => none

structure Reading where
  cursor : Cursor
  verbose : Bool
  names : List (List Char)
  hasBell : Bool

def Reading.at (r : Reading) (rest : List Char) : Reading :=
  { r with cursor := { r.cursor with rest := rest } }

inductive Opening where
  | group
  | flags

def named (r : Reading) (rest : List Char) : Except Stop (Opening × Reading) :=
  match groupName? rest with
  | some (name, rest) =>
    if r.names.contains name then .error .malformed
    else .ok (.group, { r.at rest with names := name :: r.names })
  | none => .error .malformed

/-- Reads the head of a group, behind its parenthesis. -/
def opening (r : Reading) : Except Stop (Opening × Reading) :=
  match ready r.verbose r.cursor.rest with
  | '?' :: '=' :: _ | '?' :: '!' :: _ => .error .extended
  | '?' :: '<' :: '=' :: _ | '?' :: '<' :: '!' :: _ => .error .extended
  | '?' :: 'P' :: '<' :: rest => named r rest
  | '?' :: '<' :: rest => named r rest
  | '?' :: rest =>
    match flags? [] r.verbose rest with
    | some (_, verbose, ':' :: rest) => .ok (.group, { r.at rest with verbose := verbose })
    | some (seen, verbose, _ :: rest) =>
      if seen.isEmpty then .error .malformed
      else .ok (.flags, { r.at rest with verbose := verbose })
    | _ => .error .malformed
  | rest => .ok (.group, r.at rest)

/-! ## Whole patterns -/

/-- The heights of the parts of a branch, last first. Flags have none and cannot be repeated. -/
abbrev Parts := List (Option Nat)

def highest (heights : List Nat) : Nat := heights.foldl max 0

def branchHeight (parts : Parts) : Nat :=
  let heights := parts.map (·.getD 0)
  match heights with
  | [] => 0
  | [h] => h
  | _ => highest heights + 1

/-- The height of a choice between branches. -/
def choiceHeight (last : Nat) (others : List Nat) : Nat :=
  if others.isEmpty then last else highest (last :: others) + 1

/-- Adds a repetition of the last part. -/
def repeatLast : Parts → Except Stop Parts
  | some h :: rest => .ok (some (h + 1) :: rest)
  | _ => .error .malformed

/-- Reads alternatives up to a closing parenthesis or the end and gives the height of their tree.
Every step reads a character, so the length of the text is budget enough. -/
def alternatives : Nat → Reading → Parts → List Nat → Except Stop (Nat × Reading)
  | 0, _, _, _ => .error .malformed
  | budget + 1, r, parts, others =>
    let left := ready r.verbose r.cursor.rest
    match left with
    | [] | ')' :: _ => .ok (choiceHeight (branchHeight parts) others, r.at left)
    | '|' :: rest => alternatives budget (r.at rest) [] (branchHeight parts :: others)
    | '(' :: rest => do
      match ← opening (r.at rest) with
      | (.flags, r) => alternatives budget r (none :: parts) others
      | (.group, inner) =>
        let (height, done) ← alternatives budget inner [] []
        match done.cursor.rest with
        | ')' :: rest =>
          let after := { done.at rest with verbose := r.verbose }
          alternatives budget after (some (height + 1) :: parts) others
        | _ => throw .malformed
    | '[' :: rest => do
      let (_, cursor) ← Bracket.read (unit r.verbose) false { r.cursor with rest := rest }
      alternatives budget { r with cursor := cursor } (some 1 :: parts) others
    | '?' :: rest | '*' :: rest | '+' :: rest => do
      alternatives budget (r.at (skipReluctant rest)) (← repeatLast parts) others
    | '\x7b' :: rest => do
      let parts ← repeatLast parts
      let rest ← orMalformed (bounds? r.verbose rest)
      alternatives budget (r.at (skipReluctant (ready r.verbose rest))) parts others
    | '\\' :: rest => do
      let (e, behind) ← escape r.verbose rest
      let r := match e with
        | .shorthand =>
          { r with cursor := ⟨behind, (rest.length + 1) :: r.cursor.shorthands⟩ }
        | .bell => { r.at behind with hasBell := true }
        | _ => r.at behind
      alternatives budget r (some 0 :: parts) others
    | _ :: rest => alternatives budget (r.at rest) (some 0 :: parts) others

/-- The greatest height of the tree of a pattern. -/
def maxHeight : Nat := 250

/-- Checks a pattern. The result tells how many characters are left at each escape of a set. -/
def read (text : List Char) : Except Stop (List Nat) := do
  let (height, r) ← alternatives (text.length + 1) ⟨⟨text, []⟩, false, [], false⟩ [] []
  if !r.cursor.rest.isEmpty || r.hasBell || height > maxHeight then throw .malformed
  else return r.cursor.shorthands

/-! ## Rewriting -/

/-- The brackets that an escape of a set is written out as. -/
def spelledOut (c : Char) : List Char :=
  let blanks := [' ', '\t', '\n', '\r', '\x0b', '\x0c'] ++ [Char.ofNat 0xA0, Char.ofNat 0xFEFF] ++
    [Char.ofNat 0x2003, Char.ofNat 0x2029]
  let word := ['A', '-', 'Z', 'a', '-', 'z', '0', '-', '9', '_']
  match c with
  | 'd' => ['[', '0', '-', '9', ']']
  | 'D' => ['[', '^', '0', '-', '9', ']']
  | 'w' => ['['] ++ word ++ [']']
  | 'W' => ['[', '^'] ++ word ++ [']']
  | 's' => ['['] ++ blanks ++ [']']
  | 'S' => ['[', '^'] ++ blanks ++ [']']
  | c => ['\\', c]

/-- The pattern with the escapes of sets written out. -/
def spellOut (shorthands : List Nat) : List Char → List Char
  | '\\' :: c :: rest =>
    if shorthands.contains (rest.length + 2) then spelledOut c ++ spellOut shorthands rest
    else '\\' :: spellOut shorthands (c :: rest)
  | c :: rest => c :: spellOut shorthands rest
  | [] => []

def controlOf (c : Char) : Char := Char.ofNat (c.toNat % 32)

/-- Replaces the control escape with so many characters left by its character. -/
def replaceControl (left : Nat) (text : List Char) : List Char :=
  let start := text.length - left
  let escaped := text.drop start
  text.take start ++ ((escaped.drop 2).take 1).map controlOf ++ escaped.drop 3

/-- The pattern in the form that is matched: with the escapes of sets written out as ASCII sets, and
as it stands if it needs more than this grammar. A control escape is replaced and the reading starts
again; the budget is the number of characters. -/
def rewritten? : Nat → List Char → Option (List Char)
  | 0, _ => none
  | budget + 1, text =>
    match read text with
    | .ok shorthands => some (spellOut shorthands text)
    | .error (.control left) => rewritten? budget (replaceControl left text)
    | .error .extended => some text
    | .error .malformed => none

end SchemaContract.Pattern.Portable
