import SchemaContract.Pattern.Bracket
import SchemaContract.Pattern.Node
import SchemaContract.Pattern.SetName
import SchemaContract.Text.Hex

/-!
# Reading patterns

The grammar that patterns are matched by. It has look-around, back references, atomic groups and
conditions. Flags that are set inside a group hold until the end of the pattern, unless the group
began with flags of its own. A brace that opens no bounds stands for itself.
-/

namespace SchemaContract.Pattern

structure Flags where
  insensitive : Bool
  multiline : Bool
  dotAll : Bool
  swapped : Bool
  verbose : Bool
  deriving DecidableEq, Repr

def Flags.none : Flags := ⟨false, false, false, false, false⟩

/-- The state of reading: the text that is left, the flags, the number of groups that were opened,
the names of groups with their numbers, the last one first, the groups that are referred to, and
whether one of them was by number. -/
structure Reading where
  rest : List Char
  flags : Flags
  groups : Nat
  names : List (List Char × Nat)
  references : List Nat
  byNumber : Bool

namespace Reader

/-! ## Blanks and comments -/

inductive Between where
  | parts
  | lineComment
  | comment

/-- Drops comments, and in the verbose form blanks and the rest of a line behind a number sign. -/
def skipBlanks? (verbose : Bool) : Between → List Char → Option (List Char)
  | .comment, [] => none
  | _, [] => some []
  | .lineComment, c :: rest =>
    skipBlanks? verbose (if c = '\n' then .parts else .lineComment) rest
  | .comment, ')' :: rest => skipBlanks? verbose .parts rest
  | .comment, '\\' :: _ :: rest => skipBlanks? verbose .comment rest
  | .comment, _ :: rest => skipBlanks? verbose .comment rest
  | .parts, '(' :: '?' :: '#' :: rest => skipBlanks? verbose .comment rest
  | .parts, c :: rest =>
    if verbose && c == '#' then skipBlanks? verbose .lineComment rest
    else if verbose && [' ', '\r', '\n', '\t'].contains c then skipBlanks? verbose .parts rest
    else some (c :: rest)

def ready? (r : Reading) (rest : List Char) : Option Reading :=
  (skipBlanks? r.flags.verbose .parts rest).map fun rest => { r with rest := rest }

/-! ## Escapes -/

def charOf? (n : Nat) : Option Char := if n.isValidChar then some (Char.ofNat n) else none

/-- The character of a code point in as many digits as given, or in braces with up to eight. -/
def codePoint? (digits : Nat) (rest : List Char) : Option (Char × List Char) :=
  let body := rest.take digits
  if body.length = digits ∧ body.all Text.isHexDigit then
    ((Text.hexNumber? body).bind charOf?).map (·, rest.drop digits)
  else
    match rest with
    | '\x7b' :: rest =>
      let body := rest.takeWhile Text.isHexDigit
      match rest.drop body.length with
      | '\x7d' :: rest =>
        if body.isEmpty ∨ body.length > 8 then none
        else ((Text.hexNumber? body).bind charOf?).map (·, rest)
      | _ => none
    | _ => none

/-- The set behind `\p`, whose name is in braces or a single character. -/
def property? (insensitive negated : Bool) (rest : List Char) : Option (CharSet × List Char) :=
  let make (found : Option (Bool × CharSet)) (rest : List Char) : Option (CharSet × List Char) :=
    found.map fun s => ((s.2.foldIf insensitive).negateIf (s.1 != negated), rest)
  match rest with
  | '\x7b' :: rest =>
    let name := rest.takeWhile (· != '\x7d')
    match rest.drop name.length with
    | _ :: rest => make (setBetweenBraces? name) rest
    | [] => none
  | c :: rest => make ((setOfName? [c]).map (false, ·)) rest
  | [] => none

/-- The set of a letter such as `d`; its capital has the complement. -/
def setOf? (c : Char) : Option CharSet :=
  match c with
  | 'd' => some .digits
  | 'D' => some (.complement .digits)
  | 'w' => some .word
  | 'W' => some (.complement .word)
  | 's' => some .blanks
  | 'S' => some (.complement .blanks)
  | _ => none

/-- The set of `h`, which is read as a bracket expression. -/
def hexSet? (c : Char) : Option CharSet :=
  match c with
  | 'h' => some .hexDigits
  | 'H' => some (.complement .hexDigits)
  | _ => none

def controlOf? (c : Char) : Option Char :=
  match c with
  | 'a' => some '\x07'
  | 'e' => some '\x1b'
  | 'f' => some '\x0c'
  | 'n' => some '\n'
  | 'r' => some '\r'
  | 't' => some '\t'
  | 'v' => some '\x0b'
  | _ => none

/-- A character or a set behind a backslash, inside or outside a bracket expression. -/
def member? (insensitive : Bool) (rest : List Char) : Option (Bracket.Unit × List Char) :=
  let char (found : Option (Char × List Char)) : Option (Bracket.Unit × List Char) :=
    found.map fun f => (.exact f.1, f.2)
  let set (found : Option (CharSet × List Char)) : Option (Bracket.Unit × List Char) :=
    found.map fun f => (.set f.1, f.2)
  match rest with
  | [] => none
  | 'x' :: rest => char (codePoint? 2 rest)
  | 'u' :: rest => char (codePoint? 4 rest)
  | 'U' :: rest => char (codePoint? 8 rest)
  | 'p' :: rest => set (property? insensitive false rest)
  | 'P' :: rest => set (property? insensitive true rest)
  | c :: rest =>
    match setOf? c, hexSet? c, controlOf? c with
    | some s, _, _ => some (.set s, rest)
    | none, some s, _ => some (.brackets s, rest)
    | none, none, some c => some (.exact c, rest)
    | none, none, none => if c.isAlphanum then none else some (.exact c, rest)

/-- A unit of a bracket expression. Some letters that have a meaning outside stand for themselves
here. -/
def unit (insensitive : Bool) : Bracket.Next := fun cursor =>
  match cursor.rest with
  | [] => .ok none
  | '\\' :: 'b' :: rest => .ok (some (.exact '\x08', { cursor with rest := rest }))
  | '\\' :: rest =>
    match member? insensitive rest, rest with
    | some (u, rest), _ => .ok (some (u, { cursor with rest := rest }))
    | none, c :: rest =>
      if ['k', 'A', 'z', 'B', 'K', 'G'].contains c then
        .ok (some (.exact c, { cursor with rest := rest }))
      else .error .malformed
    | none, [] => .error .malformed
  | c :: rest => .ok (some (.plain c, { cursor with rest := rest }))

/-- The text behind the bracket that closes so many open ones. -/
def closing? (insensitive : Bool) : Nat → Nat → Cursor → Option (List Char)
  | 0, _, _ => none
  | budget + 1, opened, cursor =>
    match unit insensitive cursor with
    | .ok (some (.plain '[', cursor)) => closing? insensitive budget (opened + 1) cursor
    | .ok (some (.plain ']', cursor)) =>
      if opened ≤ 1 then some cursor.rest else closing? insensitive budget (opened - 1) cursor
    | .ok (some (_, cursor)) => closing? insensitive budget opened cursor
    | _ => none

/-- A bracket expression, behind its opening bracket. Its brackets have to be balanced but for one
that closes at the very beginning. -/
def bracket? (insensitive : Bool) (rest : List Char) : Option (CharSet × List Char) :=
  let inside := match rest with
    | '^' :: ']' :: inside => inside
    | ']' :: inside => inside
    | inside => inside
  match closing? insensitive (rest.length + 1) 1 ⟨inside, []⟩,
      Bracket.read (unit insensitive) insensitive ⟨rest, []⟩ with
  | some behind, .ok (set, cursor) =>
    if cursor.rest.length = behind.length then some (set, behind) else none
  | _, _ => none

/-! ## References -/

def isNameChar (c : Char) : Bool := c == '_' || Unicode.isAlphanumeric c.toNat

/-- The name of a group up to the given character. -/
def name? (close : Char) (rest : List Char) : Option (List Char × List Char) :=
  let name := rest.takeWhile isNameChar
  match rest.drop name.length with
  | c :: rest => if c = close ∧ !name.isEmpty then some (name, rest) else none
  | [] => none

/-- The distance of a group, with its sign, up to the given character. -/
def distance? (close : Char) (rest : List Char) : Option (Int × List Char) :=
  let read (sign : Int) (rest : List Char) : Option (Int × List Char) :=
    let digits := rest.takeWhile Char.isDigit
    match rest.drop digits.length with
    | c :: rest =>
      let n := Text.decimalValue digits
      if c = close ∧ n ≠ 0 then some (sign * n, rest) else none
    | [] => none
  match rest with
  | '-' :: rest => read (-1) rest
  | '+' :: rest => read 1 rest
  | _ => none

/-- The group at a distance; the one that was opened last is at the distance −1. -/
def groupAt? (groups : Nat) (distance : Int) : Option Nat :=
  let n : Int := if distance < 0 then groups + distance + 1 else groups + distance
  if n < 0 then none else some n.toNat

def Reading.refer (r : Reading) (group : Nat) (rest : List Char) : Reading :=
  { r with rest := rest, references := group :: r.references }

/-- A group by its name, which may be a number. -/
def groupNamed? (r : Reading) (name : List Char) : Option Nat :=
  match r.names.find? fun n => n.1 == name with
  | some (_, group) => some group
  | none => if name.all Char.isDigit then some (Text.decimalValue name) else none

def reference? (close : Char) (r : Reading) (rest : List Char) : Option (Nat × Reading) :=
  match name? close rest with
  | some (name, rest) => (groupNamed? r name).map fun group => (group, Reading.refer r group rest)
  | none =>
    match distance? close rest with
    | some (distance, rest) =>
      (groupAt? r.groups distance).map fun group => (group, Reading.refer r group rest)
    | none => none

/-- A reference by number. The number has to be smaller than half the bytes of the pattern. -/
def numbered? (limit : Nat) (r : Reading) (rest : List Char) : Option (Nat × Reading) :=
  let digits := rest.takeWhile Char.isDigit
  let group := Text.decimalValue digits
  if group < limit then
    some (group, { Reading.refer r group (rest.drop digits.length) with byNumber := true })
  else none

/-! ## Units of a sequence -/

def literal (r : Reading) (c : Char) : Node := .set ((CharSet.single c).foldIf r.flags.insensitive)

def escape? (limit : Nat) (r : Reading) (rest : List Char) : Option (Node × Reading) :=
  let same (found : Option (Nat × Reading)) : Option (Node × Reading) :=
    found.map fun f => (.same f.1 r.flags.insensitive, f.2)
  let place (n : Node) (rest : List Char) : Option (Node × Reading) :=
    some (n, { r with rest := rest })
  match rest with
  | 'A' :: rest => place (.anchor .textStart) rest
  | 'z' :: rest => place (.anchor .textEnd) rest
  | 'Z' :: rest => place (.anchor .lastLines) rest
  | 'b' :: '\x7b' :: _ | 'B' :: '\x7b' :: _ => none
  | 'b' :: rest => place (.edge .either) rest
  | 'B' :: rest => place (.edge .neither) rest
  | '<' :: rest => place (.edge .wordStart) rest
  | '>' :: rest => place (.edge .wordEnd) rest
  | 'K' :: rest => place .dropBefore rest
  | 'G' :: rest => place .atSearchStart rest
  | 'O' :: rest => place (.set .anything) rest
  | 'k' :: '<' :: rest => same (reference? '>' r rest)
  | 'k' :: '\'' :: rest => same (reference? '\'' r rest)
  | c :: _ =>
    if c.isDigit then same (numbered? limit r rest)
    else
      match member? r.flags.insensitive rest with
      | some (.exact c, rest) => some (literal r c, { r with rest := rest })
      | some (u, rest) => some (.set u.asSet, { r with rest := rest })
      | none => none
  | [] => none

def bounds? (verbose : Bool) (rest : List Char) : Option (Nat × Option Nat × List Char) := do
  let rest ← skipBlanks? verbose .parts rest
  let low := rest.takeWhile Char.isDigit
  let behind := rest.drop low.length
  if low.isEmpty ∧ behind.head? ≠ some ',' then none
  let n := Text.decimalValue low
  match ← skipBlanks? verbose .parts behind with
  | '\x7d' :: rest => return (n, some n, rest)
  | ',' :: rest =>
    let rest ← skipBlanks? verbose .parts rest
    let high := rest.takeWhile Char.isDigit
    match ← skipBlanks? verbose .parts (rest.drop high.length) with
    | '\x7d' :: rest =>
      return (n, if high.isEmpty then none else some (Text.decimalValue high), rest)
    | _ => none
  | _ => none

def quantifier? (verbose : Bool) (rest : List Char) : Option (Nat × Option Nat × List Char) :=
  match rest with
  | '?' :: rest => some (0, some 1, rest)
  | '*' :: rest => some (0, none, rest)
  | '+' :: rest => some (1, none, rest)
  | '\x7b' :: rest => bounds? verbose rest
  | _ => none

/-- A node with the quantifier behind it. A question mark makes it reluctant, a plus sign atomic. -/
def quantified? (n : Node) (r : Reading) : Option (Node × Reading) := do
  let r ← ready? r r.rest
  match quantifier? r.flags.verbose r.rest with
  | none => return (n, r)
  | some (low, high, rest) =>
    if !n.isRepeatable then none
    let r ← ready? r rest
    let (reluctant, rest) := match r.rest with
      | '?' :: rest => (true, rest)
      | rest => (false, rest)
    let body := Node.repeated low high (reluctant == r.flags.swapped) n
    match rest with
    | '+' :: rest => return (.atomic body, { r with rest := rest })
    | rest => return (body, { r with rest := rest })

/-! ## Groups -/

/-- What an opening parenthesis begins: a group with the given number, a part without number that
may set the flags back at its end, a look around, an atomic part, a condition, or flags. -/
inductive Opening where
  | group (number : Nat)
  | flagged (outside : Flags)
  | look (ahead negated : Bool)
  | atomic
  | condition
  | flags

/-- The flags up to the colon or parenthesis that ends them. `seen` counts the letters and the minus
sign so far, and `off` tells that a minus sign was read. -/
def flags? (verbose : Bool) : Nat → Flags → Nat → Bool → List Char → Option (Flags × List Char)
  | 0, _, _, _, _ => none
  | budget + 1, flags, seen, off, rest => do
    match ← skipBlanks? verbose .parts rest with
    | ')' :: rest => if seen = 0 ∨ (off ∧ seen = 1) then none else return (flags, ')' :: rest)
    | ':' :: rest => if off ∧ seen = 1 then none else return (flags, ':' :: rest)
    | c :: rest =>
      let next (flags : Flags) : Option (Flags × List Char) :=
        flags? flags.verbose budget flags (seen + 1) off rest
      match c with
      | 'i' => next { flags with insensitive := !off }
      | 'm' => next { flags with multiline := !off }
      | 's' => next { flags with dotAll := !off }
      | 'U' => next { flags with swapped := !off }
      | 'x' => next { flags with verbose := !off }
      | 'u' => if off then none else next flags
      | '-' => if off then none else flags? flags.verbose budget flags (seen + 1) true rest
      | _ => none
    | [] => none

def Reading.openGroup (r : Reading) (rest : List Char) : Reading :=
  { r with rest := rest, groups := r.groups + 1 }

def named? (close : Char) (r : Reading) (rest : List Char) : Option (Opening × Reading) :=
  (name? close rest).map fun (name, rest) =>
    let r := Reading.openGroup r rest
    (.group r.groups, { r with names := (name, r.groups) :: r.names })

def opening? (r : Reading) : Option (Opening × Reading) :=
  let look (ahead negated : Bool) (rest : List Char) : Option (Opening × Reading) :=
    some (.look ahead negated, { r with rest := rest })
  match r.rest with
  | '?' :: '=' :: rest => look true false rest
  | '?' :: '!' :: rest => look true true rest
  | '?' :: '<' :: '=' :: rest => look false false rest
  | '?' :: '<' :: '!' :: rest => look false true rest
  | '?' :: '<' :: rest => named? '>' r rest
  | '?' :: '\'' :: rest => named? '\'' r rest
  | '?' :: 'P' :: '<' :: rest => named? '>' r rest
  | '?' :: '>' :: rest => some (.atomic, { r with rest := rest })
  | '?' :: '(' :: rest => some (.condition, { r with rest := rest })
  | '?' :: rest =>
    match flags? r.flags.verbose (rest.length + 1) r.flags 0 false rest with
    | some (flags, ':' :: rest) =>
      some (.flagged r.flags, { r with rest := rest, flags := flags })
    | some (flags, _ :: rest) => some (.flags, { r with rest := rest, flags := flags })
    | _ => none
  | rest =>
    let r := Reading.openGroup r rest
    some (.group r.groups, r)

def closed? (r : Reading) : Option Reading :=
  match r.rest with
  | ')' :: rest => some { r with rest := rest }
  | _ => none

/-- The node of a condition with its branches, the first of which is for the case that it holds. -/
def conditional (condition : Node) (branches : Node) : Node :=
  let (yes, no) := match branches with
    | .either (yes :: [no]) => (yes, no)
    | .either (yes :: others) => (yes, .either others)
    | n => (n, .empty)
  let condition := match condition with
    | .same group _ => .isSet group
    | condition => condition
  if yes.isEmpty && no.isEmpty then condition else .choose condition yes no

/-- The greatest depth of groups. -/
def maxDepth : Nat := 63

/-! ## Whole patterns -/

/-- The kinds of text that a reader takes: alternatives, one of them, or one unit of a sequence. The
parts and branches that were read come last first. -/
inductive Sought where
  | branches (finished : List Node)
  | branch (parts : List Node)
  | unit

/-- Reads what is sought. Every call in a row reads a character or seeks something smaller, so three
times the length of the text is budget enough. -/
def read? (limit : Nat) : Nat → Nat → Sought → Reading → Option (Node × Reading)
  | 0, _, _, _ => none
  | budget + 1, depth, .branches finished, r => do
    let (n, r) ← read? limit budget depth (.branch []) r
    let r ← ready? r r.rest
    match r.rest with
    | '|' :: rest =>
      read? limit budget depth (.branches (n :: finished)) { r with rest := rest }
    | _ =>
      if finished.isEmpty then
        if r.byNumber ∧ !r.names.isEmpty then none else return (n, r)
      else return (.either (n :: finished).reverse, r)
  | budget + 1, depth, .branch parts, r => do
    let (n, after) ← read? limit budget depth .unit r
    let (n, after) ← quantified? n after
    if after.rest.length = r.rest.length then return (.sequence parts.reverse, after)
    else
      read? limit budget depth (.branch (if n.isEmpty then parts else n :: parts)) after
  | budget + 1, depth, .unit, r => do
    let r ← ready? r r.rest
    match r.rest with
    | [] | '+' :: _ | '*' :: _ | '?' :: _ | '|' :: _ | ')' :: _ => return (.empty, r)
    | '.' :: rest =>
      return (.set (if r.flags.dotAll then .anything else .sameLine), { r with rest := rest })
    | '^' :: rest =>
      let a : Anchor := if r.flags.multiline then .lineStart else .textStart
      return (.anchor a, { r with rest := rest })
    | '$' :: rest =>
      let a : Anchor := if r.flags.multiline then .lineEnd else .textEnd
      return (.anchor a, { r with rest := rest })
    | '\\' :: rest => escape? limit r rest
    | '[' :: rest =>
      let (set, rest) ← bracket? r.flags.insensitive rest
      return (.set set, { r with rest := rest })
    | '(' :: '?' :: 'P' :: '=' :: rest =>
      if depth = maxDepth then none
      let (group, r) ← reference? ')' r rest
      return (.same group r.flags.insensitive, r)
    | '(' :: rest =>
      if depth = maxDepth then none
      let inner (r : Reading) : Option (Node × Reading) :=
        read? limit budget (depth + 1) (.branches []) r
      let (o, r) ← opening? (← ready? r rest)
      match o with
      | .flags => return (.empty, r)
      | .group number =>
        let (n, r) ← inner r
        return (.group (some number) n, ← closed? r)
      | .flagged outside =>
        let (n, r) ← inner r
        return (n, { ← closed? r with flags := outside })
      | .look ahead negated =>
        let (n, r) ← inner r
        return (.look ahead negated n, ← closed? r)
      | .atomic =>
        let (n, r) ← inner r
        return (.atomic n, ← closed? r)
      | .condition =>
        let (condition, r) ← match r.rest with
          | '<' :: rest => (reference? '>' r rest).map fun f => (Node.same f.1 false, f.2)
          | '\'' :: rest => (reference? '\'' r rest).map fun f => (Node.same f.1 false, f.2)
          | c :: _ =>
            if c.isDigit then (numbered? limit r r.rest).map fun f => (Node.same f.1 false, f.2)
            else inner r
          | [] => none
        let r ← closed? r
        let (branches, after) ← inner r
        if after.rest.length = r.rest.length then
          match condition with
          | .same group _ => return (.isSet group, ← closed? after)
          | _ => none
        else return (conditional condition branches, ← closed? after)
    | c :: rest => return (literal r c, { r with rest := rest })

/-- A pattern with the number of its groups and the groups that it refers to. -/
structure Result where
  node : Node
  groups : Nat
  references : List Nat

/-- Reads a whole pattern. It refers to no group that it has not. -/
def whole? (text : List Char) : Option Result := do
  let limit := (String.ofList text).utf8ByteSize / 2
  let (n, r) ← read? limit (3 * text.length + 3) 0 (.branches []) ⟨text, .none, 0, [], [], false⟩
  if r.rest.isEmpty ∧ r.references.all fun group => 0 < group ∧ group ≤ r.groups then
    return ⟨n, r.groups, r.references⟩
  else none

end Reader

end SchemaContract.Pattern
