import SchemaContract.Text.Hex
import SchemaContract.Text.Pieces

/-!
# Pointers, templates and identifiers

The smaller formats: JSON pointers and relative ones, URI templates and UUIDs.
-/

namespace SchemaContract.Format

/-- A tilde is followed by `0` or `1`. -/
def tildesEscaped : List Char → Bool
  | [] => true
  | '~' :: '0' :: rest => tildesEscaped rest
  | '~' :: '1' :: rest => tildesEscaped rest
  | c :: rest => c != '~' && tildesEscaped rest

def isJsonPointer (cs : List Char) : Bool :=
  match cs with
  | [] => true
  | '/' :: rest => tildesEscaped rest
  | _ => false

/-- A number of levels to go up, then a number sign or a pointer. -/
def isRelativeJsonPointer (cs : List Char) : Bool :=
  let digits := cs.takeWhile Char.isDigit
  !digits.isEmpty && (digits == ['0'] || digits.head? != some '0') &&
  match cs.drop digits.length with
  | ['#'] => true
  | rest => isJsonPointer rest

def isUuid (cs : List Char) : Bool :=
  cs.length == 36 &&
    (cs.zipIdx.all fun (c, i) =>
      if [8, 13, 18, 23].contains i then c == '-' else Text.isHexDigit c)

/-! ## URI templates -/

def isSmallHex (c : Char) : Bool := c.isDigit || ('a' ≤ c && c ≤ 'f')

def isLiteralChar (c : Char) : Bool :=
  0x20 < c.toNat && !"\"'<>%\\^\x60\x7b|\x7d".toList.contains c

def isNameChar (c : Char) : Bool := c.isDigit || ('a' ≤ c && c ≤ 'z') || c == '_'

/-- Drops the characters of a variable name, escapes among them. -/
def dropName : List Char → List Char
  | [] => []
  | '%' :: x :: y :: rest =>
    if isSmallHex x && isSmallHex y then dropName rest else '%' :: x :: y :: rest
  | c :: rest => if isNameChar c then dropName rest else c :: rest

/-- Drops an explode sign, or a colon with a length of one to four digits. -/
def dropModifier (cs : List Char) : List Char :=
  match cs with
  | '*' :: rest => rest
  | ':' :: d :: rest =>
    if d.isDigit && d != '0' then rest.drop ((rest.take 3).takeWhile Char.isDigit).length else cs
  | _ => cs

def isVariable (cs : List Char) : Bool :=
  let rest := dropName cs
  rest.length < cs.length && (dropModifier rest).isEmpty

/-- The text between two braces: an operator and variables with commas between them. -/
def isExpression (cs : List Char) : Bool :=
  let body := match cs with
    | c :: rest => if "+#./;?&=,!@|".toList.contains c then rest else cs
    | [] => []
  (Text.pieces ',' body).all isVariable

/-- Reads a template; the second argument holds the open expression, last character first. -/
def templateFrom : List Char → Option (List Char) → Bool
  | [], none => true
  | [], some _ => false
  | c :: rest, some body =>
    if c = '\x7d' then isExpression body.reverse && templateFrom rest none
    else templateFrom rest (some (c :: body))
  | '%' :: x :: y :: rest, none => isSmallHex x && isSmallHex y && templateFrom rest none
  | c :: rest, none =>
    if c = '\x7b' then templateFrom rest (some []) else isLiteralChar c && templateFrom rest none

def isTemplate (cs : List Char) : Bool := templateFrom cs none

end SchemaContract.Format
