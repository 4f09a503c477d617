import SchemaContract.Uri
import SchemaContract.Uri.Grammar

/-!
# Reading URI references

A reference is read from left to right, each component as far as its characters go; the first
character that fits nowhere is the fault. Places are counted in bytes.
-/

namespace SchemaContract.Uri

/-- Why a text is no reference, with the number of bytes in front of the fault. -/
inductive Fault where
  | character (index : Nat)
  | escape (index : Nat)
  | address (index : Nat)
  deriving DecidableEq, Repr

def Fault.message : Fault → String
  | .character i => "unexpected character at index " ++ toString i
  | .escape i => "invalid percent-encoded octet at index " ++ toString i
  | .address i => "invalid IPv6 address at index " ++ toString i

def byteLength (cs : List Char) : Nat := cs.foldl (fun n c => n + c.utf8Size) 0

/-- Some characters that were read, and what comes behind them at which place. -/
structure Run where
  text : List Char
  stop : Nat
  rest : List Char

def Run.before (text : List Char) (r : Run) : Run := { r with text := text ++ r.text }

/-- The longest run of allowed characters and escapes. -/
def run (allowed : Char → Bool) : Nat → List Char → Except Fault Run
  | i, [] => .ok ⟨[], i, []⟩
  | i, '%' :: x :: y :: rest =>
    if Text.isHexDigit x && Text.isHexDigit y then
      (run allowed (i + 3) rest).map (·.before ['%', x, y])
    else .error (.escape i)
  | i, c :: rest =>
    if c = '%' then .error (.escape i)
    else if allowed c then (run allowed (i + c.utf8Size) rest).map (·.before [c])
    else .ok ⟨[], i, c :: rest⟩

/-- The longest run of allowed characters; an escape ends it. -/
def plainRun (allowed : Char → Bool) (i : Nat) (cs : List Char) : Run :=
  let text := cs.takeWhile allowed
  ⟨text, i + byteLength text, cs.drop text.length⟩

/-! ## Authorities -/

/-- An address of the future form: `v`, a version, a point and its own text. -/
def futureHost (i : Nat) (cs : List Char) : Except Fault (Host × Nat × List Char) :=
  match cs with
  | c :: rest =>
    if c = 'v' ∨ c = 'V' then
      let version := plainRun Text.isHexDigit (i + 1) rest
      match version.text.isEmpty, version.rest with
      | false, '.' :: body =>
        let own := plainRun isFutureChar (version.stop + 1) body
        if own.text.isEmpty then .error (.character own.stop)
        else .ok (.future (c :: version.text ++ '.' :: own.text), own.stop, own.rest)
      | _, _ => .error (.character version.stop)
    else .error (.character i)
  | [] => .error (.character i)

/-- A host in brackets, behind the opening one. -/
def bracketHost (i : Nat) (cs : List Char) : Except Fault (Host × Nat × List Char) :=
  let host : Except Fault (Host × Nat × List Char) :=
    match Address.readIpv6 cs with
    | .found groups rest => .ok (.ipv6 groups, i + (cs.length - rest.length), rest)
    | .nothing => futureHost i cs
    | .wrong => .error (.address i)
  match host with
  | .ok (h, j, ']' :: rest) => .ok (h, j + 1, rest)
  | .ok (_, j, _) => .error (.character j)
  | .error f => .error f

/-- A port with the colon before it. -/
def readPort (i : Nat) (cs : List Char) : Option (List Char) × Nat × List Char :=
  match cs with
  | ':' :: rest =>
    let digits := plainRun Char.isDigit (i + 1) rest
    (some digits.text, digits.stop, digits.rest)
  | _ => (none, i, cs)

def withPort (user : Option (List Char)) (host : Host × Nat × List Char) :
    Authority × Nat × List Char :=
  let (h, i, rest) := host
  let (port, stop) := readPort i rest
  (⟨user, h, port⟩, stop)

/-- A name and perhaps a port that were read as one run, which starts at the index. -/
def nameAndPort (i : Nat) (text : List Char) : Except Fault Authority :=
  match Text.pieces ':' text with
  | [name] => .ok ⟨none, .name name, none⟩
  | [name, port] =>
    let digits := port.takeWhile Char.isDigit
    if digits.length = port.length then .ok ⟨none, .name name, some port⟩
    else .error (.character (i + byteLength name + 1 + digits.length))
  | parts => .error (.character (i + byteLength text - byteLength (parts.getLastD []) - 1))

/-- An authority, behind its two slashes. -/
def readAuthority (a : Alphabet) (i : Nat) (cs : List Char) :
    Except Fault (Authority × Nat × List Char) := do
  let user ← run (isUserChar a) i cs
  match user.rest with
  | '@' :: '[' :: rest => return withPort (some user.text) (← bracketHost (user.stop + 2) rest)
  | '@' :: rest =>
    let name ← run (isRegular a) (user.stop + 1) rest
    return withPort (some user.text) (.name name.text, name.stop, name.rest)
  | '[' :: rest =>
    if user.text.isEmpty then return withPort none (← bracketHost (i + 1) rest)
    else return (← nameAndPort i user.text, user.stop, user.rest)
  | rest => return (← nameAndPort i user.text, user.stop, rest)

/-! ## References -/

/-- The query and the fragment behind a path, and then the end. -/
def readTail (a : Alphabet) (scheme : Option (List Char)) (authority : Option Authority)
    (path : Run) : Except Fault Uri := do
  let (query, i, rest) ← match path.rest with
    | '?' :: rest =>
      let q ← run (isQueryChar a) (path.stop + 1) rest
      pure (some q.text, q.stop, q.rest)
    | rest => pure (none, path.stop, rest)
  let (fragment, i, rest) ← match rest with
    | '#' :: rest =>
      let f ← run (isFragmentChar a) (i + 1) rest
      pure (some f.text, f.stop, f.rest)
    | rest => pure (none, i, rest)
  if rest.isEmpty then return ⟨scheme, authority, path.text, query, fragment⟩
  else .error (.character i)

/-- What stands behind the scheme. The path after an authority is empty or starts with a slash. -/
def readHierarchy (a : Alphabet) (scheme : Option (List Char)) (i : Nat) (cs : List Char) :
    Except Fault Uri := do
  match cs with
  | '/' :: '/' :: rest =>
    let (authority, i, rest) ← readAuthority a (i + 2) rest
    let path ← run (isPathChar a) i rest
    if path.text.isEmpty || path.text.head? == some '/' then
      readTail a scheme (some authority) path
    else .error (.character i)
  | _ => readTail a scheme none (← run (isPathChar a) i cs)

/-- A reference. A colon in the first segment ends a scheme, which starts with a letter. -/
def read (a : Alphabet) (cs : List Char) : Except Fault Uri := do
  let scheme := cs.takeWhile isSchemeChar
  match cs.drop scheme.length with
  | ':' :: rest =>
    if scheme.head?.any Char.isAlpha then readHierarchy a (some scheme) (scheme.length + 1) rest
    else .error (.character 0)
  | _ =>
    match cs with
    | '/' :: '/' :: _ => readHierarchy a none 0 cs
    | _ =>
      let segment ← run (isSegmentChar a) 0 cs
      if segment.rest.head? == some ':' then .error (.character segment.stop)
      else
        let path ← run (isPathChar a) segment.stop segment.rest
        readTail a none none (path.before segment.text)

def isReference (a : Alphabet) (cs : List Char) : Bool := (read a cs).isOk

def isAbsolute (a : Alphabet) (cs : List Char) : Bool :=
  match read a cs with
  | .ok u => u.scheme.isSome
  | .error _ => false

end SchemaContract.Uri
