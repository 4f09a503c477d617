import SchemaContract.Json
import SchemaContract.Text.Hex

/-!
# Reading JSON texts

`Json.parse` reads a whole text or says what stopped it and where. A position is a line and the
number of bytes read on that line. A fault found by looking at the next byte is placed one byte
further on, a fault found after reading stays where the reading ended. A text of `n` characters has
at most `n` items, members or string characters in a row, so a loop budget of `n` is never spent.
-/

namespace SchemaContract

inductive ReadFault where
  | endInValue
  | endInString
  | endInObject
  | endInList
  | expectedValue
  | expectedWord
  | expectedColon
  | expectedListEnd
  | expectedObjectEnd
  | keyNotString
  | trailingComma
  | trailingCharacters
  | invalidNumber
  | numberOutOfRange
  | invalidEscape
  | endInHexEscape
  | loneSurrogate
  | controlCharacter
  | tooDeep
  deriving DecidableEq, Repr

structure ReadError where
  fault : ReadFault
  line : Nat
  column : Nat
  deriving DecidableEq, Repr

namespace ReadFault

def message : ReadFault → String
  | .endInValue => "EOF while parsing a value"
  | .endInString => "EOF while parsing a string"
  | .endInObject => "EOF while parsing an object"
  | .endInList => "EOF while parsing a list"
  | .expectedValue => "expected value"
  | .expectedWord => "expected ident"
  | .expectedColon => "expected \x60:\x60"
  | .expectedListEnd => "expected \x60,\x60 or \x60]\x60"
  | .expectedObjectEnd => "expected \x60,\x60 or \x60\x7d\x60"
  | .keyNotString => "key must be a string"
  | .trailingComma => "trailing comma"
  | .trailingCharacters => "trailing characters"
  | .invalidNumber => "invalid number"
  | .numberOutOfRange => "number out of range"
  | .invalidEscape => "invalid escape"
  | .endInHexEscape => "unexpected end of hex escape"
  | .loneSurrogate => "lone leading surrogate in hex escape"
  | .controlCharacter =>
    "control character (\\u0000-\\u001F) found while parsing a string"
  | .tooDeep => "recursion limit exceeded"

end ReadFault

def ReadError.message (e : ReadError) : String :=
  e.fault.message ++ " at line " ++ toString e.line ++ " column " ++ toString e.column

namespace Json.Reader

/-- What is left of the text, and the position of the last byte read. -/
structure Cursor where
  rest : List Char
  line : Nat
  column : Nat

abbrev Result (α : Type) := Except ReadError (α × Cursor)

namespace Cursor

def past (cur : Cursor) (c : Char) (rest : List Char) : Cursor :=
  if c = '\n' then ⟨rest, cur.line + 1, 0⟩ else ⟨rest, cur.line, cur.column + c.utf8Size⟩

/-- A fault at the last byte read. -/
def here (cur : Cursor) (fault : ReadFault) : ReadError := ⟨fault, cur.line, cur.column⟩

/-- A fault at the next byte; at the end of the text there is none and the fault stays behind. -/
def ahead (cur : Cursor) (fault : ReadFault) : ReadError :=
  match cur.rest with
  | [] => cur.here fault
  | c :: _ => if c = '\n' then ⟨fault, cur.line + 1, 0⟩ else ⟨fault, cur.line, cur.column + 1⟩

def atEnd (cur : Cursor) : Cursor := cur.rest.foldl (fun c ch => c.past ch []) cur

/-- The position after a number of bytes, if the text has so many. -/
def afterBytes : Nat → List Char → Nat → Nat → Option (Nat × Nat)
  | 0, _, line, column => some (line, column)
  | _ + 1, [], _, _ => none
  | n + 1, c :: rest, line, column =>
    if c = '\n' then afterBytes n rest (line + 1) 0
    else if c.utf8Size ≤ n + 1 then
      afterBytes (n + 1 - c.utf8Size) rest line (column + c.utf8Size)
    else some (line, column + n + 1)
termination_by _ cs _ _ => cs.length

end Cursor

def isSpace (c : Char) : Bool := c == ' ' || c == '\n' || c == '\t' || c == '\r'

def skipSpace : List Char → Nat → Nat → Cursor
  | [], line, column => ⟨[], line, column⟩
  | c :: rest, line, column =>
    if c == '\n' then skipSpace rest (line + 1) 0
    else if isSpace c then skipSpace rest line (column + 1)
    else ⟨c :: rest, line, column⟩

def Cursor.skip (cur : Cursor) : Cursor := skipSpace cur.rest cur.line cur.column

/-! ## Words, numbers and strings -/

/-- Reads the rest of a word such as `true`, whose first letter is behind the cursor. -/
def word : List Char → Cursor → Result Unit
  | [], cur => .ok ((), cur)
  | w :: ws, cur =>
    match cur.rest with
    | [] => .error (cur.here .endInValue)
    | c :: rest => if c = w then word ws (cur.past c rest) else .error (cur.ahead .expectedWord)

def digitValue (c : Char) : Nat := c.toNat - 48

/-- The largest significand that is kept exactly. -/
def maxSignificand : Nat := Nat.pow 2 64 - 1

/-- Digits before the point: the significand, and the number of digits that no longer fit in. -/
def integerDigits : List Char → Nat → Nat → Nat × Nat
  | [], sig, dropped => (sig, dropped)
  | c :: cs, sig, dropped =>
    if dropped = 0 ∧ sig * 10 + digitValue c ≤ maxSignificand then
      integerDigits cs (sig * 10 + digitValue c) 0
    else integerDigits cs sig (dropped + 1)

/-- Digits after the point, up to the first that no longer fits into the significand. -/
def fractionDigits : List Char → Nat → Int → Nat × Int
  | [], sig, exponent => (sig, exponent)
  | c :: cs, sig, exponent =>
    if sig * 10 + digitValue c ≤ maxSignificand then
      fractionDigits cs (sig * 10 + digitValue c) (exponent - 1)
    else (sig, exponent)

def takeDigits (cur : Cursor) : List Char × Cursor :=
  let digits := cur.rest.takeWhile Char.isDigit
  (digits, ⟨cur.rest.drop digits.length, cur.line, cur.column + digits.length⟩)

def double (negative : Bool) (sig : Nat) (exponent : Int) (cur : Cursor) : Result Number :=
  match Binary64.ofDecimal sig exponent with
  | some x => .ok (.double (x.withSign negative), cur)
  | none => .error (cur.here .numberOutOfRange)

/-- The largest exponent that is taken at its value. -/
def maxExponent : Nat := Nat.pow 2 31 - 1

/-- The digits of an exponent: the value, or the number of digits read when it grew too large. -/
def exponentDigits : List Char → Nat → Nat → Except Nat Nat
  | [], value, _ => .ok value
  | c :: cs, value, read =>
    if value * 10 + digitValue c ≤ maxExponent then
      exponentDigits cs (value * 10 + digitValue c) (read + 1)
    else .error (read + 1)

/-- An exponent, with the cursor behind its mark. -/
def exponentPart (negative : Bool) (sig : Nat) (exponent : Int) (cur : Cursor) : Result Number :=
  let (down, cur) := match cur.rest with
    | '+' :: rest => (false, cur.past '+' rest)
    | '-' :: rest => (true, cur.past '-' rest)
    | _ => (false, cur)
  match cur.rest with
  | [] => .error (cur.here .endInValue)
  | c :: _ =>
    if !c.isDigit then .error (cur.ahead .invalidNumber)
    else
      let (digits, next) := takeDigits cur
      match exponentDigits digits 0 0 with
      | .ok value =>
        let shift : Int := if down then -(value : Int) else value
        double negative sig (exponent + shift) next
      | .error read =>
        if sig ≠ 0 ∧ !down then .error ⟨.numberOutOfRange, cur.line, cur.column + read⟩
        else .ok (.double (Binary64.zero negative), next)

/-- A fraction, with the cursor behind the point. -/
def fractionPart (negative : Bool) (sig : Nat) (exponent : Int) (cur : Cursor) : Result Number :=
  let (digits, next) := takeDigits cur
  if digits.isEmpty then
    match cur.rest with
    | [] => .error (cur.here .endInValue)
    | _ :: _ => .error (cur.ahead .invalidNumber)
  else
    let (sig, exponent) := fractionDigits digits sig exponent
    match next.rest with
    | 'e' :: rest => exponentPart negative sig exponent (next.past 'e' rest)
    | 'E' :: rest => exponentPart negative sig exponent (next.past 'E' rest)
    | _ => double negative sig exponent next

/-- An integer that fits into 64 bits stays exact; a negative zero and all others are doubles. -/
def wholeNumber (negative : Bool) (sig : Nat) : Number :=
  if !negative then .int sig
  else if sig = 0 ∨ sig > Nat.pow 2 63 then .double ((Binary64.ofInt sig).withSign true)
  else .int (-(sig : Int))

def number (negative : Bool) (cur : Cursor) : Result Number :=
  match cur.rest with
  | [] => .error (cur.here .endInValue)
  | c :: rest =>
    if !c.isDigit then .error (cur.ahead .invalidNumber)
    else
      let next := cur.past c rest
      if c = '0' ∧ (next.rest.head?.any Char.isDigit) then .error (next.ahead .invalidNumber)
      else
        let (digits, next) := takeDigits cur
        let (sig, dropped) := integerDigits digits 0 0
        match next.rest with
        | '.' :: rest => fractionPart negative sig dropped (next.past '.' rest)
        | 'e' :: rest => exponentPart negative sig dropped (next.past 'e' rest)
        | 'E' :: rest => exponentPart negative sig dropped (next.past 'E' rest)
        | _ =>
          if dropped = 0 then .ok (wholeNumber negative sig, next)
          else double negative sig dropped next

/-- The value of four hexadecimal digits, most significant first. -/
def hexFour? (cs : List Char) : Option Nat :=
  if cs.length = 4 then Text.hexNumber? cs else none

def hexUnit (cur : Cursor) : Result Nat :=
  match hexFour? (cur.rest.take 4) with
  | some n => .ok (n, ⟨cur.rest.drop 4, cur.line, cur.column + 4⟩)
  | none =>
    match Cursor.afterBytes 4 cur.rest cur.line cur.column with
    | some (line, column) => .error ⟨.invalidEscape, line, column⟩
    | none => .error (cur.atEnd.here .endInString)

def isLeading (unit : Nat) : Bool := 0xD800 ≤ unit && unit ≤ 0xDBFF

def isTrailing (unit : Nat) : Bool := 0xDC00 ≤ unit && unit ≤ 0xDFFF

def surrogatePair (lead trail : Nat) : Char :=
  Char.ofNat (0x10000 + (lead - 0xD800) * 0x400 + (trail - 0xDC00))

/-- Expects one given character of an escape pair. -/
def pairMark (mark : Char) (cur : Cursor) : Result Unit :=
  match cur.rest with
  | [] => .error (cur.here .endInString)
  | c :: rest => if c = mark then .ok ((), cur.past c rest) else .error (cur.ahead .endInHexEscape)

/-- The unit that follows a leading surrogate, with its own backslash and mark. -/
def trailingUnit (cur : Cursor) : Result Nat :=
  match pairMark '\\' cur with
  | .error e => .error e
  | .ok (_, cur) =>
    match pairMark 'u' cur with
    | .error e => .error e
    | .ok (_, cur) => hexUnit cur

/-- A character written by one 16-bit unit or by a pair of surrogates, each after its own mark. -/
def unicodeEscape (cur : Cursor) : Result Char :=
  match hexUnit cur with
  | .error e => .error e
  | .ok (unit, cur) =>
    if isTrailing unit then .error (cur.here .loneSurrogate)
    else if !isLeading unit then .ok (Char.ofNat unit, cur)
    else
      match trailingUnit cur with
      | .error e => .error e
      | .ok (trail, cur) =>
        if isTrailing trail then .ok (surrogatePair unit trail, cur)
        else .error (cur.here .loneSurrogate)

def letterEscape? : Char → Option Char
  | '"' => some '"'
  | '\\' => some '\\'
  | '/' => some '/'
  | 'b' => some '\x08'
  | 'f' => some '\x0c'
  | 'n' => some '\n'
  | 'r' => some '\r'
  | 't' => some '\t'
  | _ => none

def escape (cur : Cursor) : Result Char :=
  match cur.rest with
  | [] => .error (cur.here .endInString)
  | 'u' :: rest => unicodeEscape (cur.past 'u' rest)
  | c :: rest =>
    match letterEscape? c with
    | some d => .ok (d, cur.past c rest)
    | none => .error (cur.ahead .invalidEscape)

/-- The characters up to the closing quote; those already read come last first. -/
def stringChars : Nat → Cursor → List Char → Result String
  | 0, cur, _ => .error (cur.here .endInString)
  | budget + 1, cur, read =>
    match cur.rest with
    | [] => .error (cur.here .endInString)
    | '"' :: rest => .ok (String.ofList read.reverse, cur.past '"' rest)
    | '\\' :: rest =>
      match escape (cur.past '\\' rest) with
      | .ok (c, next) => stringChars budget next (c :: read)
      | .error e => .error e
    | c :: rest =>
      if c.toNat < 0x20 then .error ((cur.past c rest).here .controlCharacter)
      else stringChars budget (cur.past c rest) (c :: read)

/-! ## Arrays, objects and values -/

/-- The items up to the closing bracket; those already read come last first. -/
def items (item : Cursor → Result Json) : Nat → Cursor → List Json → Result (List Json)
  | 0, cur, _ => .error (cur.here .endInList)
  | budget + 1, cur, read =>
    let cur := cur.skip
    match cur.rest with
    | [] => .error (cur.here .endInList)
    | ']' :: rest => .ok (read.reverse, cur.past ']' rest)
    | c :: rest =>
      if read.isEmpty then
        match item cur with
        | .ok (v, next) => items item budget next [v]
        | .error e => .error e
      else if c = ',' then
        let cur := (cur.past c rest).skip
        match cur.rest with
        | [] => .error (cur.here .endInValue)
        | ']' :: _ => .error (cur.ahead .trailingComma)
        | _ =>
          match item cur with
          | .ok (v, next) => items item budget next (v :: read)
          | .error e => .error e
      else .error (cur.ahead .expectedListEnd)

def member (item : Cursor → Result Json) (budget : Nat) (cur : Cursor) (rest : List Char) :
    Result (String × Json) :=
  match stringChars budget (cur.past '"' rest) [] with
  | .error e => .error e
  | .ok (name, cur) =>
    let cur := cur.skip
    match cur.rest with
    | [] => .error (cur.here .endInObject)
    | ':' :: rest => (item (cur.past ':' rest).skip).map fun r => ((name, r.1), r.2)
    | _ => .error (cur.ahead .expectedColon)

def members (item : Cursor → Result Json) (total : Nat) :
    Nat → Bool → Cursor → List (String × Json) → Result (List (String × Json))
  | 0, _, cur, _ => .error (cur.here .endInObject)
  | budget + 1, first, cur, read =>
    let cur := cur.skip
    match cur.rest with
    | [] => .error (cur.here .endInObject)
    | '\x7d' :: rest => .ok (read, cur.past '\x7d' rest)
    | c :: rest =>
      if first then
        if c = '"' then
          match member item total cur rest with
          | .ok ((k, v), next) => members item total budget false next (putMember k v read)
          | .error e => .error e
        else .error (cur.ahead .keyNotString)
      else if c = ',' then
        let cur := (cur.past c rest).skip
        match cur.rest with
        | [] => .error (cur.here .endInValue)
        | '\x7d' :: _ => .error (cur.ahead .trailingComma)
        | '"' :: rest =>
          match member item total cur rest with
          | .ok ((k, v), next) => members item total budget false next (putMember k v read)
          | .error e => .error e
        | _ => .error (cur.ahead .keyNotString)
      else .error (cur.ahead .expectedObjectEnd)

/-- A value, with the cursor before its first character. The second argument is one more than the
number of brackets that may still open. -/
def value (budget : Nat) : Nat → Cursor → Result Json
  | 0, cur => .error (cur.ahead .tooDeep)
  | depth + 1, cur =>
    let cur := cur.skip
    match cur.rest with
    | [] => .error (cur.here .endInValue)
    | c :: rest =>
      let next := cur.past c rest
      match c with
      | 'n' => (word "ull".toList next).map fun r => (.null, r.2)
      | 't' => (word "rue".toList next).map fun r => (.bool true, r.2)
      | 'f' => (word "alse".toList next).map fun r => (.bool false, r.2)
      | '"' => (stringChars budget next []).map fun r => (.string r.1, r.2)
      | '-' => (number true next).map fun r => (.number r.1, r.2)
      | '[' =>
        if depth = 0 then .error (cur.ahead .tooDeep)
        else (items (value budget depth) budget next []).map fun r => (.array r.1, r.2)
      | '\x7b' =>
        if depth = 0 then .error (cur.ahead .tooDeep)
        else (members (value budget depth) budget budget true next []).map
          fun r => (.object r.1, r.2)
      | c =>
        if c.isDigit then (number false cur).map fun r => (.number r.1, r.2)
        else .error (cur.ahead .expectedValue)

end Json.Reader

/-- How many brackets may be open at once, plus one. -/
def Json.maxDepth : Nat := 128

/-- The value that a text holds, with blanks around it and nothing else. -/
def Json.parse (text : String) : Except ReadError Json :=
  let chars := text.toList
  match Reader.value (chars.length + 1) Json.maxDepth ⟨chars, 1, 0⟩ with
  | .error e => .error e
  | .ok (v, cur) =>
    let cur := cur.skip
    match cur.rest with
    | [] => .ok v
    | _ => .error (cur.ahead .trailingCharacters)

end SchemaContract
