import SchemaContract.Json
import SchemaContract.Text.Hex
import SchemaContract.Text.Pieces

/-!
# JSON pointers

A pointer is a text of segments, each behind a slash, with `~` written `~0` and `/` written `~1`.
`Pointer.render` shows a pointer in accessor form: `[0]` for digits, `.name` for an identifier and
`['a b']` for any other segment.
-/

namespace SchemaContract

/-- One step from a value into one of its parts. -/
inductive Step where
  | member (name : String)
  | index (position : Nat)
  deriving DecidableEq, Repr

def Step.segment : Step → String
  | .member name => name
  | .index position => toString position

namespace Pointer

def encodeChar (c : Char) : List Char :=
  if c = '~' then ['~', '0'] else if c = '/' then ['~', '1'] else [c]

def decodeChars : List Char → List Char
  | [] => []
  | '~' :: '1' :: cs => '/' :: decodeChars cs
  | '~' :: '0' :: cs => '~' :: decodeChars cs
  | c :: cs => c :: decodeChars cs

def encodeChars (segments : List String) : List Char :=
  segments.flatMap fun s => '/' :: s.toList.flatMap encodeChar

def encode (segments : List String) : String := String.ofList (encodeChars segments)

/-- The segments of a pointer; what stands before the first slash is not looked at. -/
def segments (pointer : String) : List String :=
  (Text.pieces '/' pointer.toList).tail.map fun p => String.ofList (decodeChars p)

def isIdentifierStart (c : Char) : Bool := c.isAlpha || c == '_' || c == '$'

def isIdentifier (cs : List Char) : Bool :=
  match cs with
  | [] => false
  | c :: rest => isIdentifierStart c && rest.all fun d => isIdentifierStart d || d.isDigit

def quoteChar (c : Char) : List Char :=
  if c = '\\' ∨ c = '\'' then ['\\', c] else [c]

def accessor (segment : String) : List Char :=
  let cs := segment.toList
  if !cs.isEmpty && cs.all Char.isDigit then ['['] ++ cs ++ [']']
  else if isIdentifier cs then '.' :: cs
  else ['[', '\''] ++ cs.flatMap quoteChar ++ ['\'', ']']

def render (pointer : String) : String := String.ofList ((segments pointer).flatMap accessor)

end Pointer

namespace Json

/-- A position in an array: digits, without a zero in front of others. -/
def arrayIndex? (segment : String) : Option Nat :=
  match segment.toList with
  | [] => none
  | '0' :: _ :: _ => none
  | cs =>
    if cs.all Char.isDigit then some (Text.decimalValue cs) else none

def child? (v : Json) (segment : String) : Option Json :=
  match v with
  | .object ms => lookup segment ms
  | .array vs => (arrayIndex? segment).bind fun i => vs[i]?
  | _ => none

def descend? (v : Json) : List String → Option Json
  | [] => some v
  | s :: rest => (v.child? s).bind fun w => descend? w rest

end Json

end SchemaContract
