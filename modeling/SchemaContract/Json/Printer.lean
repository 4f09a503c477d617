import SchemaContract.Json
import SchemaContract.Text.Quoted

/-!
# JSON texts

`render` writes a value without blanks. `describe` writes the structure of a value with the kind of
every part named, for diagnostics.
-/

namespace SchemaContract.Json

def escapeChar (c : Char) : List Char :=
  match c with
  | '"' => ['\\', '"']
  | '\\' => ['\\', '\\']
  | '\n' => ['\\', 'n']
  | '\r' => ['\\', 'r']
  | '\t' => ['\\', 't']
  | '\x08' => ['\\', 'b']
  | '\x0c' => ['\\', 'f']
  | c =>
    if c.toNat < 0x20 then
      ['\\', 'u', '0', '0', Text.hexDigit (c.toNat / 16), Text.hexDigit (c.toNat % 16)]
    else [c]

def renderString (s : String) : String :=
  String.ofList (['"'] ++ s.toList.flatMap escapeChar ++ ['"'])

mutual

def render : Json → String
  | .null => "null"
  | .bool true => "true"
  | .bool false => "false"
  | .number n => n.render
  | .string s => renderString s
  | .array vs => "[" ++ String.intercalate "," (renderItems vs) ++ "]"
  | .object ms => "\x7b" ++ String.intercalate "," (renderMembers ms) ++ "\x7d"

def renderItems : List Json → List String
  | [] => []
  | v :: vs => render v :: renderItems vs

def renderMembers : List (String × Json) → List String
  | [] => []
  | (k, v) :: ms => (renderString k ++ ":" ++ render v) :: renderMembers ms

end

mutual

def describe : Json → String
  | .null => "Null"
  | .bool b => "Bool(" ++ toString b ++ ")"
  | .number n => "Number(" ++ n.render ++ ")"
  | .string s => "String(" ++ Text.quoted s ++ ")"
  | .array vs => "Array [" ++ String.intercalate ", " (describeItems vs) ++ "]"
  | .object ms => "Object \x7b" ++ String.intercalate ", " (describeMembers ms) ++ "\x7d"

def describeItems : List Json → List String
  | [] => []
  | v :: vs => describe v :: describeItems vs

def describeMembers : List (String × Json) → List String
  | [] => []
  | (k, v) :: ms => (Text.quoted k ++ ": " ++ describe v) :: describeMembers ms

end

end SchemaContract.Json
