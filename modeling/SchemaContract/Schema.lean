import SchemaContract.Json.Printer

/-!
# Schemas of a contract

A schema as it stands in a contract: a boolean, an object, or the name of a registered schema.
-/

namespace SchemaContract

namespace Json.Kind

def text : Kind → String
  | .null => "null"
  | .bool => "boolean"
  | .number => "number"
  | .string => "string"
  | .array => "array"
  | .object => "object"

end Json.Kind

inductive Schema where
  | accept
  | reject
  | definition (members : List (String × Json))
  | reference (name : String)
  deriving Repr

/-- A value that is no schema, by its kind. -/
structure Schema.Invalid where
  kind : Json.Kind
  deriving DecidableEq, Repr

namespace Schema

def Invalid.message (e : Invalid) : String :=
  "schema must be a boolean, an object or a string reference, got " ++ e.kind.text

def ofJson : Json → Except Invalid Schema
  | .bool true => .ok .accept
  | .bool false => .ok .reject
  | .object ms => .ok (.definition ms)
  | .string name => .ok (.reference name)
  | v => .error ⟨v.kind⟩

def toJson : Schema → Json
  | .accept => .bool true
  | .reject => .bool false
  | .definition ms => .object ms
  | .reference name => .string name

theorem ofJson_toJson (s : Schema) : ofJson s.toJson = .ok s := by
  cases s <;> rfl

/-- The name of the registered schema that is meant. -/
def reference? : Schema → Option String
  | .reference name => some name
  | _ => none

def describe : Schema → String
  | .accept => "Accept"
  | .reject => "Reject"
  | .definition ms =>
    "Definition(\x7b" ++ String.intercalate ", " (Json.describeMembers ms) ++ "\x7d)"
  | .reference name => "Reference(" ++ Text.quoted name ++ ")"

end Schema

end SchemaContract
