import SchemaContract.Json.Pointer
import SchemaContract.Text.Utf8
import SchemaContract.Uri.Resolve

/-!
# Failures

What is wrong with a value, and where. A failure of `anyOf`, or of a `oneOf` without any match,
carries the failures of every branch.
-/

namespace SchemaContract

inductive TypeName where
  | array
  | boolean
  | integer
  | null
  | number
  | object
  | string
  deriving DecidableEq, Repr

namespace TypeName

def text : TypeName → String
  | .array => "array"
  | .boolean => "boolean"
  | .integer => "integer"
  | .null => "null"
  | .number => "number"
  | .object => "object"
  | .string => "string"

def all : List TypeName := [.array, .boolean, .integer, .null, .number, .object, .string]

def ofText? (s : String) : Option TypeName := all.find? fun t => t.text == s

end TypeName

inductive ReferenceFault where
  | unknownDialect (uri : String)
  | noBase (reference : String)
  | unknownScheme (uri scheme : String)
  | notLoaded (uri : String)
  | noPointer (pointer : String)
  | badIndex (pointer index : String)
  | badEscape (pointer : String)
  | noAnchor (anchor : String)
  | badAnchor (anchor : String)
  | malformed (reference : String) (fault : Uri.Fault)
  | unresolvable (reference base : String) (fault : Uri.BaseFault)
  | tooDeep
  deriving DecidableEq, Repr

namespace ReferenceFault

def unavailable (uri cause : String) : String :=
  "Resource '" ++ uri ++ "' is not present in a registry and retrieving it failed: " ++ cause

def message : ReferenceFault → String
  | .unknownDialect uri => "Unknown specification: " ++ uri
  | .noBase reference => unavailable reference "No base URI is available"
  | .unknownScheme uri scheme => unavailable uri ("Unknown scheme " ++ scheme)
  | .notLoaded uri =>
    unavailable uri "Retrieving external resources is not supported once the registry is populated"
  | .noPointer pointer => "Pointer '" ++ pointer ++ "' does not exist"
  | .badIndex pointer index =>
    "Failed to parse array index '" ++ index ++ "' in pointer '" ++ pointer ++ "'"
  | .badEscape pointer =>
    "Invalid percent encoding in pointer '" ++ pointer ++
      "': the decoded bytes do not represent valid UTF-8"
  | .noAnchor anchor => "Anchor '" ++ anchor ++ "' does not exist"
  | .badAnchor anchor => "Anchor '" ++ anchor ++ "' is invalid"
  | .malformed reference fault =>
    "Invalid URI reference '" ++ reference ++ "': " ++ fault.message
  | .unresolvable reference base fault =>
    "Failed to resolve '" ++ reference ++ "' against '" ++ base ++ "': " ++ fault.message
  | .tooDeep => "Too many references inside each other"

end ReferenceFault

/-- What a failure without branches says. -/
inductive Reason where
  | type (name : TypeName)
  | types
  | format (name : String)
  | pattern (text : String)
  | searchLimit
  | minLength (limit : Nat)
  | maxLength (limit : Nat)
  | minimum (limit : Number)
  | maximum (limit : Number)
  | exclusiveMinimum (limit : Number)
  | exclusiveMaximum (limit : Number)
  | multipleOf
  | minItems (limit : Nat)
  | maxItems (limit : Nat)
  | minProperties (limit : Nat)
  | maxProperties (limit : Nat)
  | required (name : String)
  | additionalProperties
  | unevaluatedProperties
  | additionalItems
  | unevaluatedItems (items : List Json)
  | uniqueItems
  | enum
  | constant
  | contains
  | severalOf
  | not
  | falseSchema
  | propertyNames
  | contentEncoding (value : Json) (encoding : String)
  | contentMediaType (value : Json) (mediaType : String)
  | notUnicode (fault : Text.Utf8.Fault)
  | reference (fault : ReferenceFault)
  deriving Repr

/-- A place in a value and the keyword that looked at it, both as steps from the root. -/
structure Site where
  value : List Step
  keyword : List Step
  deriving DecidableEq, Repr

def Site.root : Site := ⟨[], []⟩

inductive Choice where
  | anyOf
  | oneOf
  deriving DecidableEq, Repr

inductive Failure where
  | plain (site : Site) (reason : Reason)
  | choice (site : Site) (kind : Choice) (branches : List (List Failure))
  deriving Repr

namespace Failure

def site : Failure → Site
  | .plain site _ => site
  | .choice site _ _ => site

end Failure

/-- A place under evaluation: the steps to the value and to the schema, last first. -/
structure Place where
  value : List Step
  schema : List Step

namespace Place

def root : Place := ⟨[], []⟩

def member (p : Place) (name : String) : Place := { p with value := .member name :: p.value }

def index (p : Place) (i : Nat) : Place := { p with value := .index i :: p.value }

def within (p : Place) (steps : List Step) : Place :=
  { p with schema := steps.reverse ++ p.schema }

def site (p : Place) : Site := ⟨p.value.reverse, p.schema.reverse⟩

def fails (p : Place) (reason : Reason) : List Failure := [.plain p.site reason]

/-- The failure where the condition does not hold. -/
def demand (p : Place) (holds : Bool) (reason : Reason) : List Failure :=
  if holds then [] else p.fails reason

end Place

end SchemaContract
