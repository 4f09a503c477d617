import SchemaContract.Json.Printer
import SchemaContract.Validation.Failure

/-!
# Failure lines

A failure reads as one line: the label of the checked value, the way into it in accessor form, and
the reason. The label is put in front of a text that does not depend on it.

A failed choice between schemas is reported by the first branch whose first failure is not about the
shape of the value, for that branch is the one that was meant.
-/

namespace SchemaContract

namespace Reason

/-- Whether a branch with this failure was not meant for the value. -/
def isMismatch : Reason → Bool
  | .type _ | .types | .enum | .constant | .falseSchema => true
  | _ => false

def ofTypes (names : List String) : String := "should be " ++ String.intercalate "," names

def ofAnyType : String := "should be of an allowed type"

def ofTypeKeyword : Json → String
  | .string name => ofTypes [name]
  | .array names => ofTypes (names.filterMap Json.string?)
  | _ => ofAnyType

def ofEnum : String := "should be equal to one of the allowed values"

def ofConstant : String := "should be equal to constant"

def ofFalseSchema : String := "boolean schema is false"

def ofOneOf : String := "should match exactly one schema in oneOf"

def ofUnevaluatedItems (items : List Json) : String :=
  let listed := String.intercalate ", " (items.map fun v => "'" ++ v.render ++ "'")
  let verb := if items.length = 1 then "was" else "were"
  "Unevaluated items are not allowed (" ++ listed ++ " " ++ verb ++ " unexpected)"

/-- The text of a reason. Some texts name the value of the keyword that failed, where the schema has
one at that place. -/
def text (keywordValue : Option Json) : Reason → String
  | .type name => ofTypes [name.text]
  | .types =>
    match keywordValue with
    | some (.array names) => ofTypeKeyword (.array names)
    | _ => ofAnyType
  | .format name => "should match format " ++ Text.inQuotes name
  | .pattern text => "should match pattern " ++ Text.inQuotes text
  | .searchLimit => "Error executing regex: Max limit for backtracking count exceeded"
  | .minLength limit => "should NOT be shorter than " ++ toString limit ++ " characters"
  | .maxLength limit => "should NOT be longer than " ++ toString limit ++ " characters"
  | .minimum limit => "should be >= " ++ limit.render
  | .maximum limit => "should be <= " ++ limit.render
  | .exclusiveMinimum limit => "should be > " ++ limit.render
  | .exclusiveMaximum limit => "should be < " ++ limit.render
  | .multipleOf =>
    match keywordValue with
    | some divisor => "should be multiple of " ++ divisor.render
    | none => "should be a multiple of the declared divisor"
  | .minItems limit => "should NOT have fewer than " ++ toString limit ++ " items"
  | .maxItems limit => "should NOT have more than " ++ toString limit ++ " items"
  | .minProperties limit => "should NOT have fewer than " ++ toString limit ++ " properties"
  | .maxProperties limit => "should NOT have more than " ++ toString limit ++ " properties"
  | .required name => "should have required property '" ++ name ++ "'"
  | .additionalProperties => "should NOT have additional properties"
  | .unevaluatedProperties => "should NOT have unevaluated properties"
  | .additionalItems => "should NOT have additional items"
  | .unevaluatedItems items => ofUnevaluatedItems items
  | .uniqueItems => "should NOT have duplicate items"
  | .enum => ofEnum
  | .constant => ofConstant
  | .contains => "should contain a valid item"
  | .severalOf => ofOneOf
  | .not => "should NOT be valid"
  | .falseSchema => ofFalseSchema
  | .propertyNames => "should have valid property names"
  | .contentEncoding value encoding =>
    value.render ++ " is not compliant with " ++ Text.inQuotes encoding ++ " content encoding"
  | .contentMediaType value mediaType =>
    value.render ++ " is not compliant with " ++ Text.inQuotes mediaType ++ " media type"
  | .notUnicode fault => fault.message
  | .reference fault => fault.message

end Reason

def Choice.text : Choice → String
  | .anyOf => "should match some schema in anyOf"
  | .oneOf => Reason.ofOneOf

namespace Failure

def isMismatch : Failure → Bool
  | .plain _ reason => reason.isMismatch
  | .choice _ _ _ => false

mutual

def reported : Failure → Failure
  | .plain site reason => .plain site reason
  | .choice site kind branches => (reportedBranch? branches).getD (.choice site kind branches)

/-- The failure that the branches of a choice are reported by, if one of them was meant. -/
def reportedBranch? : List (List Failure) → Option Failure
  | [] => none
  | [] :: branches => reportedBranch? branches
  | (f :: _) :: branches =>
    if f.isMismatch then reportedBranch? branches else some (reported f)

end

def reason (source : Json) : Failure → String
  | .plain site r => r.text (source.descend? (site.keyword.map Step.segment))
  | .choice _ kind _ => kind.text

/-- The way into the value, in accessor form. -/
def path (f : Failure) : String := Pointer.render (Pointer.encode (f.site.value.map Step.segment))

/-- What stands behind the label in the line of a failure. -/
def text (source : Json) (f : Failure) : String :=
  f.reported.path ++ " " ++ f.reported.reason source

def line (source : Json) (label : String) (f : Failure) : String := label ++ f.text source

end Failure

/-- Why a missing value does not meet a schema. Only the keywords at its root that concern values of
every kind can refuse it. -/
def Json.absence? : Json → Option String
  | .bool false => some Reason.ofFalseSchema
  | .object ms =>
    match lookup "type" ms with
    | some kinds => some (Reason.ofTypeKeyword kinds)
    | none =>
      if hasMember "enum" ms then some Reason.ofEnum
      else if hasMember "const" ms then some Reason.ofConstant
      else none
  | _ => none

end SchemaContract
