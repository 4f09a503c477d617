import SchemaContract.Validation.Role

/-!
# Closed schemas

In strict mode an object schema that says nothing about additional members forbids them. The closed
form of a schema adds `additionalProperties: false` at the end of every such object in a schema
position, and changes nothing else.

The root is a schema position; the elements of an array in a schema position are, too; and from an
object they go on below the keywords of the three lists here.
-/

namespace SchemaContract.Closing

/-- Keywords whose value is an object of schemas. -/
def mapKeywords : List String :=
  ["properties", "patternProperties", "dependentSchemas", "$defs", "definitions"]

/-- Keywords whose value is one schema, or an array of schemas. -/
def singleKeywords : List String :=
  ["propertyNames", "additionalProperties", "unevaluatedProperties", "items", "contains",
   "additionalItems", "unevaluatedItems", "not", "if", "then", "else"]

/-- Keywords whose value is an array of schemas. -/
def listKeywords : List String := ["prefixItems", "allOf", "anyOf", "oneOf"]

/-- Keywords that are about objects alone. -/
def objectKeywords : List String :=
  ["properties", "patternProperties", "additionalProperties", "unevaluatedProperties", "required",
   "dependentRequired", "dependentSchemas", "propertyNames"]

def role (keyword : String) : Role :=
  if mapKeywords.contains keyword then .map
  else if singleKeywords.contains keyword then .schemaOrList
  else if listKeywords.contains keyword then .list
  else .other

/-- Whether the members are those of an object schema: by their `type`, and without a type that can
be read by the keywords about objects. -/
def describesObject (members : List (String × Json)) : Bool :=
  match Json.lookup "type" members with
  | some (.string t) => t == "object"
  | some (.array ts) => ts.any fun t => t.string? == some "object"
  | _ => objectKeywords.any fun k => Json.hasMember k members

/-- The member that closes an object schema, if it is missing. -/
def closing (members : List (String × Json)) : List (String × Json) :=
  if describesObject members && !Json.hasMember "additionalProperties" members then
    [("additionalProperties", .bool false)]
  else []

mutual

/-- The closed form of a value in a role. -/
def close (role : Role) : Json → Json
  | .object ms =>
    match role with
    | .schema | .schemaOrList => .object (closeKeywords ms ++ closing ms)
    | .map => .object (closeValues ms)
    | .list | .other => .object ms
  | .array vs =>
    match role with
    | .schema | .schemaOrList | .list => .array (closeItems vs)
    | .map | .other => .array vs
  | v => v

def closeKeywords : List (String × Json) → List (String × Json)
  | [] => []
  | (k, v) :: ms => (k, close (role k) v) :: closeKeywords ms

def closeValues : List (String × Json) → List (String × Json)
  | [] => []
  | (k, v) :: ms => (k, close .schemaOrList v) :: closeValues ms

def closeItems : List Json → List Json
  | [] => []
  | v :: vs => close .schemaOrList v :: closeItems vs

end

end SchemaContract.Closing

namespace SchemaContract

def Json.closed (schema : Json) : Json := Closing.close .schemaOrList schema

end SchemaContract
