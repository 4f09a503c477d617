import SchemaContract.Dialect
import SchemaContract.Validation.Failure

/-!
# Parts of a schema

Which keywords of a dialect hold schemas, and how a schema names itself: its dialect, its URI and
its anchors.
-/

namespace SchemaContract

/-- What the value of a keyword is. -/
inductive Role where
  | schema
  | list
  | map
  | schemaOrList
  | other
  deriving DecidableEq, Repr

namespace Dialect

def role (d : Dialect) (keyword : String) : Role :=
  match keyword with
  | "allOf" | "anyOf" | "oneOf" => .list
  | "prefixItems" => if d.isSince .draft2020 then .list else .other
  | "definitions" | "patternProperties" | "properties" => .map
  | "dependencies" => if d.isUpTo .draft7 then .map else .other
  | "$defs" | "dependentSchemas" => if d.isSince .draft2019 then .map else .other
  | "items" => if d.isSince .draft2020 then .schema else .schemaOrList
  | "additionalItems" => if d.isSince .draft2020 then .other else .schema
  | "additionalProperties" | "not" => .schema
  | "contains" | "propertyNames" => if d.isSince .draft6 then .schema else .other
  | "if" | "then" | "else" => if d.isSince .draft7 then .schema else .other
  | "contentSchema" | "unevaluatedItems" | "unevaluatedProperties" =>
    if d.isSince .draft2019 then .schema else .other
  | _ => .other

/-- The role of a keyword where schemas with a URI are looked for: draft 4 looks into the keywords
of the latest dialect as well. -/
def searchRole (d : Dialect) (keyword : String) : Role :=
  match d.role keyword with
  | .other => if d = .draft4 then role .draft2020 keyword else .other
  | r => r

/-- Whether a way from a schema, given step by step, leads to a schema again. -/
def leadsToSchema (d : Dialect) (toObject : Bool) : List Step → Bool
  | [] => true
  | .index _ :: rest => leadsToSchema d toObject rest
  | .member k :: rest =>
    if k = "dependencies" then d.isUpTo .draft7 && toObject
    else
      match d.role k with
      | .schema => leadsToSchema d toObject rest
      | .list | .map =>
        match rest with
        | [] => false
        | _ :: rest => leadsToSchema d toObject rest
      | .schemaOrList => toObject
      | .other => false

/-- The dialect of a schema inside one of the given dialect. A text that names none leads to the
latest. -/
def inside (d : Dialect) (members : List (String × Json)) : Dialect :=
  match Json.lookup "$schema" members with
  | some (.string s) => (ofUri? s).getD .draft2020
  | _ => d

def idKeyword (d : Dialect) : String := if d = .draft4 then "id" else "$id"

/-- The URI that a schema gives itself. Up to draft 7 a text with a leading number sign is an anchor
instead, and there is none beside a reference. -/
def id? (d : Dialect) (members : List (String × Json)) : Option (List Char) :=
  match Json.lookup d.idKeyword members with
  | some (.string s) =>
    if d.isUpTo .draft7 ∧ (Json.hasMember "$ref" members ∨ s.toList.head? = some '#') then none
    else some (trimSigns s.toList)
  | _ => none

/-- The anchors of a schema, and whether each is a dynamic one. -/
def anchors (d : Dialect) (members : List (String × Json)) : List (String × Bool) :=
  let text (keyword : String) : Option String := (Json.lookup keyword members).bind Json.string?
  match d with
  | .draft2020 =>
    ((text "$anchor").map (·, false)).toList ++ ((text "$dynamicAnchor").map (·, true)).toList
  | .draft2019 => ((text "$anchor").map (·, false)).toList
  | _ =>
    match (text d.idKeyword).map String.toList with
    | some ('#' :: name) => [(String.ofList name, false)]
    | _ => []

end Dialect

namespace Uri

/-- The URI of documents that give themselves none. -/
def unnamed : Uri := ⟨some "json-schema".toList, some ⟨none, .none, none⟩, ['/'], none, none⟩

/-- The URI that a reference text stands for at a base. -/
def target (base : Uri) (reference : List Char) : Except ReferenceFault Uri :=
  match base.follow reference with
  | .ok u => .ok u
  | .error (.malformed f) => .error (.malformed (String.ofList reference) f)
  | .error (.unresolvable f) => .error (.unresolvable (String.ofList reference) base.text f)

/-- The base inside a schema, by the URI that it gives itself. -/
def enter (base : Uri) (d : Dialect) (schema : Json) : Except ReferenceFault Uri :=
  match schema with
  | .object ms =>
    match d.id? ms with
    | some id => base.target id
    | none => .ok base
  | _ => .ok base

end Uri

end SchemaContract
