import SchemaContract.Validation.Part

/-!
# Which parts of a value a schema looks at

The keywords about what is left over ask a schema which members or items it has looked at. A schema
looks at them by its own keywords, by the schemas it refers to, and by the branches of its
combinations as far as these are objects.
-/

namespace SchemaContract

namespace Part

def referenceCoverage (kind : PartKind) (keyword : String) (part : Part) :
    Compile (List Coverage) := do
  match part.value with
  | .string text =>
    let number ← Compile.coverageNumber kind keyword text
    return (number.map .reference).toList
  | _ => return []

/-- The branches that are objects. -/
def branches (kind : PartKind) (part : Part) : Compile (List (Rule × Coverage)) :=
  (part.items.filter isObject).mapM fun p => return (← p.schema, ← p.coverage kind)

/-- The coverage of an object in the place of a schema. -/
def objectCoverage (kind : PartKind) : Option Part → Compile Coverage
  | some p => if p.isObject then p.coverage kind else pure (.any [])
  | none => pure (.any [])

/-- A condition looks at what it names itself, then at what the part that follows from it does. -/
def conditionCoverage (kind : PartKind) (siblings : Siblings) (part : Part) :
    Compile (List Coverage) := do
  if part.isObject then
    let condition ← part.schema
    let own ← part.coverage kind
    let yes ← objectCoverage kind (find? siblings "then")
    let no ← objectCoverage kind (find? siblings "else")
    return [.conditional condition (.any [own, yes]) no]
  else return []

def combinedCoverage (kind : PartKind) (quorum : Quorum) (part : Part) :
    Compile (List Coverage) := do
  match part.value with
  | .array _ => return [.branches quorum (← branches kind part)]
  | _ => return []

/-- What a keyword looks at in values of any kind. -/
def commonCoverage (kind : PartKind) (siblings : Siblings) (keyword : String) (part : Part) :
    Compile (List Coverage) :=
  match keyword, kind with
  | "$ref", _ => referenceCoverage kind keyword part
  | "$dynamicRef", _ => referenceCoverage kind keyword part
  | "$recursiveRef", _ => referenceCoverage kind keyword part
  | "if", _ => conditionCoverage kind siblings part
  | "allOf", _ => combinedCoverage kind .all part
  | "anyOf", .members => combinedCoverage kind .some part
  | "anyOf", .items => combinedCoverage kind .all part
  | "oneOf", .members => combinedCoverage kind .theOne part
  | "oneOf", .items => combinedCoverage kind .one part
  | _, _ => pure []

/-- The members that a keyword looks at. Only those that are valid count, except under a pattern. -/
def memberCoverage (keyword : String) (part : Part) : Compile (List Coverage) := do
  match keyword with
  | "properties" =>
    if part.isObject then
      return [.declared (← part.members.mapM fun (name, p) => return (name, ← p.schema))]
    else return []
  | "patternProperties" =>
    return [.matching (← part.members.mapM fun (name, _) => Compile.pattern name)]
  | "additionalProperties" => return [.valid (← part.schema)]
  | "unevaluatedProperties" => return [.valid (← part.schema)]
  | "dependentSchemas" =>
    let schemas := part.members.filter fun m => m.2.isObject
    return [.dependent (← schemas.mapM fun (name, p) => return (name, ← p.coverage .members))]
  | _ => return []

def itemCoverage (d : Dialect) (siblings : Siblings) (keyword : String) (part : Part) :
    Compile (List Coverage) := do
  match keyword, part.value with
  | "items", .array vs =>
    if d = .draft2019 ∧ (find? siblings "additionalItems").isNone then return [.upTo vs.length]
    else return [.everything]
  | "items", _ => return [.everything]
  | "prefixItems", .array vs => if d = .draft2020 then return [.upTo vs.length] else return []
  | "contains", _ => return [.valid (← part.schema)]
  | "unevaluatedItems", _ => return [.valid (← part.schema)]
  | _, _ => return []

def keywordCoverage (kind : PartKind) (siblings : Siblings) (keyword : String) (part : Part) :
    Compile (List Coverage) := do
  let ctx ← read
  let common ← commonCoverage kind siblings keyword part
  match kind with
  | .members => return common ++ (← memberCoverage keyword part)
  | .items => return common ++ (← itemCoverage ctx.dialect siblings keyword part)

def coverageOf (siblings : Siblings) (kind : PartKind) : Compile Coverage := do
  let parts ← siblings.mapM fun (keyword, part) => keywordCoverage kind siblings keyword part
  return .any parts.flatten

end Part

end SchemaContract
