import SchemaContract.Validation.Coverage

/-!
# Compiling schemas

The keywords of a schema are compiled in order and depth first, and the first fault ends the
compilation.
-/

namespace SchemaContract

namespace Part

/-! ## Keywords that hold schemas -/

/-- Whether `additionalProperties` takes the declared members and the patterns over. -/
def closesProperties (siblings : Siblings) : Bool :=
  match valueOf? siblings "additionalProperties" with
  | some (.bool false) => true
  | some (.object _) => true
  | _ => false

def objectAt? (siblings : Siblings) (keyword : String) : Option Part :=
  (find? siblings keyword).filter isObject

def declaredBeside (siblings : Siblings) : Compile (List (String × Rule)) :=
  match objectAt? siblings "properties" with
  | some p => p.declared "properties"
  | none => pure []

def patternedBeside (siblings : Siblings) : Compile (List (Pattern × Rule)) :=
  match objectAt? siblings "patternProperties" with
  | some p => p.patterned
  | none => pure []

def additionalProperties (siblings : Siblings) (part : Part) : Compile (Option Rule) := do
  let patterns ← patternedBeside siblings
  match part.value with
  | .bool false =>
    if (objectAt? siblings "patternProperties").isNone &&
        (objectAt? siblings "properties").isNone then
      return some (.assertion "additionalProperties" .noProperties)
    else return some (.closed (← declaredBeside siblings) patterns)
  | .object _ =>
    let names ← declaredBeside siblings
    return some (.open names patterns (← part.single "additionalProperties"))
  | _ => return none

def propertyNames (d : Dialect) (part : Part) : Compile (Option Rule) := do
  match part.value with
  | .bool false => return some (.assertion "propertyNames" .noProperties)
  | .object _ =>
    if d.isSince .draft6 then return some (.propertyNames (← part.single "propertyNames"))
    else return none
  | _ => return none

/-- The number of items that `prefixItems` speaks of. -/
def prefixCount (siblings : Siblings) : Nat :=
  match valueOf? siblings "prefixItems" with
  | some (.array vs) => vs.length
  | _ => 0

def itemsRule (siblings : Siblings) (part : Part) : Compile (Option Rule) := do
  match part.value with
  | .array _ => return some (.positions (← part.listed "items"))
  | .object _ => return some (.itemsFrom (prefixCount siblings) (← part.single "items"))
  | .bool false =>
    return some (.itemsFrom (prefixCount siblings) (.within [.member "items"] .reject))
  | _ => return none

def additionalItems (siblings : Siblings) (part : Part) : Compile (Option Rule) := do
  match valueOf? siblings "items", part.value with
  | some (.array vs), .object _ =>
    return some (.itemsFrom vs.length (← part.single "additionalItems"))
  | some (.array vs), .bool false =>
    return some (.assertion "additionalItems" (.itemsUpTo vs.length))
  | some (.bool false), _ => return some (.within [.member "additionalItems"] .reject)
  | _, _ => return none

def limitOf? (siblings : Siblings) (keyword : String) : Option Nat :=
  match valueOf? siblings keyword with
  | some (.number n) => n.toLimit?
  | _ => none

/-- With one bound the schema is compiled in its place, with two in that of its siblings. -/
def boundedPart (low high : Option Nat) (part : Part) : Compile Rule :=
  match low, high with
  | none, none => part.single "contains"
  | some _, none => part.single "minContains"
  | none, some _ => part.single "maxContains"
  | some _, some _ => part.schema

/-- The bounds of `contains`: a single match if nothing else is said, before 2019-09 in any case. -/
def contains (d : Dialect) (siblings : Siblings) (part : Part) : Compile (Option Rule) := do
  if d.isUpTo .draft7 then return some (.contains (← part.single "contains") 1 none)
  else
    let low := limitOf? siblings "minContains"
    let high := limitOf? siblings "maxContains"
    return some (.contains (← boundedPart low high part) (low.getD 1) high)

/-- A sibling as a schema; one that is not there accepts everything. -/
def ruleBeside (siblings : Siblings) (keyword : String) : Compile Rule :=
  match find? siblings keyword with
  | some p => p.single keyword
  | none => pure .accept

def conditional (siblings : Siblings) (part : Part) : Compile (Option Rule) := do
  if (find? siblings "then").isNone && (find? siblings "else").isNone then return none
  else
    let condition ← part.single "if"
    let consequence ← ruleBeside siblings "then"
    let alternative ← ruleBeside siblings "else"
    return some (.conditional condition consequence alternative)

/-- The rule of names that have to be there beside another. -/
def requiredRule (keyword : String) (vs : List Json) : Rule :=
  .assertion keyword (.required (Assertion.stringsOf vs))

/-- What a member asks for where it is there: other members, or a schema. -/
def dependency (keyword name : String) (part : Part) : Compile Rule :=
  match part.value with
  | .array vs => pure (requiredRule keyword vs)
  | _ => Compile.under [.member keyword, .member name] part.schema

def dependencies (keyword : String) (part : Part) : Compile (Option Rule) := do
  let rules ← part.members.mapM fun (name, p) => return (name, ← dependency keyword name p)
  return some (.dependent rules)

/-! ## Schemas -/

def reference (keyword : String) (part : Part) : Compile (Option Rule) := do
  match part.value with
  | .string text =>
    let number ← Compile.ruleNumber keyword text
    return number.map (.reference keyword)
  | _ => Compile.refuse (.type .string)

def pattern (part : Part) : Compile (Option Rule) := do
  match part.value with
  | .string text => return some (.assertion "pattern" (.pattern (← Compile.pattern text)))
  | _ => return none

/-- The rule of a keyword that holds schemas or patterns; nothing for other keywords. -/
def applicator (d : Dialect) (siblings : Siblings) (keyword : String) (part : Part) :
    Compile (Option Rule) := do
  match keyword with
  | "$ref" => reference keyword part
  | "$dynamicRef" =>
    if d = .draft2020 then reference keyword part else return none
  | "$recursiveRef" =>
    if d = .draft2019 then reference keyword part else return none
  | "properties" =>
    if part.isObject && !closesProperties siblings then
      return some (.properties (← part.declared keyword))
    else return none
  | "patternProperties" =>
    if part.isObject && !closesProperties siblings then
      return some (.patternProperties (← part.patterned))
    else return none
  | "additionalProperties" => additionalProperties siblings part
  | "propertyNames" => propertyNames d part
  | "dependencies" => dependencies keyword part
  | "dependentSchemas" | "dependentRequired" =>
    if d.isSince .draft2019 then dependencies keyword part else return none
  | "items" => itemsRule siblings part
  | "prefixItems" =>
    if d = .draft2020 then return some (.positions (← part.listed keyword)) else return none
  | "additionalItems" => additionalItems siblings part
  | "contains" => if d.isSince .draft6 then contains d siblings part else return none
  | "allOf" => return some (.allOf (← part.listed keyword))
  | "anyOf" => return some (.anyOf (← part.listed keyword))
  | "oneOf" => return some (.oneOf (← part.listed keyword))
  | "not" => return some (.not (← part.single keyword))
  | "if" => if d.isSince .draft7 then conditional siblings part else return none
  | "pattern" => pattern part
  | _ => return none

/-- The rule of any keyword; annotations have none. -/
def keywordRule (siblings : Siblings) (keyword : String) (part : Part) :
    Compile (Option Rule) := do
  let ctx ← read
  match Assertion.ofKeyword? ctx.dialect ctx.formats (valuesOf siblings) keyword part.value with
  | some a => return some (.assertion keyword a)
  | none =>
    if ctx.dialect.isSince .draft2019 && keyword == "unevaluatedProperties" then
      return some (.unevaluatedProperties (← coverageOf siblings .members))
    else if ctx.dialect.isSince .draft2019 && keyword == "unevaluatedItems" then
      return some (.unevaluatedItems (← coverageOf siblings .items))
    else applicator ctx.dialect siblings keyword part

/-- The keywords of a schema that count; up to draft 7 a reference hides the others. -/
def counted (d : Dialect) (siblings : Siblings) : Siblings :=
  if d.isUpTo .draft7 && siblings.any (·.1 == "$ref") then siblings.filter (·.1 == "$ref")
  else siblings

/-- Compiles the keywords of a schema, with references read at the base of the context. -/
def body (siblings : Siblings) : Compile Rule := do
  let ctx ← read
  let rules ← (counted ctx.dialect siblings).mapM fun (keyword, part) =>
    keywordRule siblings keyword part
  return .all (rules.filterMap id)

/-- Compiles an object as a schema where it may name its dialect and give itself a URI. -/
def entering (schema : Json) (members : List (String × Json)) (inner : Compile Rule) :
    Compile Rule := do
  let ctx ← read
  let dialect := ctx.dialect.inside members
  let base ← Compile.orRefuse (ctx.base.enter dialect schema)
  withReader (fun ctx : Context => { ctx with dialect := dialect, base := base }) inner

mutual

def prepare : Json → Part
  | .bool b => ⟨.bool b, pure (if b then .accept else .reject), fun _ => pure (.any []), [], []⟩
  | .object ms =>
    let parts := prepareMembers ms
    ⟨.object ms, entering (.object ms) ms (body parts), coverageOf parts, parts, []⟩
  | .array vs =>
    ⟨.array vs, Compile.refuse .types, fun _ => pure (.any []), [], prepareItems vs⟩
  | v => ⟨v, Compile.refuse .types, fun _ => pure (.any []), [], []⟩

def prepareMembers : List (String × Json) → Siblings
  | [] => []
  | (k, v) :: ms => (k, prepare v) :: prepareMembers ms

def prepareItems : List Json → List Part
  | [] => []
  | v :: vs => prepare v :: prepareItems vs

end

end Part

end SchemaContract
