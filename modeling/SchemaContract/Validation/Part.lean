import SchemaContract.Validation.Context

/-!
# Parts of a schema under compilation

Every value inside a schema is first prepared as a `Part`, which knows how to compile the value and
its own parts as schemas. A keyword then takes the parts it needs from its own value and from its
siblings.
-/

namespace SchemaContract

/-- A value inside a schema together with the ways to compile it as a schema: its rule, and the
coverage of its own members. -/
structure Part where
  value : Json
  schema : Compile Rule
  coverage : PartKind → Compile Coverage
  members : List (String × Part)
  items : List Part

namespace Part

abbrev Siblings := List (String × Part)

def find? (siblings : Siblings) (keyword : String) : Option Part :=
  (siblings.find? fun s => s.1 == keyword).map (·.2)

def valueOf? (siblings : Siblings) (keyword : String) : Option Json :=
  match find? siblings keyword with
  | some p => some p.value
  | none => none

def valuesOf (siblings : Siblings) : List (String × Json) := siblings.map fun s => (s.1, s.2.value)

def isObject (part : Part) : Bool := part.value.members?.isSome

/-- The members of an object of schemas. -/
def declared (keyword : String) (part : Part) : Compile (List (String × Rule)) :=
  part.members.mapM fun (name, p) => do
    return (name, ← Compile.under [.member keyword, .member name] p.schema)

/-- The members of an object of schemas whose names are patterns. -/
def patterned (part : Part) : Compile (List (Pattern × Rule)) :=
  part.members.mapM fun (name, p) => do
    let pattern ← Compile.inside [.member "patternProperties"] (Compile.pattern name)
    return (pattern, ← Compile.under [.member "patternProperties", .member name] p.schema)

def listed (keyword : String) (part : Part) : Compile (List Rule) :=
  part.items.zipIdx.mapM fun (p, i) => Compile.under [.member keyword, .index i] p.schema

def single (keyword : String) (part : Part) : Compile Rule :=
  Compile.under [.member keyword] part.schema

end Part

end SchemaContract
