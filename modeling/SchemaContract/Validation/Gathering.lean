import SchemaContract.Validation.Library

/-!
# Gathering the schemas of a document

Before a document is compiled, the schemas in it that have a URI or an anchor are gathered into a
library, level by level from the outside to the inside, and every reference to another document has
to lead to one of them. References into the published dialects are not looked up; they only call for
the meta-schemas to be there.
-/

namespace SchemaContract

/-- What has been gathered so far: the library, the references to other documents that are still to
be looked up, the references already met, and whether published dialects are referred to. -/
structure Gathering where
  library : Library
  outside : List (String × Uri)
  met : List (Uri × String)
  published : Bool

namespace Gathering

/-- The schemas right inside a value in a role. -/
def inside (role : Role) (v : Json) : List Json :=
  match role, v with
  | .schema, v => [v]
  | .list, .array vs => vs
  | .map, .object ms => ms.map (·.2)
  | .schemaOrList, .array vs => vs
  | .schemaOrList, v => [v]
  | _, _ => []

/-- The schemas right inside a schema, without those that say nothing about themselves. -/
def children (d : Dialect) (schema : Json) : List Json :=
  ((schema.members?.getD []).flatMap fun (k, v) => inside (d.searchRole k) v).filter
    fun v => v.members?.isSome

/-! ## References -/

def isPublished (s : String) : Bool :=
  "https://json-schema.org/draft/".isPrefixOf s || "http://json-schema.org/draft-".isPrefixOf s

def isReferenceKeyword (k : String) : Bool := k == "$ref" || k == "$schema"

/-- The keywords of a schema that hold references, with the references. A schema with two members is
read in their order, in a larger one `$ref` goes first. -/
def references (schema : Json) : List (String × String) :=
  let members := schema.members?.getD []
  let found := members.filterMap fun (k, v) =>
    if isReferenceKeyword k then v.string?.map (k, ·) else none
  if members.length ≤ 2 then found
  else found.filter (·.1 == "$ref") ++ found.filter (·.1 != "$ref")

/-- The value that a pointer without escapes leads to. -/
def pointed? (contents : Json) (pointer : List Char) : Option Json :=
  match pointer with
  | [] => some contents
  | '/' :: _ => contents.descend? (Pointer.segments (String.ofList pointer))
  | _ => none

/-- The value that a fragment leads to with its references, if it has some. -/
def pointedReferences (holder : Json) (fragment : List Char) :
    List (Json × List (String × String)) :=
  ((pointed? holder (fragment.dropWhile (· == '#'))).toList.map
    fun v => (v, references v)).filter fun e => !e.2.isEmpty

/-- The URI of a reference to another document. The fragment of the base does not count. -/
def outsideUri (base : Uri) (reference : String) : Except ReferenceFault Uri :=
  base.withoutFragment.target reference.toList

/-- Takes down references that are read at one base, each where it is met first; the values that
hold them are given along. A reference into its holder leads on to the references there. One into
the published dialects hides the others of its holder. -/
def noteAll (base : Uri) :
    Nat → Gathering → List (Json × List (String × String)) → Except ReferenceFault Gathering
  | 0, g, _ => .ok g
  | _ + 1, g, [] => .ok g
  | budget + 1, g, (_, []) :: rest => noteAll base budget g rest
  | budget + 1, g, (holder, (keyword, text) :: more) :: rest =>
    if isPublished text || isPublished base.text then
      noteAll base budget { g with published := g.published || keyword == "$ref" } rest
    else if text == "#" || g.met.contains (base, text) then
      noteAll base budget g ((holder, more) :: rest)
    else
      let g := { g with met := (base, text) :: g.met }
      match text.toList with
      | '#' :: fragment =>
        noteAll base budget g (pointedReferences holder fragment ++ (holder, more) :: rest)
      | _ =>
        match outsideUri base text with
        | .error f => .error f
        | .ok u =>
          noteAll base budget { g with outside := g.outside ++ [(text, u)] }
            ((holder, more) :: rest)

/-- The most references that are met at one schema, and the most schemas that are visited. -/
def maxSteps : Nat := Nat.pow 2 64

/-- Takes down the references of a schema. Those in documents named by a `urn` are left out. -/
def note (g : Gathering) (base : Uri) (schema : Json) : Except ReferenceFault Gathering :=
  if base.scheme = some ['u', 'r', 'n'] then .ok g
  else noteAll base maxSteps g [(schema, references schema)]

/-! ## The walk -/

/-- A schema and the base outside of it. -/
abbrev Visit := Uri × Json

def namesItself (d : Dialect) (schema : Json) : Bool := (d.id? (schema.members?.getD [])).isSome

/-- Visits a schema: it is taken into the library with its anchors, and its references and those of
the schemas right inside it are taken down. The latter are to be visited next. -/
def visit (d : Dialect) (g : Gathering) (v : Visit) :
    Except ReferenceFault (Gathering × List Visit) := do
  let (outer, schema) := v
  let base ← outer.enter d schema
  let lib := if namesItself d schema then g.library.addResource d base schema else g.library
  let g ← note { g with library := lib.addAnchors d base schema } base schema
  let inner := children d schema
  let g ← inner.foldlM
    (fun g schema => do note g (← base.enter d schema) schema) g
  return (g, inner.map (base, ·))

/-- Visits schemas, and then those inside them. The first argument bounds their number. -/
def visitAll (d : Dialect) :
    Nat → Gathering → List Visit → Except ReferenceFault Gathering
  | 0, g, _ => .ok g
  | _ + 1, g, [] => .ok g
  | left + 1, g, v :: rest =>
    match visit d g v with
    | .error f => .error f
    | .ok (g, inner) => visitAll d left g (rest ++ inner)

/-- The fault of a reference to a document that is not there. -/
def missing? (lib : Library) (reference : String × Uri) : Option ReferenceFault :=
  let (text, uri) := reference
  let document := uri.withoutFragment
  if (lib.resource? document).isSome then none
  else if document.scheme = Uri.unnamed.scheme then some (.noBase text)
  else some (.unknownScheme document.text (String.ofList (document.scheme.getD [])))

/-- All that a document has under the URI it is known by, if every reference to another document
leads somewhere. -/
def ofDocument (d : Dialect) (uri : Uri) (document : Json) : Except ReferenceFault Gathering :=
  let start : Gathering := ⟨Library.empty.addResource d uri document, [], [], false⟩
  match visitAll d maxSteps start [(uri, document)] with
  | .error f => .error f
  | .ok g =>
    match g.outside.findSome? (missing? g.library) with
    | some f => .error f
    | none => .ok g

end Gathering

end SchemaContract
