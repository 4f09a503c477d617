import SchemaContract.Text.Escape
import SchemaContract.Validation.Role

/-!
# Libraries of schemas

A library knows the schemas that have a URI, and the anchors inside them; what comes later in time
stands first and goes before what is older. `Library.target` says what a reference leads to. A
reference through a dynamic anchor leads to the outermost schema on the way here that has the
anchor, and a recursive one to the outermost of an unbroken row of recursive schemas; the way here
is a `Scope`.
-/

namespace SchemaContract

structure Resource where
  uri : Uri
  contents : Json
  dialect : Dialect

structure AnchorPoint where
  uri : Uri
  name : String
  dynamic : Bool
  contents : Json
  dialect : Dialect

structure Library where
  resources : List Resource
  anchors : List AnchorPoint

namespace Library

def empty : Library := ⟨[], []⟩

def append (a b : Library) : Library := ⟨a.resources ++ b.resources, a.anchors ++ b.anchors⟩

def addResource (lib : Library) (d : Dialect) (uri : Uri) (contents : Json) : Library :=
  { lib with resources := ⟨uri, contents, d⟩ :: lib.resources }

/-- Adds the anchors of one schema, without those inside it. -/
def addAnchors (lib : Library) (d : Dialect) (uri : Uri) (contents : Json) : Library :=
  let points := (d.anchors (contents.members?.getD [])).map fun a =>
    (⟨uri, a.1, a.2, contents, d⟩ : AnchorPoint)
  { lib with anchors := points.reverse ++ lib.anchors }

def add (lib : Library) (d : Dialect) (uri : Uri) (contents : Json) : Library :=
  (lib.addResource d uri contents).addAnchors d uri contents

def resource? (lib : Library) (uri : Uri) : Option Resource :=
  lib.resources.find? fun r => r.uri == uri

def anchorAt? (lib : Library) (uri : Uri) (name : String) : Option AnchorPoint :=
  lib.anchors.find? fun a => a.name == name && a.uri == uri

/-- The URI that a resource gives itself, read without any base. -/
def Resource.ownUri? (r : Resource) : Option Uri :=
  match Uri.unnamed.enter r.dialect r.contents with
  | .ok u => if u = Uri.unnamed then none else some u
  | .error _ => none

/-- The anchor of a resource, which may also be known by the URI that the resource gives itself. -/
def anchor? (lib : Library) (uri : Uri) (name : String) : Option AnchorPoint :=
  match lib.anchorAt? uri name with
  | some a => some a
  | none =>
    ((lib.resource? uri).bind Resource.ownUri?).bind fun own => lib.anchorAt? own name

end Library

/-! ## The way to a schema -/

/-- The documents that references led through, the outermost first and each once, and the outermost
of the unbroken row of recursive ones that ends here. -/
structure Scope where
  uris : List Uri
  recursive : Option Uri
  deriving BEq, ReflBEq, LawfulBEq, Repr

instance : DecidableEq Scope := instDecidableEqOfLawfulBEq

def Scope.empty : Scope := ⟨[], none⟩

namespace Library

def isRecursive (lib : Library) (uri : Uri) : Bool :=
  match (lib.resource? uri).bind (·.contents.get? "$recursiveAnchor") with
  | some (.bool b) => b
  | _ => false

/-- The scope after a reference from one document to another. -/
def scopeInto (lib : Library) (base : Uri) (scope : Scope) (next : Uri) : Scope :=
  if scope.uris.isEmpty ∨ next ≠ base then
    { uris := if scope.uris.contains base then scope.uris else scope.uris ++ [base]
      recursive := if lib.isRecursive base then some (scope.recursive.getD base) else none }
  else scope

end Library

/-- What a reference leads to: the document and the part of it that name the schema, and where the
references inside it are read. -/
structure Target where
  document : Uri
  part : List Char
  base : Uri
  scope : Scope
  dialect : Dialect
  contents : Json

abbrev TargetKey := Uri × List Char × Uri × Scope

/-- Two targets with one key are the same schema reached on equivalent ways. -/
def Target.key (t : Target) : TargetKey := (t.document, t.part, t.base, t.scope)

namespace Library

/-- One more than the largest position in an array. -/
def maxPosition : Nat := Nat.pow 2 64

/-- A position in an array, read generously. -/
def position? (cs : List Char) : Option Nat :=
  let digits := match cs with
    | '+' :: rest => rest
    | _ => cs
  let n := Text.decimalValue digits
  if !digits.isEmpty ∧ digits.all Char.isDigit ∧ n < maxPosition then some n else none

/-- One step into a value by a segment of a pointer. -/
def stepInto (raw : String) (v : Json) (segment : List Char) :
    Except ReferenceFault (Step × Json) :=
  match v with
  | .array vs =>
    match position? segment with
    | none => .error (.badIndex raw (String.ofList segment))
    | some i =>
      match vs[i]? with
      | some w => .ok (.index i, w)
      | none => .error (.noPointer raw)
  | .object ms =>
    let name := String.ofList (Pointer.decodeChars segment)
    match Json.lookup name ms with
    | some w => .ok (.member name, w)
    | none => .error (.noPointer raw)
  | _ => .error (.noPointer raw)

/-- Follows the segments of a pointer. A schema on the way sets the base if the steps since the last
base lead from schema to schema. -/
def descend (raw : String) (d : Dialect) :
    Uri → List Step → Json → List (List Char) → Except ReferenceFault (Uri × Json)
  | base, _, v, [] => .ok (base, v)
  | base, way, v, s :: rest =>
    match stepInto raw v s with
    | .error f => .error f
    | .ok (step, w) =>
      let way := way ++ [step]
      let inner := if d.leadsToSchema w.members?.isSome way then base.enter d w else .ok base
      match inner with
      | .error f => .error f
      | .ok inner => descend raw d inner (if inner = base then way else []) w rest

def pointerTarget (r : Resource) (scope : Scope) (fragment : List Char) :
    Except ReferenceFault Target :=
  let raw := String.ofList fragment
  match Text.unescape? fragment.tail with
  | none => .error (.badEscape raw)
  | some plain =>
    (descend raw r.dialect r.uri [] r.contents (Text.pieces '/' plain)).map fun (base, v) =>
      ⟨r.uri, '/' :: plain, base, scope, r.dialect, v⟩

/-- The dynamic anchor of the outermost document on the way here that has it. -/
def outermost? (lib : Library) (scope : Scope) (name : String) : Option AnchorPoint :=
  scope.uris.findSome? fun u => (lib.anchorAt? u name).filter (·.dynamic)

def anchorTarget (lib : Library) (uri : Uri) (scope : Scope) (fragment : List Char) :
    Except ReferenceFault Target :=
  let name := String.ofList fragment
  match lib.anchor? uri name with
  | none => .error (if fragment.contains '/' then .badAnchor name else .noAnchor name)
  | some own =>
    let a := if own.dynamic then (lib.outermost? scope name).getD own else own
    .ok ⟨a.uri, fragment, if own.dynamic then a.uri else uri, scope, a.dialect, a.contents⟩

/-- The text before and behind the last number sign. -/
def cutFragment (reference : List Char) : List Char × List Char :=
  match Text.cutAt '#' reference.reverse with
  | (fragment, some head) => (head.reverse, fragment.reverse)
  | _ => (reference, [])

def split (base : Uri) (reference : List Char) : Except ReferenceFault (Uri × List Char) :=
  match base.target reference, reference with
  | .error f, _ => .error f
  | .ok _, '#' :: fragment => .ok (base, fragment)
  | .ok _, _ =>
    let (head, fragment) := cutFragment reference
    (base.target head).map (·, fragment)

def target (lib : Library) (base : Uri) (scope : Scope) (reference : List Char) :
    Except ReferenceFault Target :=
  match split base reference with
  | .error f => .error f
  | .ok (uri, fragment) =>
    match lib.resource? uri with
    | none => .error (.notLoaded uri.text)
    | some r =>
      let scope := lib.scopeInto base scope uri
      match fragment with
      | [] => .ok ⟨uri, [], uri, scope, r.dialect, r.contents⟩
      | '/' :: _ => pointerTarget r scope fragment
      | _ => lib.anchorTarget uri scope fragment

def recursiveTarget (lib : Library) (base : Uri) (scope : Scope) : Except ReferenceFault Target :=
  match scope.recursive with
  | some outer =>
    lib.target base scope (if lib.isRecursive base then outer.toChars else ['#'])
  | none => lib.target base scope ['#']

end Library

end SchemaContract
