import SchemaContract.Validation.Compile

/-!
# Linking

The compilation of a schema is carried out together with those of the targets that it refers to,
each when it is first asked for. They are kept in a table, so that each target is compiled once.
-/

namespace SchemaContract

/-! ## Targets -/

/-- What a reference leads to, where the dialect has its keyword. -/
def Library.leadsTo (lib : Library) (request : Request) : Except ReferenceFault (Option Target) :=
  let ctx := request.context
  match request.keyword with
  | "$ref" => (lib.target ctx.base ctx.scope request.reference.toList).map some
  | "$dynamicRef" =>
    if ctx.dialect = .draft2020 then
      (lib.target ctx.base ctx.scope request.reference.toList).map some
    else .ok none
  | "$recursiveRef" =>
    if ctx.dialect = .draft2019 then (lib.recursiveTarget ctx.base ctx.scope).map some
    else .ok none
  | _ => .ok none

namespace Target

/-- Whether the target holds the very same reference. -/
def repeats (t : Target) (request : Request) : Bool :=
  match t.contents.get? request.keyword with
  | some (.string text) => text == request.reference
  | _ => false

def context (t : Target) (formats : Bool) (location : List Step) : Context :=
  ⟨formats, t.dialect, t.base, t.scope, location⟩

/-- Compiles a target where it stands. It has the dialect and the base it was found with, whatever
it names itself. -/
def rule (t : Target) : Compile Rule :=
  match t.contents with
  | .object ms => Part.body (Part.prepareMembers ms)
  | v => (Part.prepare v).schema

def coverage (t : Target) (kind : PartKind) : Compile Coverage :=
  (Part.prepare t.contents).coverage kind

end Target

/-! ## Tables -/

/-- The targets met so far with their rules and coverages, in the order of discovery, and the URIs
of all references that were followed. A target that is still being compiled has a rule to stand in
for it. -/
structure Table where
  rules : List (TargetKey × Rule)
  coverages : List ((TargetKey × PartKind) × Coverage)
  followed : List Uri

namespace Table

def empty : Table := ⟨[], [], []⟩

def ruleIndex? (t : Table) (key : TargetKey) : Option Nat := t.rules.findIdx? fun e => e.1 == key

def coverageIndex? (t : Table) (key : TargetKey) (kind : PartKind) : Option Nat :=
  t.coverages.findIdx? fun e => e.1.2 == kind && e.1.1 == key

def addRule (t : Table) (key : TargetKey) (uri : Uri) : Table :=
  { t with rules := t.rules ++ [(key, .accept)], followed := uri :: t.followed }

def putRule (t : Table) (i : Nat) (rule : Rule) : Table :=
  { t with rules := t.rules.modify i fun e => (e.1, rule) }

def addCoverage (t : Table) (key : TargetKey) (kind : PartKind) : Table :=
  { t with coverages := t.coverages ++ [((key, kind), .any [])] }

def putCoverage (t : Table) (i : Nat) (coverage : Coverage) : Table :=
  { t with coverages := t.coverages.modify i fun e => (e.1, coverage) }

end Table

/-! ## Plans -/

/-- A step of the linking: what it gives, and the table behind it. -/
abbrev Link (α : Type) := Table → Except Failure (α × Table)

def Link.orRefuse {α β : Type} (found : Except ReferenceFault α) (next : α → Link β) : Link β :=
  fun table =>
    match found with
    | .ok a => next a table
    | .error fault => .error (.plain .root (.reference fault))

/-- Where references lead to, and how a target is compiled that one at a location leads to. -/
structure Following where
  library : Library
  rule : Target → List Step → Link Rule
  coverage : Target → PartKind → List Step → Link Coverage

namespace Following

/-- Enters a target into the table, compiled if it was not met before. -/
def enterRule (following : Following) (t : Target) (uri : Uri) (location : List Step) : Link Nat :=
  fun table =>
    match table.ruleIndex? t.key with
    | some i => .ok (i, table)
    | none =>
      match following.rule t location (table.addRule t.key uri) with
      | .ok (rule, after) => .ok (table.rules.length, after.putRule table.rules.length rule)
      | .error failure => .error failure

/-- A target is compiled once for each kind of part. -/
def enterCoverage (following : Following) (t : Target) (kind : PartKind) (location : List Step) :
    Link Nat := fun table =>
  match table.coverageIndex? t.key kind with
  | some i => .ok (i, table)
  | none =>
    match following.coverage t kind location (table.addCoverage t.key kind) with
    | .ok (coverage, after) =>
      .ok (table.coverages.length, after.putCoverage table.coverages.length coverage)
    | .error failure => .error failure

/-- The number of the rule of what a reference leads to. A reference that was followed before and
leads to a schema with the very same reference says nothing. -/
def ruleNumber (following : Following) (request : Request) : Link (Option Nat) :=
  Link.orRefuse (request.context.base.target request.reference.toList) fun uri =>
    Link.orRefuse (following.library.leadsTo request) fun found table =>
      match found with
      | none => .ok (none, table)
      | some t =>
        if t.repeats request && table.followed.contains uri then .ok (none, table)
        else
          (following.enterRule t uri (.member request.keyword :: request.context.location)
            table).map fun (i, table) => (some i, table)

def coverageNumber (following : Following) (request : Request) (kind : PartKind) :
    Link (Option Nat) :=
  Link.orRefuse (following.library.leadsTo request) fun found table =>
    match found with
    | none => .ok (none, table)
    | some t =>
      (following.enterCoverage t kind (.member request.keyword :: request.context.location)
        table).map fun (i, table) => (some i, table)

end Following

def Plan.run {α : Type} (following : Following) : Plan α → Link α
  | .done a, table => .ok (a, table)
  | .failed failure, _ => .error failure
  | .rule request next, table =>
    match following.ruleNumber request table with
    | .ok (answer, table) => (next answer).run following table
    | .error failure => .error failure
  | .coverage request kind next, table =>
    match following.coverageNumber request kind table with
    | .ok (answer, table) => (next answer).run following table
    | .error failure => .error failure

/-- The ways to compile targets, with so many references still to be followed inside them. -/
def Following.upTo (library : Library) (formats : Bool) : Nat → Following
  | 0 =>
    ⟨library, fun _ _ _ => .error (.plain .root (.reference .tooDeep)),
      fun _ _ _ _ => .error (.plain .root (.reference .tooDeep))⟩
  | steps + 1 =>
    { library := library
      rule := fun t location =>
        (t.rule (t.context formats location)).run (upTo library formats steps)
      coverage := fun t kind location =>
        (t.coverage kind (t.context formats location)).run (upTo library formats steps) }

/-! ## Programs -/

/-- The most references that may stand inside each other. -/
def Program.maxReferences : Nat := Nat.pow 2 32

/-- The number of texts in the documents of a library; no more references can stand there. -/
def Library.texts (lib : Library) : Nat := Json.textsItems (lib.resources.map (·.contents))

/-- Compiles a schema of a library. At each level of a value a reference may be followed once on
each way through the documents. -/
def Program.compile (library : Library) (formats : Bool) (d : Dialect) (base : Uri)
    (schema : Json) : Except Failure Program :=
  match (Following.upTo library formats maxReferences).rule ⟨base, [], base, .empty, d, schema⟩ []
      .empty with
  | .ok (root, table) =>
    .ok ⟨root, table.rules.map (·.2), table.coverages.map (·.2),
      (library.texts + 1) * (library.resources.length + 2)⟩
  | .error failure => .error failure

end SchemaContract
