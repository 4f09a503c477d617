import SchemaContract.Validation.Assertion

/-!
# Rules

A compiled schema. `Rule.failures` lists everything wrong with a value, in the order of the rules
and depth first; a value is valid when the list is empty. A `Coverage` says which members and items
of a value a schema has looked at, for the keywords that speak of all others.

References are followed by functions that come from outside, so that every definition here is
structural. `Program.follow` supplies them for a number of steps.
-/

namespace SchemaContract

/-- How many of the branches that are looked into have to be valid, and which of them then count. -/
inductive Quorum where
  | all
  | some
  | one
  | theOne
  deriving DecidableEq, Repr

mutual

inductive Rule where
  | accept
  | reject
  | within (steps : List Step) (rule : Rule)
  | all (rules : List Rule)
  | assertion (keyword : String) (assertion : Assertion)
  | properties (declared : List (String × Rule))
  | patternProperties (patterns : List (Pattern × Rule))
  | open (declared : List (String × Rule)) (patterns : List (Pattern × Rule)) (rest : Rule)
  | closed (declared : List (String × Rule)) (patterns : List (Pattern × Rule))
  | propertyNames (rule : Rule)
  | dependent (rules : List (String × Rule))
  | positions (rules : List Rule)
  | itemsFrom (start : Nat) (rule : Rule)
  | contains (rule : Rule) (low : Nat) (high : Option Nat)
  | allOf (rules : List Rule)
  | anyOf (rules : List Rule)
  | oneOf (rules : List Rule)
  | not (rule : Rule)
  | conditional (condition consequence alternative : Rule)
  | reference (keyword : String) (target : Nat)
  | unevaluatedProperties (coverage : Coverage)
  | unevaluatedItems (coverage : Coverage)

inductive Coverage where
  | any (parts : List Coverage)
  | everything
  | upTo (count : Nat)
  | declared (rules : List (String × Rule))
  | matching (patterns : List Pattern)
  | valid (rule : Rule)
  | dependent (coverages : List (String × Coverage))
  | conditional (condition : Rule) (consequence alternative : Coverage)
  | branches (quorum : Quorum) (branches : List (Rule × Coverage))
  | reference (target : Nat)

end

deriving instance Repr for Rule, Coverage

/-- How the targets of references are evaluated. -/
structure Follow where
  failures : Nat → Place → Json → List Failure
  covers : Nat → Json → Step → Json → Bool

/-- Evaluation without any step left: nothing is found wrong and nothing is looked at. -/
def Follow.none : Follow := ⟨fun _ _ _ => [], fun _ _ _ _ => false⟩

/-- Whether the branches that count look at a part, from the validity of each branch and whether it
looks at the part. -/
def Quorum.covers (q : Quorum) (branches : List (Bool × Bool)) : Bool :=
  let valid := branches.filter (·.1)
  match q with
  | .all => valid.length == branches.length && branches.any (·.2)
  | .some => !valid.isEmpty && branches.any (·.2)
  | .one => valid.length == 1 && branches.any (·.2)
  | .theOne => valid.length == 1 && valid.any (·.2)

namespace Rule

def membersOf : Json → List (String × Json)
  | .object ms => ms
  | _ => []

def itemsOf : Json → List Json
  | .array vs => vs
  | _ => []

def anyOfFailures (p : Place) (branches : List (List Failure)) : List Failure :=
  if branches.any List.isEmpty then []
  else [.choice (p.within [.member "anyOf"]).site .anyOf branches]

def oneOfFailures (p : Place) (branches : List (List Failure)) : List Failure :=
  match (branches.filter List.isEmpty).length with
  | 0 => [.choice (p.within [.member "oneOf"]).site .oneOf branches]
  | 1 => []
  | _ => (p.within [.member "oneOf"]).fails .severalOf

def containsFailures (p : Place) (low : Nat) (high : Option Nat) (count : Nat) : List Failure :=
  p.demand (low ≤ count && high.all (count ≤ ·)) .contains

mutual

/-- Everything wrong with a value. -/
def failures (follow : Follow) : Rule → Place → Json → List Failure
  | .accept, _, _ => []
  | .reject, p, _ => p.fails .falseSchema
  | .within steps r, p, v => failures follow r (p.within steps) v
  | .all rs, p, v => allFailures follow rs p v
  | .assertion k a, p, v => a.failures (p.within [.member k]) v
  | .properties ds, p, v => propertyFailures follow ds p (membersOf v)
  | .patternProperties ps, p, v => patternFailures follow ps p (membersOf v)
  | .open ds ps r, p, v =>
    (membersOf v).flatMap fun (k, x) =>
      let found := declaredFailures follow ds (p.member k) k x ++
        matchingFailures follow ps (p.member k) k x
      if found.isEmpty then failures follow r (p.member k) x else found.flatten
  | .closed ds ps, p, v =>
    let results := (membersOf v).map fun (k, x) =>
      declaredFailures follow ds (p.member k) k x ++ matchingFailures follow ps (p.member k) k x
    results.flatten.flatten ++
      (p.within [.member "additionalProperties"]).demand (results.all fun r => !r.isEmpty)
        .additionalProperties
  | .propertyNames r, p, v =>
    (membersOf v).flatMap fun (k, _) =>
      (failures follow r (p.member k) (.string k)).flatMap fun _ =>
        (p.within [.member "propertyNames"]).fails .propertyNames
  | .dependent rs, p, v => dependentFailures follow rs p v
  | .positions rs, p, v => positionFailures follow rs p 0 (itemsOf v)
  | .itemsFrom start r, p, v =>
    (itemsOf v).zipIdx.flatMap fun (x, i) =>
      if start ≤ i then failures follow r (p.index i) x else []
  | .contains r low high, p, v =>
    match v with
    | .array vs =>
      containsFailures (p.within [.member "contains"]) low high
        (vs.filter fun x => (failures follow r p x).isEmpty).length
    | _ => []
  | .allOf rs, p, v => allFailures follow rs p v
  | .anyOf rs, p, v => anyOfFailures p (branchFailures follow rs p v)
  | .oneOf rs, p, v => oneOfFailures p (branchFailures follow rs p v)
  | .not r, p, v => (p.within [.member "not"]).demand (!(failures follow r p v).isEmpty) .not
  | .conditional c t e, p, v =>
    if (failures follow c p v).isEmpty then failures follow t p v else failures follow e p v
  | .reference k target, p, v => follow.failures target (p.within [.member k]) v
  | .unevaluatedProperties c, p, v =>
    (p.within [.member "unevaluatedProperties"]).demand
      ((membersOf v).all fun (k, x) => covers follow c v (.member k) x) .unevaluatedProperties
  | .unevaluatedItems c, p, v =>
    let left := (itemsOf v).zipIdx.filter fun (x, i) => !covers follow c v (.index i) x
    (p.within [.member "unevaluatedItems"]).demand left.isEmpty (.unevaluatedItems (left.map (·.1)))

def allFailures (follow : Follow) : List Rule → Place → Json → List Failure
  | [], _, _ => []
  | r :: rs, p, v => failures follow r p v ++ allFailures follow rs p v

def branchFailures (follow : Follow) : List Rule → Place → Json → List (List Failure)
  | [], _, _ => []
  | r :: rs, p, v => failures follow r p v :: branchFailures follow rs p v

def propertyFailures (follow : Follow) :
    List (String × Rule) → Place → List (String × Json) → List Failure
  | [], _, _ => []
  | (k, r) :: ds, p, ms =>
    (match Json.lookup k ms with
      | some x => failures follow r (p.member k) x
      | none => []) ++ propertyFailures follow ds p ms

def patternFailures (follow : Follow) :
    List (Pattern × Rule) → Place → List (String × Json) → List Failure
  | [], _, _ => []
  | (r, rule) :: ps, p, ms =>
    (ms.flatMap fun (k, x) =>
      if r.matchesIn k then failures follow rule (p.member k) x else []) ++
    patternFailures follow ps p ms

/-- The failures of one member under its declaration; no list at all if it has none. -/
def declaredFailures (follow : Follow) :
    List (String × Rule) → Place → String → Json → List (List Failure)
  | [], _, _, _ => []
  | (k, r) :: ds, p, name, x =>
    if k == name then [failures follow r p x] else declaredFailures follow ds p name x

/-- The failures of one member under each pattern that its name matches. -/
def matchingFailures (follow : Follow) :
    List (Pattern × Rule) → Place → String → Json → List (List Failure)
  | [], _, _, _ => []
  | (r, rule) :: ps, p, name, x =>
    if r.matchesIn name then failures follow rule p x :: matchingFailures follow ps p name x
    else matchingFailures follow ps p name x

def dependentFailures (follow : Follow) : List (String × Rule) → Place → Json → List Failure
  | [], _, _ => []
  | (k, r) :: rs, p, v =>
    (if Json.hasMember k (membersOf v) then failures follow r p v else []) ++
      dependentFailures follow rs p v

def positionFailures (follow : Follow) : List Rule → Place → Nat → List Json → List Failure
  | r :: rs, p, i, x :: xs =>
    failures follow r (p.index i) x ++ positionFailures follow rs p (i + 1) xs
  | _, _, _, _ => []

/-- Whether a schema looks at one part of a value: the step to the part and the part itself. -/
def covers (follow : Follow) : Coverage → Json → Step → Json → Bool
  | .any cs, v, s, x => anyCovers follow cs v s x
  | .everything, _, _, _ => true
  | .upTo n, _, .index i, _ => i < n
  | .declared rs, _, .member k, x => declaredValid follow rs k x
  | .matching ps, _, .member k, _ => ps.any (·.matchesIn k)
  | .valid r, _, _, x => (failures follow r .root x).isEmpty
  | .dependent cs, v, s, x => dependentCovers follow cs v s x
  | .conditional r yes no, v, s, x =>
    if (failures follow r .root v).isEmpty then covers follow yes v s x else covers follow no v s x
  | .branches q bs, v, s, x => q.covers (branchCovers follow bs v s x)
  | .reference target, v, s, x => follow.covers target v s x
  | _, _, _, _ => false

def anyCovers (follow : Follow) : List Coverage → Json → Step → Json → Bool
  | [], _, _, _ => false
  | c :: cs, v, s, x => covers follow c v s x || anyCovers follow cs v s x

/-- Whether a member is declared and valid. -/
def declaredValid (follow : Follow) : List (String × Rule) → String → Json → Bool
  | [], _, _ => false
  | (k, r) :: rs, name, x =>
    (k == name && (failures follow r .root x).isEmpty) || declaredValid follow rs name x

/-- Whether a schema that a member of the object calls for looks at the part. -/
def dependentCovers (follow : Follow) : List (String × Coverage) → Json → Step → Json → Bool
  | [], _, _, _ => false
  | (k, c) :: cs, v, s, x =>
    (Json.hasMember k (membersOf v) && covers follow c v s x) || dependentCovers follow cs v s x

/-- For each branch, whether the value is valid and whether it looks at the part. -/
def branchCovers (follow : Follow) :
    List (Rule × Coverage) → Json → Step → Json → List (Bool × Bool)
  | [], _, _, _ => []
  | (r, c) :: bs, v, s, x =>
    ((failures follow r .root v).isEmpty, covers follow c v s x) :: branchCovers follow bs v s x

end

attribute [simp] failures allFailures branchFailures propertyFailures patternFailures
  declaredFailures matchingFailures dependentFailures positionFailures covers anyCovers
  declaredValid dependentCovers branchCovers

end Rule

/-- A rule together with the rules and the coverages that its references lead to, and the most
references to follow at one level of a value. -/
structure Program where
  root : Rule
  targets : List Rule
  coverages : List Coverage
  limit : Nat
  deriving Repr

namespace Program

def acceptAll : Program := ⟨.accept, [], [], 1⟩

def follow (program : Program) : Nat → Follow
  | 0 => .none
  | steps + 1 =>
    { failures := fun t p v =>
        (program.targets[t]?.getD .accept).failures (follow program steps) p v
      covers := fun t v s x =>
        Rule.covers (follow program steps) (program.coverages[t]?.getD (.any [])) v s x }

/-- The most references to follow into each other. -/
def steps (program : Program) (v : Json) : Nat := (v.depth + 2) * program.limit

def failures (program : Program) (v : Json) : List Failure :=
  program.root.failures (program.follow (program.steps v)) .root v

def accepts (program : Program) (v : Json) : Bool := (program.failures v).isEmpty

end Program

end SchemaContract
