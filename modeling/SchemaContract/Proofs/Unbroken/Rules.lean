import SchemaContract.Proofs.Unbroken.Failures

/-!
# Rules that fail in one line

A rule whose patterns and required names break no line finds only failures that are told in one
line, in values whose names break none either. Rules that are only asked whether they find a failure
need not be of this kind, and neither need coverages.
-/

namespace SchemaContract

open Text

/-- What an assertion shows in its failures breaks no line. -/
def Assertion.Plain : Assertion → Prop
  | .pattern p => Unbroken p.text.toList
  | .required names => ∀ name ∈ names, Unbroken name.toList
  | _ => True

/-- Rules whose failures show only what breaks no line. -/
inductive Rule.Plain : Rule → Prop where
  | accept : Plain .accept
  | reject : Plain .reject
  | within {steps : List Step} {r : Rule} (h : Plain r) : Plain (.within steps r)
  | all {rs : List Rule} (h : ∀ r ∈ rs, Plain r) : Plain (.all rs)
  | assertion {keyword : String} {a : Assertion} (h : a.Plain) : Plain (.assertion keyword a)
  | properties {ds : List (String × Rule)} (h : ∀ d ∈ ds, Plain d.2) : Plain (.properties ds)
  | patternProperties {ps : List (Pattern × Rule)} (h : ∀ q ∈ ps, Plain q.2) :
      Plain (.patternProperties ps)
  | open {ds : List (String × Rule)} {ps : List (Pattern × Rule)} {rest : Rule}
      (hDeclared : ∀ d ∈ ds, Plain d.2) (hPatterns : ∀ q ∈ ps, Plain q.2) (hRest : Plain rest) :
      Plain (.open ds ps rest)
  | closed {ds : List (String × Rule)} {ps : List (Pattern × Rule)}
      (hDeclared : ∀ d ∈ ds, Plain d.2) (hPatterns : ∀ q ∈ ps, Plain q.2) : Plain (.closed ds ps)
  | propertyNames {r : Rule} : Plain (.propertyNames r)
  | dependent {ds : List (String × Rule)} (h : ∀ d ∈ ds, Plain d.2) : Plain (.dependent ds)
  | positions {rs : List Rule} (h : ∀ r ∈ rs, Plain r) : Plain (.positions rs)
  | itemsFrom {start : Nat} {r : Rule} (h : Plain r) : Plain (.itemsFrom start r)
  | contains {r : Rule} {low : Nat} {high : Option Nat} : Plain (.contains r low high)
  | allOf {rs : List Rule} (h : ∀ r ∈ rs, Plain r) : Plain (.allOf rs)
  | anyOf {rs : List Rule} (h : ∀ r ∈ rs, Plain r) : Plain (.anyOf rs)
  | oneOf {rs : List Rule} (h : ∀ r ∈ rs, Plain r) : Plain (.oneOf rs)
  | not {r : Rule} : Plain (.not r)
  | conditional {c t e : Rule} (hYes : Plain t) (hNo : Plain e) : Plain (.conditional c t e)
  | reference {keyword : String} {target : Nat} : Plain (.reference keyword target)
  | unevaluatedProperties {c : Coverage} : Plain (.unevaluatedProperties c)
  | unevaluatedItems {c : Coverage} : Plain (.unevaluatedItems c)

/-! ## Places -/

/-- The names on the way to the value break no line. -/
def Place.Plain (p : Place) : Prop := ∀ s ∈ p.value, s.Unbroken

def Failure.AllPlain (fs : List Failure) : Prop := ∀ f ∈ fs, f.Plain

namespace Failure.AllPlain

theorem nil : AllPlain [] := fun _ h => absurd h List.not_mem_nil

theorem append {as bs : List Failure} (ha : AllPlain as) (hb : AllPlain bs) :
    AllPlain (as ++ bs) :=
  List.forall_mem_append.mpr ⟨ha, hb⟩

theorem flatten {branches : List (List Failure)} (h : ∀ branch ∈ branches, AllPlain branch) :
    AllPlain branches.flatten := by
  intro f hf
  obtain ⟨branch, hBranch, hf⟩ := List.mem_flatten.mp hf
  exact h branch hBranch f hf

theorem flatMap {α : Type} {as : List α} {found : α → List Failure}
    (h : ∀ a ∈ as, AllPlain (found a)) : AllPlain (as.flatMap found) := by
  intro f hf
  obtain ⟨a, ha, hf⟩ := List.mem_flatMap.mp hf
  exact h a ha f hf

end Failure.AllPlain

open Failure (AllPlain)

namespace Place.Plain

variable {p : Place}

theorem root : Place.root.Plain := fun _ h => absurd h List.not_mem_nil

theorem member (h : p.Plain) {name : String} (hName : Unbroken name.toList) :
    (p.member name).Plain :=
  List.forall_mem_cons.mpr ⟨hName, h⟩

theorem index (h : p.Plain) (i : Nat) : (p.index i).Plain :=
  List.forall_mem_cons.mpr ⟨Step.unbroken_index i, h⟩

theorem within (h : p.Plain) (steps : List Step) : (p.within steps).Plain := h

theorem site (h : p.Plain) : ∀ s ∈ p.site.value, s.Unbroken :=
  fun s hs => h s (List.mem_reverse.mp hs)

theorem fails (h : p.Plain) {reason : Reason} (hReason : reason.Plain) :
    AllPlain (p.fails reason) :=
  List.forall_mem_singleton.mpr (.plain h.site hReason)

theorem demand (h : p.Plain) (holds : Bool) {reason : Reason} (hReason : reason.Plain) :
    AllPlain (p.demand holds reason) := by
  unfold Place.demand
  split_ifs
  · exact .nil
  · exact h.fails hReason

end Place.Plain

/-! ## Assertions -/

namespace Assertion

variable {p : Place}

theorem base64Failures_plain (hp : p.Plain) (s : String) : AllPlain (base64Failures p s) := by
  unfold base64Failures
  split
  next => exact hp.fails (by decide : Unbroken "base64".toList)
  next =>
    split
    next => exact hp.fails trivial
    next => exact hp.demand _ (unbroken_literal rfl : Unbroken "application/json".toList)

theorem patternFailures_plain (hp : p.Plain) {pattern : Pattern}
    (h : Unbroken pattern.text.toList) (s : String) : AllPlain (patternFailures p pattern s) := by
  unfold patternFailures
  split
  · exact .nil
  · exact hp.fails h
  · exact hp.fails trivial

theorem Plain.failures {a : Assertion} (h : a.Plain) (hp : p.Plain) (v : Json) :
    AllPlain (a.failures p v) := by
  unfold Assertion.failures
  split
  case h_7 pattern s => exact patternFailures_plain hp h s
  case h_8 f s => exact hp.demand _ f.unbroken_name
  case h_9 => exact hp.demand _ (by decide : Unbroken "base64".toList)
  case h_10 => exact hp.demand _ (unbroken_literal rfl : Unbroken "application/json".toList)
  case h_11 s => exact base64Failures_plain hp s
  case h_23 names ms => exact .flatMap fun name hName => hp.demand _ (h name hName)
  case h_25 => exact .nil
  all_goals exact hp.demand _ trivial

end Assertion

/-! ## Rules -/

/-- What the targets of references find in plain places of values with plain names is plain. -/
def Follow.Plain (follow : Follow) : Prop :=
  ∀ target p v, p.Plain → v.hasPlainNames = true → AllPlain (follow.failures target p v)

namespace Rule

theorem plainNames_of_mem_membersOf {v : Json} (hv : v.hasPlainNames = true) {m : String × Json}
    (hm : m ∈ membersOf v) : Unbroken m.1.toList ∧ m.2.hasPlainNames = true := by
  cases v with
  | object ms => exact Json.hasPlainNames_object_iff.mp hv m hm
  | _ => exact absurd hm List.not_mem_nil

theorem plainNames_of_mem_itemsOf {v x : Json} (hv : v.hasPlainNames = true)
    (hx : x ∈ itemsOf v) : x.hasPlainNames = true := by
  cases v with
  | array vs => exact Json.hasPlainNames_array_iff.mp hv x hx
  | _ => exact absurd hx List.not_mem_nil

/-- All that the rule finds is plain, in plain places of values with plain names. -/
def FindsPlain (follow : Follow) (r : Rule) : Prop :=
  ∀ p v, p.Plain → v.hasPlainNames = true → AllPlain (failures follow r p v)

section Lists

variable {follow : Follow} {p : Place} {v : Json} (hp : p.Plain) (hv : v.hasPlainNames = true)

include hp hv

theorem allFailures_plain {rs : List Rule} (h : ∀ r ∈ rs, FindsPlain follow r) :
    AllPlain (allFailures follow rs p v) := by
  induction rs with
  | nil => exact .nil
  | cons r rs ih =>
    obtain ⟨hr, hrs⟩ := List.forall_mem_cons.mp h
    exact (hr p v hp hv).append (ih hrs)

theorem branchFailures_plain {rs : List Rule} (h : ∀ r ∈ rs, FindsPlain follow r) :
    ∀ branch ∈ branchFailures follow rs p v, AllPlain branch := by
  induction rs with
  | nil => exact fun _ hb => absurd hb List.not_mem_nil
  | cons r rs ih =>
    obtain ⟨hr, hrs⟩ := List.forall_mem_cons.mp h
    exact List.forall_mem_cons.mpr ⟨hr p v hp hv, ih hrs⟩

theorem declaredFailures_plain {ds : List (String × Rule)} (h : ∀ d ∈ ds, FindsPlain follow d.2)
    (name : String) : ∀ found ∈ declaredFailures follow ds p name v, AllPlain found := by
  induction ds with
  | nil => exact fun _ hb => absurd hb List.not_mem_nil
  | cons d ds ih =>
    obtain ⟨hd, hds⟩ := List.forall_mem_cons.mp h
    rw [declaredFailures]
    split_ifs
    · exact List.forall_mem_singleton.mpr (hd p v hp hv)
    · exact ih hds

theorem matchingFailures_plain {ps : List (Pattern × Rule)} (h : ∀ q ∈ ps, FindsPlain follow q.2)
    (name : String) : ∀ found ∈ matchingFailures follow ps p name v, AllPlain found := by
  induction ps with
  | nil => exact fun _ hb => absurd hb List.not_mem_nil
  | cons q ps ih =>
    obtain ⟨hq, hps⟩ := List.forall_mem_cons.mp h
    rw [matchingFailures]
    split_ifs
    · exact List.forall_mem_cons.mpr ⟨hq p v hp hv, ih hps⟩
    · exact ih hps

theorem dependentFailures_plain {ds : List (String × Rule)} (h : ∀ d ∈ ds, FindsPlain follow d.2) :
    AllPlain (dependentFailures follow ds p v) := by
  induction ds with
  | nil => exact .nil
  | cons d ds ih =>
    obtain ⟨hd, hds⟩ := List.forall_mem_cons.mp h
    rw [dependentFailures]
    refine Failure.AllPlain.append ?_ (ih hds)
    split_ifs
    · exact hd p v hp hv
    · exact .nil

end Lists

section Members

variable {follow : Follow} {p : Place} {ms : List (String × Json)} (hp : p.Plain)
  (hms : ∀ m ∈ ms, Unbroken m.1.toList ∧ m.2.hasPlainNames = true)

include hp hms

theorem propertyFailures_plain {ds : List (String × Rule)} (h : ∀ d ∈ ds, FindsPlain follow d.2) :
    AllPlain (propertyFailures follow ds p ms) := by
  induction ds with
  | nil => exact .nil
  | cons d ds ih =>
    obtain ⟨hd, hds⟩ := List.forall_mem_cons.mp h
    rw [propertyFailures]
    refine Failure.AllPlain.append ?_ (ih hds)
    split
    next x hx =>
      obtain ⟨hName, hx⟩ := hms _ (Json.mem_of_lookup hx)
      exact hd _ x (hp.member hName) hx
    next => exact .nil

theorem patternFailures_plain {ps : List (Pattern × Rule)} (h : ∀ q ∈ ps, FindsPlain follow q.2) :
    AllPlain (patternFailures follow ps p ms) := by
  induction ps with
  | nil => exact .nil
  | cons q ps ih =>
    obtain ⟨hq, hps⟩ := List.forall_mem_cons.mp h
    rw [patternFailures]
    refine Failure.AllPlain.append (.flatMap fun m hm => ?_) (ih hps)
    obtain ⟨hName, hx⟩ := hms m hm
    dsimp only
    split_ifs
    · exact hq _ _ (hp.member hName) hx
    · exact .nil

end Members

theorem positionFailures_plain {follow : Follow} {rs : List Rule}
    (h : ∀ r ∈ rs, FindsPlain follow r) {p : Place} (hp : p.Plain) (i : Nat) {xs : List Json}
    (hxs : ∀ x ∈ xs, x.hasPlainNames = true) : AllPlain (positionFailures follow rs p i xs) := by
  induction rs generalizing i xs with
  | nil => exact .nil
  | cons r rs ih =>
    obtain ⟨hr, hrs⟩ := List.forall_mem_cons.mp h
    cases xs with
    | nil => exact .nil
    | cons x xs =>
      obtain ⟨hx, hxs⟩ := List.forall_mem_cons.mp hxs
      exact (hr _ x (hp.index i) hx).append (ih hrs (i + 1) hxs)

theorem Plain.findsPlain {follow : Follow} (hFollow : follow.Plain) {r : Rule} (h : r.Plain) :
    FindsPlain follow r := by
  induction h with
  | accept => exact fun p v _ _ => .nil
  | reject => exact fun p v hp _ => hp.fails trivial
  | within h ih => exact fun p v hp hv => ih _ v (hp.within _) hv
  | all h ih => exact fun p v hp hv => allFailures_plain hp hv ih
  | assertion h => exact fun p v hp _ => h.failures (hp.within _) v
  | properties h ih =>
    exact fun p v hp hv =>
      propertyFailures_plain hp (fun m => plainNames_of_mem_membersOf hv) ih
  | patternProperties h ih =>
    exact fun p v hp hv => patternFailures_plain hp (fun m => plainNames_of_mem_membersOf hv) ih
  | «open» hDeclared hPatterns hRest ihDeclared ihPatterns ihRest =>
    intro p v hp hv
    refine Failure.AllPlain.flatMap fun m hm => ?_
    obtain ⟨hName, hx⟩ := plainNames_of_mem_membersOf hv hm
    have hPlace := hp.member hName
    dsimp only
    split_ifs
    · exact ihRest _ _ hPlace hx
    · exact .flatten (List.forall_mem_append.mpr
        ⟨declaredFailures_plain hPlace hx ihDeclared _,
          matchingFailures_plain hPlace hx ihPatterns _⟩)
  | closed hDeclared hPatterns ihDeclared ihPatterns =>
    intro p v hp hv
    refine Failure.AllPlain.append (.flatten ?_) ((hp.within _).demand _ trivial)
    intro found hFound
    obtain ⟨results, hResults, hFound⟩ := List.mem_flatten.mp hFound
    obtain ⟨m, hm, rfl⟩ := List.mem_map.mp hResults
    obtain ⟨hName, hx⟩ := plainNames_of_mem_membersOf hv hm
    have hPlace := hp.member hName
    rcases List.mem_append.mp hFound with hFound | hFound
    · exact declaredFailures_plain hPlace hx ihDeclared _ found hFound
    · exact matchingFailures_plain hPlace hx ihPatterns _ found hFound
  | propertyNames =>
    intro p v hp hv
    exact .flatMap fun m _ => .flatMap fun _ _ => (hp.within _).fails trivial
  | dependent h ih => exact fun p v hp hv => dependentFailures_plain hp hv ih
  | positions h ih =>
    exact fun p v hp hv => positionFailures_plain ih hp 0 fun x => plainNames_of_mem_itemsOf hv
  | itemsFrom h ih =>
    intro p v hp hv
    refine Failure.AllPlain.flatMap fun e he => ?_
    have hx := plainNames_of_mem_itemsOf hv (List.fst_mem_of_mem_zipIdx he)
    dsimp only
    split_ifs
    · exact ih _ _ (hp.index _) hx
    · exact .nil
  | contains =>
    intro p v hp hv
    cases v with
    | array vs => exact (hp.within _).demand _ trivial
    | _ => exact .nil
  | allOf h ih => exact fun p v hp hv => allFailures_plain hp hv ih
  | anyOf h ih =>
    intro p v hp hv
    rw [failures, anyOfFailures]
    split_ifs
    · exact .nil
    · exact List.forall_mem_singleton.mpr
        (.choice (hp.within _).site (branchFailures_plain hp hv ih))
  | oneOf h ih =>
    intro p v hp hv
    rw [failures, oneOfFailures]
    split
    · exact List.forall_mem_singleton.mpr
        (.choice (hp.within _).site (branchFailures_plain hp hv ih))
    · exact .nil
    · exact (hp.within _).fails trivial
  | not => exact fun p v hp _ => (hp.within _).demand _ trivial
  | conditional hYes hNo ihYes ihNo =>
    intro p v hp hv
    rw [failures]
    split_ifs
    · exact ihYes p v hp hv
    · exact ihNo p v hp hv
  | reference => exact fun p v hp hv => hFollow _ _ v (hp.within _) hv
  | unevaluatedProperties => exact fun p v hp _ => (hp.within _).demand _ trivial
  | unevaluatedItems => exact fun p v hp _ => (hp.within _).demand _ trivial

end Rule

/-! ## Programs -/

/-- The rules of a program that find failures are plain. -/
structure Program.Plain (program : Program) : Prop where
  root : program.root.Plain
  targets : ∀ r ∈ program.targets, r.Plain

namespace Program.Plain

variable {program : Program}

theorem follow (h : program.Plain) (steps : Nat) : (program.follow steps).Plain := by
  induction steps with
  | zero => exact fun target p v _ _ => .nil
  | succ steps ih =>
    intro target p v hp hv
    have hRule : (program.targets[target]?.getD .accept).Plain := by
      cases hTarget : program.targets[target]? with
      | none => exact .accept
      | some r => exact h.targets r (List.mem_of_getElem? hTarget)
    exact hRule.findsPlain ih p v hp hv

theorem failures (h : program.Plain) {v : Json} (hv : v.hasPlainNames = true) :
    AllPlain (program.failures v) :=
  h.root.findsPlain (h.follow _) .root v .root hv

end Program.Plain

end SchemaContract
