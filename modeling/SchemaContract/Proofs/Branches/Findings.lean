import SchemaContract.Proofs.Narrowing.Rules
import SchemaContract.Proofs.ToldFailures

/-!
# Where failures come from

Every failure that a program finds is a failure of one of its rules itself: of the rule it began
with, of one inside it, or of one behind a reference. Where it lies in the value tells whether that
rule was applied to the value as a whole or to a part of it.
-/

namespace SchemaContract

open Failure (AboutShape)
open Relation (ReflTransGen)

/-! ## Rules inside rules -/

namespace Rule

/-- The rules that are applied to the very values that the rule is applied to, and whose failures it
has. -/
def inPlace : Rule → List Rule
  | .within _ r => [r]
  | .all rs | .allOf rs => rs
  | .dependent ds => ds.map (·.2)
  | .conditional _ t e => [t, e]
  | _ => []

/-- The rules that are applied to members or items, and whose failures the rule has. -/
def onParts : Rule → List Rule
  | .properties ds => ds.map (·.2)
  | .patternProperties ps => ps.map (·.2)
  | .open ds ps rest => rest :: (ds.map (·.2) ++ ps.map (·.2))
  | .closed ds ps => ds.map (·.2) ++ ps.map (·.2)
  | .positions rs => rs
  | .itemsFrom _ r => [r]
  | _ => []

/-- The branches of a choice. -/
def branches : Rule → List Rule
  | .anyOf rs | .oneOf rs => rs
  | _ => []

theorem sizeOf_lt_of_mem_values {κ : Type} [SizeOf κ] {ds : List (κ × Rule)} {r : Rule}
    (h : r ∈ ds.map (·.2)) : sizeOf r < sizeOf ds := by
  obtain ⟨d, hd, rfl⟩ := List.mem_map.mp h
  have hEntry := List.sizeOf_lt_of_mem hd
  obtain ⟨k, r⟩ := d
  simp only [Prod.mk.sizeOf_spec] at hEntry
  dsimp only
  omega

theorem sizeOf_lt_of_mem_inPlace {r r' : Rule} (h : r' ∈ r.inPlace) : sizeOf r' < sizeOf r := by
  cases r with
  | within steps r =>
    rw [List.mem_singleton.mp h, within.sizeOf_spec]
    omega
  | all rs =>
    have hLess := List.sizeOf_lt_of_mem (show r' ∈ rs from h)
    rw [all.sizeOf_spec]
    omega
  | allOf rs =>
    have hLess := List.sizeOf_lt_of_mem (show r' ∈ rs from h)
    rw [allOf.sizeOf_spec]
    omega
  | dependent ds =>
    have hLess := sizeOf_lt_of_mem_values h
    rw [dependent.sizeOf_spec]
    omega
  | conditional c t e =>
    rw [conditional.sizeOf_spec]
    rcases List.mem_pair.mp h with rfl | rfl <;> omega
  | _ => cases h

theorem sizeOf_lt_of_mem_onParts {r r' : Rule} (h : r' ∈ r.onParts) : sizeOf r' < sizeOf r := by
  cases r with
  | properties ds =>
    have hLess := sizeOf_lt_of_mem_values h
    rw [properties.sizeOf_spec]
    omega
  | patternProperties ps =>
    have hLess := sizeOf_lt_of_mem_values h
    rw [patternProperties.sizeOf_spec]
    omega
  | «open» ds ps rest =>
    rw [open.sizeOf_spec]
    rcases List.mem_cons.mp h with rfl | h
    · omega
    · rcases List.mem_append.mp h with h | h
      · have hLess := sizeOf_lt_of_mem_values h
        omega
      · have hLess := sizeOf_lt_of_mem_values h
        omega
  | closed ds ps =>
    rw [closed.sizeOf_spec]
    rcases List.mem_append.mp h with h | h
    · have hLess := sizeOf_lt_of_mem_values h
      omega
    · have hLess := sizeOf_lt_of_mem_values h
      omega
  | positions rs =>
    have hLess := List.sizeOf_lt_of_mem (show r' ∈ rs from h)
    rw [positions.sizeOf_spec]
    omega
  | itemsFrom start r =>
    rw [List.mem_singleton.mp h, itemsFrom.sizeOf_spec]
    omega
  | _ => cases h

end Rule

/-! ## Failures of assertions -/

/-- The assertions that say what a value has to be as a whole. -/
def Assertion.testsShape : Assertion → Bool
  | .type _ _ | .types _ | .enum _ | .const _ | .noProperties => true
  | _ => false

/-- The rules that say this and nothing else. -/
def Rule.testsShape : Rule → Bool
  | .reject => true
  | .assertion _ a => a.testsShape
  | _ => false

theorem Place.mem_demand {p : Place} {holds : Bool} {reason : Reason} {f : Failure}
    (h : f ∈ p.demand holds reason) : f = .plain p.site reason := by
  unfold demand at h
  split at h
  · cases h
  · exact List.mem_singleton.mp h

/-- What an assertion finds lies at its place, and is about the shape of the value if the assertion
tests it, and only then. -/
theorem Assertion.mem_failures {a : Assertion} {p : Place} {v : Json} {f : Failure}
    (h : f ∈ a.failures p v) :
    ∃ reason, f = .plain p.site reason ∧ reason.isMismatch = a.testsShape := by
  unfold failures at h
  split at h
  case h_7 pattern s =>
    unfold patternFailures at h
    split at h
    · cases h
    · exact ⟨_, List.mem_singleton.mp h, rfl⟩
    · exact ⟨_, List.mem_singleton.mp h, rfl⟩
  case h_11 s =>
    unfold base64Failures at h
    split at h
    · exact ⟨_, List.mem_singleton.mp h, rfl⟩
    · split at h
      · exact ⟨_, List.mem_singleton.mp h, rfl⟩
      · exact ⟨_, Place.mem_demand h, rfl⟩
  case h_23 names ms =>
    obtain ⟨name, -, hName⟩ := List.mem_flatMap.mp h
    exact ⟨_, Place.mem_demand hName, rfl⟩
  case h_25 => cases h
  all_goals exact ⟨_, Place.mem_demand h, rfl⟩

/-! ## Failures of rules -/

namespace Rule

section Lists

variable {follow : Follow} {p : Place} {f : Failure}

theorem mem_allFailures_iff {rs : List Rule} {v : Json} :
    f ∈ allFailures follow rs p v ↔ ∃ r ∈ rs, f ∈ failures follow r p v := by
  induction rs with
  | nil => simp [allFailures]
  | cons r rs ih => simp [allFailures, ih]

theorem mem_propertyFailures_iff {ds : List (String × Rule)} {ms : List (String × Json)} :
    f ∈ propertyFailures follow ds p ms ↔ ∃ d ∈ ds, ∃ x, Json.lookup d.1 ms = some x ∧
      f ∈ failures follow d.2 (p.member d.1) x := by
  induction ds with
  | nil => simp [propertyFailures]
  | cons d ds ih =>
    obtain ⟨k, r⟩ := d
    simp only [propertyFailures, List.mem_append, ih, List.exists_mem_cons_iff]
    cases Json.lookup k ms <;> simp

theorem mem_patternFailures_iff {ps : List (Pattern × Rule)} {ms : List (String × Json)} :
    f ∈ patternFailures follow ps p ms ↔ ∃ q ∈ ps, ∃ m ∈ ms, q.1.matchesIn m.1 = true ∧
      f ∈ failures follow q.2 (p.member m.1) m.2 := by
  induction ps with
  | nil => simp [patternFailures]
  | cons q ps ih =>
    obtain ⟨pattern, r⟩ := q
    simp [patternFailures, ih]

theorem mem_dependentFailures {ds : List (String × Rule)} {v : Json}
    (h : f ∈ dependentFailures follow ds p v) : ∃ d ∈ ds, f ∈ failures follow d.2 p v := by
  induction ds with
  | nil => cases h
  | cons d ds ih =>
    obtain ⟨k, r⟩ := d
    rw [dependentFailures, List.mem_append] at h
    rcases h with h | h
    · split at h
      · exact ⟨_, List.mem_cons_self, h⟩
      · cases h
    · obtain ⟨d, hd, hf⟩ := ih h
      exact ⟨d, List.mem_cons_of_mem _ hd, hf⟩

theorem mem_positionFailures {rs : List Rule} {xs : List Json} {i : Nat}
    (h : f ∈ positionFailures follow rs p i xs) :
    ∃ r ∈ rs, ∃ j x, f ∈ failures follow r (p.index j) x := by
  induction rs generalizing i xs with
  | nil => cases h
  | cons r rs ih =>
    cases xs with
    | nil => cases h
    | cons x xs =>
      rw [positionFailures, List.mem_append] at h
      rcases h with h | h
      · exact ⟨r, List.mem_cons_self, i, x, h⟩
      · obtain ⟨r', hr', hFound⟩ := ih h
        exact ⟨r', List.mem_cons_of_mem _ hr', hFound⟩

theorem mem_memberFailures {ds : List (String × Rule)} {ps : List (Pattern × Rule)} {name : String}
    {x : Json} {found : List Failure}
    (hFound : found ∈ declaredFailures follow ds p name x ++ matchingFailures follow ps p name x)
    (hf : f ∈ found) : ∃ r ∈ ds.map (·.2) ++ ps.map (·.2), f ∈ failures follow r p x := by
  rw [declaredFailures_eq, matchingFailures_eq] at hFound
  rcases List.mem_append.mp hFound with hDeclared | hMatching
  · rw [Option.mem_toList, Option.map_eq_some_iff] at hDeclared
    obtain ⟨d, hd, rfl⟩ := hDeclared
    have hMem := List.mem_map_of_mem (f := Prod.snd) (List.mem_of_find?_eq_some hd)
    exact ⟨d.2, List.mem_append_left _ hMem, hf⟩
  · obtain ⟨q, hq, rfl⟩ := List.mem_map.mp hMatching
    have hMem := List.mem_map_of_mem (f := Prod.snd) (List.mem_filter.mp hq).1
    exact ⟨q.2, List.mem_append_right _ hMem, hf⟩

end Lists

/-- The failures of a rule itself. All but choices are plain, and those of a choice hold what the
branches find in the same value. -/
inductive Fails (follow : Follow) : Rule → Place → Json → Failure → Prop where
  | reject {p : Place} {v : Json} : Fails follow .reject p v (.plain p.site .falseSchema)
  | assertion {keyword : String} {a : Assertion} {p : Place} {v : Json} {f : Failure}
      (h : f ∈ a.failures (p.within [.member keyword]) v) :
      Fails follow (.assertion keyword a) p v f
  | keyword (r : Rule) {p : Place} (v : Json) (keyword : String) {reason : Reason}
      (h : reason.isMismatch = false) :
      Fails follow r p v (.plain (p.within [.member keyword]).site reason)
  | choice (r : Rule) {p : Place} (v : Json) (keyword : String) (kind : Choice) :
      Fails follow r p v (.choice (p.within [.member keyword]).site kind
        (r.branches.map fun b => failures follow b p v))

variable {follow : Follow} {r : Rule} {p : Place} {v : Json} {f : Failure}

theorem Fails.demand (r : Rule) (v : Json) {keyword : String} {holds : Bool} {reason : Reason}
    (h : f ∈ (p.within [.member keyword]).demand holds reason)
    (hReason : reason.isMismatch = false) : r.Fails follow p v f := by
  rw [Place.mem_demand h]
  exact .keyword r v keyword hReason

/-- A failure that a rule has is its own, or that of a rule inside: of one that is applied to the
same value, of the target of a reference, or of one that is applied to a part of the value. -/
inductive Traced (follow : Follow) (r : Rule) (p : Place) (v : Json) (f : Failure) : Prop where
  | own (h : r.Fails follow p v f)
  | inPlace {r' : Rule} {p' : Place} (hr : r' ∈ r.inPlace) (hPlace : p'.value = p.value)
      (h : f ∈ failures follow r' p' v)
  | target {keyword : String} {target : Nat} (hr : r = .reference keyword target)
      (h : f ∈ follow.failures target (p.within [.member keyword]) v)
  | onPart {r' : Rule} {p' : Place} {x : Json} {step : Step} (hr : r' ∈ r.onParts)
      (hPlace : p'.value = step :: p.value) (h : f ∈ failures follow r' p' x)

theorem traced_of_mem_failures (h : f ∈ failures follow r p v) : r.Traced follow p v f := by
  cases r with
  | accept => cases h
  | reject =>
    rw [List.mem_singleton.mp h]
    exact .own .reject
  | within steps r =>
    have hPlace : (p.within steps).value = p.value := rfl
    exact .inPlace List.mem_cons_self hPlace h
  | all rs =>
    obtain ⟨r, hr, hf⟩ := mem_allFailures_iff.mp h
    exact .inPlace hr rfl hf
  | assertion keyword a => exact .own (.assertion h)
  | properties ds =>
    obtain ⟨d, hd, x, -, hf⟩ := mem_propertyFailures_iff.mp h
    exact .onPart (List.mem_map_of_mem hd) rfl hf
  | patternProperties ps =>
    obtain ⟨q, hq, m, -, -, hf⟩ := mem_patternFailures_iff.mp h
    exact .onPart (List.mem_map_of_mem hq) rfl hf
  | «open» ds ps rest =>
    obtain ⟨m, -, hm⟩ := List.mem_flatMap.mp h
    dsimp only at hm
    split at hm
    · exact .onPart List.mem_cons_self rfl hm
    · obtain ⟨found, hFound, hf⟩ := List.mem_flatten.mp hm
      obtain ⟨r, hr, hf⟩ := mem_memberFailures hFound hf
      exact .onPart (List.mem_cons_of_mem rest hr) rfl hf
  | closed ds ps =>
    rcases List.mem_append.mp h with hm | hOwn
    · obtain ⟨found, hFound, hf⟩ := List.mem_flatten.mp hm
      obtain ⟨results, hResults, hFound⟩ := List.mem_flatten.mp hFound
      obtain ⟨m, -, rfl⟩ := List.mem_map.mp hResults
      obtain ⟨r, hr, hf⟩ := mem_memberFailures hFound hf
      exact .onPart hr rfl hf
    · exact .own (.demand _ v hOwn rfl)
  | propertyNames r =>
    obtain ⟨m, -, hm⟩ := List.mem_flatMap.mp h
    obtain ⟨e, -, hf⟩ := List.mem_flatMap.mp hm
    rw [List.mem_singleton.mp hf]
    exact .own (.keyword _ v "propertyNames" rfl)
  | dependent ds =>
    obtain ⟨d, hd, hf⟩ := mem_dependentFailures h
    exact .inPlace (List.mem_map_of_mem hd) rfl hf
  | positions rs =>
    obtain ⟨r, hr, i, x, hf⟩ := mem_positionFailures h
    exact .onPart hr rfl hf
  | itemsFrom start r =>
    obtain ⟨e, -, he⟩ := List.mem_flatMap.mp h
    dsimp only at he
    split at he
    · exact .onPart List.mem_cons_self rfl he
    · cases he
  | contains r low high =>
    cases v with
    | array vs => exact .own (.demand _ _ h rfl)
    | _ => cases h
  | allOf rs =>
    obtain ⟨r, hr, hf⟩ := mem_allFailures_iff.mp h
    exact .inPlace hr rfl hf
  | anyOf rs =>
    rw [failures, anyOfFailures, branchFailures_eq_map] at h
    split at h
    · cases h
    · rw [List.mem_singleton.mp h]
      exact .own (.choice (.anyOf rs) v "anyOf" .anyOf)
  | oneOf rs =>
    rw [failures, oneOfFailures, branchFailures_eq_map] at h
    split at h
    · rw [List.mem_singleton.mp h]
      exact .own (.choice (.oneOf rs) v "oneOf" .oneOf)
    · cases h
    · rw [List.mem_singleton.mp h]
      exact .own (.keyword _ v "oneOf" rfl)
  | not r => exact .own (.demand _ v h rfl)
  | conditional c t e =>
    rw [failures] at h
    split at h
    · exact .inPlace List.mem_cons_self rfl h
    · exact .inPlace (List.mem_cons_of_mem t List.mem_cons_self) rfl h
  | reference keyword target => exact .target rfl h
  | unevaluatedProperties c => exact .own (.demand _ v h rfl)
  | unevaluatedItems c => exact .own (.demand _ v h rfl)

namespace Fails

theorem site_value (h : r.Fails follow p v f) : f.site.value = p.value.reverse := by
  cases h with
  | reject => rfl
  | assertion h =>
    obtain ⟨reason, rfl, -⟩ := Assertion.mem_failures h
    rfl
  | keyword => rfl
  | choice => rfl

theorem testsShape_of_aboutShape (h : r.Fails follow p v f) (hf : AboutShape f) :
    r.testsShape = true := by
  rw [← Failure.isMismatch_iff] at hf
  cases h with
  | reject => rfl
  | assertion h =>
    obtain ⟨reason, rfl, hReason⟩ := Assertion.mem_failures h
    exact hReason.symm.trans hf
  | keyword r v keyword hReason => exact absurd (hReason.symm.trans hf) Bool.false_ne_true
  | choice => cases hf

end Fails

theorem aboutShape_of_testsShape (hr : r.testsShape = true) (h : f ∈ failures follow r p v) :
    AboutShape f := by
  cases r with
  | reject =>
    rw [List.mem_singleton.mp h]
    exact .falseSchema p.site
  | assertion keyword a =>
    obtain ⟨reason, rfl, hReason⟩ := Assertion.mem_failures h
    exact Failure.isMismatch_iff.mp (hReason.trans hr)
  | _ => cases hr

end Rule

/-! ## Failures of programs -/

namespace Program

variable (program : Program)

def target (number : Nat) : Rule := program.targets[number]?.getD .accept

/-- The rules that a rule applies to the very value it is applied to, whether they stand inside it
or behind a reference. -/
def inPlace : Rule → List Rule
  | .reference _ number => [program.target number]
  | r => r.inPlace

def inside (r : Rule) : List Rule := program.inPlace r ++ r.onParts ++ r.branches

/-- What a rule finds in a value, with so many references that may be followed. -/
inductive Finds : Nat → Rule → Place → Json → Failure → Prop where
  | own {steps : Nat} {r : Rule} {p : Place} {v : Json} {f : Failure}
      (h : r.Fails (program.follow steps) p v f) : Finds steps r p v f
  | inPlace {steps steps' : Nat} {r r' : Rule} {p p' : Place} {v : Json} {f : Failure}
      (hr : r' ∈ program.inPlace r) (hPlace : p'.value = p.value) (h : Finds steps' r' p' v f) :
      Finds steps r p v f
  | onPart {steps : Nat} {r r' : Rule} {p p' : Place} {v x : Json} {step : Step} {f : Failure}
      (hr : r' ∈ r.onParts) (hPlace : p'.value = step :: p.value) (h : Finds steps r' p' x f) :
      Finds steps r p v f

variable {program} {steps : Nat} {r : Rule} {p : Place} {v : Json} {f : Failure}

theorem mem_inPlace_of_mem {r' : Rule} (h : r' ∈ r.inPlace) : r' ∈ program.inPlace r := by
  cases r with
  | reference => cases h
  | _ => exact h

theorem mem_inside_of_inPlace {r' : Rule} (h : r' ∈ program.inPlace r) : r' ∈ program.inside r :=
  List.mem_append_left _ (List.mem_append_left _ h)

theorem mem_inside_of_onParts {r' : Rule} (h : r' ∈ r.onParts) : r' ∈ program.inside r :=
  List.mem_append_left _ (List.mem_append_right _ h)

theorem mem_inside_of_branches {r' : Rule} (h : r' ∈ r.branches) : r' ∈ program.inside r :=
  List.mem_append_right _ h

/-- What a rule finds, told for the targets of references first. -/
theorem finds_of_targets {steps : Nat}
    (hTargets : ∀ number p v f, f ∈ (program.follow steps).failures number p v →
      ∃ fewer, program.Finds fewer (program.target number) p v f)
    {r : Rule} {p : Place} {v : Json} {f : Failure}
    (h : f ∈ r.failures (program.follow steps) p v) :
    program.Finds steps r p v f := by
  -- The targets of references do not stand inside the rule, so they are assumed to be settled here:
  -- the recursion is on the rule, and the induction on the steps comes after it.
  cases Rule.traced_of_mem_failures h with
  | own hOwn => exact .own hOwn
  | inPlace hr hPlace hInner =>
    exact .inPlace (mem_inPlace_of_mem hr) hPlace (finds_of_targets hTargets hInner)
  | @target keyword number hr hTarget =>
    obtain ⟨fewer, hFinds⟩ := hTargets number _ v f hTarget
    have hPlace : (p.within [.member keyword]).value = p.value := rfl
    exact hr ▸ .inPlace List.mem_cons_self hPlace hFinds
  | onPart hr hPlace hInner => exact .onPart hr hPlace (finds_of_targets hTargets hInner)
termination_by sizeOf r
decreasing_by
  · exact Rule.sizeOf_lt_of_mem_inPlace hr
  · exact Rule.sizeOf_lt_of_mem_onParts hr

theorem finds_of_mem_failures (h : f ∈ r.failures (program.follow steps) p v) :
    program.Finds steps r p v f := by
  induction steps generalizing r p v f with
  | zero => exact finds_of_targets (fun _ _ _ _ hf => absurd hf List.not_mem_nil) h
  | succ steps ih =>
    refine finds_of_targets (fun number q w e he => ⟨steps, ?_⟩) h
    exact ih (r := program.target number) he

namespace Finds

theorem suffix (h : program.Finds steps r p v f) : p.value <:+ f.site.value.reverse := by
  induction h with
  | own h =>
    have hValue := List.reverse_eq_iff.mpr h.site_value
    exact hValue ▸ List.suffix_rfl
  | inPlace _ hPlace _ ih => exact hPlace ▸ ih
  | onPart _ hPlace _ ih =>
    rw [hPlace] at ih
    exact (List.suffix_cons _ _).trans ih

theorem exists_inPlace (h : program.Finds steps r p v f)
    (hSite : f.site.value = p.value.reverse) : ∃ steps' r' p',
      ReflTransGen (fun a b => b ∈ program.inPlace a) r r' ∧
        r'.Fails (program.follow steps') p' v f := by
  induction h with
  | own h => exact ⟨_, _, _, .refl, h⟩
  | inPlace hr hPlace _ ih =>
    obtain ⟨steps', r', p', hSteps, hFails⟩ := ih (hPlace ▸ hSite)
    exact ⟨steps', r', p', .head hr hSteps, hFails⟩
  | onPart hr hPlace h =>
    have hLonger := h.suffix.length_le
    -- What a rule finds in a part lies in that part, and so deeper than the value itself.
    rw [hSite, hPlace, List.reverse_reverse, List.length_cons] at hLonger
    omega

theorem exists_inside (h : program.Finds steps r p v f) : ∃ steps' r' p' x,
    ReflTransGen (fun a b => b ∈ program.inside a) r r' ∧
      r'.Fails (program.follow steps') p' x f := by
  induction h with
  | own h => exact ⟨_, _, _, _, .refl, h⟩
  | inPlace hr _ _ ih =>
    obtain ⟨steps', r', p', x, hSteps, hFails⟩ := ih
    exact ⟨steps', r', p', x, .head (mem_inside_of_inPlace hr) hSteps, hFails⟩
  | onPart hr _ _ ih =>
    obtain ⟨steps', r', p', x, hSteps, hFails⟩ := ih
    exact ⟨steps', r', p', x, .head (mem_inside_of_onParts hr) hSteps, hFails⟩

end Finds

end Program

end SchemaContract
