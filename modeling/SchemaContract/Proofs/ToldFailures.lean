import Mathlib.Logic.Relation
import SchemaContract.Message
import SchemaContract.Proofs.Lists

/-!
# The failure that is told

A failure of a choice narrows to the first failure of the branch that was meant, which may be a
choice in its turn. The steps are unique and end, and the failure at their end is told: by its own
way into the value, and by its own reason.
-/

namespace SchemaContract.Failure

open Relation

/-! ## Branches -/

/-- The failure says that the value is of another shape than the schema is for. -/
inductive AboutShape : Failure → Prop where
  | type (site : Site) (name : TypeName) : AboutShape (.plain site (.type name))
  | types (site : Site) : AboutShape (.plain site .types)
  | enum (site : Site) : AboutShape (.plain site .enum)
  | constant (site : Site) : AboutShape (.plain site .constant)
  | falseSchema (site : Site) : AboutShape (.plain site .falseSchema)

theorem isMismatch_iff {f : Failure} : f.isMismatch = true ↔ AboutShape f := by
  constructor
  · intro h
    cases f with
    | plain site reason =>
      cases reason with
      | type name => exact .type site name
      | types => exact .types site
      | enum => exact .enum site
      | constant => exact .constant site
      | falseSchema => exact .falseSchema site
      | _ => cases h
    | choice => cases h
  · intro h
    cases h <;> rfl

/-- The first failures of the branches that have any, in their order. -/
def firsts (branches : List (List Failure)) : List Failure := branches.filterMap List.head?

/-- The failure of the branch that was meant, if one of them was. -/
def meant? (branches : List (List Failure)) : Option Failure :=
  (firsts branches).find? fun f => !f.isMismatch

theorem reportedBranch?_eq (branches : List (List Failure)) :
    reportedBranch? branches = (meant? branches).map reported := by
  unfold meant? firsts
  induction branches with
  | nil => rfl
  | cons branch branches ih =>
    cases branch with
    | nil => exact ih
    | cons f fs =>
      rw [reportedBranch?, List.filterMap_cons_some (f := List.head?) rfl, List.find?_cons]
      cases f.isMismatch with
      | true => exact ih
      | false => rfl

theorem reported_choice (site : Site) (kind : Choice) (branches : List (List Failure)) :
    reported (.choice site kind branches) =
      match meant? branches with
      | some f => f.reported
      | none => .choice site kind branches := by
  rw [reported, reportedBranch?_eq]
  cases meant? branches <;> rfl

theorem meant?_eq_some_iff {branches : List (List Failure)} {f : Failure} :
    meant? branches = some f ↔ ∃ before after, firsts branches = before ++ f :: after ∧
      (∀ g ∈ before, AboutShape g) ∧ ¬ AboutShape f := by
  unfold meant?
  rw [List.find?_eq_some_iff_append]
  simp only [Bool.not_not, Bool.not_eq_true', Bool.eq_false_iff, ne_eq, isMismatch_iff]
  constructor
  · rintro ⟨hf, before, after, hFirsts, hBefore⟩
    exact ⟨before, after, hFirsts, hBefore, hf⟩
  · rintro ⟨before, after, hFirsts, hBefore, hf⟩
    exact ⟨hf, before, after, hFirsts, hBefore⟩

theorem sizeOf_first_lt {site : Site} {kind : Choice} {branches : List (List Failure)}
    {f : Failure} (h : f ∈ firsts branches) : sizeOf f < sizeOf (choice site kind branches) := by
  obtain ⟨branch, hBranch, hFirst⟩ := List.mem_filterMap.mp h
  have hInner := List.sizeOf_lt_of_mem (List.mem_of_mem_head? hFirst)
  have hOuter := List.sizeOf_lt_of_mem hBranch
  simp only [choice.sizeOf_spec]
  omega

/-- What holds of a choice if it holds of the first failures of its branches holds of every
failure. -/
@[elab_as_elim]
theorem inductionOn {motive : Failure → Prop} (f : Failure)
    (plain : ∀ site reason, motive (.plain site reason))
    (choice : ∀ site kind branches, (∀ g ∈ firsts branches, motive g) →
      motive (.choice site kind branches)) : motive f := by
  match f with
  | .plain site reason => exact plain site reason
  | .choice site kind branches =>
    refine choice site kind branches fun g hg => ?_
    exact inductionOn g plain choice
termination_by sizeOf f
decreasing_by exact sizeOf_first_lt hg

/-! ## Narrowing -/

/-- One step from a choice to the first failure of a branch: those of the branches before it, empty
ones left out, are about the shape of the value, and it is not. -/
inductive NarrowsTo : Failure → Failure → Prop where
  | branch {site : Site} {kind : Choice} {branches : List (List Failure)}
      {before after : List Failure} {f : Failure} (hFirsts : firsts branches = before ++ f :: after)
      (hBefore : ∀ g ∈ before, AboutShape g) (hf : ¬ AboutShape f) :
      NarrowsTo (.choice site kind branches) f

/-- As many steps as there are. -/
def NarrowsDownTo (f e : Failure) : Prop :=
  ReflTransGen NarrowsTo f e ∧ ∀ g, ¬ NarrowsTo e g

theorem not_narrowsTo_plain {site : Site} {reason : Reason} {g : Failure} :
    ¬ NarrowsTo (.plain site reason) g := nofun

theorem narrowsTo_choice_iff {site : Site} {kind : Choice} {branches : List (List Failure)}
    {g : Failure} : NarrowsTo (.choice site kind branches) g ↔ meant? branches = some g := by
  rw [meant?_eq_some_iff]
  constructor
  · rintro ⟨hFirsts, hBefore, hg⟩
    exact ⟨_, _, hFirsts, hBefore, hg⟩
  · rintro ⟨before, after, hFirsts, hBefore, hg⟩
    exact .branch hFirsts hBefore hg

theorem narrowsTo_unique : Relator.RightUnique NarrowsTo := by
  intro f g h hg hh
  cases f with
  | plain => exact absurd hg not_narrowsTo_plain
  | choice =>
    rw [narrowsTo_choice_iff] at hg hh
    exact Option.some.inj (hg.symm.trans hh)

theorem NarrowsDownTo.unique {f e d : Failure} (he : NarrowsDownTo f e) (hd : NarrowsDownTo f d) :
    d = e := by
  -- Of two ways down from one failure the one goes on where the other ends, and both are at an end.
  rcases ReflTransGen.total_of_right_unique narrowsTo_unique he.1 hd.1 with h | h
  · rcases ReflTransGen.cases_head h with hEq | ⟨g, hStep, -⟩
    · exact hEq.symm
    · exact absurd hStep (he.2 g)
  · rcases ReflTransGen.cases_head h with hEq | ⟨g, hStep, -⟩
    · exact hEq
    · exact absurd hStep (hd.2 g)

theorem narrowsDownTo_reported (f : Failure) : NarrowsDownTo f f.reported := by
  induction f using inductionOn with
  | plain site reason => exact ⟨.refl, fun _ => not_narrowsTo_plain⟩
  | choice site kind branches ih =>
    rw [reported_choice]
    cases hMeant : meant? branches with
    | none =>
      refine ⟨.refl, fun g hg => ?_⟩
      rw [narrowsTo_choice_iff, hMeant] at hg
      cases hg
    | some g =>
      obtain ⟨hSteps, hEnd⟩ := ih g (List.mem_of_find?_eq_some hMeant)
      exact ⟨.head (narrowsTo_choice_iff.mpr hMeant) hSteps, hEnd⟩

theorem eq_or_not_aboutShape {f e : Failure} (h : ReflTransGen NarrowsTo f e) :
    e = f ∨ ¬ AboutShape e := by
  cases h with
  | refl => exact .inl rfl
  | tail _ hStep =>
    cases hStep with
    | branch _ _ he => exact .inr he

/-! ## What does not matter -/

/-- Failures that differ at most in what follows the first failure of a branch and in branches
without failures, at any depth. -/
inductive AgreeInFirsts : Failure → Failure → Prop where
  | plain (site : Site) (reason : Reason) : AgreeInFirsts (.plain site reason) (.plain site reason)
  | choice (site : Site) (kind : Choice) {branches others : List (List Failure)}
      (h : List.Forall₂ AgreeInFirsts (firsts branches) (firsts others)) :
      AgreeInFirsts (.choice site kind branches) (.choice site kind others)

theorem AgreeInFirsts.isMismatch_eq {f g : Failure} (h : AgreeInFirsts f g) :
    g.isMismatch = f.isMismatch := by
  cases h <;> rfl

theorem AgreeInFirsts.reported {f g : Failure} (h : AgreeInFirsts f g) :
    AgreeInFirsts f.reported g.reported := by
  induction f using inductionOn generalizing g with
  | plain site reason =>
    cases h
    exact .plain site reason
  | choice site kind branches ih =>
    cases h with
    | @choice _ _ _ others h =>
      -- Whether a failure is about shape shows in its constructor, so both mean the same branch.
      have hMeant : Option.Rel AgreeInFirsts (meant? branches) (meant? others) :=
        find?_rel (fun _ _ hfg => by rw [hfg.isMismatch_eq]) h
      rw [reported_choice, reported_choice]
      cases hBranch : meant? branches with
      | none =>
        rw [hBranch] at hMeant
        cases hOther : meant? others with
        | none => exact .choice site kind h
        | some e => exact absurd (hOther ▸ hMeant) nofun
      | some d =>
        rw [hBranch] at hMeant
        cases hOther : meant? others with
        | none => exact absurd (hOther ▸ hMeant) nofun
        | some e =>
          rw [hOther] at hMeant
          cases hMeant with
          | some hde => exact ih d (List.mem_of_find?_eq_some hBranch) hde

theorem AgreeInFirsts.line_eq {f g : Failure} (h : AgreeInFirsts f g) (source : Json)
    (label : String) : g.line source label = f.line source label := by
  have hText : ∀ {d e : Failure}, AgreeInFirsts d e →
      e.path ++ " " ++ e.reason source = d.path ++ " " ++ d.reason source := by
    intro d e hde
    cases hde <;> rfl
  exact congrArg (label ++ ·) (hText h.reported)

/-! ## Lines -/

/-- The line of a failure tells the one failure that it narrows down to. What follows the first
failure of a branch has no influence on it, nor have branches without failures, and where more than
one branch of `oneOf` held, that is told itself. -/
theorem line_tells_narrowed (source : Json) (label : String) (f : Failure) :
    (∃ e, NarrowsDownTo f e ∧ (∀ d, NarrowsDownTo f d → d = e) ∧ (e = f ∨ ¬ AboutShape e) ∧
      (∀ site, ReflTransGen NarrowsTo f (.plain site .severalOf) → e = .plain site .severalOf) ∧
      f.line source label =
        label ++ Pointer.render (Pointer.encode (e.site.value.map Step.segment)) ++ " " ++
          e.reason source) ∧
      ∀ g, AgreeInFirsts f g → g.line source label = f.line source label := by
  constructor
  · have hReported := narrowsDownTo_reported f
    refine ⟨f.reported, hReported, ?_, eq_or_not_aboutShape hReported.1, ?_, ?_⟩
    · exact fun d hd => hReported.unique hd
    · intro site hSite
      exact (hReported.unique ⟨hSite, fun _ => not_narrowsTo_plain⟩).symm
    · rw [line, text, path, String.append_assoc, String.append_assoc, String.append_assoc]
  · intro g hg
    exact hg.line_eq source label

/-- A choice with another one inside it, where the inner `oneOf` has more than one match in its
second branch. What follows the first failures, and branches without failures, are open. -/
def nestedChoice (more : List Failure) (empties : List (List Failure)) : Failure :=
  .choice .root .anyOf <| empties ++
    [.plain .root (.type .string) :: more,
      .choice ⟨[.member "list"], []⟩ .oneOf (empties ++
        [.plain ⟨[.member "list"], []⟩ .enum :: more,
          .plain ⟨[.member "list", .index 0], []⟩ .severalOf :: more]) :: more]

theorem line_tells_narrowed_nestedChoice :
    ReflTransGen NarrowsTo (nestedChoice [] [])
        (.plain ⟨[.member "list", .index 0], []⟩ .severalOf) ∧
      AgreeInFirsts (nestedChoice [] []) (nestedChoice [.plain .root .not] [[], []]) ∧
      (nestedChoice [.plain .root .not] [[], []]).line .null "x" =
        "x.list[0] should match exactly one schema in oneOf" := by
  have hReached : ReflTransGen NarrowsTo (nestedChoice [] [])
      (.plain ⟨[.member "list", .index 0], []⟩ .severalOf) :=
    .head (narrowsTo_choice_iff.mpr rfl) (.single (narrowsTo_choice_iff.mpr rfl))
  have hAgree : AgreeInFirsts (nestedChoice [] []) (nestedChoice [.plain .root .not] [[], []]) :=
    .choice _ _ (.cons (.plain _ _) (.cons
      (.choice _ _ (.cons (.plain _ _) (.cons (.plain _ _) .nil))) .nil))
  obtain ⟨⟨e, -, -, -, hSeveral, hLine⟩, hOthers⟩ :=
    line_tells_narrowed .null "x" (nestedChoice [] [])
  refine ⟨hReached, hAgree, (hOthers _ hAgree).trans ?_⟩
  rw [hLine, hSeveral _ hReached]
  decide

end SchemaContract.Failure
