import SchemaContract.Compiled
import SchemaContract.Proofs.Branches.Leading

/-!
# The branch that was meant

The line about a choice tells the first failure of a branch that does not begin with one about
shape. Where branches lead with shape, the value has the shape that this branch is for: none of its
failures that lie in the value as a whole is about shape. Elsewhere it depends on the order in which
the failures of a branch come.
-/

namespace SchemaContract

open Relation (ReflTransGen)

namespace Failure

/-! ## Steps to a branch -/

theorem NarrowsTo.reported_eq {f g : Failure} (h : NarrowsTo f g) : f.reported = g.reported := by
  cases f with
  | plain => exact absurd h not_narrowsTo_plain
  | choice site kind branches => rw [reported_choice, narrowsTo_choice_iff.mp h]

theorem line_eq_of_narrows {f g : Failure} (h : ReflTransGen NarrowsTo f g) (source : Json)
    (label : String) : f.line source label = g.line source label := by
  induction h with
  | refl => rfl
  | tail _ hStep ih => rw [ih, line, line, text, text, hStep.reported_eq]

theorem NarrowsTo.exists_branch {site : Site} {kind : Choice} {branches : List (List Failure)}
    {g : Failure} (h : NarrowsTo (.choice site kind branches) g) :
    ∃ branch ∈ branches, branch.head? = some g := by
  have hMem : g ∈ firsts branches := List.mem_of_find?_eq_some (narrowsTo_choice_iff.mp h)
  exact List.mem_filterMap.mp hMem

/-- Whether a branch with these failures counts as meant. -/
def isMeant (branch : List Failure) : Bool := branch.head?.any fun f => !f.isMismatch

theorem isMeant_iff {branch : List Failure} :
    isMeant branch = true ↔ ∃ g, branch.head? = some g ∧ ¬ AboutShape g := by
  rw [isMeant, Option.any_eq_true]
  simp only [Bool.not_eq_true', ← isMismatch_iff, Bool.not_eq_true]

/-- The branch that is told of: the first one that counts as meant. -/
def meantBranch? (branches : List (List Failure)) : Option (List Failure) := branches.find? isMeant

theorem meant?_eq_bind (branches : List (List Failure)) :
    meant? branches = (meantBranch? branches).bind List.head? :=
  List.find?_filterMap ..

theorem narrowsTo_of_meantBranch? (site : Site) (kind : Choice) {branches : List (List Failure)}
    {branch : List Failure} (h : meantBranch? branches = some branch) :
    ∃ g, branch.head? = some g ∧ ¬ AboutShape g ∧ NarrowsTo (.choice site kind branches) g := by
  obtain ⟨g, hFirst, hg⟩ := isMeant_iff.mp (List.find?_some h)
  refine ⟨g, hFirst, hg, narrowsTo_choice_iff.mpr ?_⟩
  rw [meant?_eq_bind, h, Option.bind_some, hFirst]

/-! ## Orders of failures -/

/-- A branch with a failure that is not about shape counts as meant in some order of its failures.
-/
theorem exists_perm_isMeant_iff (branch : List Failure) :
    (∃ other, branch.Perm other ∧ isMeant other = true) ↔ ∃ e ∈ branch, ¬ AboutShape e := by
  constructor
  · rintro ⟨other, hPerm, hMeant⟩
    obtain ⟨g, hFirst, hg⟩ := isMeant_iff.mp hMeant
    exact ⟨g, hPerm.mem_iff.mpr (List.mem_of_head? hFirst), hg⟩
  · rintro ⟨e, he, hShape⟩
    obtain ⟨before, after, rfl⟩ := List.append_of_mem he
    exact ⟨e :: (before ++ after), List.perm_middle, isMeant_iff.mpr ⟨e, rfl, hShape⟩⟩

/-- Only a branch without any failure about shape counts as meant in every order. -/
theorem forall_perm_isMeant_iff (branch : List Failure) :
    (∀ other, branch.Perm other → isMeant other = true) ↔
      branch ≠ [] ∧ ∀ e ∈ branch, ¬ AboutShape e := by
  constructor
  · intro h
    constructor
    · rintro rfl
      cases h [] .nil
    · intro e he
      obtain ⟨before, after, rfl⟩ := List.append_of_mem he
      obtain ⟨g, hFirst, hg⟩ := isMeant_iff.mp (h (e :: (before ++ after)) List.perm_middle)
      cases hFirst
      exact hg
  · rintro ⟨hSome, hEach⟩ other hPerm
    cases other with
    | nil => exact absurd hPerm.eq_nil hSome
    | cons g gs =>
      exact isMeant_iff.mpr ⟨g, rfl, hEach g (hPerm.mem_iff.mpr List.mem_cons_self)⟩

end Failure

open Failure (NarrowsTo AboutShape)

namespace Program

/-! ## Choices of a program -/

/-- Some rule inside the program has found the failure. -/
def FoundInside (program : Program) (f : Failure) : Prop :=
  ∃ steps r p v, ReflTransGen (fun a b => b ∈ program.inside a) program.root r ∧
    f ∈ Rule.failures (program.follow steps) r p v

variable {program : Program} {site : Site} {kind : Choice} {branches : List (List Failure)}

/-- The failures of the branches of a choice are what its rules have found in one value, at the
place of the choice. -/
theorem FoundInside.exists_choice (h : program.FoundInside (.choice site kind branches)) :
    ∃ steps r p v, ReflTransGen (fun a b => b ∈ program.inside a) program.root r ∧
      site.value = p.value.reverse ∧
      branches = r.branches.map fun b => b.failures (program.follow steps) p v := by
  obtain ⟨steps, r, p, v, hRoot, hf⟩ := h
  obtain ⟨steps', r', p', x, hSteps, hFails⟩ := (finds_of_mem_failures hf).exists_inside
  refine ⟨steps', r', p', x, hRoot.trans hSteps, hFails.site_value, ?_⟩
  cases hFails with
  | assertion h =>
    obtain ⟨reason, hPlain, -⟩ := Assertion.mem_failures h
    cases hPlain
  | choice => rfl

theorem FoundInside.narrowsTo {f g : Failure} (h : program.FoundInside f) (hStep : NarrowsTo f g) :
    program.FoundInside g := by
  cases f with
  | plain => exact absurd hStep Failure.not_narrowsTo_plain
  | choice site kind branches =>
    obtain ⟨branch, hBranch, hFirst⟩ := hStep.exists_branch
    obtain ⟨steps, r, p, v, hRoot, -, rfl⟩ := h.exists_choice
    obtain ⟨b, hb, rfl⟩ := List.mem_map.mp hBranch
    exact ⟨steps, b, p, v, hRoot.tail (mem_inside_of_branches hb), List.mem_of_head? hFirst⟩

theorem foundInside_of_narrows {v : Json} {f d : Failure} (hf : f ∈ program.failures v)
    (h : ReflTransGen NarrowsTo f d) : program.FoundInside d := by
  induction h with
  | refl => exact ⟨program.steps v, program.root, .root, v, .refl, hf⟩
  | tail _ hStep ih => exact ih.narrowsTo hStep

theorem BranchesLead.startsWithShape (hLead : program.BranchesLead)
    (h : program.FoundInside (.choice site kind branches)) {branch : List Failure}
    (hBranch : branch ∈ branches) {e : Failure} (he : e ∈ branch)
    (hSite : e.site.value = site.value) (hShape : AboutShape e) : StartsWithShape branch := by
  obtain ⟨steps, r, p, v, hRoot, hPlace, rfl⟩ := h.exists_choice
  obtain ⟨b, hb, rfl⟩ := List.mem_map.mp hBranch
  exact (hLead r hRoot b hb).startsWithShape he (hSite.trans hPlace) hShape

/-- The line about a value is that of a branch of the choice at this place, or of a choice that the
branch begins with. -/
def TellsOf (program : Program) (v : Json) (site : Site) (branch : List Failure) : Prop :=
  ∃ f kind branches, (program.failures v).head? = some f ∧
    ReflTransGen NarrowsTo f (.choice site kind branches) ∧
    Failure.meantBranch? branches = some branch

/-- The branch of the choice that comes first among the failures of a value. -/
def firstBranch? (program : Program) (v : Json) : Option (Site × List Failure) :=
  (program.failures v).head?.bind fun
    | .plain _ _ => none
    | .choice site _ branches => (Failure.meantBranch? branches).map (site, ·)

theorem tellsOf_of_firstBranch? {v : Json} {b : Site × List Failure}
    (h : program.firstBranch? v = some b) : program.TellsOf v b.1 b.2 := by
  obtain ⟨f, hFirst, hf⟩ := Option.bind_eq_some_iff.mp h
  cases f with
  | plain => cases hf
  | choice site kind branches =>
    obtain ⟨branch, hBranch, rfl⟩ := Option.map_eq_some_iff.mp hf
    exact ⟨_, kind, branches, hFirst, .refl, hBranch⟩

end Program

namespace Compiled

/-- Where the branches of choices lead with shape, a value has the shape of the branch that it is
told of. In general it is the first failure of a branch that decides, so that a branch with failures
of both kinds counts as meant in some orders of them and not in others. -/
theorem told_branch_fits (c : Compiled) (hLead : c.program.BranchesLead) :
    (∀ v site branch, c.program.TellsOf v site branch →
      (∃ g, branch.head? = some g ∧ ∀ label, c.check label v = some (g.line c.source label)) ∧
        ∀ e ∈ branch, e.site.value = site.value → ¬ AboutShape e) ∧
    ∀ branch : List Failure,
      ((∃ other, branch.Perm other ∧ Failure.isMeant other = true) ↔
        ∃ e ∈ branch, ¬ AboutShape e) ∧
      ((∀ other, branch.Perm other → Failure.isMeant other = true) ↔
        branch ≠ [] ∧ ∀ e ∈ branch, ¬ AboutShape e) := by
  constructor
  · rintro v site branch ⟨f, kind, branches, hFirst, hReached, hBranch⟩
    obtain ⟨g, hHead, hg, hStep⟩ := Failure.narrowsTo_of_meantBranch? site kind hBranch
    refine ⟨⟨g, hHead, fun label => ?_⟩, fun e he hSite hShape => ?_⟩
    · rw [check, hFirst, Option.map_some,
        Failure.line_eq_of_narrows (hReached.tail hStep) c.source label]
    -- The branch would begin with a failure about shape, and then it would not count as meant.
    · have hFound := Program.foundInside_of_narrows (List.mem_of_head? hFirst) hReached
      obtain ⟨d, hOther, hd⟩ :=
        hLead.startsWithShape hFound (List.mem_of_find?_eq_some hBranch) he hSite hShape
      cases hHead.symm.trans hOther
      exact hg hd
  · intro branch
    exact ⟨Failure.exists_perm_isMeant_iff branch, Failure.forall_perm_isMeant_iff branch⟩

/-- A string, or what a branch with these keywords allows. -/
def stringOr (branch : List (String × Json)) : Json :=
  .object [("$schema", .string "http://json-schema.org/draft-04/schema#"),
    ("anyOf", .array [.object [("type", .string "string")], .object branch])]

def typeFirst : Json := stringOr [("type", .string "integer"), ("minimum", .nat 5)]

def minimumFirst : Json := stringOr [("minimum", .nat 5), ("type", .string "integer")]

/-- The half is no integer. -/
def half : Json := .number (.double { Binary64.one with exponent := -53 })

-- One evaluation for both schemas, so that they are held against their meta-schema only once.
theorem either_order_evaluated :
    ((compile Config.standard "n" typeFirst).toOption.any fun c =>
      c.program.branchesAreLeading 6 c.program.root && (c.program.firstBranch? (.nat 3)).isSome &&
        c.check "n" half == some "n should match some schema in anyOf") = true ∧
    ((compile Config.standard "n" minimumFirst).toOption.any fun c =>
      ((c.program.firstBranch? half).any fun b =>
        b.2.any fun e => e.site.value == b.1.value && e.isMismatch) &&
          c.check "n" half == some "n should be >= 5") = true := by
  decide +kernel

theorem exists_compiled {config : Config} {label : String} {s : Json} {p : Compiled → Bool}
    (h : (compile config label s).toOption.any p = true) :
    ∃ c, compile config label s = .ok c ∧ p c = true := by
  cases hCompile : compile config label s with
  | error => rw [hCompile] at h; cases h
  | ok c => exact ⟨c, rfl, by rwa [hCompile] at h⟩

/-- A small integer is told of the branch for integers. -/
theorem told_branch_fits_integer : ∃ c site branch,
    compile Config.standard "n" typeFirst = .ok c ∧ c.program.BranchesLead ∧
      c.program.TellsOf (.nat 3) site branch ∧
        ∀ e ∈ branch, e.site.value = site.value → ¬ AboutShape e := by
  obtain ⟨c, hc, h⟩ := exists_compiled either_order_evaluated.1
  rw [Bool.and_eq_true, Bool.and_eq_true, Option.isSome_iff_exists] at h
  obtain ⟨⟨hLead, b, hBranch⟩, -⟩ := h
  have hProgram := Program.branchesLead_of_branchesAreLeading hLead
  have hTells := Program.tellsOf_of_firstBranch? hBranch
  exact ⟨c, b.1, b.2, hc, hProgram, hTells,
    ((told_branch_fits c hProgram).1 (.nat 3) b.1 b.2 hTells).2⟩

/-- The half is told of the branch for integers, unless this branch asks for the type first. -/
theorem told_branch_misfits :
    (∃ c site branch, compile Config.standard "n" minimumFirst = .ok c ∧
      c.program.TellsOf half site branch ∧
      (∃ e ∈ branch, e.site.value = site.value ∧ AboutShape e) ∧
      c.check "n" half = some "n should be >= 5") ∧
    ∃ c, compile Config.standard "n" typeFirst = .ok c ∧
      c.check "n" half = some "n should match some schema in anyOf" := by
  constructor
  · obtain ⟨c, hc, h⟩ := exists_compiled either_order_evaluated.2
    rw [Bool.and_eq_true, Option.any_eq_true, beq_iff_eq] at h
    obtain ⟨⟨b, hBranch, hMisfit⟩, hLine⟩ := h
    obtain ⟨e, he, hShape⟩ := List.any_eq_true.mp hMisfit
    rw [Bool.and_eq_true, beq_iff_eq, Failure.isMismatch_iff] at hShape
    exact ⟨c, b.1, b.2, hc, Program.tellsOf_of_firstBranch? hBranch, ⟨e, he, hShape⟩, hLine⟩
  · obtain ⟨c, hc, h⟩ := exists_compiled either_order_evaluated.1
    rw [Bool.and_eq_true, beq_iff_eq] at h
    exact ⟨c, hc, h.2⟩

end Compiled

end SchemaContract
