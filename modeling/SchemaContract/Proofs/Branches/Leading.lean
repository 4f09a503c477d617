import SchemaContract.Proofs.Branches.Findings

/-!
# Rules that lead with shape

A rule leads with the shape of values if it tests it first: a value of another shape is then refused
for its shape before all else, whatever else is wrong with it. Rules that never test the shape of
the value itself lead in this sense, too.
-/

namespace SchemaContract

open Failure (AboutShape)
open Relation (ReflTransGen)

theorem Rule.allFailures_append {follow : Follow} {rs rs' : List Rule} {p : Place} {v : Json} :
    allFailures follow (rs ++ rs') p v =
      allFailures follow rs p v ++ allFailures follow rs' p v := by
  induction rs with
  | nil => rfl
  | cons r rs ih => rw [List.cons_append, allFailures, allFailures, ih, List.append_assoc]

namespace Program

variable (program : Program)

/-- No rule that is applied to the value as a whole tests its shape. -/
def Quiet (r : Rule) : Prop :=
  ∀ r', ReflTransGen (fun a b => b ∈ program.inPlace a) r r' → r'.testsShape = false

/-- The rule is quiet, or tests the shape of values before anything else. -/
inductive Leads : Rule → Prop where
  | quiet {r : Rule} (h : program.Quiet r) : Leads r
  | test {r : Rule} (h : r.testsShape = true) : Leads r
  | within {steps : List Step} {r : Rule} (h : Leads r) : Leads (.within steps r)
  /-- Tests may be followed by one rule that leads in its turn, and then by quiet ones. -/
  | sequence {r : Rule} {tests rest : List Rule}
      (hr : r = .all (tests ++ rest) ∨ r = .allOf (tests ++ rest))
      (hTests : ∀ t ∈ tests, t.testsShape = true) (hNext : ∀ q ∈ rest.head?, Leads q)
      (hRest : ∀ q ∈ rest.tail, program.Quiet q) : Leads r
  | conditional {c t e : Rule} (hYes : Leads t) (hNo : Leads e) : Leads (.conditional c t e)
  | reference {keyword : String} {number : Nat} (h : Leads (program.target number)) :
      Leads (.reference keyword number)

/-- Every branch of every choice inside the program leads with the shape of values. -/
def BranchesLead : Prop :=
  ∀ r, ReflTransGen (fun a b => b ∈ program.inside a) program.root r →
    ∀ b ∈ r.branches, program.Leads b

variable {program} {steps : Nat} {r : Rule} {p : Place} {v : Json} {f : Failure}

/-! ## What they find -/

theorem Quiet.not_aboutShape (h : program.Quiet r) (hf : f ∈ r.failures (program.follow steps) p v)
    (hSite : f.site.value = p.value.reverse) : ¬ AboutShape f := by
  intro hShape
  obtain ⟨steps', r', p', hSteps, hFails⟩ := (finds_of_mem_failures hf).exists_inPlace hSite
  have hTests := hFails.testsShape_of_aboutShape hShape
  rw [h r' hSteps] at hTests
  cases hTests

def StartsWithShape (fs : List Failure) : Prop := ∃ f, fs.head? = some f ∧ AboutShape f

theorem StartsWithShape.append {fs : List Failure} (h : StartsWithShape fs) (gs : List Failure) :
    StartsWithShape (fs ++ gs) := by
  obtain ⟨f, hFirst, hf⟩ := h
  exact ⟨f, by rw [List.head?_append, hFirst, Option.some_or], hf⟩

theorem startsWithShape_of_forall {fs : List Failure} (hf : f ∈ fs) (h : ∀ g ∈ fs, AboutShape g) :
    StartsWithShape fs := by
  cases fs with
  | nil => cases hf
  | cons g gs => exact ⟨g, rfl, h g List.mem_cons_self⟩

theorem startsWithShape_allFailures {tests rest : List Rule}
    (hTests : ∀ t ∈ tests, t.testsShape = true)
    (hNext : ∀ q ∈ rest.head?, ∀ f ∈ q.failures (program.follow steps) p v,
      f.site.value = p.value.reverse → AboutShape f →
        StartsWithShape (q.failures (program.follow steps) p v))
    (hRest : ∀ q ∈ rest.tail, program.Quiet q)
    (hf : f ∈ Rule.allFailures (program.follow steps) (tests ++ rest) p v)
    (hSite : f.site.value = p.value.reverse) (hShape : AboutShape f) :
    StartsWithShape (Rule.allFailures (program.follow steps) (tests ++ rest) p v) := by
  have hEach : ∀ g ∈ Rule.allFailures (program.follow steps) tests p v, AboutShape g := by
    intro g hg
    obtain ⟨t, ht, hg⟩ := Rule.mem_allFailures_iff.mp hg
    exact Rule.aboutShape_of_testsShape (hTests t ht) hg
  rw [Rule.allFailures_append] at hf ⊢
  by_cases hNone : Rule.allFailures (program.follow steps) tests p v = []
  · rw [hNone, List.nil_append] at hf ⊢
    cases rest with
    | nil => cases hf
    | cons q qs =>
      rcases List.mem_append.mp hf with hf | hf
      · exact (hNext q rfl f hf hSite hShape).append _
      · obtain ⟨q', hq', hf⟩ := Rule.mem_allFailures_iff.mp hf
        exact absurd hShape ((hRest q' hq').not_aboutShape hf hSite)
  · obtain ⟨g, hg⟩ := List.exists_mem_of_ne_nil _ hNone
    exact (startsWithShape_of_forall hg hEach).append _

theorem Leads.startsWithShape (h : program.Leads r)
    (hf : f ∈ r.failures (program.follow steps) p v) (hSite : f.site.value = p.value.reverse)
    (hShape : AboutShape f) : StartsWithShape (r.failures (program.follow steps) p v) := by
  induction h generalizing steps p v f with
  | quiet h => exact absurd hShape (h.not_aboutShape hf hSite)
  | test h => exact startsWithShape_of_forall hf fun g => Rule.aboutShape_of_testsShape h
  | within _ ih => exact ih hf hSite hShape
  | sequence hr hTests _ hRest ih =>
    have hNext := fun q hq g (hg : g ∈ q.failures (program.follow steps) p v) => ih q hq hg
    rcases hr with rfl | rfl
    · exact startsWithShape_allFailures hTests hNext hRest hf hSite hShape
    · exact startsWithShape_allFailures hTests hNext hRest hf hSite hShape
  | @conditional c _ _ _ _ ihYes ihNo =>
    rw [Rule.failures] at hf ⊢
    by_cases hCondition : (c.failures (program.follow steps) p v).isEmpty = true
    · rw [if_pos hCondition] at hf ⊢
      exact ihYes hf hSite hShape
    · rw [if_neg hCondition] at hf ⊢
      exact ihNo hf hSite hShape
  | @reference keyword number _ ih =>
    cases steps with
    | zero => cases hf
    | succ steps =>
      have hPlace : (p.within [.member keyword]).value = p.value := rfl
      change f ∈ (program.target number).failures (program.follow steps) _ v at hf
      exact ih hf (hPlace ▸ hSite) hShape

/-! ## Tests for rules -/

section Tests

variable (program)

/-- Whether a rule is quiet, as can be seen in so many steps. -/
def isQuiet : Nat → Rule → Bool
  | 0, _ => false
  | n + 1, r => !r.testsShape && (program.inPlace r).all (isQuiet n)

/-- Whether a rule leads with the shape of values, as can be seen in so many steps. -/
def isLeading : Nat → Rule → Bool
  | 0, _ => false
  | n + 1, r =>
    program.isQuiet n r || r.testsShape || match r with
      | .within _ r => isLeading n r
      | .all rs | .allOf rs =>
        let rest := rs.dropWhile Rule.testsShape
        rest.head?.all (isLeading n) && rest.tail.all (program.isQuiet n)
      | .conditional _ t e => isLeading n t && isLeading n e
      | .reference _ number => isLeading n (program.target number)
      | _ => false

/-- Whether the branches of a rule and of all rules inside it lead. -/
def branchesAreLeading : Nat → Rule → Bool
  | 0, _ => false
  | n + 1, r =>
    r.branches.all (program.isLeading n) && (program.inside r).all (branchesAreLeading n)

end Tests

theorem quiet_of_isQuiet {n : Nat} (h : program.isQuiet n r = true) : program.Quiet r := by
  intro r' hSteps
  induction hSteps using ReflTransGen.head_induction_on generalizing n with
  | refl =>
    cases n with
    | zero => cases h
    | succ n =>
      rw [isQuiet, Bool.and_eq_true, Bool.not_eq_true'] at h
      exact h.1
  | head hStep _ ih =>
    cases n with
    | zero => cases h
    | succ n =>
      rw [isQuiet, Bool.and_eq_true, List.all_eq_true] at h
      exact ih (h.2 _ hStep)

theorem leads_of_isLeading {n : Nat} (h : program.isLeading n r = true) : program.Leads r := by
  induction n generalizing r with
  | zero => cases h
  | succ n ih =>
    unfold isLeading at h
    rw [Bool.or_eq_true, Bool.or_eq_true] at h
    rcases h with (hQuiet | hTest) | h
    · exact .quiet (quiet_of_isQuiet hQuiet)
    · exact .test hTest
    · have hSequence : ∀ {rs : List Rule}, (r = .all rs ∨ r = .allOf rs) →
          ((rs.dropWhile Rule.testsShape).head?.all (program.isLeading n) &&
            (rs.dropWhile Rule.testsShape).tail.all (program.isQuiet n)) = true →
          program.Leads r := by
        intro rs hr hRest
        obtain ⟨hNext, hQuiet⟩ := Bool.and_eq_true_iff.mp hRest
        -- The tests at the front are as many as there are; one rule may lead behind them.
        rw [← List.takeWhile_append_dropWhile (p := Rule.testsShape) (l := rs)] at hr
        refine .sequence hr (List.all_eq_true.mp List.all_takeWhile) (fun q hq => ?_) fun q hq => ?_
        · exact ih ((Option.all_eq_true _ _).mp hNext q hq)
        · exact quiet_of_isQuiet (List.all_eq_true.mp hQuiet q hq)
      cases r with
      | within way r => exact .within (ih h)
      | all rs => exact hSequence (.inl rfl) h
      | allOf rs => exact hSequence (.inr rfl) h
      | conditional c t e =>
        obtain ⟨hYes, hNo⟩ := Bool.and_eq_true_iff.mp h
        exact .conditional (ih hYes) (ih hNo)
      | reference keyword number => exact .reference (ih h)
      | _ => cases h

theorem branchesLead_of_branchesAreLeading {n : Nat}
    (h : program.branchesAreLeading n program.root = true) : program.BranchesLead := by
  intro r hSteps
  generalize program.root = root at h hSteps
  induction hSteps using ReflTransGen.head_induction_on generalizing n with
  | refl =>
    cases n with
    | zero => cases h
    | succ n =>
      rw [branchesAreLeading, Bool.and_eq_true, List.all_eq_true] at h
      exact fun b hb => leads_of_isLeading (h.1 b hb)
  | head hStep _ ih =>
    cases n with
    | zero => cases h
    | succ n =>
      rw [branchesAreLeading, Bool.and_eq_true, List.all_eq_true, List.all_eq_true] at h
      exact ih (h.2 _ hStep)

end Program

end SchemaContract
