import SchemaContract.Proofs.Plans

/-!
# What a linking leaves behind

Carrying out a plan gives what the plan gives by the table behind it, and every rule and coverage of
that table is what the compilation of a target with its key gives. One run only adds to the table;
what it adds is right, and a chain of runs is one run.
-/

namespace SchemaContract

namespace Linkage

variable (W : Linkage) (formats : Bool)

def Reaches (t : Target) : Prop := ∃ request, W.library.leadsTo request = .ok (some t)

def RuleOf (key : TargetKey) (rule : Rule) : Prop :=
  ∃ t location, W.Reaches t ∧ t.key = key ∧
    Compile.Gives W (t.context formats location) t.rule rule

def CoverageOf (key : TargetKey) (kind : PartKind) (coverage : Coverage) : Prop :=
  ∃ t location, W.Reaches t ∧ t.key = key ∧
    Compile.Gives W (t.context formats location) (t.coverage kind) coverage

/-- Every rule and coverage of the table belongs to its key. -/
structure Sound : Prop where
  rules : ∀ (i : Nat) (key : TargetKey) (rule : Rule), W.table.rules[i]? = some (key, rule) →
    W.RuleOf formats key rule
  coverages : ∀ (i : Nat) (key : TargetKey) (kind : PartKind) (coverage : Coverage),
    W.table.coverages[i]? = some ((key, kind), coverage) → W.CoverageOf formats key kind coverage

variable {formats} {lib : Library} {a b : Table}

theorem RuleOf.mono (h : a.Extends b) {key : TargetKey} {rule : Rule}
    (hRule : RuleOf ⟨lib, a⟩ formats key rule) : RuleOf ⟨lib, b⟩ formats key rule := by
  obtain ⟨t, location, hReaches, hKey, hGives⟩ := hRule
  exact ⟨t, location, hReaches, hKey, Plan.Gives.mono h hGives⟩

theorem CoverageOf.mono (h : a.Extends b) {key : TargetKey} {kind : PartKind} {coverage : Coverage}
    (hCoverage : CoverageOf ⟨lib, a⟩ formats key kind coverage) :
    CoverageOf ⟨lib, b⟩ formats key kind coverage := by
  obtain ⟨t, location, hReaches, hKey, hGives⟩ := hCoverage
  exact ⟨t, location, hReaches, hKey, Plan.Gives.mono h hGives⟩

end Linkage

/-! ## Entries that are filled in

While a target is compiled, its key already stands behind the entries that were there before, with
no result yet. What is found puts the result in that place.
-/

section Entries

variable {κ β : Type} {own after : List (κ × β)} {key : κ} {blank : β}
  (hKept : ∀ (i : Nat) e, (own ++ [(key, blank)])[i]? = some e → after[i]? = some e)

include hKept

theorem getElem?_filled (value : β) :
    (after.modify own.length fun e => (e.1, value))[own.length]? = some (key, value) := by
  have hPlace : after[own.length]? = some (key, blank) := hKept _ _ (by simp)
  rw [List.getElem?_modify_eq, hPlace]
  rfl

theorem getElem?_filled_of_own (value : β) {i : Nat} {e : κ × β} (he : own[i]? = some e) :
    (after.modify own.length fun e => (e.1, value))[i]? = some e := by
  obtain ⟨hi, -⟩ := List.getElem?_eq_some_iff.mp he
  rw [List.getElem?_modify_ne _ _ (Nat.ne_of_gt hi)]
  refine hKept i e ?_
  rw [List.getElem?_append_left hi, he]

theorem filled_cases {value : β} {i : Nat} {e : κ × β} (hi : own.length ≤ i)
    (he : (after.modify own.length fun e => (e.1, value))[i]? = some e) :
    e = (key, value) ∨ own.length < i ∧ after[i]? = some e := by
  rcases Nat.eq_or_lt_of_le hi with rfl | hLt
  · rw [getElem?_filled hKept value] at he
    cases he
    exact .inl rfl
  · rw [List.getElem?_modify_ne _ _ (Nat.ne_of_lt hLt)] at he
    exact .inr ⟨hLt, he⟩

end Entries

/-! ## Steps of a table -/

/-- What happens to a table: its entries stay as they are, and new ones are right by the table at
the end. -/
structure Table.Grows (lib : Library) (formats : Bool) (a b : Table) : Prop where
  rules_kept : ∀ (i : Nat) e, a.rules[i]? = some e → b.rules[i]? = some e
  coverages_kept : ∀ (i : Nat) e, a.coverages[i]? = some e → b.coverages[i]? = some e
  rules_new : ∀ (i : Nat) key rule, a.rules.length ≤ i → b.rules[i]? = some (key, rule) →
    Linkage.RuleOf ⟨lib, b⟩ formats key rule
  coverages_new : ∀ (i : Nat) key kind coverage, a.coverages.length ≤ i →
    b.coverages[i]? = some ((key, kind), coverage) →
      Linkage.CoverageOf ⟨lib, b⟩ formats key kind coverage

namespace Table.Grows

variable {lib : Library} {formats : Bool} {a b c : Table}

theorem refl (a : Table) : a.Grows lib formats a where
  rules_kept _ _ h := h
  coverages_kept _ _ h := h
  rules_new i key rule hi h := by
    rw [List.getElem?_eq_none hi] at h
    cases h
  coverages_new i key kind coverage hi h := by
    rw [List.getElem?_eq_none hi] at h
    cases h

theorem toExtends (h : a.Grows lib formats b) : a.Extends b := by
  constructor
  · intro i key hAt
    obtain ⟨e, he, hKey⟩ := Option.map_eq_some_iff.mp ((List.getElem?_map ..).symm.trans hAt)
    rw [RuleAt, List.getElem?_map, h.rules_kept i e he, Option.map_some, hKey]
  · intro i key kind hAt
    obtain ⟨e, he, hKey⟩ := Option.map_eq_some_iff.mp ((List.getElem?_map ..).symm.trans hAt)
    rw [CoverageAt, List.getElem?_map, h.coverages_kept i e he, Option.map_some, hKey]

theorem trans (hab : a.Grows lib formats b) (hbc : b.Grows lib formats c) :
    a.Grows lib formats c where
  rules_kept i e h := hbc.rules_kept i e (hab.rules_kept i e h)
  coverages_kept i e h := hbc.coverages_kept i e (hab.coverages_kept i e h)
  rules_new i key rule hi h := by
    by_cases hb : b.rules.length ≤ i
    · exact hbc.rules_new i key rule hb h
    -- An entry that the second run found there is one that the first run has made.
    · have hOld := List.getElem?_eq_getElem (Nat.lt_of_not_le hb)
      rw [hbc.rules_kept i _ hOld] at h
      rw [h] at hOld
      exact (hab.rules_new i key rule hi hOld).mono hbc.toExtends
  coverages_new i key kind coverage hi h := by
    by_cases hb : b.coverages.length ≤ i
    · exact hbc.coverages_new i key kind coverage hb h
    · have hOld := List.getElem?_eq_getElem (Nat.lt_of_not_le hb)
      rw [hbc.coverages_kept i _ hOld] at h
      rw [h] at hOld
      exact (hab.coverages_new i key kind coverage hi hOld).mono hbc.toExtends

end Table.Grows

/-! ## Runs -/

/-- The ways to compile targets add to the table what is right, and give what the targets do. -/
structure Following.Right (following : Following) (formats : Bool) : Prop where
  rule : ∀ {t location a rule b}, following.rule t location a = .ok (rule, b) →
    a.Grows following.library formats b ∧
      Compile.Gives ⟨following.library, b⟩ (t.context formats location) t.rule rule
  coverage : ∀ {t kind location a coverage b},
    following.coverage t kind location a = .ok (coverage, b) →
      a.Grows following.library formats b ∧
        Compile.Gives ⟨following.library, b⟩ (t.context formats location) (t.coverage kind) coverage

namespace Table

variable {lib : Library} {formats : Bool}

theorem ruleAt_of_ruleIndex? {a : Table} {key : TargetKey} {i : Nat}
    (h : a.ruleIndex? key = some i) : a.RuleAt i key := by
  obtain ⟨hi, hKey, -⟩ := List.findIdx?_eq_some_iff_getElem.mp h
  rw [RuleAt, List.getElem?_map, List.getElem?_eq_getElem hi, Option.map_some, eq_of_beq hKey]

theorem coverageAt_of_coverageIndex? {a : Table} {key : TargetKey} {kind : PartKind} {i : Nat}
    (h : a.coverageIndex? key kind = some i) : a.CoverageAt i key kind := by
  obtain ⟨hi, hKey, -⟩ := List.findIdx?_eq_some_iff_getElem.mp h
  obtain ⟨hKind, hKey⟩ := Bool.and_eq_true_iff.mp hKey
  rw [CoverageAt, List.getElem?_map, List.getElem?_eq_getElem hi, Option.map_some,
    ← eq_of_beq hKind, ← eq_of_beq hKey]

theorem getElem?_putRule (a : Table) (i j : Nat) (rule : Rule) :
    (a.putRule i rule).rules[j]? = a.rules[j]?.map fun e => if i = j then (e.1, rule) else e := by
  rw [putRule, List.getElem?_modify]
  split <;> simp

theorem getElem?_putCoverage (a : Table) (i j : Nat) (coverage : Coverage) :
    (a.putCoverage i coverage).coverages[j]? =
      a.coverages[j]?.map fun e => if i = j then (e.1, coverage) else e := by
  rw [putCoverage, List.getElem?_modify]
  split <;> simp

theorem extends_putRule (a : Table) (i : Nat) (rule : Rule) : a.Extends (a.putRule i rule) := by
  constructor
  · intro j key hAt
    obtain ⟨e, he, hKey⟩ := Option.map_eq_some_iff.mp ((List.getElem?_map ..).symm.trans hAt)
    rw [RuleAt, List.getElem?_map, getElem?_putRule, he]
    simp only [Option.map_some]
    split <;> rw [hKey]
  · exact fun j key kind hAt => hAt

theorem extends_putCoverage (a : Table) (i : Nat) (coverage : Coverage) :
    a.Extends (a.putCoverage i coverage) := by
  constructor
  · exact fun j key hAt => hAt
  · intro j key kind hAt
    obtain ⟨e, he, hKey⟩ := Option.map_eq_some_iff.mp ((List.getElem?_map ..).symm.trans hAt)
    rw [CoverageAt, List.getElem?_map, getElem?_putCoverage, he]
    simp only [Option.map_some]
    split <;> rw [hKey]

variable {a after : Table} {key : TargetKey}

theorem grows_enterRule {uri : Uri} {rule : Rule}
    (h : (a.addRule key uri).Grows lib formats after)
    (hRule : Linkage.RuleOf ⟨lib, after⟩ formats key rule) :
    a.Grows lib formats (after.putRule a.rules.length rule) ∧
      (after.putRule a.rules.length rule).RuleAt a.rules.length key := by
  have hMore := extends_putRule after a.rules.length rule
  refine ⟨⟨?_, h.coverages_kept, ?_, ?_⟩, ?_⟩
  · exact fun i e he => getElem?_filled_of_own h.rules_kept rule he
  · intro i key' rule' hi he
    rcases filled_cases h.rules_kept hi he with hNew | ⟨hi, hOld⟩
    · cases hNew
      exact hRule.mono hMore
    · refine (h.rules_new i key' rule' ?_ hOld).mono hMore
      rw [addRule, List.length_append]
      exact hi
  · intro i key' kind coverage hi he
    exact (h.coverages_new i key' kind coverage hi he).mono hMore
  · rw [RuleAt, List.getElem?_map, putRule, getElem?_filled h.rules_kept rule]
    rfl

theorem grows_enterCoverage {kind : PartKind} {coverage : Coverage}
    (h : (a.addCoverage key kind).Grows lib formats after)
    (hCoverage : Linkage.CoverageOf ⟨lib, after⟩ formats key kind coverage) :
    a.Grows lib formats (after.putCoverage a.coverages.length coverage) ∧
      (after.putCoverage a.coverages.length coverage).CoverageAt a.coverages.length key kind := by
  have hMore := extends_putCoverage after a.coverages.length coverage
  refine ⟨⟨h.rules_kept, ?_, ?_, ?_⟩, ?_⟩
  · exact fun i e he => getElem?_filled_of_own h.coverages_kept coverage he
  · intro i key' rule hi he
    exact (h.rules_new i key' rule hi he).mono hMore
  · intro i key' kind' coverage' hi he
    rcases filled_cases h.coverages_kept hi he with hNew | ⟨hi, hOld⟩
    · cases hNew
      exact hCoverage.mono hMore
    · refine (h.coverages_new i key' kind' coverage' ?_ hOld).mono hMore
      rw [addCoverage, List.length_append]
      exact hi
  · rw [CoverageAt, List.getElem?_map, putCoverage, getElem?_filled h.coverages_kept coverage]
    rfl

end Table

namespace Following.Right

variable {following : Following} {formats : Bool}

theorem enterRule (h : following.Right formats) {t : Target} {uri : Uri} {location : List Step}
    {a b : Table} {i : Nat} (hReaches : ∃ request, following.library.leadsTo request = .ok (some t))
    (hRun : following.enterRule t uri location a = .ok (i, b)) :
    a.Grows following.library formats b ∧ b.RuleAt i t.key := by
  unfold Following.enterRule at hRun
  split at hRun
  next j hIndex =>
    cases hRun
    exact ⟨.refl a, Table.ruleAt_of_ruleIndex? hIndex⟩
  next =>
    split at hRun
    next rule after hTarget =>
      cases hRun
      obtain ⟨hGrows, hGives⟩ := h.rule hTarget
      exact Table.grows_enterRule hGrows ⟨t, location, hReaches, rfl, hGives⟩
    next => cases hRun

theorem enterCoverage (h : following.Right formats) {t : Target} {kind : PartKind}
    {location : List Step} {a b : Table} {i : Nat}
    (hReaches : ∃ request, following.library.leadsTo request = .ok (some t))
    (hRun : following.enterCoverage t kind location a = .ok (i, b)) :
    a.Grows following.library formats b ∧ b.CoverageAt i t.key kind := by
  unfold Following.enterCoverage at hRun
  split at hRun
  next j hIndex =>
    cases hRun
    exact ⟨.refl a, Table.coverageAt_of_coverageIndex? hIndex⟩
  next =>
    split at hRun
    next coverage after hTarget =>
      cases hRun
      obtain ⟨hGrows, hGives⟩ := h.coverage hTarget
      exact Table.grows_enterCoverage hGrows ⟨t, location, hReaches, rfl, hGives⟩
    next => cases hRun

theorem orRefuse_ok {α β : Type} {found : Except ReferenceFault α} {next : α → Link β} {a b : Table}
    {result : β} (h : Link.orRefuse found next a = .ok (result, b)) :
    ∃ x, found = .ok x ∧ next x a = .ok (result, b) := by
  cases found with
  | ok x => exact ⟨x, rfl, h⟩
  | error fault => cases h

theorem ruleNumber (h : following.Right formats) {request : Request} {a b : Table}
    {answer : Option Nat} (hRun : following.ruleNumber request a = .ok (answer, b)) :
    a.Grows following.library formats b ∧
      Linkage.RuleAnswer ⟨following.library, b⟩ request answer := by
  obtain ⟨uri, -, hRun⟩ := orRefuse_ok hRun
  obtain ⟨found, hLeads, hRun⟩ := orRefuse_ok hRun
  cases found with
  | none =>
    cases hRun
    exact ⟨.refl a, .inl hLeads⟩
  | some t =>
    dsimp only at hRun
    split at hRun
    next hRepeats =>
      cases hRun
      exact ⟨.refl a, .inr ⟨t, hLeads, (Bool.and_eq_true_iff.mp hRepeats).1⟩⟩
    next =>
      obtain ⟨⟨i, table⟩, hEnter, hEq⟩ := exceptMap_eq_ok_iff.mp hRun
      cases hEq
      obtain ⟨hGrows, hAt⟩ := h.enterRule ⟨request, hLeads⟩ hEnter
      exact ⟨hGrows, t, hLeads, hAt⟩

theorem coverageNumber (h : following.Right formats) {request : Request} {kind : PartKind}
    {a b : Table} {answer : Option Nat}
    (hRun : following.coverageNumber request kind a = .ok (answer, b)) :
    a.Grows following.library formats b ∧
      Linkage.CoverageAnswer ⟨following.library, b⟩ request kind answer := by
  obtain ⟨found, hLeads, hRun⟩ := orRefuse_ok hRun
  cases found with
  | none =>
    cases hRun
    exact ⟨.refl a, hLeads⟩
  | some t =>
    obtain ⟨⟨i, table⟩, hEnter, hEq⟩ := exceptMap_eq_ok_iff.mp hRun
    cases hEq
    obtain ⟨hGrows, hAt⟩ := h.enterCoverage ⟨request, hLeads⟩ hEnter
    exact ⟨hGrows, t, hLeads, hAt⟩

/-- A run adds what is right, and its plan gives the result by the table at the end. -/
theorem run (h : following.Right formats) {α : Type} {p : Plan α} {result : α} {a b : Table}
    (hRun : p.run following a = .ok (result, b)) :
    a.Grows following.library formats b ∧ p.Gives ⟨following.library, b⟩ result := by
  induction p generalizing a with
  | done x =>
    cases hRun
    exact ⟨.refl _, rfl⟩
  | failed e => cases hRun
  | rule request next ih =>
    unfold Plan.run at hRun
    split at hRun
    next answer table hNumber =>
      -- The answer is right by the table after the request, and what comes later only extends it.
      obtain ⟨hFirst, hAnswer⟩ := h.ruleNumber hNumber
      obtain ⟨hRest, hGives⟩ := ih answer hRun
      exact ⟨hFirst.trans hRest, answer, hAnswer.mono hRest.toExtends, hGives⟩
    next => cases hRun
  | coverage request kind next ih =>
    unfold Plan.run at hRun
    split at hRun
    next answer table hNumber =>
      obtain ⟨hFirst, hAnswer⟩ := h.coverageNumber hNumber
      obtain ⟨hRest, hGives⟩ := ih answer hRun
      exact ⟨hFirst.trans hRest, answer, hAnswer.mono hRest.toExtends, hGives⟩
    next => cases hRun

end Following.Right

theorem Following.upTo_library (lib : Library) (formats : Bool) (steps : Nat) :
    (Following.upTo lib formats steps).library = lib := by
  cases steps <;> rfl

theorem Following.upTo_right (lib : Library) (formats : Bool) (steps : Nat) :
    (Following.upTo lib formats steps).Right formats := by
  induction steps with
  | zero =>
    constructor
    · intro t location a rule b h
      cases h
    · intro t kind location a coverage b h
      cases h
  | succ steps ih =>
    constructor
    · intro t location a rule b h
      have hRun := ih.run h
      rwa [upTo_library] at hRun
    · intro t kind location a coverage b h
      have hRun := ih.run h
      rwa [upTo_library] at hRun

/-- A program is the linking of its schema: its rule is what the schema gives, and its targets and
coverages are a sound table. -/
theorem Program.exists_linkage {lib : Library} {formats : Bool} {d : Dialect} {base : Uri}
    {schema : Json} {program : Program}
    (h : Program.compile lib formats d base schema = .ok program) :
    ∃ T : Table, Linkage.Sound ⟨lib, T⟩ formats ∧
      Compile.Gives ⟨lib, T⟩ ⟨formats, d, base, .empty, []⟩
        (Target.rule ⟨base, [], base, .empty, d, schema⟩) program.root ∧
      program.targets = T.rules.map (·.2) ∧ program.coverages = T.coverages.map (·.2) ∧
      program.limit = (lib.texts + 1) * (lib.resources.length + 2) := by
  unfold Program.compile at h
  split at h
  next root table hRun =>
    cases h
    obtain ⟨hGrows, hGives⟩ := (Following.upTo_right lib formats _).rule hRun
    rw [Following.upTo_library] at hGrows hGives
    refine ⟨table, ⟨?_, ?_⟩, hGives, rfl, rfl, rfl⟩
    · exact fun i key rule => hGrows.rules_new i key rule (Nat.zero_le i)
    · exact fun i key kind coverage => hGrows.coverages_new i key kind coverage (Nat.zero_le i)
  next => cases h

end SchemaContract
