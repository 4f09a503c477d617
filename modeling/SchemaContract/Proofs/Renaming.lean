import SchemaContract.Proofs.Labels
import SchemaContract.Proofs.ParameterLists
import SchemaContract.Proofs.PrimitiveTypes
import SchemaContract.Proofs.Schedule
import SchemaContract.Proofs.Precedence

/-!
# Positional and named parameters

A call does not depend on whether its parameters are known by their positions or by names: it has
one outcome and calls its function as often. Where it fails, it fails at one stage with one list of
problems, in which the names stand in place of the positions.
-/

namespace SchemaContract

/-- Where a schema stands in a contract, told by the position of the parameter and by its name. The
schema of the result stands in one place in both. -/
inductive Mode.Places (names : List String) : Mode → String → String → Prop where
  | parameter {mode : Mode} {i : Nat} {name : String} (h : names[i]? = some name) :
      Places names mode ("params[" ++ toString i ++ "]") name
  | returned : Places names .sync "return" "return"
  | resolved : Places names .async "resolve" "resolve"

/-- A problem of a stage, told of positional parameters and of the same parameters under names. -/
inductive Stage.Renames (names : List String) (mode : Mode) : Stage → String → String → Prop where
  | reference {place place' : String} (h : mode.Places names place place') (name : String) :
      Renames names mode .referenceResolution
        ("Unknown schema reference \"" ++ name ++ "\" for \"" ++ place ++ "\"")
        ("Unknown schema reference \"" ++ name ++ "\" for \"" ++ place' ++ "\"")
  | schema {place place' : String} (h : mode.Places names place place') (message : String) :
      Renames names mode .invalidSchema
        ("Invalid schema for \"" ++ place ++ "\": " ++ message)
        ("Invalid schema for \"" ++ place' ++ "\": " ++ message)
  | argument {i : Nat} {name : String} (h : names[i]? = some name) (rest : String) :
      Renames names mode .parameterValidation ("parameters[" ++ toString i ++ "]" ++ rest)
        ("\"" ++ name ++ "\"" ++ rest)
  | shape (line : String) : Renames names mode .resultShape line line
  | result (line : String) : Renames names mode .resultValidation line line

/-- Two outcomes that differ in what the parameters are called alone, the first of positional ones
and the second of named ones. -/
inductive Outcome.Renamed (names : List String) (mode : Mode) : Outcome → Outcome → Prop where
  | completed (v : Result) : Renamed names mode (.ok v) (.ok v)
  | wrapped (text : String) : Renamed names mode (.error (.wrapped text)) (.error (.wrapped text))
  | problems {stage : Stage} {lines lines' : List String}
      (h : List.Forall₂ (stage.Renames names mode) lines lines') :
      Renamed names mode (.error (.problems stage lines)) (.error (.problems stage lines'))

/-- A positional parameter and the same one under the name at its position. -/
inductive Parameter.Renamed (names : List String) : Parameter → Parameter → Prop where
  | mk {i : Nat} {name : String} (h : names[i]? = some name) (value : Json) (schema : Schema) :
      Renamed names (.atPosition i value schema) (.withName name value schema)

theorem Parameters.renamed_items {pairs : List (Json × Schema)} {names : List String}
    (hDistinct : names.Nodup) (hLength : names.length = pairs.length) :
    List.Forall₂ (Parameter.Renamed names) (positional pairs).items
      (named (names.zip pairs)).items := by
  have hNames : ((names.zip pairs).map (·.1)).Nodup := by
    rwa [List.map_fst_zip (Nat.le_of_eq hLength)]
  rw [items_named hNames]
  refine List.forall₂_iff_get.mpr ⟨?_, fun i h h' => ?_⟩
  · simp [positional, hLength]
  · have hi : i < names.length := by
      rw [List.length_map, List.length_zip, hLength, Nat.min_self] at h'
      rwa [hLength]
    simpa [positional] using Parameter.Renamed.mk (List.getElem?_eq_getElem hi) _ _

theorem Registry.check_cases {r : Registry} {s : Schema} (h : r.Resolves s) (v : Json) :
    (∀ label, r.check label s v = none) ∨
      ∃ rest, ∀ label, r.check label s v = some (label ++ rest) := by
  obtain ⟨m, hm⟩ := h
  simp only [check_of_resolve hm]
  exact (m.labelled_check v).cases

namespace Contract

variable (r : Registry) (result : Option Schema) (mode : Mode) {names : List String}
  {ps ps' : Parameters}

/-! ## Problems -/

variable {mode} in
theorem inOrder_renamed {stage : Stage} {line? : String → Schema → Option String}
    (hLine : ∀ place place', mode.Places names place place' → ∀ s,
      Option.Rel (stage.Renames names mode) (line? place s) (line? place' s))
    (h : List.Forall₂ (Parameter.Renamed names) ps.items ps'.items) :
    List.Forall₂ (stage.Renames names mode) (inOrder line? ⟨ps, result, mode⟩)
      (inOrder line? ⟨ps', result, mode⟩) := by
  refine List.rel_append (List.rel_filterMap ?_ h) (forall₂_toList ?_)
  · rintro _ _ ⟨hName, value, schema⟩
    exact hLine _ _ (.parameter hName) schema
  · cases result with
    | none => cases mode <;> exact .none
    | some s =>
      cases mode with
      | sync => exact hLine _ _ .returned s
      | async => exact hLine _ _ .resolved s

theorem unknownReferences_renamed
    (h : List.Forall₂ (Parameter.Renamed names) ps.items ps'.items) :
    List.Forall₂ (Stage.referenceResolution.Renames names mode)
      (unknownReferences r ⟨ps, result, mode⟩) (unknownReferences r ⟨ps', result, mode⟩) := by
  refine inOrder_renamed result (fun place place' hPlace s => ?_) h
  cases s with
  | reference name =>
    rw [unknownReference?, unknownReference?]
    split
    · exact .none
    · exact .some (.reference hPlace name)
  | _ => exact .none

theorem badDefinitions_renamed
    (h : List.Forall₂ (Parameter.Renamed names) ps.items ps'.items) :
    List.Forall₂ (Stage.invalidSchema.Renames names mode)
      (badDefinitions r ⟨ps, result, mode⟩) (badDefinitions r ⟨ps', result, mode⟩) := by
  refine inOrder_renamed result (fun place place' hPlace s => ?_) h
  cases s with
  | definition members =>
    rw [badDefinition?, badDefinition?]
    cases Compiled.compile r.config "schema" (.object members) with
    | ok c => exact .none
    | error message => exact .some (.schema hPlace message)
  | _ => exact .none

theorem refused_renamed (hResolves : ∀ p ∈ ps.items, r.Resolves p.schema)
    (h : List.Forall₂ (Parameter.Renamed names) ps.items ps'.items) :
    List.Forall₂ (Stage.parameterValidation.Renames names mode)
      (refused r ⟨ps, result, mode⟩) (refused r ⟨ps', result, mode⟩) := by
  refine List.rel_filterMap ?_ ((List.forall₂_and_left _ _).mpr ⟨hResolves, h⟩)
  rintro _ _ ⟨hSchema, hName, value, schema⟩
  change Option.Rel _ (r.check _ schema value) (r.check _ schema value)
  obtain hSilent | ⟨rest, hTold⟩ := r.check_cases (s := schema) hSchema value
  · rw [hSilent, hSilent]
    exact .none
  · rw [hTold, hTold]
    exact .some (.argument hName rest)

/-! ## The call -/

theorem checkArguments_renamed
    (h : List.Forall₂ (Parameter.Renamed names) ps.items ps'.items) :
    (∃ stage lines lines', List.Forall₂ (stage.Renames names mode) lines lines' ∧
        checkArguments r ⟨ps, result, mode⟩ = .error (.problems stage lines) ∧
        checkArguments r ⟨ps', result, mode⟩ = .error (.problems stage lines')) ∨
      ∃ schema, checkArguments r ⟨ps, result, mode⟩ = .ok schema ∧
        checkArguments r ⟨ps', result, mode⟩ = .ok schema := by
  have hRefs := unknownReferences_renamed r result mode h
  have hDefs := badDefinitions_renamed r result mode h
  by_cases hr : unknownReferences r ⟨ps, result, mode⟩ = []
  · have hr' := (eq_nil_iff_of_forall₂ hRefs).mp hr
    by_cases hd : badDefinitions r ⟨ps, result, mode⟩ = []
    · have hd' := (eq_nil_iff_of_forall₂ hDefs).mp hd
      have hInvalid := (invalid_eq ((unresolved_eq r _).trans hr)).trans hd
      have hResolves : ∀ p ∈ ps.items, r.Resolves p.schema := fun p hp =>
        (invalid_eq_nil_iff r _).mp hInvalid p.schema (.inl ⟨p, hp, rfl⟩)
      have hArgs := refused_renamed r result mode hResolves h
      by_cases ha : refused r ⟨ps, result, mode⟩ = []
      · have ha' := (eq_nil_iff_of_forall₂ hArgs).mp ha
        exact .inr ⟨_, checkArguments_of_passes ((passes_iff_ready r _).mpr ⟨hr, hd, ha⟩),
          checkArguments_of_passes ((passes_iff_ready r _).mpr ⟨hr', hd', ha'⟩)⟩
      · have ha' := mt (eq_nil_iff_of_forall₂ hArgs).mpr ha
        exact .inl ⟨_, _, _, hArgs, checkArguments_of_refused hr hd ha,
          checkArguments_of_refused hr' hd' ha'⟩
    · have hd' := mt (eq_nil_iff_of_forall₂ hDefs).mpr hd
      exact .inl ⟨_, _, _, hDefs, checkArguments_of_badDefinitions hr hd,
        checkArguments_of_badDefinitions hr' hd'⟩
  · have hr' := mt (eq_nil_iff_of_forall₂ hRefs).mpr hr
    exact .inl ⟨_, _, _, hRefs, checkArguments_of_unknownReferences hr,
      checkArguments_of_unknownReferences hr'⟩

/-- What follows the checks of the arguments knows nothing of the parameters. -/
theorem conclude_renamed (schema : Option Resolved) (f : Yield) :
    Outcome.Renamed names mode (conclude schema f mode) (conclude schema f mode) := by
  cases hOutcome : conclude schema f mode with
  | ok v => exact .completed v
  | error e =>
    obtain ⟨text, -, rfl⟩ | ⟨-, rfl⟩ | ⟨v, line, -, -, rfl⟩ :=
      (conclude_eq_error_iff schema f mode e).mp hOutcome
    · exact .wrapped text
    · exact .problems (.cons (.shape _) .nil)
    · exact .problems (.cons (.result line) .nil)

end Contract

/-- Two runs that differ in what the parameters are called alone, and count the same. -/
def Outcome.RunsRenamed (names : List String) (mode : Mode) (run run' : Outcome × Meter) : Prop :=
  Outcome.Renamed names mode run.1 run'.1 ∧ run.2 = run'.2

namespace Registry

/-- Calls of positional parameters and of named ones that differ in what the parameters are called
alone, whatever the function yields, at whichever entry. -/
structure CallsRenamed (r : Registry) (names : List String) (ps ps' : Parameters)
    (result : Option Schema) : Prop where
  call : ∀ f m, Outcome.RunsRenamed names .sync ((r.call ps result f).run m)
    ((r.call ps' result f).run m)
  callAsync : ∀ f m, Outcome.RunsRenamed names .async
    ((r.callAsync ps result f >>= Future.await).run m)
    ((r.callAsync ps' result f >>= Future.await).run m)
  /-- Before anything is awaited the function has been called as often, too. -/
  entered : ∀ f m, ((r.callAsync ps result f).run m).2 = ((r.callAsync ps' result f).run m).2
  invoke : ∀ mode f m, Outcome.RunsRenamed names mode
    ((r.invoke ⟨ps, result, mode⟩ f >>= Invocation.outcome).run m)
    ((r.invoke ⟨ps', result, mode⟩ f >>= Invocation.outcome).run m)

variable (r : Registry) {names : List String} {ps ps' : Parameters} (result : Option Schema)

theorem call_runsRenamed (h : List.Forall₂ (Parameter.Renamed names) ps.items ps'.items)
    (f : Yield) (m : Meter) : Outcome.RunsRenamed names .sync ((r.call ps result f).run m)
      ((r.call ps' result f).run m) := by
  rw [call, call, Contract.runSync_run, Contract.runSync_run]
  obtain ⟨stage, lines, lines', hLines, he, he'⟩ | ⟨schema, hs, hs'⟩ :=
    Contract.checkArguments_renamed r result .sync h
  · rw [he, he']
    exact ⟨.problems hLines, rfl⟩
  · rw [hs, hs']
    exact ⟨Contract.conclude_renamed .sync schema f, rfl⟩

theorem callAsync_runsRenamed (h : List.Forall₂ (Parameter.Renamed names) ps.items ps'.items)
    (f : Yield) (m : Meter) : Outcome.RunsRenamed names .async
      ((r.callAsync ps result f >>= Future.await).run m)
      ((r.callAsync ps' result f >>= Future.await).run m) ∧
    ((r.callAsync ps result f).run m).2 = ((r.callAsync ps' result f).run m).2 := by
  rw [StateT.run_bind, StateT.run_bind, callAsync, callAsync, Contract.runAsync_run,
    Contract.runAsync_run]
  obtain ⟨stage, lines, lines', hLines, he, he'⟩ | ⟨schema, hs, hs'⟩ :=
    Contract.checkArguments_renamed r result .async h
  · rw [he, he']
    exact ⟨⟨.problems hLines, rfl⟩, rfl⟩
  · rw [hs, hs']
    refine ⟨⟨?_, rfl⟩, rfl⟩
    change Outcome.Renamed names .async ((Contract.start schema f).await.run _).1
      ((Contract.start schema f).await.run _).1
    rw [Future.await_run]
    exact Contract.conclude_renamed .async schema f

/-- Positional parameters and the same ones under distinct names make calls that differ in what the
parameters are called alone. -/
theorem call_positional_named {pairs : List (Json × Schema)} (hDistinct : names.Nodup)
    (hLength : names.length = pairs.length) :
    r.CallsRenamed names (.positional pairs) (.named (names.zip pairs)) result := by
  have h := Parameters.renamed_items hDistinct hLength
  refine ⟨r.call_runsRenamed result h, fun f m => (r.callAsync_runsRenamed result h f m).1,
    fun f m => (r.callAsync_runsRenamed result h f m).2, fun mode f m => ?_⟩
  cases mode with
  | sync => exact r.call_runsRenamed result h f m
  | async => exact (r.callAsync_runsRenamed result h f m).1

def twoRefused : List (Json × Schema) := [(.nat 1, .reject), (.null, .reject)]

/-- One of the names looks like the label of the other parameter. -/
theorem call_positional_named_twoRefused :
    ["first", "parameters[0]"].Nodup ∧ ["first", "parameters[0]"].length = twoRefused.length ∧
      ∃ r : Registry, build Config.standard (.object []) = .ok r ∧
        r.CallsRenamed ["first", "parameters[0]"] (.positional twoRefused)
          (.named (["first", "parameters[0]"].zip twoRefused)) none ∧
        Contract.refused r ⟨.positional twoRefused, none, .sync⟩ =
          ["parameters[0] boolean schema is false", "parameters[1] boolean schema is false"] := by
  have hDistinct : ["first", "parameters[0]"].Nodup := by decide
  obtain ⟨r, hBuild⟩ := exists_build_empty Config.standard
  exact ⟨hDistinct, rfl, r, hBuild, call_positional_named r none hDistinct rfl, rfl⟩

end Registry

end SchemaContract
