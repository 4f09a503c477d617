import SchemaContract.Proofs.Labels
import SchemaContract.Proofs.Precedence

/-!
# Calls of both modes

A function that gives its result at once, under a synchronous contract, and one whose pending value
settles to the same, under an asynchronous contract, come to the same outcome. The two modes differ
in what they call the result, and that shows in the last problem of a stage alone.
-/

namespace SchemaContract

namespace Settlement

/-- A function that comes to a settlement at once. -/
def atOnce : Settlement → Yield
  | .ok result => .ok (.ready result)
  | .error text => .error text

/-- A function whose pending value comes to a settlement, after some polls that find it unready. -/
def later (delay : Nat) (s : Settlement) : Yield := .ok (.pending ⟨delay, s⟩)

end Settlement

/-- The problems of a stage about the parameters of a call. -/
def Stage.aboutParameters (r : Registry) (ps : Parameters) : Stage → List String
  | .referenceResolution =>
    ps.items.filterMap fun p => Contract.unknownReference? r p.name p.schema
  | .invalidSchema => ps.items.filterMap fun p => Contract.badDefinition? r p.name p.schema
  | .parameterValidation => ps.items.filterMap fun p => r.check p.label p.schema p.value
  | .resultShape | .resultValidation => []

/-- A problem of a stage about the result, as a synchronous call tells it and as an asynchronous one
does. -/
inductive Stage.AboutResult : Stage → String → String → Prop where
  | reference (name : String) : AboutResult .referenceResolution
      ("Unknown schema reference \"" ++ name ++ "\" for \"" ++ "return" ++ "\"")
      ("Unknown schema reference \"" ++ name ++ "\" for \"" ++ "resolve" ++ "\"")
  | schema (message : String) : AboutResult .invalidSchema
      ("Invalid schema for \"" ++ "return" ++ "\": " ++ message)
      ("Invalid schema for \"" ++ "resolve" ++ "\": " ++ message)
  | result (rest : String) :
      AboutResult .resultValidation ("return value" ++ rest) ("resolved value" ++ rest)

/-- The problems of a stage in both modes: the same ones about the parameters and, if there is one
about the result, that one behind them in the words of each mode. -/
inductive Stage.Tells (r : Registry) (ps : Parameters) (stage : Stage) :
    List String → List String → Prop where
  | parameters : Tells r ps stage (stage.aboutParameters r ps) (stage.aboutParameters r ps)
  | result {line line' : String} (h : stage.AboutResult line line') : Tells r ps stage
      (stage.aboutParameters r ps ++ [line]) (stage.aboutParameters r ps ++ [line'])

/-- Two outcomes that differ in the name of the result alone: the first is of a synchronous call,
the second of an asynchronous one. What fails in a stage has a problem to tell. -/
inductive Outcome.Agree (r : Registry) (ps : Parameters) : Outcome → Outcome → Prop where
  | completed (v : Result) : Agree r ps (.ok v) (.ok v)
  | wrapped (text : String) : Agree r ps (.error (.wrapped text)) (.error (.wrapped text))
  | problems {stage : Stage} {lines lines' : List String} (hSome : lines ≠ [])
      (h : stage.Tells r ps lines lines') :
      Agree r ps (.error (.problems stage lines)) (.error (.problems stage lines'))

namespace Stage.Tells

variable {r : Registry} {ps : Parameters} {stage : Stage}

theorem eq_nil_iff {lines lines' : List String} (h : stage.Tells r ps lines lines') :
    lines' = [] ↔ lines = [] := by
  cases h <;> simp

theorem of_rel {line? line?' : Option String} (h : Option.Rel stage.AboutResult line? line?') :
    stage.Tells r ps (stage.aboutParameters r ps ++ line?.toList)
      (stage.aboutParameters r ps ++ line?'.toList) := by
  cases h with
  | none =>
    rw [Option.toList_none, List.append_nil]
    exact .parameters
  | some h => exact .result h

end Stage.Tells

/-! ## Outcomes -/

namespace Contract

variable (r : Registry) (ps : Parameters) (result : Option Schema)

theorem unknownReferences_tells : Stage.referenceResolution.Tells r ps
    (unknownReferences r ⟨ps, result, .sync⟩) (unknownReferences r ⟨ps, result, .async⟩) := by
  refine Stage.Tells.of_rel ?_
  cases result with
  | none => exact .none
  | some s =>
    cases s with
    | reference name =>
      simp only [Option.bind_some, unknownReference?]
      split
      · exact .none
      · exact .some (.reference name)
    | _ => exact .none

theorem badDefinitions_tells : Stage.invalidSchema.Tells r ps
    (badDefinitions r ⟨ps, result, .sync⟩) (badDefinitions r ⟨ps, result, .async⟩) := by
  refine Stage.Tells.of_rel ?_
  cases result with
  | none => exact .none
  | some s =>
    cases s with
    | definition members =>
      simp only [Option.bind_some, badDefinition?]
      cases Compiled.compile r.config "schema" (.object members) with
      | ok c => exact .none
      | error message => exact .some (.schema message)
    | _ => exact .none

/-- The line about a refused result is the name of the result with a text that no mode changes. -/
theorem resultLine_told (schema : Option Resolved) (v : Result) :
    (∀ mode, resultLine mode schema v = none) ∨
      ∃ rest, ∀ mode, resultLine mode schema v = some (mode.label ++ rest) := by
  rcases schema with _ | s
  · cases v with
    | none => exact .inl fun _ => rfl
    | some x => exact .inr ⟨" should be undefined", fun _ => rfl⟩
  · cases v with
    | none =>
      exact s.labelled_checkAbsent.cases.imp (· ·.label) fun ⟨rest, h⟩ => ⟨rest, (h ·.label)⟩
    | some x =>
      exact (s.labelled_check x).cases.imp (· ·.label) fun ⟨rest, h⟩ => ⟨rest, (h ·.label)⟩

theorem conclude_agree (schema : Option Resolved) (s : Settlement) (delay : Nat) :
    Outcome.Agree r ps (conclude schema s.atOnce .sync)
      (conclude schema (s.later delay) .async) := by
  cases s with
  | error text => exact .wrapped text
  | ok v =>
    change Outcome.Agree r ps (checkResult .sync schema v) (checkResult .async schema v)
    -- A result is accepted in both modes, or refused with one text behind the name of the result.
    obtain h | ⟨rest, h⟩ := resultLine_told schema v
    · rw [checkResult, checkResult, h, h]
      exact .completed v
    · rw [checkResult, checkResult, h, h]
      exact .problems (List.cons_ne_nil _ _) (.result (.result rest))

theorem outcome_agree (s : Settlement) (delay : Nat) :
    Outcome.Agree r ps (outcome r ⟨ps, result, .sync⟩ s.atOnce)
      (outcome r ⟨ps, result, .async⟩ (s.later delay)) := by
  have hRefs := unknownReferences_tells r ps result
  have hDefs := badDefinitions_tells r ps result
  by_cases hr : unknownReferences r ⟨ps, result, .sync⟩ = []
  · have hr' := hRefs.eq_nil_iff.mpr hr
    by_cases hd : badDefinitions r ⟨ps, result, .sync⟩ = []
    · have hd' := hDefs.eq_nil_iff.mpr hd
      -- No argument is checked under the name of a mode.
      by_cases ha : refused r ⟨ps, result, .sync⟩ = []
      · rw [outcome_of_passes ((passes_iff_ready r _).mpr ⟨hr, hd, ha⟩),
          outcome_of_passes ((passes_iff_ready r _).mpr ⟨hr', hd', ha⟩)]
        exact conclude_agree r ps _ s delay
      · rw [outcome_of_error (checkArguments_of_refused hr hd ha),
          outcome_of_error (checkArguments_of_refused hr' hd' ha)]
        exact .problems ha .parameters
    · have hd' := mt hDefs.eq_nil_iff.mp hd
      rw [outcome_of_error (checkArguments_of_badDefinitions hr hd),
        outcome_of_error (checkArguments_of_badDefinitions hr' hd')]
      exact .problems hd hDefs
  · have hr' := mt hRefs.eq_nil_iff.mp hr
    rw [outcome_of_error (checkArguments_of_unknownReferences hr),
      outcome_of_error (checkArguments_of_unknownReferences hr')]
    exact .problems hr hRefs

end Contract

/-- Whatever a function comes to, and however long its pending value takes, a call that has the
result at once and one that is awaited come to the same outcome, up to the name of the result. -/
theorem Registry.call_agrees_callAsync (r : Registry) (ps : Parameters) (result : Option Schema)
    (s : Settlement) (delay : Nat) (m m' : Meter) :
    Outcome.Agree r ps ((r.call ps result s.atOnce).run m).1
      ((r.callAsync ps result (s.later delay) >>= Future.await).run m').1 := by
  rw [r.call_outcome, r.callAsync_outcome]
  exact Contract.outcome_agree r ps result s delay

end SchemaContract
