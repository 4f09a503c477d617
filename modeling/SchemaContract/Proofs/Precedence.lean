import SchemaContract.Proofs.Outcome

/-!
# The first failing stage

A call that fails tells the stage that failed first, and the problems of that stage and no others.
The problems are listed here from the contract alone, the parameters in their order and the result
last, and without regard to the other stages.
-/

namespace SchemaContract

namespace Contract

/-- The line about a reference to a schema that is not registered. -/
def unknownReference? (r : Registry) (location : String) : Schema → Option String
  | .reference name =>
    if r.has name then none
    else some ("Unknown schema reference \"" ++ name ++ "\" for \"" ++ location ++ "\"")
  | _ => none

/-- The line about a definition that does not compile. -/
def badDefinition? (r : Registry) (location : String) : Schema → Option String
  | .definition members =>
    match Compiled.compile r.config "schema" (.object members) with
    | .ok _ => none
    | .error message => some ("Invalid schema for \"" ++ location ++ "\": " ++ message)
  | _ => none

/-- The lines about the schemas of a contract, the parameters' in their order and the result's
last. The place of the result is `return` where it comes at once and `resolve` where it comes
later. -/
def inOrder (line? : String → Schema → Option String) (c : Contract) : List String :=
  c.parameters.items.filterMap (fun p => line? p.name p.schema) ++
    (match c.mode with
      | .sync => c.result.bind (line? "return")
      | .async => c.result.bind (line? "resolve")).toList

def unknownReferences (r : Registry) (c : Contract) : List String :=
  inOrder (unknownReference? r) c

def badDefinitions (r : Registry) (c : Contract) : List String := inOrder (badDefinition? r) c

theorem inOrder_eq (line? : String → Schema → Option String) (c : Contract) :
    inOrder line? c = c.parameters.items.filterMap (fun p => line? p.name p.schema) ++
      (c.result.bind (line? c.mode.location)).toList := by
  rw [inOrder]
  cases c.mode <;> rfl

theorem filterMap_schemas (line? : String → Schema → Option String) (c : Contract) :
    (c.schemas.filterMap fun e => line? e.1 e.2) = inOrder line? c := by
  rw [schemas, inOrder_eq, List.filterMap_append, List.filterMap_map]
  cases c.result with
  | none => rfl
  | some s =>
    cases h : line? c.mode.location s <;>
      simp only [Option.map_some, Option.toList_some, List.filterMap_cons, List.filterMap_nil, h,
        Option.bind_some, Option.toList_none] <;> rfl

theorem unknownLine_eq (location name : String) : unknownLine location name =
    "Unknown schema reference \"" ++ name ++ "\" for \"" ++ location ++ "\"" := by
  unfold unknownLine Text.inQuotes
  refine String.toList_inj.mp ?_
  simp

theorem invalidLine_eq (location : String) (fault : ResolveFault) : invalidLine location fault =
    "Invalid schema for \"" ++ location ++ "\": " ++ fault.message := by
  unfold invalidLine Text.inQuotes
  refine String.toList_inj.mp ?_
  simp

theorem unresolved_eq (r : Registry) (c : Contract) : c.unresolved r = c.unknownReferences r := by
  rw [unknownReferences, ← filterMap_schemas, unresolved]
  refine congrArg (c.schemas.filterMap ·) (funext fun e => ?_)
  obtain ⟨location, s⟩ := e
  cases s with
  | reference name => simp only [Schema.reference?, unknownLine_eq, unknownReference?]
  | _ => rfl

/-- Where every reference is registered, the schemas without a meaning are the bad definitions. -/
theorem invalid_eq {r : Registry} {c : Contract} (h : c.unresolved r = []) :
    c.invalid r = c.badDefinitions r := by
  have hrefs := (unresolved_eq_nil_iff r c).mp h
  rw [badDefinitions, ← filterMap_schemas, invalid]
  refine List.filterMap_congr fun e he => ?_
  obtain ⟨location, s⟩ := e
  have hs : c.Declares s := (c.exists_mem_schemas_iff s).mp ⟨location, he⟩
  cases s with
  | accept => rfl
  | reject => rfl
  | definition members =>
    simp only [Registry.resolve, badDefinition?]
    cases Compiled.compile r.config "schema" (.object members) with
    | ok c => rfl
    | error message => exact congrArg some (invalidLine_eq _ _)
  | reference name =>
    obtain ⟨m, hm⟩ := (r.resolves_reference_iff name).mpr (hrefs name hs)
    simp only [hm, badDefinition?]

end Contract

namespace Mode

/-- Whether a function fails in a way that a call of the mode comes to know. -/
def Fails (f : Yield) (text : String) : Mode → Prop
  | .sync => f = .error text
  | .async => f = .error text ∨ ∃ delay, f = .ok (.pending ⟨delay, .error text⟩)

/-- Whether a function yields a result in the manner of the other mode. -/
def Misses (f : Yield) : Mode → Prop
  | .sync => ∃ value, f = .ok (.pending value)
  | .async => ∃ result, f = .ok (.ready result)

def shapeLine : Mode → String
  | .sync =>
    "return value should not be a Promise. If a Promise is desired then define a resolve-style " ++
      "schema instead of a return-style schema"
  | .async => "return value should be Promise"

theorem shapeLine_sync : shapeLine .sync = unexpectedPending := rfl

theorem shapeLine_async : shapeLine .async = expectedPending := rfl

end Mode

/-- Whether a result that goes by a name is refused with a line. Without a schema there must be
none. -/
def Registry.Refuses (r : Registry) (name : String) (schema : Option Schema) (v : Result)
    (line : String) : Prop :=
  match schema, v with
  | none, none => False
  | none, some _ => line = name ++ " should be undefined"
  | some s, none => ∃ m, r.Means s m ∧ m.checkAbsent name = some line
  | some s, some x => r.check name s x = some line

namespace Contract

/-- Whether a result is refused with a line. -/
def RefusesResult (r : Registry) (c : Contract) (line : String) (v : Result) : Prop :=
  match c.mode with
  | .sync => r.Refuses "return value" c.result v line
  | .async => r.Refuses "resolved value" c.result v line

/-- Whether no stage before the call finds a problem. -/
structure Ready (r : Registry) (c : Contract) : Prop where
  references : c.unknownReferences r = []
  definitions : c.badDefinitions r = []
  arguments : c.refused r = []

/-- The kind and the text of the failure of the first failing stage, with the error of the function
where it was the function that failed. -/
inductive FirstFailure (r : Registry) (c : Contract) (f : Yield) :
    String → String → Option String → Prop where
  | references (h : c.unknownReferences r ≠ []) :
      FirstFailure r c f "ReferenceResolution" (String.intercalate "\n" (c.unknownReferences r))
        none
  | definitions (hrefs : c.unknownReferences r = []) (h : c.badDefinitions r ≠ []) :
      FirstFailure r c f "InvalidSchema" (String.intercalate "\n" (c.badDefinitions r)) none
  | arguments (hrefs : c.unknownReferences r = []) (hdefs : c.badDefinitions r = [])
      (h : c.refused r ≠ []) :
      FirstFailure r c f "ParameterValidation" (String.intercalate "\n" (c.refused r)) none
  | wrapped (hready : c.Ready r) (text : String) (h : c.mode.Fails f text) :
      FirstFailure r c f "Wrapped" text (some text)
  | shape (hready : c.Ready r) (h : c.mode.Misses f) :
      FirstFailure r c f "ResultShape" c.mode.shapeLine none
  | result (hready : c.Ready r) (v : Result) (line : String) (hv : c.mode.Yields f v)
      (h : c.RefusesResult r line v) :
      FirstFailure r c f "ResultValidation" line none

theorem passes_iff_ready (r : Registry) (c : Contract) : c.Passes r ↔ c.Ready r := by
  rw [passes_iff, unresolved_eq]
  constructor
  · rintro ⟨hu, hi, hr⟩
    exact ⟨hu, invalid_eq (unresolved_eq r c ▸ hu) ▸ hi, hr⟩
  · rintro ⟨hu, hi, hr⟩
    exact ⟨hu, (invalid_eq (unresolved_eq r c ▸ hu)).trans hi, hr⟩

theorem refusesResult_iff {r : Registry} {c : Contract} {line : String} {v : Result} :
    c.RefusesResult r line v ↔ r.Refuses c.mode.label c.result v line := by
  rw [RefusesResult]
  cases c.mode <;> rfl

theorem resultLine_eq_some_iff {r : Registry} {c : Contract} (h : c.Passes r) (line : String)
    (v : Result) :
    resultLine c.mode (c.resolvedResult r) v = some line ↔ c.RefusesResult r line v := by
  rw [refusesResult_iff]
  cases hs : c.result with
  | none => cases v <;> simp [resolvedResult, Registry.Refuses, resultLine, hs, eq_comm]
  | some s =>
    obtain ⟨m, hm⟩ := h.resolves (.inr hs)
    have hresult : c.resolvedResult r = some m := by simp [resolvedResult, hs, hm, Except.toOption]
    rw [hresult]
    cases v with
    | none =>
      simp only [Registry.Refuses, ← Registry.resolve_eq_ok_iff, resultLine, hm, Except.ok.injEq,
        exists_eq_left']
    | some x => simp only [Registry.Refuses, resultLine, r.check_of_resolve hm]

end Contract

namespace CallError

/-- What a failed call shows: its kind, its text, and the error of the function if it was that. -/
def Shows (e : CallError) (kind message : String) (source : Option String) : Prop :=
  e.kind = kind ∧ e.message = message ∧ e.wrapped? = source

theorem Shows.problems (stage : Stage) (lines : List String) :
    (CallError.problems stage lines).Shows stage.text (String.intercalate "\n" lines) none :=
  ⟨rfl, rfl, rfl⟩

theorem Shows.wrapped (text : String) :
    (CallError.wrapped text).Shows "Wrapped" text (some text) := ⟨rfl, rfl, rfl⟩

end CallError

namespace Contract

theorem checkResult_eq_error_iff (mode : Mode) (schema : Option Resolved) (v : Result)
    (e : CallError) :
    checkResult mode schema v = .error e ↔
      ∃ line, resultLine mode schema v = some line ∧ e = .problems .resultValidation [line] := by
  rw [checkResult]
  cases h : resultLine mode schema v <;> simp [eq_comm]

theorem conclude_eq_error_iff (schema : Option Resolved) (f : Yield) (mode : Mode) (e : CallError) :
    conclude schema f mode = .error e ↔
      (∃ text, mode.Fails f text ∧ e = .wrapped text) ∨
      (mode.Misses f ∧ e = .problems .resultShape [mode.shapeLine]) ∨
      ∃ v line, mode.Yields f v ∧ resultLine mode schema v = some line ∧
        e = .problems .resultValidation [line] := by
  cases mode with
  | sync =>
    rcases f with text | w | value
    · simp [conclude, finish, Mode.Fails, Mode.Misses, Mode.Yields, eq_comm]
    · simp [conclude, finish, Mode.Fails, Mode.Misses, Mode.Yields, checkResult_eq_error_iff]
    · simp [conclude, finish, Mode.Fails, Mode.Misses, Mode.Yields, Mode.shapeLine_sync, eq_comm]
  | async =>
    rcases f with text | w | ⟨delay, text | w⟩
    · simp [conclude, start, Future.eventual, Mode.Fails, Mode.Misses, Mode.Yields, eq_comm]
    · simp [conclude, start, Future.eventual, Mode.Fails, Mode.Misses, Mode.Yields,
        Mode.shapeLine_async, eq_comm]
    · simp [conclude, start, Future.eventual, Future.settle, Mode.Fails, Mode.Misses, Mode.Yields,
        eq_comm]
    · simp [conclude, start, Future.eventual, Future.settle, Mode.Fails, Mode.Misses, Mode.Yields,
        checkResult_eq_error_iff]

theorem checkArguments_of_unknownReferences {r : Registry} {c : Contract}
    (h : c.unknownReferences r ≠ []) :
    c.checkArguments r = .error (.problems .referenceResolution (c.unknownReferences r)) := by
  rw [checkArguments_eq, unresolved_eq, if_pos h]

theorem checkArguments_of_badDefinitions {r : Registry} {c : Contract}
    (hrefs : c.unknownReferences r = []) (h : c.badDefinitions r ≠ []) :
    c.checkArguments r = .error (.problems .invalidSchema (c.badDefinitions r)) := by
  have hu := (unresolved_eq r c).trans hrefs
  rw [checkArguments_eq, if_neg (not_not.mpr hu), invalid_eq hu, if_pos h]

theorem checkArguments_of_refused {r : Registry} {c : Contract}
    (hrefs : c.unknownReferences r = []) (hdefs : c.badDefinitions r = []) (h : c.refused r ≠ []) :
    c.checkArguments r = .error (.problems .parameterValidation (c.refused r)) := by
  have hu := (unresolved_eq r c).trans hrefs
  have hi := (invalid_eq hu).trans hdefs
  rw [checkArguments_eq, if_neg (not_not.mpr hu), if_neg (not_not.mpr hi), if_pos h]

theorem FirstFailure.outcome {r : Registry} {c : Contract} {f : Yield} {kind message : String}
    {source : Option String} (h : FirstFailure r c f kind message source) :
    ∃ e, c.outcome r f = .error e ∧ e.Shows kind message source := by
  cases h with
  | references h =>
    exact ⟨_, outcome_of_error (checkArguments_of_unknownReferences h) f, .problems _ _⟩
  | definitions hrefs h =>
    exact ⟨_, outcome_of_error (checkArguments_of_badDefinitions hrefs h) f, .problems _ _⟩
  | arguments hrefs hdefs h =>
    exact ⟨_, outcome_of_error (checkArguments_of_refused hrefs hdefs h) f, .problems _ _⟩
  | wrapped hready _ h =>
    rw [outcome_of_passes ((passes_iff_ready r c).mpr hready)]
    exact ⟨_, (conclude_eq_error_iff _ f _ _).mpr (.inl ⟨message, h, rfl⟩), .wrapped message⟩
  | shape hready h =>
    rw [outcome_of_passes ((passes_iff_ready r c).mpr hready)]
    exact ⟨_, (conclude_eq_error_iff _ f _ _).mpr (.inr (.inl ⟨h, rfl⟩)), .problems _ _⟩
  | result hready v _ hv h =>
    have hpasses := (passes_iff_ready r c).mpr hready
    have hline := (resultLine_eq_some_iff hpasses message v).mpr h
    rw [outcome_of_passes hpasses]
    exact ⟨_, (conclude_eq_error_iff _ f _ _).mpr (.inr (.inr ⟨v, message, hv, hline, rfl⟩)),
      .problems _ _⟩

theorem FirstFailure.of_outcome {r : Registry} {c : Contract} {f : Yield} {e : CallError}
    (he : c.outcome r f = .error e) : FirstFailure r c f e.kind e.message e.wrapped? := by
  by_cases hrefs : c.unknownReferences r = []
  · by_cases hdefs : c.badDefinitions r = []
    · by_cases hargs : c.refused r = []
      · have hready : c.Ready r := ⟨hrefs, hdefs, hargs⟩
        have hpasses := (passes_iff_ready r c).mpr hready
        rw [outcome_of_passes hpasses, conclude_eq_error_iff] at he
        obtain ⟨text, htext, rfl⟩ | ⟨hmiss, rfl⟩ | ⟨v, line, hv, hline, rfl⟩ := he
        · exact .wrapped hready text htext
        · exact .shape hready hmiss
        · exact .result hready v line hv ((resultLine_eq_some_iff hpasses line v).mp hline)
      · rw [outcome_of_error (checkArguments_of_refused hrefs hdefs hargs)] at he
        cases he
        exact .arguments hrefs hdefs hargs
    · rw [outcome_of_error (checkArguments_of_badDefinitions hrefs hdefs)] at he
      cases he
      exact .definitions hrefs hdefs
  · rw [outcome_of_error (checkArguments_of_unknownReferences hrefs)] at he
    cases he
    exact .references hrefs

theorem outcome_eq_error_iff (r : Registry) (c : Contract) (f : Yield) (kind message : String)
    (source : Option String) :
    (∃ e, c.outcome r f = .error e ∧ e.Shows kind message source) ↔
      c.FirstFailure r f kind message source := by
  constructor
  · rintro ⟨e, he, rfl, rfl, rfl⟩
    exact .of_outcome he
  · exact FirstFailure.outcome

end Contract

/-- A call fails, at whichever entry, exactly as its first failing stage has it. -/
theorem Registry.checkedCall_eq_error_iff (r : Registry) (ps : Parameters) (result : Option Schema)
    (f : Yield) (m : Meter) (kind message : String) (source : Option String) :
    ((∃ e, ((r.call ps result f).run m).1 = .error e ∧ e.Shows kind message source) ↔
      Contract.FirstFailure r ⟨ps, result, .sync⟩ f kind message source) ∧
    ((∃ e, ((r.callAsync ps result f >>= Future.await).run m).1 = .error e ∧
        e.Shows kind message source) ↔
      Contract.FirstFailure r ⟨ps, result, .async⟩ f kind message source) ∧
    ∀ mode, (∃ e, ((r.invoke ⟨ps, result, mode⟩ f >>= Invocation.outcome).run m).1 = .error e ∧
        e.Shows kind message source) ↔
      Contract.FirstFailure r ⟨ps, result, mode⟩ f kind message source := by
  refine ⟨?_, ?_, ?_⟩
  · rw [r.call_outcome]
    exact Contract.outcome_eq_error_iff r _ f kind message source
  · rw [r.callAsync_outcome]
    exact Contract.outcome_eq_error_iff r _ f kind message source
  · intro mode
    rw [r.invoke_outcome]
    exact Contract.outcome_eq_error_iff r _ f kind message source

end SchemaContract
