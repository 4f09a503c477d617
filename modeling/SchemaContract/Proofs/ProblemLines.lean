import SchemaContract.CommandLine
import SchemaContract.Proofs.Lines
import SchemaContract.Proofs.Precedence
import SchemaContract.Proofs.Unbroken.Registries

/-!
# The lines of a failed call

A failed call tells its problems as one text with a newline between them. The lines of that text
are the problems again unless a problem holds a newline itself, which nothing keeps a name, a
reference or a schema from.
-/

namespace SchemaContract

open Text

/-! ## Problems -/

namespace Contract

/-- The stage at which a call fails with problems, and the problems it finds. -/
inductive Finds (r : Registry) (c : Contract) (f : Yield) : Stage → List String → Prop where
  | references (h : c.unknownReferences r ≠ []) :
      Finds r c f .referenceResolution (c.unknownReferences r)
  | definitions (hrefs : c.unknownReferences r = []) (h : c.badDefinitions r ≠ []) :
      Finds r c f .invalidSchema (c.badDefinitions r)
  | arguments (hrefs : c.unknownReferences r = []) (hdefs : c.badDefinitions r = [])
      (h : c.refused r ≠ []) : Finds r c f .parameterValidation (c.refused r)
  | shape (hready : c.Ready r) (h : c.mode.Misses f) : Finds r c f .resultShape [c.mode.shapeLine]
  | result (hready : c.Ready r) (v : Result) (line : String) (hv : c.mode.Yields f v)
      (h : c.RefusesResult r line v) : Finds r c f .resultValidation [line]

variable {r : Registry} {c : Contract} {f : Yield} {stage : Stage} {problems : List String}

theorem finds_of_outcome (h : c.outcome r f = .error (.problems stage problems)) :
    c.Finds r f stage problems := by
  rw [outcome, checkArguments_eq, unresolved_eq] at h
  by_cases hrefs : c.unknownReferences r = []
  · have hdefinitions := invalid_eq ((unresolved_eq r c).trans hrefs)
    rw [hdefinitions, if_neg (not_not.mpr hrefs)] at h
    split_ifs at h with hdefs hargs
    · cases h
      exact .definitions hrefs hdefs
    · cases h
      exact .arguments hrefs (not_not.mp hdefs) hargs
    · have hready : c.Ready r := ⟨hrefs, not_not.mp hdefs, not_not.mp hargs⟩
      obtain ⟨text, -, heq⟩ | ⟨hmiss, heq⟩ | ⟨v, line, hv, hline, heq⟩ :=
        (conclude_eq_error_iff _ f _ _).mp h
      · cases heq
      · cases heq
        exact .shape hready hmiss
      · cases heq
        have hpasses := (passes_iff_ready r c).mpr hready
        exact .result hready v line hv ((resultLine_eq_some_iff hpasses line v).mp hline)
  · rw [if_pos hrefs] at h
    cases h
    exact .references hrefs

end Contract

/-! ## No problem is empty -/

theorem Failure.line_ne_empty (f : Failure) (source : Json) (label : String) :
    f.line source label ≠ "" :=
  ne_empty_of_append (.inr (ne_empty_of_append (.inl (ne_empty_of_append (.inr (by decide))))))

theorem ResolveFault.line_ne_empty (fault : ResolveFault) (label : String) :
    fault.line label ≠ "" := by
  cases fault with
  | unknownReference name =>
    exact ne_empty_of_append (.inl (ne_empty_of_append (.inl (ne_empty_of_append
      (.inl (by decide))))))
  | invalidDefinition message =>
    exact ne_empty_of_append (.inl (ne_empty_of_append (.inr (by decide))))

namespace Resolved

theorem falseLine_ne_empty (label : String) : falseLine label ≠ "" :=
  ne_empty_of_append (.inl (ne_empty_of_append (.inr (by decide))))

theorem check_ne_empty {m : Resolved} {label line : String} {v : Json}
    (h : m.check label v = some line) : line ≠ "" := by
  cases m with
  | accept => cases h
  | reject =>
    cases h
    exact falseLine_ne_empty label
  | compiled c =>
    obtain ⟨f, -, rfl⟩ := Option.map_eq_some_iff.mp h
    exact f.line_ne_empty c.source label

theorem checkAbsent_ne_empty {m : Resolved} {label line : String}
    (h : m.checkAbsent label = some line) : line ≠ "" := by
  cases m with
  | accept => cases h
  | reject =>
    cases h
    exact falseLine_ne_empty label
  | compiled c =>
    obtain ⟨reason, -, rfl⟩ := Option.map_eq_some_iff.mp h
    exact ne_empty_of_append (.inl (ne_empty_of_append (.inr (by decide))))

end Resolved

theorem Registry.check_ne_empty {r : Registry} {label line : String} {s : Schema} {v : Json}
    (h : r.check label s v = some line) : line ≠ "" := by
  cases hResolve : r.resolve s with
  | error fault =>
    rw [check, hResolve] at h
    cases h
    exact fault.line_ne_empty label
  | ok m =>
    rw [check_of_resolve hResolve] at h
    exact Resolved.check_ne_empty h

namespace Contract

variable {r : Registry} {c : Contract} {f : Yield} {stage : Stage} {problems : List String}

theorem forall_inOrder {line? : String → Schema → Option String} {c : Contract}
    {P : String → Prop} (h : ∀ e ∈ c.schemas, ∀ line, line? e.1 e.2 = some line → P line) :
    ∀ line ∈ inOrder line? c, P line := by
  intro line hLine
  rw [← filterMap_schemas, List.mem_filterMap] at hLine
  obtain ⟨e, hMem, he⟩ := hLine
  exact h e hMem line he

theorem unknownReference_ne_empty {location line : String} {s : Schema}
    (h : unknownReference? r location s = some line) : line ≠ "" := by
  cases s with
  | reference name =>
    rw [unknownReference?] at h
    split_ifs at h
    cases h
    exact ne_empty_of_append (.inr (by decide))
  | _ => cases h

theorem badDefinition_ne_empty {location line : String} {s : Schema}
    (h : badDefinition? r location s = some line) : line ≠ "" := by
  cases s with
  | definition members =>
    rw [badDefinition?] at h
    split at h
    next => cases h
    next message _ =>
      cases h
      exact ne_empty_of_append (.inl (ne_empty_of_append (.inr (by decide))))
  | _ => cases h

theorem RefusesResult.ne_empty {line : String} {v : Result} (h : c.RefusesResult r line v) :
    line ≠ "" := by
  rw [refusesResult_iff] at h
  unfold Registry.Refuses at h
  split at h
  next => exact h.elim
  next =>
    rw [h]
    exact ne_empty_of_append (.inr (by decide))
  next =>
    obtain ⟨m, -, hm⟩ := h
    exact Resolved.checkAbsent_ne_empty hm
  next => exact Registry.check_ne_empty h

theorem Finds.ne_empty (h : c.Finds r f stage problems) : ∀ p ∈ problems, p ≠ "" := by
  cases h with
  | references => exact forall_inOrder fun _ _ _ => unknownReference_ne_empty
  | definitions => exact forall_inOrder fun _ _ _ => badDefinition_ne_empty
  | arguments =>
    intro line hLine
    obtain ⟨p, -, hp⟩ := List.mem_filterMap.mp hLine
    exact Registry.check_ne_empty hp
  | shape =>
    refine List.forall_mem_singleton.mpr ?_
    cases c.mode <;> decide
  | result hready v line hv hRefuses => exact List.forall_mem_singleton.mpr hRefuses.ne_empty

theorem lines_eq_iff (h : c.outcome r f = .error (.problems stage problems)) :
    (CallError.problems stage problems).lines = problems ↔ Text.AreLines problems :=
  Text.lines_unlines_eq_iff (finds_of_outcome h).ne_empty

end Contract

/-! ## Contracts that break no line -/

/-- The parameter is known by texts that break no line, and so are the members of its value. -/
structure Parameter.Plain (p : Parameter) : Prop where
  name : Unbroken p.name.toList
  label : Unbroken p.label.toList
  value : p.value.hasPlainNames = true
  schema : p.schema.Plain

theorem Parameter.plain_withName {name : String} (hName : Unbroken name.toList) {value : Json}
    (hValue : value.hasPlainNames = true) {s : Schema} (hs : s.Plain) :
    (withName name value s).Plain :=
  ⟨hName, unbroken_inQuotes.mpr hName, hValue, hs⟩

theorem Mode.unbroken_location (mode : Mode) : Unbroken mode.location.toList := by
  cases mode <;> decide

theorem Mode.unbroken_shapeLine (mode : Mode) : Unbroken mode.shapeLine.toList := by
  cases mode with
  | sync =>
    unfold shapeLine
    rw [unbroken_toList_append]
    exact ⟨unbroken_literal rfl, unbroken_literal rfl⟩
  | async => exact unbroken_literal rfl

theorem Mode.unbroken_label (mode : Mode) : Unbroken mode.label.toList := by
  cases mode <;> exact unbroken_literal rfl

namespace Contract

structure Plain (c : Contract) : Prop where
  parameters : ∀ p ∈ c.parameters.items, p.Plain
  result : ∀ s ∈ c.result, s.Plain

variable {r : Registry} {c : Contract} {f : Yield} {stage : Stage} {problems : List String}

theorem Plain.schemas (h : c.Plain) : ∀ e ∈ c.schemas, Unbroken e.1.toList ∧ e.2.Plain := by
  refine List.forall_mem_append.mpr ⟨List.forall_mem_map.mpr fun p hp => ?_, ?_⟩
  · exact ⟨(h.parameters p hp).name, (h.parameters p hp).schema⟩
  · intro e he
    obtain ⟨s, hs, rfl⟩ := Option.map_eq_some_iff.mp (Option.mem_toList.mp he)
    exact ⟨c.mode.unbroken_location, h.result s hs⟩

theorem unbroken_unknownReference {location line : String} (hLocation : Unbroken location.toList)
    {s : Schema} (hs : s.Plain) (h : unknownReference? r location s = some line) :
    Unbroken line.toList := by
  cases s with
  | reference name =>
    rw [unknownReference?] at h
    split_ifs at h
    cases h
    simp only [unbroken_toList_append]
    exact ⟨⟨⟨⟨unbroken_literal rfl, hs⟩, unbroken_literal rfl⟩, hLocation⟩, unbroken_literal rfl⟩
  | _ => cases h

theorem unbroken_badDefinition {location line : String} (hLocation : Unbroken location.toList)
    {s : Schema} (hs : s.Plain) (h : badDefinition? r location s = some line) :
    Unbroken line.toList := by
  cases s with
  | definition members =>
    have hCompile := Compiled.compile_ends r.config (by decide : Unbroken "schema".toList) hs
    rw [badDefinition?] at h
    split at h
    next => cases h
    next message hMessage =>
      cases h
      simp only [unbroken_toList_append]
      exact ⟨⟨⟨unbroken_literal rfl, hLocation⟩, unbroken_literal rfl⟩,
        hCompile.of_error hMessage⟩
  | _ => cases h

theorem Plain.unbroken_refusesResult (h : c.Plain) (hr : r.Plain) {v : Result}
    (hv : ∀ x ∈ v, x.hasPlainNames = true) {line : String} (hLine : c.RefusesResult r line v) :
    Unbroken line.toList := by
  have hLabel := c.mode.unbroken_label
  rw [refusesResult_iff] at hLine
  unfold Registry.Refuses at hLine
  split at hLine
  next => exact hLine.elim
  next =>
    rw [hLine, unbroken_toList_append]
    exact ⟨hLabel, unbroken_literal rfl⟩
  next s hs =>
    obtain ⟨m, hm, hAbsent⟩ := hLine
    have hResolved := (hr.resolve_ends (h.result s hs)).of_ok (Registry.resolve_eq_ok_iff.mpr hm)
    exact hResolved.unbroken_checkAbsent hLabel hAbsent
  next s x hs => exact hr.unbroken_check hLabel (h.result s hs) (hv x rfl) hLine

/-- What a function yields as a result has names that break no line. -/
def YieldsPlain (c : Contract) (f : Yield) : Prop :=
  ∀ v, c.mode.Yields f v → ∀ x ∈ v, x.hasPlainNames = true

theorem Finds.unbroken (h : c.Finds r f stage problems) (hr : r.Plain) (hc : c.Plain)
    (hf : c.YieldsPlain f) : ∀ p ∈ problems, Unbroken p.toList := by
  cases h with
  | references =>
    refine forall_inOrder fun e he line => ?_
    exact unbroken_unknownReference (hc.schemas e he).1 (hc.schemas e he).2
  | definitions =>
    refine forall_inOrder fun e he line => ?_
    exact unbroken_badDefinition (hc.schemas e he).1 (hc.schemas e he).2
  | arguments =>
    intro line hLine
    obtain ⟨p, hp, hCheck⟩ := List.mem_filterMap.mp hLine
    have hPlain := hc.parameters p hp
    exact hr.unbroken_check hPlain.label hPlain.schema hPlain.value hCheck
  | shape =>
    exact List.forall_mem_singleton.mpr c.mode.unbroken_shapeLine
  | result hready v line hv hRefuses =>
    exact List.forall_mem_singleton.mpr (hc.unbroken_refusesResult hr (hf v hv) hRefuses)

end Contract

/-! ## The lines of calls -/

theorem Text.areLines_of_unbroken {ls : List String} (h : ∀ l ∈ ls, Unbroken l.toList) :
    AreLines ls := by
  constructor
  · exact fun l hl hNewline => (h l hl '\n' hNewline).1 rfl
  · intro l hl hReturn
    have hLast : '\r' ∈ l.toList := List.mem_of_getLast? hReturn
    exact (h l (List.dropLast_subset ls hl) '\r' hLast).2 rfl

/-- An error that is not the function's own tells what a stage found. Its lines are the problems of
the stage exactly where these are lines, and they are if nothing in the schemas, the parameters and
the result breaks a line. -/
def Contract.Tells (r : Registry) (supplied : Json) (c : Contract) (f : Yield) (e : CallError) :
    Prop :=
  e.kind ≠ "Wrapped" → ∃ stage problems, e = .problems stage problems ∧
    c.Finds r f stage problems ∧ (e.lines = problems ↔ AreLines problems) ∧
      (supplied.isPlain = true → c.Plain → c.YieldsPlain f → e.lines = problems)

theorem Contract.tells_of_outcome {config : Config} {supplied : Json} {r : Registry}
    (hBuild : Registry.build config supplied = .ok r) {c : Contract} {f : Yield} {e : CallError}
    (h : c.outcome r f = .error e) : c.Tells r supplied f e := by
  intro hKind
  cases e with
  | wrapped text => exact absurd rfl hKind
  | problems stage problems =>
    have hFinds := finds_of_outcome h
    have hLines := lines_eq_iff h
    refine ⟨stage, problems, rfl, hFinds, hLines, fun hSupplied hc hf => ?_⟩
    have hr := Registry.plain_of_build hSupplied hBuild
    exact hLines.mpr (areLines_of_unbroken (hFinds.unbroken hr hc hf))

/-! ## One value -/

namespace CommandLine

/-- The call that checks one value. -/
def checkedAs (label : String) (v : Json) (s : Schema) : Contract :=
  ⟨.named [(label, v, s)], none, .sync⟩

theorem refused_checkedAs (r : Registry) (label : String) (v : Json) (s : Schema) :
    (checkedAs label v s).refused r = (r.check (inQuotes label) s v).toList := by
  change [Parameter.withName label v s].filterMap _ = _
  rw [List.filterMap_cons, List.filterMap_nil]
  cases h : r.check (inQuotes label) s v with
  | none => simp only [Parameter.withName, h, Option.toList_none]
  | some line => simp only [Parameter.withName, h, Option.toList_some]

theorem call_checkedAs (r : Registry) (label : String) (v : Json) (s : Schema) :
    (r.call (.named [(label, v, s)]) none (.ok (.ready none)) .zero).1 =
      (checkedAs label v s).outcome r (.ok (.ready none)) :=
  r.call_outcome _ none _ .zero

theorem checkValue_of_resolves {r : Registry} {s : Schema} (h : r.Resolves s) (label : String)
    (v : Json) :
    checkValue r label v s = .ok
      (CallError.problems .parameterValidation (r.check (inQuotes label) s v).toList).lines := by
  have hDeclared : ∀ t, (checkedAs label v s).Declares t → r.Resolves t := by
    rintro t (⟨p, hp, rfl⟩ | hResult)
    · rw [List.mem_singleton.mp hp]
      exact h
    · cases hResult
  have hInvalid := (Contract.invalid_eq_nil_iff r _).mpr hDeclared
  have hUnresolved := (Contract.unresolved_eq_nil_iff r _).mpr
    ((Contract.forall_resolves_iff r _).mp hDeclared).1
  rw [checkValue, call_checkedAs, Contract.outcome, Contract.checkArguments_eq,
    if_neg (not_not.mpr hUnresolved), if_neg (not_not.mpr hInvalid), refused_checkedAs]
  cases r.check (inQuotes label) s v with
  | none => rfl
  | some line => rfl

/-- A value that is checked by itself has one entry for what is wrong with it, or none, exactly
where that is a line, and it is if nothing in the schemas, the label and the value breaks a line. -/
def Reports (r : Registry) (supplied : Json) (label : String) (v : Json) (s : Schema) : Prop :=
  ∃ errors, checkValue r label v s = .ok errors ∧
    (errors = (r.check (inQuotes label) s v).toList ↔
      AreLines (r.check (inQuotes label) s v).toList) ∧
    (supplied.isPlain = true → Unbroken label.toList → v.hasPlainNames = true → s.Plain →
      errors = (r.check (inQuotes label) s v).toList)

theorem reports_of_resolves {config : Config} {supplied : Json} {r : Registry}
    (hBuild : Registry.build config supplied = .ok r) {s : Schema} (h : r.Resolves s)
    (label : String) (v : Json) : Reports r supplied label v s := by
  have hEmpty : ∀ line ∈ (r.check (inQuotes label) s v).toList, line ≠ "" :=
    fun line hLine => Registry.check_ne_empty (Option.mem_toList.mp hLine)
  have hLines := lines_unlines_eq_iff hEmpty
  refine ⟨_, checkValue_of_resolves h label v, hLines, fun hSupplied hLabel hv hs => ?_⟩
  have hr := Registry.plain_of_build hSupplied hBuild
  refine hLines.mpr (areLines_of_unbroken fun line hLine => ?_)
  exact hr.unbroken_check (unbroken_inQuotes.mpr hLabel) hs hv (Option.mem_toList.mp hLine)

end CommandLine

namespace Registry

/-- The lines of a failed call, at whichever entry, are the problems of the failing stage as long as
these are lines, and so are those of a value that is checked by itself. -/
theorem checkedCall_lines {config : Config} {supplied : Json} {r : Registry}
    (hBuild : build config supplied = .ok r) (ps : Parameters) (result : Option Schema) (f : Yield)
    (m : Meter) :
    (∀ e, ((r.call ps result f).run m).1 = .error e →
      Contract.Tells r supplied ⟨ps, result, .sync⟩ f e) ∧
    (∀ e, ((r.callAsync ps result f >>= Future.await).run m).1 = .error e →
      Contract.Tells r supplied ⟨ps, result, .async⟩ f e) ∧
    (∀ mode e, ((r.invoke ⟨ps, result, mode⟩ f >>= Invocation.outcome).run m).1 = .error e →
      Contract.Tells r supplied ⟨ps, result, mode⟩ f e) ∧
    ∀ label v s, r.Resolves s → CommandLine.Reports r supplied label v s := by
  refine ⟨fun e he => ?_, fun e he => ?_, fun mode e he => ?_, ?_⟩
  · exact Contract.tells_of_outcome hBuild ((r.call_outcome ps result f m).symm.trans he)
  · exact Contract.tells_of_outcome hBuild ((r.callAsync_outcome ps result f m).symm.trans he)
  · exact Contract.tells_of_outcome hBuild ((r.invoke_outcome _ f m).symm.trans he)
  · exact fun label v s hs => CommandLine.reports_of_resolves hBuild hs label v

theorem exists_build_missing (config : Config) :
    ∃ r, build config (.object []) = .ok r ∧ r.has "missing" = false := by
  have hAdmissible : Admissible (.object []) [] := ⟨rfl, rfl, rfl⟩
  obtain ⟨r, hBuild⟩ := exists_build hAdmissible nofun
  refine ⟨r, hBuild, ?_⟩
  rw [Bool.eq_false_iff, ne_eq, (holds_of_build hBuild List.nodup_nil).has_iff]
  decide +kernel

/-- Named parameters that all refer to one schema. -/
def referring (name : String) (parameters : List String) : Parameters :=
  .named (parameters.map fun p => (p, .null, .reference name))

theorem call_referring {r : Registry} {name : String} (h : r.has name = false)
    (parameters : List String) (hSome : parameters ≠ [])
    (hItems : (referring name parameters).items =
      parameters.map fun p => .withName p .null (.reference name)) (m : Meter) :
    ((r.call (referring name parameters) none (.ok (.ready none))).run m).1 =
      .error (.problems .referenceResolution
        (parameters.map fun p => Contract.unknownLine p name)) := by
  have hUnknown : Contract.unknownReferences r ⟨referring name parameters, none, .sync⟩ =
      parameters.map fun p => Contract.unknownLine p name := by
    rw [Contract.unknownReferences, Contract.inOrder, hItems, List.filterMap_map]
    refine (List.append_nil _).trans (List.filterMap_eq_map_iff_forall_eq_some.mpr fun p _ => ?_)
    rw [Contract.unknownLine_eq]
    exact if_neg (by simp [h])
  rw [call_outcome, Contract.outcome_of_error
    (Contract.checkArguments_of_unknownReferences (by simpa [hUnknown] using hSome)), hUnknown]

/-- Two parameters with an unknown schema make two lines. -/
theorem lines_of_twoNames :
    ∃ r e, build Config.standard (.object []) = .ok r ∧
      ((r.call (referring "missing" ["first", "second"]) none (.ok (.ready none))).run .zero).1 =
        .error e ∧
      e.lines = ["Unknown schema reference \"missing\" for \"first\"",
        "Unknown schema reference \"missing\" for \"second\""] := by
  obtain ⟨r, hBuild, hMissing⟩ := exists_build_missing Config.standard
  have hCall := call_referring hMissing ["first", "second"] (List.cons_ne_nil _ _) rfl .zero
  have hNames : ∀ p ∈ ["first", "second"], Unbroken p.toList := by decide
  have hReference : (Schema.reference "missing").Plain := (by decide : Unbroken "missing".toList)
  have hPlain : Contract.Plain ⟨referring "missing" ["first", "second"], none, .sync⟩ :=
    ⟨List.forall_mem_map.mpr fun p hp =>
      Parameter.plain_withName (hNames p hp) rfl hReference, nofun⟩
  refine ⟨r, _, hBuild, hCall, ?_⟩
  obtain ⟨stage, problems, hEq, -, -, hLines⟩ :=
    (checkedCall_lines hBuild _ none _ .zero).1 _ hCall (by decide)
  cases hEq
  exact hLines rfl hPlain (fun v hv x hx => by cases hv; cases hx)

/-- A name with a newline splits the one problem about its parameter into two lines. -/
theorem lines_of_brokenName :
    ∃ r problems, build Config.standard (.object []) = .ok r ∧
      ((r.call (referring "missing" ["first\nsecond"]) none (.ok (.ready none))).run .zero).1 =
        .error (.problems .referenceResolution problems) ∧
      problems.length = 1 ∧
        (CallError.problems .referenceResolution problems).lines.length = 2 := by
  obtain ⟨r, hBuild, hMissing⟩ := exists_build_missing Config.standard
  have hCall := call_referring hMissing ["first\nsecond"] (List.cons_ne_nil _ _) rfl .zero
  refine ⟨r, _, hBuild, hCall, rfl, ?_⟩
  decide +kernel

end Registry

end SchemaContract
