import SchemaContract.Proofs.Lists
import SchemaContract.Proofs.Outcome

/-!
# Schemas of one meaning

A call sees its schemas through what they mean in the registry. Two contracts that differ in their
schemas alone, and whose schemas mean the same position by position, each in its own registry, run
alike: with one outcome, and with the same counts of calls and polls.
-/

namespace SchemaContract

/-- Both say the same about every value and about a missing one, under every label. -/
structure Resolved.Alike (m m' : Resolved) : Prop where
  check : ∀ label v, m.check label v = m'.check label v
  checkAbsent : ∀ label, m.checkAbsent label = m'.checkAbsent label

theorem Resolved.Alike.refl (m : Resolved) : m.Alike m := ⟨fun _ _ => rfl, fun _ => rfl⟩

/-- A schema comes to the same in one registry as another one in a second: to one fault, or to
meanings that are alike. -/
inductive Schema.MeansAlike (r r' : Registry) (s s' : Schema) : Prop where
  | fault (fault : ResolveFault) (h : r.resolve s = .error fault)
      (h' : r'.resolve s' = .error fault)
  | alike {m m' : Resolved} (h : r.resolve s = .ok m) (h' : r'.resolve s' = .ok m')
      (hAlike : m.Alike m')

/-- Parameters that differ in their schemas alone, and these mean the same. -/
structure Parameter.Alike (r r' : Registry) (p p' : Parameter) : Prop where
  name : p.name = p'.name
  label : p.label = p'.label
  value : p.value = p'.value
  schema : p.schema.MeansAlike r r' p'.schema

structure Contract.Alike (r r' : Registry) (c c' : Contract) : Prop where
  parameters : List.Forall₂ (Parameter.Alike r r') c.parameters.items c'.parameters.items
  result : Option.Rel (Schema.MeansAlike r r') c.result c'.result
  mode : c.mode = c'.mode

namespace Schema.MeansAlike

variable {r r' : Registry} {s s' : Schema}

theorem of_resolve_eq (h : r.resolve s = r'.resolve s') : s.MeansAlike r r' s' := by
  cases hResolve : r.resolve s with
  | error fault => exact .fault fault hResolve (h.symm.trans hResolve)
  | ok m => exact .alike hResolve (h.symm.trans hResolve) (.refl m)

theorem check_eq (h : s.MeansAlike r r' s') (label : String) (v : Json) :
    r.check label s v = r'.check label s' v := by
  rw [Registry.check, Registry.check]
  obtain ⟨fault, h, h'⟩ | ⟨h, h', hAlike⟩ := h
  · rw [h, h']
  · rw [h, h']
    exact hAlike.check label v

theorem toOption_rel (h : s.MeansAlike r r' s') :
    Option.Rel Resolved.Alike (r.resolve s).toOption (r'.resolve s').toOption := by
  obtain ⟨fault, h, h'⟩ | ⟨h, h', hAlike⟩ := h
  · rw [h, h']
    exact .none
  · rw [h, h']
    exact .some hAlike

end Schema.MeansAlike

namespace Contract

/-! ## Stages before the call -/

/-- Whether a reference is unknown shows in its meaning, and nothing but references is unknown. -/
theorem unresolved_eq_filterMap (r : Registry) (c : Contract) :
    c.unresolved r = c.schemas.filterMap fun e =>
      match r.resolve e.2 with
      | .error (.unknownReference name) => some (unknownLine e.1 name)
      | _ => none := by
  rw [unresolved]
  refine congrArg (c.schemas.filterMap ·) (funext fun e => ?_)
  obtain ⟨location, s⟩ := e
  cases s with
  | accept => rfl
  | reject => rfl
  | definition members =>
    simp only [Schema.reference?, Registry.resolve]
    cases Compiled.compile r.config "schema" (.object members) <;> rfl
  | reference name =>
    simp only [Schema.reference?, Registry.resolve, Registry.has_eq_isSome]
    cases r.get? name <;> rfl

namespace Alike

variable {r r' : Registry} {c c' : Contract}

theorem schemas (h : c.Alike r r' c') :
    List.Forall₂ (fun e e' => e.1 = e'.1 ∧ e.2.MeansAlike r r' e'.2) c.schemas c'.schemas := by
  obtain ⟨hParameters, hResult, hMode⟩ := h
  rw [Contract.schemas, Contract.schemas, hMode]
  refine List.rel_append ?_ ?_
  · refine List.forall₂_map_left_iff.mpr (List.forall₂_map_right_iff.mpr ?_)
    exact hParameters.imp fun p p' hp => ⟨hp.name, hp.schema⟩
  · generalize c.result = result at hResult
    generalize c'.result = result' at hResult
    cases hResult with
    | none => exact .nil
    | some hs => exact .cons ⟨rfl, hs⟩ .nil

theorem unresolved_eq (h : c.Alike r r' c') : c.unresolved r = c'.unresolved r' := by
  rw [unresolved_eq_filterMap, unresolved_eq_filterMap]
  refine (filterMap_eq_of_forall₂ (fun e e' he => ?_) h.schemas).symm
  obtain ⟨hLocation, ⟨fault, hFault, hFault'⟩ | ⟨hm, hm', -⟩⟩ := he
  · simp only [hLocation, hFault, hFault']
  · simp only [hm, hm']

theorem invalid_eq (h : c.Alike r r' c') : c.invalid r = c'.invalid r' := by
  refine (filterMap_eq_of_forall₂ (fun e e' he => ?_) h.schemas).symm
  obtain ⟨hLocation, ⟨fault, hFault, hFault'⟩ | ⟨hm, hm', -⟩⟩ := he
  · simp only [hLocation, hFault, hFault']
  · simp only [hm, hm']

theorem refused_eq (h : c.Alike r r' c') : c.refused r = c'.refused r' := by
  refine (filterMap_eq_of_forall₂ (fun p p' hp => ?_) h.parameters).symm
  rw [← hp.label, ← hp.value, hp.schema.check_eq]

theorem resolvedResult_rel (h : c.Alike r r' c') :
    Option.Rel Resolved.Alike (c.resolvedResult r) (c'.resolvedResult r') := by
  have hResult := h.result
  rw [resolvedResult, resolvedResult]
  generalize c.result = result at hResult
  generalize c'.result = result' at hResult
  cases hResult with
  | none => exact .none
  | some hs => exact hs.toOption_rel

end Alike

/-! ## The call -/

theorem resultLine_eq_of_rel {schema schema' : Option Resolved}
    (h : Option.Rel Resolved.Alike schema schema') (mode : Mode) (v : Result) :
    resultLine mode schema v = resultLine mode schema' v := by
  cases h with
  | none => rfl
  | some hAlike =>
    cases v with
    | none => exact hAlike.checkAbsent mode.label
    | some x => exact hAlike.check mode.label x

theorem checkResult_eq_of_rel {schema schema' : Option Resolved}
    (h : Option.Rel Resolved.Alike schema schema') (mode : Mode) (v : Result) :
    checkResult mode schema v = checkResult mode schema' v := by
  rw [checkResult, checkResult, resultLine_eq_of_rel h]

theorem finish_eq_of_rel {schema schema' : Option Resolved}
    (h : Option.Rel Resolved.Alike schema schema') (f : Yield) :
    finish schema f = finish schema' f := by
  rcases f with text | result | value
  · rfl
  · exact checkResult_eq_of_rel h .sync result
  · rfl

theorem await_start_eq_of_rel {schema schema' : Option Resolved}
    (h : Option.Rel Resolved.Alike schema schema') (f : Yield) (m : Meter) :
    (start schema f).await.run m = (start schema' f).await.run m := by
  rcases f with text | result | ⟨delay, text | v⟩
  · rfl
  · rfl
  · simp only [start, Future.await_run, Future.eventual, Future.settle, Future.pollsLeft]
  · simp only [start, Future.await_run, Future.eventual, Future.settle, Future.pollsLeft,
      checkResult_eq_of_rel h]

namespace Alike

variable {r r' : Registry} {c c' : Contract}

/-- The stages before the call end with one error, or leave schemas of the result that are alike. -/
theorem checkArguments_cases (h : c.Alike r r' c') :
    (∃ e, c.checkArguments r = .error e ∧ c'.checkArguments r' = .error e) ∨
      ∃ schema schema', c.checkArguments r = .ok schema ∧ c'.checkArguments r' = .ok schema' ∧
        Option.Rel Resolved.Alike schema schema' := by
  rw [checkArguments_eq, checkArguments_eq, ← h.unresolved_eq, ← h.invalid_eq, ← h.refused_eq]
  split_ifs with hUnresolved hInvalid hRefused
  · exact .inl ⟨_, rfl, rfl⟩
  · exact .inl ⟨_, rfl, rfl⟩
  · exact .inl ⟨_, rfl, rfl⟩
  · exact .inr ⟨_, _, rfl, rfl, h.resolvedResult_rel⟩

theorem runSync_eq (h : c.Alike r r' c') (f : Yield) (m : Meter) :
    (c.runSync r f).run m = (c'.runSync r' f).run m := by
  rw [runSync_run, runSync_run]
  obtain ⟨e, he, he'⟩ | ⟨schema, schema', hs, hs', hRel⟩ := h.checkArguments_cases
  · rw [he, he']
  · rw [hs, hs']
    exact congrArg (·, _) (finish_eq_of_rel hRel f)

theorem await_runAsync_eq (h : c.Alike r r' c') (f : Yield) (m : Meter) :
    (c.runAsync r f >>= Future.await).run m = (c'.runAsync r' f >>= Future.await).run m := by
  rw [StateT.run_bind, StateT.run_bind, runAsync_run, runAsync_run]
  obtain ⟨e, he, he'⟩ | ⟨schema, schema', hs, hs', hRel⟩ := h.checkArguments_cases
  · rw [he, he']
  · rw [hs, hs']
    exact await_start_eq_of_rel hRel f _

end Alike

end Contract

namespace Registry

/-- Two calls that run to one outcome, whatever the function yields, and count the same on the way,
at whichever entry. -/
structure CallsAlike (r r' : Registry) (ps ps' : Parameters) (result result' : Option Schema) :
    Prop where
  call : ∀ f m, (r.call ps result f).run m = (r'.call ps' result' f).run m
  callAsync : ∀ f m, (r.callAsync ps result f >>= Future.await).run m =
    (r'.callAsync ps' result' f >>= Future.await).run m
  invoke : ∀ mode f m, (r.invoke ⟨ps, result, mode⟩ f >>= Invocation.outcome).run m =
    (r'.invoke ⟨ps', result', mode⟩ f >>= Invocation.outcome).run m

theorem invoke_sync_run (r : Registry) (ps : Parameters) (result : Option Schema) (f : Yield)
    (m : Meter) : (r.invoke ⟨ps, result, .sync⟩ f >>= Invocation.outcome).run m =
      (r.call ps result f).run m := rfl

theorem invoke_async_run (r : Registry) (ps : Parameters) (result : Option Schema) (f : Yield)
    (m : Meter) : (r.invoke ⟨ps, result, .async⟩ f >>= Invocation.outcome).run m =
      (r.callAsync ps result f >>= Future.await).run m := rfl

theorem callsAlike_of_meansAlike {r r' : Registry} {ps ps' : Parameters}
    {result result' : Option Schema}
    (hParameters : List.Forall₂ (Parameter.Alike r r') ps.items ps'.items)
    (hResult : Option.Rel (Schema.MeansAlike r r') result result') :
    r.CallsAlike r' ps ps' result result' := by
  have h : ∀ mode, Contract.Alike r r' ⟨ps, result, mode⟩ ⟨ps', result', mode⟩ :=
    fun _ => ⟨hParameters, hResult, rfl⟩
  have hCall : ∀ f m, (r.call ps result f).run m = (r'.call ps' result' f).run m :=
    (h .sync).runSync_eq
  have hCallAsync : ∀ f m, (r.callAsync ps result f >>= Future.await).run m =
      (r'.callAsync ps' result' f >>= Future.await).run m :=
    (h .async).await_runAsync_eq
  refine ⟨hCall, hCallAsync, fun mode f m => ?_⟩
  cases mode with
  | sync => rw [invoke_sync_run, invoke_sync_run, hCall]
  | async => rw [invoke_async_run, invoke_async_run, hCallAsync]

end Registry

end SchemaContract
