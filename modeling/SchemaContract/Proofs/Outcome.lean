import SchemaContract.Proofs.Resolution

/-!
# Outcomes of checked calls

The synchronous and the asynchronous run come to one outcome each, which depends on the registry,
the contract and the function alone. A call succeeds with a result exactly when its schemas resolve,
its arguments are accepted, the function yields the result in the manner of the contract, and the
schema of the result accepts it.
-/

namespace SchemaContract

namespace Future

/-- The outcome that a future comes to, however often it is asked for. -/
def eventual : Future → Outcome
  | .finished outcome => outcome
  | .waiting value schema => settle schema value.settlement

/-- How often the pending value of a future is still to be polled. -/
def pollsLeft : Future → Nat
  | .finished _ => 0
  | .waiting value _ => value.delay + 1

theorem awaitValue_run (schema : Option Resolved) (s : Settlement) (n : Nat) (m : Meter) :
    (awaitValue schema s n).run m = (settle schema s, { m with polls := m.polls + (n + 1) }) := by
  induction n generalizing m with
  | zero => rfl
  | succ n ih =>
    change (awaitValue schema s n).run { m with polls := m.polls + 1 } = _
    rw [ih, Nat.add_assoc, Nat.add_comm 1]

theorem await_run (f : Future) (m : Meter) :
    f.await.run m = (f.eventual, { m with polls := m.polls + f.pollsLeft }) := by
  cases f with
  | finished outcome => rfl
  | waiting value schema => exact awaitValue_run schema value.settlement value.delay m

end Future

namespace Contract

/-- What a synchronous call makes of what its function yields. -/
def finish (schema : Option Resolved) : Yield → Outcome
  | .error text => .error (.wrapped text)
  | .ok (.ready result) => checkResult .sync schema result
  | .ok (.pending _) => .error (.problems .resultShape [unexpectedPending])

/-- What an asynchronous call makes of what its function yields. -/
def start (schema : Option Resolved) : Yield → Future
  | .error text => .finished (.error (.wrapped text))
  | .ok (.ready _) => .finished (.error (.problems .resultShape [expectedPending]))
  | .ok (.pending value) => .waiting value schema

theorem runSync_run (r : Registry) (c : Contract) (f : Yield) (m : Meter) :
    (c.runSync r f).run m =
      match c.checkArguments r with
      | .error e => (.error e, m)
      | .ok schema => (finish schema f, { m with calls := m.calls + 1 }) := by
  rw [runSync]
  cases c.checkArguments r with
  | error e => rfl
  | ok schema => rcases f with text | result | value <;> rfl

theorem runAsync_run (r : Registry) (c : Contract) (f : Yield) (m : Meter) :
    (c.runAsync r f).run m =
      match c.checkArguments r with
      | .error e => (.finished (.error e), m)
      | .ok schema => (start schema f, { m with calls := m.calls + 1 }) := by
  rw [runAsync]
  cases c.checkArguments r with
  | error e => rfl
  | ok schema => rcases f with text | result | value <;> rfl

/-- What a call comes to after its function has been called. -/
def conclude (schema : Option Resolved) (f : Yield) : Mode → Outcome
  | .sync => finish schema f
  | .async => (start schema f).eventual

/-- The outcome of a call, in the mode of its contract. -/
def outcome (r : Registry) (c : Contract) (f : Yield) : Outcome :=
  match c.checkArguments r with
  | .error e => .error e
  | .ok schema => conclude schema f c.mode

theorem outcome_of_error {r : Registry} {c : Contract} {e : CallError}
    (h : c.checkArguments r = .error e) (f : Yield) : c.outcome r f = .error e := by
  rw [outcome, h]

theorem outcome_of_passes {r : Registry} {c : Contract} (h : c.Passes r) (f : Yield) :
    c.outcome r f = conclude (c.resolvedResult r) f c.mode := by
  rw [outcome, checkArguments_of_passes h]

end Contract

namespace Registry

theorem call_outcome (r : Registry) (ps : Parameters) (result : Option Schema) (f : Yield)
    (m : Meter) :
    ((r.call ps result f).run m).1 = Contract.outcome r ⟨ps, result, .sync⟩ f := by
  rw [call, Contract.runSync_run, Contract.outcome]
  cases Contract.checkArguments r ⟨ps, result, .sync⟩ <;> rfl

theorem callAsync_outcome (r : Registry) (ps : Parameters) (result : Option Schema) (f : Yield)
    (m : Meter) :
    ((r.callAsync ps result f >>= Future.await).run m).1 =
      Contract.outcome r ⟨ps, result, .async⟩ f := by
  rw [StateT.run_bind, callAsync, Contract.runAsync_run, Contract.outcome]
  cases Contract.checkArguments r ⟨ps, result, .async⟩ with
  | error e => rfl
  | ok schema => exact congrArg Prod.fst (Future.await_run (Contract.start schema f) _)

theorem invoke_outcome (r : Registry) (c : Contract) (f : Yield) (m : Meter) :
    ((r.invoke c f >>= Invocation.outcome).run m).1 = c.outcome r f := by
  obtain ⟨ps, result, mode⟩ := c
  cases mode with
  | sync => exact r.call_outcome ps result f m
  | async => exact r.callAsync_outcome ps result f m

end Registry

/-- Whether a function yields a result in the manner of a mode. -/
def Mode.Yields (f : Yield) (v : Result) : Mode → Prop
  | .sync => f = .ok (.ready v)
  | .async => ∃ delay, f = .ok (.pending ⟨delay, .ok v⟩)

namespace Contract

/-- Whether the schema of the result accepts a result. Without a schema there must be none. -/
def AcceptsResult (r : Registry) (c : Contract) (v : Result) : Prop :=
  match c.result with
  | none => v = none
  | some s => ∃ m, r.Means s m ∧
    match v with
    | none => m.acceptsAbsence = true
    | some x => m.accepts x = true

/-- Whether a call ends well with a result. -/
structure Completes (r : Registry) (c : Contract) (f : Yield) (v : Result) : Prop
    extends Passes r c where
  yields : c.mode.Yields f v
  result : c.AcceptsResult r v

theorem resultLine_eq_none_iff {r : Registry} {c : Contract} (h : c.Passes r) (mode : Mode)
    (v : Result) : resultLine mode (c.resolvedResult r) v = none ↔ c.AcceptsResult r v := by
  cases hs : c.result with
  | none => cases v <;> simp [resolvedResult, AcceptsResult, resultLine, hs]
  | some s =>
    obtain ⟨m, hm⟩ := h.resolves (.inr hs)
    have hresult : c.resolvedResult r = some m := by simp [resolvedResult, hs, hm, Except.toOption]
    rw [hresult, AcceptsResult, hs]
    cases v with
    | none =>
      simp [← Registry.resolve_eq_ok_iff, resultLine, hm, Resolved.checkAbsent_eq_none_iff]
    | some x => simp [← Registry.resolve_eq_ok_iff, resultLine, hm, Resolved.check_eq_none_iff]

theorem checkResult_eq_ok_iff (mode : Mode) (schema : Option Resolved) (w v : Result) :
    checkResult mode schema w = .ok v ↔ w = v ∧ resultLine mode schema v = none := by
  rw [checkResult]
  constructor
  · intro h
    split at h
    · rename_i hnone
      cases h
      exact ⟨rfl, hnone⟩
    · cases h
  · rintro ⟨rfl, h⟩
    rw [h]

theorem conclude_eq_ok_iff (schema : Option Resolved) (f : Yield) (mode : Mode) (v : Result) :
    conclude schema f mode = .ok v ↔ mode.Yields f v ∧ resultLine mode schema v = none := by
  cases mode with
  | sync => rcases f with text | w | value <;>
      simp [conclude, finish, Mode.Yields, checkResult_eq_ok_iff]
  | async => rcases f with text | w | ⟨delay, text | w⟩ <;>
      simp [conclude, start, Future.eventual, Future.settle, Mode.Yields, checkResult_eq_ok_iff]

theorem outcome_eq_ok_iff (r : Registry) (c : Contract) (f : Yield) (v : Result) :
    c.outcome r f = .ok v ↔ c.Completes r f v := by
  by_cases h : c.Passes r
  · rw [outcome_of_passes h, conclude_eq_ok_iff, resultLine_eq_none_iff h]
    exact ⟨fun ⟨hy, hr⟩ => ⟨h, hy, hr⟩, fun hc => ⟨hc.yields, hc.result⟩⟩
  · obtain ⟨e, he⟩ := checkArguments_of_not_passes h
    rw [outcome_of_error he]
    constructor
    · intro hok
      cases hok
    · intro hc
      exact absurd hc.toPasses h

theorem not_acceptsResult_some {r : Registry} {c : Contract} (h : c.result = none) (x : Json) :
    ¬ c.AcceptsResult r (some x) := by
  simp [AcceptsResult, h]

end Contract

/-- A call hands out a result, at whichever entry, exactly when every stage passes; without a schema
for the result that is never a value. -/
theorem Registry.checkedCall_eq_ok_iff (r : Registry) (ps : Parameters) (result : Option Schema)
    (f : Yield) (v : Result) (m : Meter) :
    (((r.call ps result f).run m).1 = .ok v ↔
      Contract.Completes r ⟨ps, result, .sync⟩ f v) ∧
    (((r.callAsync ps result f >>= Future.await).run m).1 = .ok v ↔
      Contract.Completes r ⟨ps, result, .async⟩ f v) ∧
    (∀ mode, ((r.invoke ⟨ps, result, mode⟩ f >>= Invocation.outcome).run m).1 = .ok v ↔
      Contract.Completes r ⟨ps, result, mode⟩ f v) ∧
    ∀ mode x, ¬ Contract.Completes r ⟨ps, none, mode⟩ f (some x) := by
  refine ⟨?_, ?_, ?_, ?_⟩
  · rw [r.call_outcome]
    exact Contract.outcome_eq_ok_iff r _ f v
  · rw [r.callAsync_outcome]
    exact Contract.outcome_eq_ok_iff r _ f v
  · intro mode
    rw [r.invoke_outcome]
    exact Contract.outcome_eq_ok_iff r _ f v
  · intro mode x h
    exact Contract.not_acceptsResult_some rfl x h.result

end SchemaContract
