import Mathlib.Logic.Function.Iterate
import SchemaContract.Proofs.Outcome

/-!
# Schedules of checked calls

Any number of calls may be under way at once on one registry, and whoever runs them asks for their
outcomes in any order. The function of a call is called when the call is entered, once or not at
all; a pending value is polled only when its call is asked for, once each time, until it settles.
-/

namespace SchemaContract

/-- A call under way: what was found when it was last asked for, and its own counts. -/
structure Flight where
  state : Poll Future Outcome
  meter : Meter

namespace Flight

/-- Asks for the outcome of a call; one that has its outcome is not asked again. -/
def ask : Flight → Flight
  | ⟨.unready future, m⟩ => ⟨(future.poll.run m).1, (future.poll.run m).2⟩
  | ⟨.ready outcome, m⟩ => ⟨.ready outcome, m⟩

def outcome? (flight : Flight) : Option Outcome :=
  match flight.state with
  | .unready _ => none
  | .ready outcome => some outcome

def ofInvocation : Invocation × Meter → Flight
  | (.settled outcome, m) => ⟨.ready outcome, m⟩
  | (.pending future, m) => ⟨.unready future, m⟩

/-- A call that has just been entered. -/
def enter (r : Registry) (c : Contract) (f : Yield) : Flight :=
  ofInvocation ((r.invoke c f).run .zero)

theorem iterate_ask_ready (outcome : Outcome) (m : Meter) (k : Nat) :
    ask^[k] ⟨.ready outcome, m⟩ = ⟨.ready outcome, m⟩ := by
  induction k with
  | zero => rfl
  | succ k ih => exact ih

theorem iterate_ask_waiting (n k : Nat) (s : Settlement) (schema : Option Resolved) (m : Meter) :
    ask^[k] ⟨.unready (.waiting ⟨n, s⟩ schema), m⟩ =
      if k ≤ n then
        ⟨.unready (.waiting ⟨n - k, s⟩ schema), { m with polls := m.polls + k }⟩
      else ⟨.ready (Future.settle schema s), { m with polls := m.polls + (n + 1) }⟩ := by
  induction k generalizing n m with
  | zero => rfl
  | succ k ih =>
    rw [Function.iterate_succ_apply]
    cases n with
    | zero => exact iterate_ask_ready _ _ k
    | succ n =>
      -- The first request counts one poll and leaves a value that is one poll nearer.
      have hask : ask ⟨.unready (.waiting ⟨n + 1, s⟩ schema), m⟩ =
          ⟨.unready (.waiting ⟨n, s⟩ schema), { m with polls := m.polls + 1 }⟩ := rfl
      rw [hask, ih]
      simp only [Nat.add_le_add_iff_right, Nat.add_sub_add_right, Nat.add_assoc, Nat.add_comm 1]

theorem iterate_ask_finished (outcome : Outcome) (m : Meter) (k : Nat) :
    ask^[k] ⟨.unready (.finished outcome), m⟩ =
      if k = 0 then ⟨.unready (.finished outcome), m⟩ else ⟨.ready outcome, m⟩ := by
  cases k with
  | zero => rfl
  | succ k => exact iterate_ask_ready outcome m k

end Flight

namespace Schedule

/-- A call is entered, or the outcome of one is asked for by its position in the order of entry. -/
inductive Event where
  | enter (contract : Contract) (function : Yield)
  | ask (position : Nat)

def Event.isEntry : Event → Bool
  | .enter _ _ => true
  | .ask _ => false

def Event.asksFor (i : Nat) : Event → Bool
  | .enter _ _ => false
  | .ask j => j == i

def entries (es : List Event) : Nat := es.countP Event.isEntry

/-- How often the events ask for the outcome of a call. -/
def asks (i : Nat) (es : List Event) : Nat := es.countP (Event.asksFor i)

def step (r : Registry) (flights : List Flight) : Event → List Flight
  | .enter c f => flights ++ [.enter r c f]
  | .ask i => flights.modify i Flight.ask

def run (r : Registry) (flights : List Flight) (es : List Event) : List Flight :=
  es.foldl (step r) flights

theorem asks_cons (i : Nat) (e : Event) (es : List Event) :
    asks i (e :: es) = asks i es + if e.asksFor i then 1 else 0 := List.countP_cons

theorem length_step (r : Registry) (flights : List Flight) (e : Event) :
    (step r flights e).length = flights.length + entries [e] := by
  cases e <;> simp [step, entries, Event.isEntry]

theorem length_run (r : Registry) (flights : List Flight) (es : List Event) :
    (run r flights es).length = flights.length + entries es := by
  induction es generalizing flights with
  | nil => rfl
  | cons e es ih =>
    have hcount : entries (e :: es) = entries [e] + entries es := by
      rw [← List.singleton_append]
      exact List.countP_append
    rw [run, List.foldl_cons, ← run, ih, length_step, hcount, Nat.add_assoc]

theorem getElem?_step (r : Registry) {flights : List Flight} {i : Nat} {flight : Flight}
    (h : flights[i]? = some flight) (e : Event) :
    (step r flights e)[i]? = some (if e.asksFor i then flight.ask else flight) := by
  cases e with
  | enter c f =>
    have hlt : i < flights.length := (List.getElem?_eq_some_iff.mp h).1
    simp [step, Event.asksFor, List.getElem?_append_left hlt, h]
  | ask j =>
    by_cases hij : j = i <;> simp [step, Event.asksFor, h, hij]

/-- Whatever is interleaved, a call depends only on how often it was asked for. -/
theorem getElem?_run (r : Registry) {flights : List Flight} {i : Nat} {flight : Flight}
    (h : flights[i]? = some flight) (es : List Event) :
    (run r flights es)[i]? = some (Flight.ask^[asks i es] flight) := by
  induction es generalizing flights flight with
  | nil => exact h
  | cons e es ih =>
    rw [run, List.foldl_cons, ← run, ih (getElem?_step r h e), asks_cons]
    cases e.asksFor i with
    | true => simp only [↓reduceIte, Function.iterate_succ_apply]
    | false => simp only [Bool.false_eq_true, ↓reduceIte, Nat.add_zero]

theorem getElem?_run_enter (r : Registry) (c : Contract) (f : Yield) (before after : List Event) :
    (run r [] (before ++ .enter c f :: after))[entries before]? =
      some (Flight.ask^[asks (entries before) after] (.enter r c f)) := by
  have hlength : (run r [] before).length = entries before := by
    rw [length_run, List.length_nil, Nat.zero_add]
  have hstart : (step r (run r [] before) (.enter c f))[entries before]? = some (.enter r c f) := by
    rw [step, ← hlength, List.getElem?_concat_length]
  have hrun : run r [] (before ++ .enter c f :: after) =
      run r (step r (run r [] before) (.enter c f)) after := by
    rw [run, List.foldl_append, List.foldl_cons]
    rfl
  rw [hrun, getElem?_run r hstart]

end Schedule

/-- The pending value that a call of the mode takes from what its function yields. -/
def Mode.held? (f : Yield) : Mode → Option Pending
  | .sync => none
  | .async =>
    match f with
    | .ok (.pending value) => some value
    | _ => none

namespace Contract

/-- How often entering a call calls its function. -/
def calls (r : Registry) (c : Contract) : Nat := if c.Passes r then 1 else 0

/-- The pending value that a call waits for. -/
def held? (r : Registry) (c : Contract) (f : Yield) : Option Pending :=
  if c.Passes r then c.mode.held? f else none

/-- How often a call has to be asked for until it has its outcome. -/
def asksNeeded (r : Registry) (c : Contract) (f : Yield) : Nat :=
  match c.mode with
  | .sync => 0
  | .async => ((c.held? r f).map Pending.delay).getD 0 + 1

def future (r : Registry) (c : Contract) (f : Yield) : Future :=
  match c.checkArguments r with
  | .error e => .finished (.error e)
  | .ok schema => start schema f

theorem runSync_eq (r : Registry) (c : Contract) (f : Yield) (m : Meter) (h : c.mode = .sync) :
    (c.runSync r f).run m = (c.outcome r f, ⟨m.calls + c.calls r, m.polls⟩) := by
  rw [runSync_run, outcome, calls, h]
  by_cases hpasses : c.Passes r
  · rw [checkArguments_of_passes hpasses, if_pos hpasses]
    rfl
  · obtain ⟨e, he⟩ := checkArguments_of_not_passes hpasses
    rw [he, if_neg hpasses]
    rfl

theorem runAsync_eq (r : Registry) (c : Contract) (f : Yield) (m : Meter) :
    (c.runAsync r f).run m = (c.future r f, ⟨m.calls + c.calls r, m.polls⟩) := by
  rw [runAsync_run, future, calls]
  by_cases hpasses : c.Passes r
  · rw [checkArguments_of_passes hpasses, if_pos hpasses]
  · obtain ⟨e, he⟩ := checkArguments_of_not_passes hpasses
    rw [he, if_neg hpasses]
    rfl

theorem future_cases (r : Registry) {c : Contract} (f : Yield) (h : c.mode = .async) :
    (c.held? r f = none ∧ c.future r f = .finished (c.outcome r f)) ∨
    ∃ value schema, c.held? r f = some value ∧ c.future r f = .waiting value schema ∧
      Future.settle schema value.settlement = c.outcome r f := by
  by_cases hpasses : c.Passes r
  · rw [future, outcome_of_passes hpasses, checkArguments_of_passes hpasses, held?,
      if_pos hpasses, h]
    rcases f with text | result | value
    · exact .inl ⟨rfl, rfl⟩
    · exact .inl ⟨rfl, rfl⟩
    · exact .inr ⟨value, c.resolvedResult r, rfl, rfl, rfl⟩
  · obtain ⟨e, he⟩ := checkArguments_of_not_passes hpasses
    rw [future, outcome_of_error he, he, held?, if_neg hpasses]
    exact .inl ⟨rfl, rfl⟩

end Contract

namespace Registry

theorem invoke_sync_eq (r : Registry) {c : Contract} (f : Yield) (m : Meter) (h : c.mode = .sync) :
    (r.invoke c f).run m = (.settled (c.outcome r f), ⟨m.calls + c.calls r, m.polls⟩) := by
  rw [invoke, h]
  exact congrArg (fun x => (Invocation.settled x.1, x.2)) (c.runSync_eq r f m h)

theorem invoke_async_eq (r : Registry) {c : Contract} (f : Yield) (m : Meter)
    (h : c.mode = .async) :
    (r.invoke c f).run m = (.pending (c.future r f), ⟨m.calls + c.calls r, m.polls⟩) := by
  rw [invoke, h]
  exact congrArg (fun x => (Invocation.pending x.1, x.2)) (c.runAsync_eq r f m)

end Registry

namespace Flight

/-- What is true of a call under way when it has been asked for so many times. -/
structure Accounts (r : Registry) (c : Contract) (f : Yield) (k : Nat) (flight : Flight) :
    Prop where
  calls : flight.meter.calls = c.calls r
  polls : flight.meter.polls = ((c.held? r f).map fun value => min k (value.delay + 1)).getD 0
  outcome : flight.outcome? =
    if c.asksNeeded r f ≤ k then some ((r.invoke c f >>= Invocation.outcome).run .zero).1 else none

theorem accounts_enter (r : Registry) (c : Contract) (f : Yield) (k : Nat) :
    Accounts r c f k (ask^[k] (enter r c f)) := by
  cases hmode : c.mode with
  | sync =>
    have hheld : c.held? r f = none := by simp [Contract.held?, Mode.held?, hmode]
    rw [enter, r.invoke_sync_eq f .zero hmode, ofInvocation, iterate_ask_ready]
    refine ⟨Nat.zero_add _, ?_, ?_⟩
    · rw [hheld]
      rfl
    · rw [r.invoke_outcome, Contract.asksNeeded, hmode]
      rfl
  | async =>
    rw [enter, r.invoke_async_eq f .zero hmode, ofInvocation]
    -- The call has its outcome at the first request, or at the one that finds its value settled.
    obtain ⟨hheld, hfuture⟩ | ⟨⟨n, s⟩, schema, hheld, hfuture, hsettle⟩ :=
      Contract.future_cases r f hmode
    · rw [hfuture, iterate_ask_finished]
      cases k with
      | zero =>
        refine ⟨Nat.zero_add _, ?_, ?_⟩
        · rw [hheld]
          rfl
        · rw [Contract.asksNeeded, hmode, hheld]
          rfl
      | succ k =>
        refine ⟨Nat.zero_add _, ?_, ?_⟩
        · rw [hheld]
          rfl
        · rw [r.invoke_outcome, Contract.asksNeeded, hmode, hheld]
          exact (if_pos (Nat.le_add_left 1 k)).symm
    · have hneeded : c.asksNeeded r f = n + 1 := by simp [Contract.asksNeeded, hmode, hheld]
      rw [hfuture, iterate_ask_waiting]
      by_cases hk : k ≤ n
      · rw [if_pos hk]
        refine ⟨Nat.zero_add _, ?_, ?_⟩
        · simp [hheld, Meter.zero]
          omega
        · rw [hneeded, if_neg (by omega)]
          rfl
      · rw [if_neg hk]
        refine ⟨Nat.zero_add _, ?_, ?_⟩
        · simp [hheld, Meter.zero]
          omega
        · rw [hneeded, if_pos (by omega), r.invoke_outcome, ← hsettle]
          rfl

end Flight

theorem Registry.invoke_meter (r : Registry) (c : Contract) (f : Yield) (m : Meter) :
    ((r.invoke c f).run m).2 = ⟨m.calls + c.calls r, m.polls⟩ ∧
    (((r.invoke c f).run m).1.isPending = true ↔ c.mode = .async) := by
  cases hmode : c.mode with
  | sync =>
    rw [r.invoke_sync_eq f m hmode]
    simp [Invocation.isPending]
  | async =>
    rw [r.invoke_async_eq f m hmode]
    simp [Invocation.isPending]

/-- What calls count up to: entering one calls its function once if every stage before that passes,
and polls nothing; under any schedule its pending value is polled once for each time it is asked for
until it has its outcome, which is the one it has when it is awaited alone. -/
theorem Registry.checkedCall_accounts (r : Registry) (ps : Parameters) (result : Option Schema)
    (f : Yield) :
    (∀ m, ((r.call ps result f).run m).2 =
      ⟨m.calls + Contract.calls r ⟨ps, result, .sync⟩, m.polls⟩) ∧
    (∀ m, (r.invoke ⟨ps, result, .async⟩ f).run m =
      (.pending ((r.callAsync ps result f).run m).1, ((r.callAsync ps result f).run m).2)) ∧
    (∀ mode m, ((r.invoke ⟨ps, result, mode⟩ f).run m).2 =
        ⟨m.calls + Contract.calls r ⟨ps, result, mode⟩, m.polls⟩ ∧
      (((r.invoke ⟨ps, result, mode⟩ f).run m).1.isPending = true ↔ mode = .async)) ∧
    (∀ m, ((r.invoke ⟨ps, result, .sync⟩ f >>= Invocation.outcome).run m).2.polls = m.polls) ∧
    ∀ mode before after, ∃ flight,
      (Schedule.run r [] (before ++ .enter ⟨ps, result, mode⟩ f :: after))[Schedule.entries before]?
        = some flight ∧
      flight.Accounts r ⟨ps, result, mode⟩ f (Schedule.asks (Schedule.entries before) after) := by
  refine ⟨?_, ?_, ?_, ?_, ?_⟩
  · intro m
    rw [call, Contract.runSync_eq r _ f m rfl]
  · intro m
    rw [r.invoke_async_eq f m rfl, callAsync, Contract.runAsync_eq]
  · intro mode m
    exact r.invoke_meter ⟨ps, result, mode⟩ f m
  · intro m
    rw [StateT.run_bind, r.invoke_sync_eq f m rfl]
    rfl
  · intro mode before after
    exact ⟨_, Schedule.getElem?_run_enter r _ f before after, Flight.accounts_enter r _ f _⟩

end SchemaContract
