import SchemaContract.Contract
import SchemaContract.Contract.Function

/-!
# Checked calls

A call goes through stages, and the first that finds a problem ends it: the references are looked
up, the schemas given their meaning, the arguments checked, the function called, and its result
checked. A stage tells all of its problems.

A synchronous call takes a result that is there at once and drops a pending value unpolled. An
asynchronous call takes a pending value; what goes wrong before there is one is an outcome that
waits to be asked for.
-/

namespace SchemaContract

/-- The stages that tell problems of their own. -/
inductive Stage where
  | referenceResolution
  | invalidSchema
  | parameterValidation
  | resultShape
  | resultValidation
  deriving DecidableEq, Repr

def Stage.text : Stage → String
  | .referenceResolution => "ReferenceResolution"
  | .invalidSchema => "InvalidSchema"
  | .parameterValidation => "ParameterValidation"
  | .resultShape => "ResultShape"
  | .resultValidation => "ResultValidation"

/-- A stage with its problems, or the error of the function itself. -/
inductive CallError where
  | problems (stage : Stage) (lines : List String)
  | wrapped (text : String)
  deriving DecidableEq, Repr

namespace CallError

def message : CallError → String
  | .problems _ lines => Text.unlines lines
  | .wrapped text => text

def lines (e : CallError) : List String := Text.lines e.message

def kind : CallError → String
  | .problems stage _ => stage.text
  | .wrapped _ => "Wrapped"

def wrapped? : CallError → Option String
  | .problems _ _ => none
  | .wrapped text => some text

def describe (e : CallError) : String :=
  "CallError \x7b kind: " ++ e.kind ++ ", message: " ++ Text.quoted e.message ++ ", .. \x7d"

end CallError

abbrev Outcome := Except CallError Result

def unexpectedPending : String :=
  "return value should not be a Promise. If a Promise is desired then define a resolve-style " ++
    "schema instead of a return-style schema"

def expectedPending : String := "return value should be Promise"

namespace Contract

/-- One line for each argument that its schema does not accept. -/
def rejected (parameters : List Parameter) (schemas : List Resolved) : List String :=
  (parameters.zip schemas).filterMap fun (p, s) => s.check p.label p.value

/-- The stages before the function is called; what is left of the contract is the schema of the
result. -/
def checkArguments (r : Registry) (c : Contract) : Except CallError (Option Resolved) :=
  if !(c.unresolved r).isEmpty then .error (.problems .referenceResolution (c.unresolved r))
  else
    match c.resolve r with
    | .error lines => .error (.problems .invalidSchema lines)
    | .ok resolved =>
      let lines := rejected c.parameters.items resolved.parameters
      if lines.isEmpty then .ok resolved.result
      else .error (.problems .parameterValidation lines)

/-- The line of a result that its schema does not accept. Without a schema there must be none. -/
def resultLine (mode : Mode) : Option Resolved → Result → Option String
  | none, none => none
  | none, some _ => some (mode.label ++ " should be undefined")
  | some s, none => s.checkAbsent mode.label
  | some s, some v => s.check mode.label v

def checkResult (mode : Mode) (schema : Option Resolved) (result : Result) : Outcome :=
  match resultLine mode schema result with
  | none => .ok result
  | some line => .error (.problems .resultValidation [line])

end Contract

/-- The outcome of an asynchronous call, as far as it has come. -/
inductive Future where
  | finished (outcome : Outcome)
  | waiting (value : Pending) (schema : Option Resolved)

namespace Future

/-- The outcome when the pending value has settled. -/
def settle (schema : Option Resolved) : Settlement → Outcome
  | .ok result => Contract.checkResult .async schema result
  | .error text => .error (.wrapped text)

/-- Asks once for the outcome. -/
def poll : Future → Metered (Poll Future Outcome)
  | .finished outcome => pure (.ready outcome)
  | .waiting value schema => do
    match ← value.poll with
    | .ready s => pure (.ready (settle schema s))
    | .unready rest => pure (.unready (.waiting rest schema))

/-- Polls a pending value until it settles. -/
def awaitValue (schema : Option Resolved) (s : Settlement) : Nat → Metered Outcome
  | 0 => fun m => (settle schema s, { m with polls := m.polls + 1 })
  | n + 1 => fun m => awaitValue schema s n { m with polls := m.polls + 1 }

/-- Asks for the outcome until it is there. -/
def await : Future → Metered Outcome
  | .finished outcome => pure outcome
  | .waiting value schema => awaitValue schema value.settlement value.delay

theorem await_eq_poll (f : Future) :
    f.await = f.poll >>= fun
      | .ready outcome => pure outcome
      | .unready rest => rest.await := by
  rcases f with outcome | ⟨⟨n, s⟩, schema⟩
  · rfl
  · cases n <;> rfl

end Future

/-- What entering a call comes to: an outcome, or one to be awaited. -/
inductive Invocation where
  | settled (outcome : Outcome)
  | pending (future : Future)

namespace Invocation

def isPending : Invocation → Bool
  | .settled _ => false
  | .pending _ => true

def outcome : Invocation → Metered Outcome
  | .settled outcome => pure outcome
  | .pending future => future.await

def describeOutcome : Outcome → String
  | .ok result => "Ok(" ++ Result.describe result ++ ")"
  | .error e => "Err(" ++ e.describe ++ ")"

def describe : Invocation → String
  | .settled outcome => "Settled(" ++ describeOutcome outcome ++ ")"
  | .pending _ => "Pending(..)"

end Invocation

namespace Contract

/-- Runs a call to its outcome. -/
def runSync (r : Registry) (c : Contract) (f : Yield) : Metered Outcome :=
  match c.checkArguments r with
  | .error e => pure (.error e)
  | .ok schema => do
    match ← Metered.callFunction f with
    | .error text => pure (.error (.wrapped text))
    | .ok (.ready result) => pure (checkResult .sync schema result)
    | .ok (.pending _) => pure (.error (.problems .resultShape [unexpectedPending]))

/-- Starts a call whose outcome is asked for later. -/
def runAsync (r : Registry) (c : Contract) (f : Yield) : Metered Future :=
  match c.checkArguments r with
  | .error e => pure (.finished (.error e))
  | .ok schema => do
    match ← Metered.callFunction f with
    | .error text => pure (.finished (.error (.wrapped text)))
    | .ok (.ready _) => pure (.finished (.error (.problems .resultShape [expectedPending])))
    | .ok (.pending value) => pure (.waiting value schema)

end Contract

namespace Registry

def call (r : Registry) (parameters : Parameters) (result : Option Schema) (f : Yield) :
    Metered Outcome :=
  Contract.runSync r ⟨parameters, result, .sync⟩ f

def callAsync (r : Registry) (parameters : Parameters) (result : Option Schema) (f : Yield) :
    Metered Future :=
  Contract.runAsync r ⟨parameters, result, .async⟩ f

/-- A call in the mode of its contract. -/
def invoke (r : Registry) (c : Contract) (f : Yield) : Metered Invocation :=
  match c.mode with
  | .sync => do return .settled (← Contract.runSync r c f)
  | .async => do return .pending (← Contract.runAsync r c f)

/-- The diagnostic form of a registry that checks calls. -/
def describeValidator (r : Registry) : String :=
  "CallValidator \x7b registry: " ++ r.describe ++ " \x7d"

end Registry

end SchemaContract
