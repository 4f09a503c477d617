import SchemaContract.Json.Printer

/-!
# Functions under a contract

What a function yields when it is called: an error, a result at once, or a pending value, which is
found unready a number of times and then settles. Running something under a contract is metered: it
is counted how often the function is called and how often its pending value is polled.
-/

namespace SchemaContract

/-- A result; `none` is the absence of a value and differs from `null`. -/
abbrev Result := Option Json

/-- What a pending value settles to, a result or an error text. -/
abbrev Settlement := Except String Result

structure Pending where
  delay : Nat
  settlement : Settlement

inductive Returned where
  | ready (result : Result)
  | pending (value : Pending)

/-- What calling a function comes to. -/
abbrev Yield := Except String Returned

structure Meter where
  calls : Nat
  polls : Nat
  deriving DecidableEq, Repr

def Meter.zero : Meter := ⟨0, 0⟩

abbrev Metered (α : Type) := StateM Meter α

namespace Metered

def callFunction (f : Yield) : Metered Yield := fun m => (f, { m with calls := m.calls + 1 })

end Metered

/-- What a poll finds. -/
inductive Poll (α β : Type) where
  | unready (rest : α)
  | ready (value : β)

namespace Pending

def poll : Pending → Metered (Poll Pending Settlement)
  | ⟨0, s⟩ => fun m => (.ready s, { m with polls := m.polls + 1 })
  | ⟨n + 1, s⟩ => fun m => (.unready ⟨n, s⟩, { m with polls := m.polls + 1 })

end Pending

def Result.describe : Result → String
  | none => "None"
  | some v => "Some(" ++ v.describe ++ ")"

namespace Returned

def isPending : Returned → Bool
  | .ready _ => false
  | .pending _ => true

def describe : Returned → String
  | .ready r => "Ready(" ++ Result.describe r ++ ")"
  | .pending _ => "Pending(..)"

end Returned

end SchemaContract
