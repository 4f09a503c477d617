import SchemaContract.Closing
import SchemaContract.Config
import SchemaContract.Message
import SchemaContract.Validation

/-!
# Compiled schemas

A compiled schema is a program kept together with the schema it was compiled from, which the failure
lines refer to. `Resolved` is what a schema of a contract comes down to.
-/

namespace SchemaContract

structure Compiled where
  source : Json
  program : Program
  deriving Repr

namespace Compiled

/-- The schema that is compiled in place of the given one. -/
def sourceOf (config : Config) (schema : Json) : Json :=
  if config.strict then schema.closed else schema

/-- Compiles a schema. A failure is told as one of the schema itself, under the given label. -/
def compile (config : Config) (label : String) (schema : Json) : Except String Compiled :=
  match Validation.compile config.formats (sourceOf config schema) with
  | .ok program => .ok ⟨sourceOf config schema, program⟩
  | .error failure => .error (failure.line (sourceOf config schema) label)

theorem compile_eq_ok_iff {config : Config} {label : String} {schema : Json} {c : Compiled} :
    compile config label schema = .ok c ↔ c.source = sourceOf config schema ∧
      Validation.compile config.formats (sourceOf config schema) = .ok c.program := by
  rw [compile]
  cases Validation.compile config.formats (sourceOf config schema) with
  | ok program =>
    constructor
    · rintro ⟨⟩
      exact ⟨rfl, rfl⟩
    · obtain ⟨source, own⟩ := c
      rintro ⟨rfl, ⟨⟩⟩
      rfl
  | error failure =>
    constructor
    · rintro ⟨⟩
    · rintro ⟨-, ⟨⟩⟩

def accepts (c : Compiled) (v : Json) : Bool := c.program.accepts v

/-- The line of the first failure of a value. -/
def check (c : Compiled) (label : String) (v : Json) : Option String :=
  (c.program.failures v).head?.map fun f => f.line c.source label

/-- The line of a missing value. -/
def checkAbsent (c : Compiled) (label : String) : Option String :=
  c.source.absence?.map fun reason => label ++ " " ++ reason

def describe (c : Compiled) : String :=
  "CompiledSchema \x7b source: " ++ c.source.describe ++ ", .. \x7d"

theorem check_eq_none_iff (c : Compiled) (label : String) (v : Json) :
    c.check label v = none ↔ c.accepts v = true := by
  simp [check, accepts, Program.accepts]

end Compiled

inductive Resolved where
  | accept
  | reject
  | compiled (schema : Compiled)
  deriving Repr

namespace Resolved

def falseLine (label : String) : String := label ++ " " ++ Reason.ofFalseSchema

def check (label : String) (v : Json) : Resolved → Option String
  | .accept => none
  | .reject => some (falseLine label)
  | .compiled c => c.check label v

def checkAbsent (label : String) : Resolved → Option String
  | .accept => none
  | .reject => some (falseLine label)
  | .compiled c => c.checkAbsent label

def describe : Resolved → String
  | .accept => "Accept"
  | .reject => "Reject"
  | .compiled c => "Compiled(" ++ c.describe ++ ")"

end Resolved

end SchemaContract
