import SchemaContract.Validation.Keyword
import SchemaContract.Validation.Library
import SchemaContract.Validation.Rule

/-!
# The compilation of a schema

What is known while a schema is compiled. Where its references lead, and which targets were met
before, is left open: a compilation asks for the number of a target and goes on with the answer.
-/

namespace SchemaContract

structure Context where
  formats : Bool
  dialect : Dialect
  base : Uri
  scope : Scope
  location : List Step

/-- The two kinds of parts that a coverage speaks of. -/
inductive PartKind where
  | members
  | items
  deriving DecidableEq, Repr

structure Request where
  keyword : String
  reference : String
  context : Context

/-- A compilation up to the targets that it refers to. A reference that says nothing has no number.
-/
inductive Plan (α : Type) where
  | done (result : α)
  | failed (failure : Failure)
  | rule (request : Request) (next : Option Nat → Plan α)
  | coverage (request : Request) (kind : PartKind) (next : Option Nat → Plan α)

namespace Plan

def bind {α β : Type} : Plan α → (α → Plan β) → Plan β
  | .done a, f => f a
  | .failed e, _ => .failed e
  | .rule request next, f => .rule request fun answer => (next answer).bind f
  | .coverage request kind next, f => .coverage request kind fun answer => (next answer).bind f

instance : Monad Plan where
  pure := .done
  bind := Plan.bind

end Plan

abbrev Compile (α : Type) := ReaderT Context Plan α

namespace Compile

/-- Ends the compilation with a failure at the schema that is being compiled. -/
def refuse {α : Type} (reason : Reason) : Compile α := fun ctx =>
  .failed (.plain ⟨ctx.location.reverse, []⟩ reason)

/-- A fault of a reference ends the compilation. -/
def orRefuse {α : Type} : Except ReferenceFault α → Compile α
  | .ok a => pure a
  | .error fault => fun _ => .failed (.plain .root (.reference fault))

def ruleNumber (keyword reference : String) : Compile (Option Nat) := fun ctx =>
  .rule ⟨keyword, reference, ctx⟩ .done

def coverageNumber (kind : PartKind) (keyword reference : String) : Compile (Option Nat) :=
  fun ctx => .coverage ⟨keyword, reference, ctx⟩ kind .done

def inside {α : Type} (steps : List Step) (part : Compile α) : Compile α :=
  withReader (fun ctx : Context => { ctx with location := steps.reverse ++ ctx.location }) part

def under (steps : List Step) (part : Compile Rule) : Compile Rule :=
  return .within steps (← inside steps part)

def pattern (text : String) : Compile Pattern :=
  match Pattern.ofText? text with
  | some p => pure p
  | none => refuse (.format Format.regex.name)

end Compile

end SchemaContract
