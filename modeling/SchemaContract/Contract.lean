import SchemaContract.Parameter
import SchemaContract.Registry
import SchemaContract.Text.Lines

/-!
# Contracts

What a checked call promises: its parameters, the schema of its result, and whether the result is
there at once or later. Before anything is checked, the references of a contract are looked up in a
registry and its schemas are given their meaning there; both are done to the end, so that every
problem is told.
-/

namespace SchemaContract

inductive Mode where
  | sync
  | async
  deriving DecidableEq, Repr

namespace Mode

/-- Where the schema of the result stands in a contract. -/
def location : Mode → String
  | .sync => "return"
  | .async => "resolve"

/-- What the result is called in failure lines. -/
def label : Mode → String
  | .sync => "return value"
  | .async => "resolved value"

end Mode

structure Contract where
  parameters : Parameters
  result : Option Schema
  mode : Mode
  deriving Repr

/-- A contract whose schemas have their meaning, one for each parameter. -/
structure ResolvedContract where
  parameters : List Resolved
  result : Option Resolved

namespace Contract

/-- The schemas of a contract with their locations, that of the result last. -/
def schemas (c : Contract) : List (String × Schema) :=
  c.parameters.items.map (fun p => (p.name, p.schema)) ++
    (c.result.map fun s => (c.mode.location, s)).toList

def unknownLine (location name : String) : String :=
  "Unknown schema reference " ++ Text.inQuotes name ++ " for " ++ Text.inQuotes location

/-- One line for each reference to a schema that is not registered. -/
def unresolved (r : Registry) (c : Contract) : List String :=
  c.schemas.filterMap fun (location, s) =>
    match s.reference? with
    | some name => if r.has name then none else some (unknownLine location name)
    | none => none

def invalidLine (location : String) (fault : ResolveFault) : String :=
  "Invalid schema for " ++ Text.inQuotes location ++ ": " ++ fault.message

/-- One line for each schema without a meaning. -/
def invalid (r : Registry) (c : Contract) : List String :=
  c.schemas.filterMap fun (location, s) =>
    match r.resolve s with
    | .ok _ => none
    | .error fault => some (invalidLine location fault)

def resolve (r : Registry) (c : Contract) : Except (List String) ResolvedContract :=
  if (c.invalid r).isEmpty then
    .ok
      { parameters := c.parameters.items.filterMap fun p => (r.resolve p.schema).toOption
        result := c.result.bind fun s => (r.resolve s).toOption }
  else .error (c.invalid r)

end Contract

end SchemaContract
