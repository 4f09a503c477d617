import SchemaContract.Validation.Gathering
import SchemaContract.Validation.MetaSchema

/-!
# Validation

`Validation.compile` turns a schema into a program, or says what is wrong with the schema: first its
dialect, then references to documents that are not there, then its form by the meta-schema, and at
last what only compiling it shows.
-/

namespace SchemaContract.Validation

/-- The dialect that a schema names at its root; the latest if it names none. -/
def dialectOf (schema : Json) : Except ReferenceFault Dialect :=
  match schema.get? "$schema" with
  | some (.string s) =>
    match Dialect.ofUri? s with
    | some d => .ok d
    | none => .error (.unknownDialect (String.ofList (Dialect.trimSigns s.toList)))
  | _ => .ok .draft2020

/-- The documents that a schema may refer to: itself, and the meta-schemas of its dialect if it does
refer to published ones. -/
def libraryOf (d : Dialect) (uri : Uri) (schema : Json) : Except ReferenceFault Library :=
  (Gathering.ofDocument d uri schema).map fun g =>
    if g.published then g.library.append (MetaSchema.library d) else g.library

def formFailure? (d : Dialect) (schema : Json) : Option Failure :=
  ((MetaSchema.program d).failures schema).head?

/-- The dialect of a schema, the base of its references and the library they lead into. A schema
enters its own URI twice: once to be known by it, and once more to be read. -/
def prepare (schema : Json) : Except ReferenceFault (Dialect × Uri × Library) := do
  let d ← dialectOf schema
  let uri ← Uri.unnamed.enter d schema
  let lib ← libraryOf d uri schema
  return (d, ← uri.enter d schema, lib)

/-- The program of a schema. Without formats the `format` keyword asserts nothing. -/
def compile (formats : Bool) (schema : Json) : Except Failure Program :=
  match prepare schema with
  | .error f => .error (.plain .root (.reference f))
  | .ok (d, base, library) =>
    match formFailure? d schema with
    | some f => .error f
    | none => Program.compile library formats d base schema

end SchemaContract.Validation
