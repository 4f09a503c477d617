import SchemaContract.Compiled
import SchemaContract.Registry.Fault
import SchemaContract.Schema

/-!
# Registries

A registry keeps compiled schemas under their names: the supplied ones in the order in which they
were supplied, and behind them one for each primitive type under a reserved name. It is built once
and only read from then on.
-/

namespace SchemaContract

structure Registry where
  config : Config
  schemas : List (String × Compiled)

namespace Registry

/-- What the names of the primitive types begin with, and no supplied name may. -/
def reservedPrefix : String := "jss/"

def isReserved (name : String) : Bool := reservedPrefix.toList.isPrefixOf name.toList

def aliasOf (t : TypeName) : String × Json :=
  (reservedPrefix ++ t.text, .object [("type", .string t.text)])

def primitives : List (String × Json) := TypeName.all.map aliasOf

def isSchemaKind : Json → Bool
  | .bool _ | .object _ => true
  | _ => false

/-- Compiles an entry, which labels its own failures with its name. -/
def compileEntry (config : Config) (entry : String × Json) :
    Except BuildFault (String × Compiled) :=
  match Compiled.compile config (Text.inQuotes entry.1) entry.2 with
  | .ok c => .ok (entry.1, c)
  | .error message => .error (.definition entry.1 message)

/-- Compiles entries in order up to the first fault. -/
def compileEntries (config : Config) :
    List (String × Json) → Except BuildFault (List (String × Compiled))
  | [] => .ok []
  | e :: es =>
    match compileEntry config e with
    | .error fault => .error fault
    | .ok c =>
      match compileEntries config es with
      | .error fault => .error fault
      | .ok cs => .ok (c :: cs)

def build (config : Config) (supplied : Json) : Except BuildFault Registry :=
  match supplied with
  | .object entries =>
    let reserved := (entries.map (·.1)).filter isReserved
    let wrong := (entries.filter fun e => !isSchemaKind e.2).map (·.1)
    if !reserved.isEmpty then .error (.reservedNames reserved)
    else if !wrong.isEmpty then .error (.wrongKinds wrong)
    else
      match compileEntries config (entries ++ primitives) with
      | .ok schemas => .ok ⟨config, schemas⟩
      | .error fault => .error fault
  | _ => .error .notAMap

def get? (r : Registry) (name : String) : Option Compiled :=
  (r.schemas.find? fun e => e.1 == name).map (·.2)

def has (r : Registry) (name : String) : Bool := r.schemas.any fun e => e.1 == name

/-- The registered names in ascending order. -/
def names (r : Registry) : List String := (r.schemas.map (·.1)).mergeSort (· ≤ ·)

def size (r : Registry) : Nat := r.schemas.length

def isEmpty (r : Registry) : Bool := r.schemas.isEmpty

theorem has_eq_isSome (r : Registry) (name : String) : r.has name = (r.get? name).isSome := by
  rw [Bool.eq_iff_iff]
  simp [has, get?]

def resolve (r : Registry) : Schema → Except ResolveFault Resolved
  | .accept => .ok .accept
  | .reject => .ok .reject
  | .reference name =>
    match r.get? name with
    | some c => .ok (.compiled c)
    | none => .error (.unknownReference name)
  | .definition members =>
    match Compiled.compile r.config "schema" (.object members) with
    | .ok c => .ok (.compiled c)
    | .error message => .error (.invalidDefinition message)

/-- The line of a value that does not meet a schema, or whose schema has no meaning. -/
def check (r : Registry) (label : String) (schema : Schema) (v : Json) : Option String :=
  match r.resolve schema with
  | .ok resolved => resolved.check label v
  | .error fault => some (fault.line label)

def describe (r : Registry) : String :=
  "SchemaRegistry \x7b names: [" ++ String.intercalate ", " (r.names.map Text.quoted) ++
    "], config: " ++ r.config.describe ++ " \x7d"

end Registry

end SchemaContract
