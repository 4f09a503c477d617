import SchemaContract.Schema

/-!
# Parameters of a call

Each parameter has a value and a schema. Positional parameters are known by their index, named ones
by their names, and the label is what a parameter is called in failure lines.
-/

namespace SchemaContract

structure Parameter where
  name : String
  label : String
  value : Json
  schema : Schema
  deriving Repr

namespace Parameter

def positionName (i : Nat) : String := "params[" ++ toString i ++ "]"

def atPosition (i : Nat) (value : Json) (schema : Schema) : Parameter :=
  ⟨positionName i, "parameters[" ++ toString i ++ "]", value, schema⟩

def withName (name : String) (value : Json) (schema : Schema) : Parameter :=
  ⟨name, Text.inQuotes name, value, schema⟩

end Parameter

/-- How the parameters of a call are written. -/
inductive Parameters.Form where
  | positional
  | named
  deriving DecidableEq, Repr

structure Parameters where
  form : Parameters.Form
  items : List Parameter
  deriving Repr

inductive ParameterFault where
  | notAList
  | malformed (name : String)
  | schema (name : String) (fault : Schema.Invalid)
  deriving DecidableEq, Repr

def ParameterFault.message : ParameterFault → String
  | .notAList => "parameters must be an array or an object"
  | .malformed name => "parameter " ++ name ++ " must be a [value, schema] pair"
  | .schema name fault => "parameter " ++ name ++ ": " ++ fault.message

namespace Parameters

def empty : Parameters := ⟨.positional, []⟩

def positional (pairs : List (Json × Schema)) : Parameters :=
  ⟨.positional, pairs.zipIdx.map fun ((value, schema), i) => .atPosition i value schema⟩

/-- Adds a named parameter. One that is there already keeps its place and takes the new value and
schema. -/
def putNamed (name : String) (value : Json) (schema : Schema) : List Parameter → List Parameter
  | [] => [.withName name value schema]
  | p :: ps =>
    if p.name == name then { p with value := value, schema := schema } :: ps
    else p :: putNamed name value schema ps

def named (triples : List (String × Json × Schema)) : Parameters :=
  ⟨.named, triples.foldl (fun ps (name, value, schema) => putNamed name value schema ps) []⟩

/-- Reads a pair of a value and its schema; what follows the two in the array is not looked at. -/
def pairOf (name : String) : Json → Except ParameterFault (Json × Schema)
  | .array (value :: schema :: _) =>
    match Schema.ofJson schema with
    | .ok s => .ok (value, s)
    | .error fault => .error (.schema name fault)
  | _ => .error (.malformed name)

/-- Reads the pairs of an array, which are named by position from the given one on. -/
def pairsFrom (i : Nat) : List Json → Except ParameterFault (List (Json × Schema))
  | [] => .ok []
  | v :: vs =>
    match pairOf (Parameter.positionName i) v with
    | .error fault => .error fault
    | .ok pair =>
      match pairsFrom (i + 1) vs with
      | .error fault => .error fault
      | .ok pairs => .ok (pair :: pairs)

/-- Reads the pairs of an object. -/
def triplesOf : List (String × Json) → Except ParameterFault (List (String × Json × Schema))
  | [] => .ok []
  | (name, v) :: ms =>
    match pairOf name v with
    | .error fault => .error fault
    | .ok (value, schema) =>
      match triplesOf ms with
      | .error fault => .error fault
      | .ok triples => .ok ((name, value, schema) :: triples)

/-- Reads parameters: positional ones from an array, named ones from an object. -/
def ofJson : Json → Except ParameterFault Parameters
  | .array vs => (pairsFrom 0 vs).map positional
  | .object ms => (triplesOf ms).map named
  | _ => .error .notAList

end Parameters

end SchemaContract
