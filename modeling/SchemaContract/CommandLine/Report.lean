import SchemaContract.CommandLine.Argument
import SchemaContract.CommandLine.Table
import SchemaContract.Json.Printer

/-!
# Reports

What the commands print, in each layout.
-/

namespace SchemaContract.CommandLine

/-- The verdict on a value, with the failure lines. -/
structure CheckReport where
  schema : String
  errors : List String
  deriving DecidableEq, Repr

namespace CheckReport

def valid (r : CheckReport) : Bool := r.errors.isEmpty

def toJson (r : CheckReport) : Json :=
  .object
    [("schema", .string r.schema), ("valid", .bool r.valid),
     ("errors", .array (r.errors.map .string))]

def rows (r : CheckReport) : List (List String) :=
  if r.valid then [[r.schema, "yes", ""]] else r.errors.map fun e => [r.schema, "no", e]

def prettyLines (r : CheckReport) : List String :=
  if r.valid then ["valid: " ++ r.schema]
  else ("invalid: " ++ r.schema) :: r.errors.map fun e => "  " ++ e

def render (r : CheckReport) : Layout → String
  | .json => r.toJson.render ++ "\n"
  | .table => Table.render ["SCHEMA", "VALID", "ERROR"] r.rows ++ "\n"
  | .pretty => String.join (r.prettyLines.map (· ++ "\n"))

end CheckReport

structure SchemaEntry where
  name : String
  builtin : Bool
  deriving DecidableEq, Repr

namespace SchemaEntry

def origin (e : SchemaEntry) : String := if e.builtin then "builtin" else "registered"

def toJson (e : SchemaEntry) : Json :=
  .object [("name", .string e.name), ("builtin", .bool e.builtin)]

end SchemaEntry

/-- The registered schemas in ascending order of names. -/
structure SchemaListing where
  entries : List SchemaEntry
  deriving DecidableEq, Repr

namespace SchemaListing

def toJson (l : SchemaListing) : Json :=
  .object
    [("count", .nat l.entries.length), ("schemas", .array (l.entries.map SchemaEntry.toJson))]

def render (l : SchemaListing) : Layout → String
  | .json => l.toJson.render ++ "\n"
  | .table =>
    Table.render ["NAME", "ORIGIN"] (l.entries.map fun e => [e.name, e.origin]) ++ "\n"
  | .pretty => String.join (l.entries.map fun e => e.name ++ " (" ++ e.origin ++ ")\n")

end SchemaListing

end SchemaContract.CommandLine
