import SchemaContract.CommandLine.Report
import SchemaContract.Contract.Call
import SchemaContract.Registry.Directory
import SchemaContract.Text.Blank

/-!
# The command line

`check` checks one value against a schema, `schemas` lists the schemas of a registry, and `version`
tells about the program. What goes wrong before there is a report is told as one error, and the exit
code tells what kind it is of.
-/

namespace SchemaContract.CommandLine

inductive Exit where
  | success
  | failure
  | misuse
  | denied
  | invalidData
  | usage
  | internal
  deriving DecidableEq, Repr

def Exit.code : Exit → Nat
  | .success => 0
  | .failure => 1
  | .misuse => 2
  | .denied => 50
  | .invalidData => 60
  | .usage => 64
  | .internal => 125

/-- Why a command ends without a report. -/
inductive Fault where
  | schemaArgument (fault : Schema.Invalid)
  | inlineValue (error : ReadError)
  | file (path : String) (fault : SystemFault)
  | fileValue (path : String) (error : ReadError)
  | directory (path : String) (fault : BuildFault)
  | registry (fault : BuildFault)
  | call (error : CallError)

namespace Fault

def exitOfSystem : SystemFault → Exit
  | .notFound => .usage
  | .denied => .denied
  | _ => .internal

def exitOfBuild : BuildFault → Exit
  | .load _ => .failure
  | _ => .invalidData

def exitOfCall : CallError → Exit
  | .problems .referenceResolution _ | .problems .invalidSchema _ => .usage
  | .problems .parameterValidation _ | .problems .resultValidation _ => .invalidData
  | .problems .resultShape _ | .wrapped _ => .internal

def exit : Fault → Exit
  | .schemaArgument _ | .inlineValue _ => .usage
  | .file _ fault => exitOfSystem fault
  | .fileValue _ _ => .invalidData
  | .directory _ fault | .registry fault => exitOfBuild fault
  | .call error => exitOfCall error

def message : Fault → String
  | .schemaArgument fault => "invalid schema argument: " ++ fault.message
  | .inlineValue error => "--json is not valid JSON: " ++ error.message
  | .file path fault => "failed reading " ++ path ++ ": " ++ fault.message
  | .fileValue path error => path ++ " is not valid JSON: " ++ error.message
  | .directory path fault => "failed loading schemas from " ++ path ++ ": " ++ fault.message
  | .registry fault => "failed building registry: " ++ fault.message
  | .call error => "check failed: " ++ error.message

end Fault

/-- Reads a schema argument: JSON, or else the name of a registered schema. -/
def schemaOfArgument (argument : String) : Except Fault Schema :=
  match Json.parse argument with
  | .ok v =>
    match Schema.ofJson v with
    | .ok s => .ok s
    | .error fault => .error (.schemaArgument fault)
  | .error _ => .ok (.reference (Text.trim argument))

def readValue (files : Files) : ValueSource → Except Fault Json
  | .inline text =>
    match Json.parse text with
    | .ok v => .ok v
    | .error error => .error (.inlineValue error)
  | .file path =>
    match (files path).bind Entry.readText with
    | .error fault => .error (.file path fault)
    | .ok text =>
      match Json.parse text with
      | .ok v => .ok v
      | .error error => .error (.fileValue path error)

def RegistryOptions.config (o : RegistryOptions) : Config :=
  { Config.standard with formats := !o.noFormats, strict := o.strict }

def RegistryOptions.load (files : Files) (o : RegistryOptions) : Except Fault Registry :=
  match o.directory with
  | some path => (Registry.ofDirectory o.config files path).mapError (.directory path)
  | none => (Registry.build o.config (.object [])).mapError .registry

/-- Checks a value as the one argument of a call without a result. -/
def checkValue (r : Registry) (label : String) (value : Json) (schema : Schema) :
    Except Fault (List String) :=
  match (r.call (.named [(label, value, schema)]) none (.ok (.ready none)) .zero).1 with
  | .ok _ => .ok []
  | .error (.problems .parameterValidation lines) =>
    .ok (CallError.problems .parameterValidation lines).lines
  | .error e => .error (.call e)

def check (files : Files) (schema : String) (source : ValueSource) (label : String)
    (options : RegistryOptions) : Except Fault CheckReport := do
  let s ← schemaOfArgument schema
  let value ← readValue files source
  let registry ← options.load files
  let errors ← checkValue registry label value s
  return ⟨schema, errors⟩

def listSchemas (files : Files) (options : RegistryOptions) : Except Fault SchemaListing := do
  let registry ← options.load files
  return ⟨registry.names.map fun name => ⟨name, Registry.isReserved name⟩⟩

/-- What the program leaves behind. -/
structure Output where
  exit : Exit
  stdout : String
  stderr : String
  deriving DecidableEq, Repr

namespace Output

def ofFault (fault : Fault) : Output := ⟨fault.exit, "", "error: " ++ fault.message ++ "\n"⟩

def ofReport (layout : Layout) (report : CheckReport) : Output :=
  ⟨if report.valid then .success else .invalidData, report.render layout, ""⟩

end Output

def programName : String := "jss"

def programVersion : String := "0.1.0"

def versionLine : String := programName ++ " " ++ programVersion ++ "\n"

def extendedVersion : String :=
  "name: " ++ programName ++ "\nversion: " ++ programVersion ++
    "\nbuiltin_schemas: " ++ toString Registry.primitives.length ++ "\n"

def usage : String :=
  "Usage: jss [--format json|table|pretty] <command>\n\n" ++
  "  check <schema> (--json <text> | --file <path>) [--label <label>]\n" ++
  "        [--schemas <directory>] [--strict] [--no-formats]\n" ++
  "  schemas [--schemas <directory>] [--strict] [--no-formats]\n" ++
  "  version [--extended]\n"

def runCommand (files : Files) (layout : Layout) : Command → Output
  | .check schema source label options =>
    match check files schema source label options with
    | .ok report => .ofReport layout report
    | .error fault => .ofFault fault
  | .schemas options =>
    match listSchemas files options with
    | .ok listing => ⟨.success, listing.render layout, ""⟩
    | .error fault => .ofFault fault
  | .version extended => ⟨.success, if extended then extendedVersion else versionLine, ""⟩

def run (files : Files) (arguments : List String) : Output :=
  match Request.ofArguments arguments with
  | .misuse => ⟨.misuse, "", usage⟩
  | .help => ⟨.success, usage, ""⟩
  | .programVersion => ⟨.success, versionLine, ""⟩
  | .run layout command => runCommand files layout command

end SchemaContract.CommandLine
