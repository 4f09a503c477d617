import SchemaContract.FileTree
import SchemaContract.Json.Reader
import SchemaContract.Text.Quoted

/-!
# Faults of a registry

Why no registry is built, and why a schema of a contract has no meaning in one.
-/

namespace SchemaContract

/-- Why schema files are not read. -/
inductive LoadFault where
  | unreadable (path : String) (fault : SystemFault)
  | link (name : String)
  | tooMany (limit count : Nat)
  | unopened (path : String) (fault : SystemFault)
  | changed (path : String)
  | tooLarge (bytes : Nat) (path : String)
  | unread (path : String) (fault : SystemFault)
  | grown (path : String)
  deriving DecidableEq, Repr

def LoadFault.message : LoadFault → String
  | .unreadable path fault => path ++ ": " ++ fault.message
  | .link name => "refusing to load schema symlink: " ++ name
  | .tooMany limit count =>
    "schema count exceeds configured max (" ++ toString limit ++ "): " ++ toString count
  | .unopened path fault => "failed opening schema " ++ path ++ ": " ++ fault.message
  | .changed path => "schema file changed during load: " ++ path
  | .tooLarge bytes path => "schema file too large (" ++ toString bytes ++ " bytes): " ++ path
  | .unread path fault => "failed reading schema " ++ path ++ ": " ++ fault.message
  | .grown path => "schema file too large while reading: " ++ path

inductive BuildFault where
  | notAMap
  | reservedNames (names : List String)
  | wrongKinds (names : List String)
  | definition (name message : String)
  | load (fault : LoadFault)
  | notJson (error : ReadError)
  deriving Repr

namespace BuildFault

def listed (names : List String) : String :=
  "[" ++ String.intercalate ", " (names.map Text.inQuotes) ++ "]"

def message : BuildFault → String
  | .notAMap => "Non plain object passed to \"build_validator\""
  | .reservedNames names =>
    "Schemas passed to \"build_validator\" must not have reserved prefix \"jss/\". " ++
      "Invalid schemas: " ++ listed names
  | .wrongKinds names =>
    "Schemas passed to \"build_validator\" must be booleans or objects. " ++
      "Invalid schemas: " ++ listed names
  | .definition _ message => message
  | .load fault => "failed to load schema: " ++ fault.message
  | .notJson error => "schema file is not valid JSON: " ++ error.message

end BuildFault

inductive ResolveFault where
  | unknownReference (name : String)
  | invalidDefinition (message : String)
  deriving DecidableEq, Repr

namespace ResolveFault

def message : ResolveFault → String
  | .unknownReference name => "unknown schema reference " ++ Text.inQuotes name
  | .invalidDefinition message => message

def line (label : String) : ResolveFault → String
  | .unknownReference name =>
    "Unknown schema reference " ++ Text.inQuotes name ++ " for " ++ label
  | .invalidDefinition message => label ++ " has an invalid schema: " ++ message

def describe : ResolveFault → String
  | .unknownReference name => "UnknownReference(" ++ Text.quoted name ++ ")"
  | .invalidDefinition message => "InvalidDefinition(" ++ Text.quoted message ++ ")"

end ResolveFault

end SchemaContract
