import SchemaContract.Unicode.Data.Script
import SchemaContract.Unicode.Table

/-!
# Scripts

A script is known by a code of four letters. Most characters belong to one script; some are used in
several, which are their extensions.
-/

namespace SchemaContract.Unicode

def scripts : List (String × String) :=
  (Table.words Data.scriptNames).map fun word =>
    let (code, name) := Text.cutAt ':' word
    (String.ofList code, String.ofList (name.getD []))

def scriptRuns : List (Run String) := runs String.ofList Data.scriptRuns

def scriptOf (n : Nat) : String := valueAt "Zzzz" scriptRuns n

/-- The codes that stand together, four letters each. -/
def codesOf : List Char → List String
  | a :: b :: c :: d :: rest => String.ofList [a, b, c, d] :: codesOf rest
  | _ => []

def scriptExtensionRuns : List (Run (List String)) := runs codesOf Data.scriptExtensionRuns

def scriptsOf (n : Nat) : List String :=
  match valueAt [] scriptExtensionRuns n with
  | [] => [scriptOf n]
  | codes => codes

end SchemaContract.Unicode
