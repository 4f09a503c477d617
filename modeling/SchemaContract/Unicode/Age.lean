import SchemaContract.Unicode.Data.Age
import SchemaContract.Unicode.Table

/-!
# Ages

The version of the standard that assigned a code point.
-/

namespace SchemaContract.Unicode

/-- The versions, oldest first. -/
def versions : List String :=
  ["1.1", "2.0", "2.1", "3.0", "3.1", "3.2", "4.0", "4.1", "5.0", "5.1", "5.2", "6.0", "6.1", "6.2",
   "6.3", "7.0", "8.0", "9.0", "10.0", "11.0", "12.0", "12.1", "13.0", "14.0", "15.0", "15.1",
   "16.0"]

def ageRuns : List (Run String) := runs String.ofList Data.ageRuns

/-- Whether a code point was assigned in the given version or before. -/
def isOfAge (version : String) (n : Nat) : Bool :=
  let age := valueAt "-" ageRuns n
  ((versions.takeWhile (· != version)) ++ [version]).contains age

end SchemaContract.Unicode
