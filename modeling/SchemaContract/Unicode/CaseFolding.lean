import SchemaContract.Unicode.Data.CaseFold
import SchemaContract.Unicode.Table

/-!
# Case folding

The simple folding maps a character to a single one that stands for all its cases. Two characters
differ in case only if their foldings agree.
-/

namespace SchemaContract.Unicode

def caseFolds : List Shift := shifts Data.caseFolds

/-- The character that stands for all the cases of a character. -/
def folded (n : Nat) : Nat :=
  if n < 0x80 then (if 0x41 ≤ n ∧ n ≤ 0x5A then n + 32 else n) else (imageAt? caseFolds n).getD n

/-- The characters that differ from the given one in case only, itself included. -/
def casesOf (n : Nat) : List Nat :=
  folded n :: caseFolds.flatMap fun s => s.sources (folded n)

end SchemaContract.Unicode
