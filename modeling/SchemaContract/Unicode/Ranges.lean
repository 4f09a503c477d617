/-!
# Ranges of code points

A property of characters is a list of closed ranges, ascending and apart.
-/

namespace SchemaContract.Unicode

/-- Whether a code point is in one of the ranges. Since they ascend, the first one that does not end
before it decides. -/
def isWithin : List (Nat × Nat) → Nat → Bool
  | [], _ => false
  | r :: rest, n => if n ≤ r.2 then r.1 ≤ n else isWithin rest n

/-- Ascending, apart, and each range starts no later than it ends. -/
def wellFormed : List (Nat × Nat) → Bool
  | [] => true
  | [r] => r.1 ≤ r.2
  | r :: s :: rest => r.1 ≤ r.2 && r.2 + 1 < s.1 && wellFormed (s :: rest)

end SchemaContract.Unicode
