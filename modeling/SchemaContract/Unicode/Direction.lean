import SchemaContract.Unicode.Data.Direction
import SchemaContract.Unicode.Table

/-!
# Directions and joining

The direction in which a character is written, and how a letter of a cursive script joins with its
neighbours.
-/

namespace SchemaContract.Unicode

inductive Direction where
  | leftToRight
  | rightToLeft
  | arabicLetter
  | arabicNumber
  | europeanNumber
  | europeanSeparator
  | europeanTerminator
  | commonSeparator
  | nonspacingMark
  | boundaryNeutral
  | otherNeutral
  | separator
  deriving DecidableEq, Repr

/-- Directions of which a table has an abbreviation that is not listed here separate texts. -/
def Direction.ofAbbreviation (s : String) : Direction :=
  match s with
  | "L" => .leftToRight
  | "R" => .rightToLeft
  | "AL" => .arabicLetter
  | "AN" => .arabicNumber
  | "EN" => .europeanNumber
  | "ES" => .europeanSeparator
  | "ET" => .europeanTerminator
  | "CS" => .commonSeparator
  | "NSM" => .nonspacingMark
  | "BN" => .boundaryNeutral
  | "ON" => .otherNeutral
  | _ => .separator

def directionRuns : List (Run Direction) :=
  runs (fun name => .ofAbbreviation (String.ofList name)) Data.directionRuns

def directionOf (n : Nat) : Direction := valueAt .leftToRight directionRuns n

/-! ## Joining -/

inductive Joining where
  | leftJoining
  | rightJoining
  | dualJoining
  | joinCausing
  | transparent
  | nonJoining
  deriving DecidableEq, Repr

def Joining.ofAbbreviation (s : String) : Joining :=
  match s with
  | "L" => .leftJoining
  | "R" => .rightJoining
  | "D" => .dualJoining
  | "C" => .joinCausing
  | "T" => .transparent
  | _ => .nonJoining

def joiningRuns : List (Run Joining) :=
  runs (fun name => .ofAbbreviation (String.ofList name)) Data.joiningRuns

def joiningOf (n : Nat) : Joining := valueAt .nonJoining joiningRuns n

end SchemaContract.Unicode
