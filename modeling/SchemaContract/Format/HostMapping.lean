import SchemaContract.Unicode.CaseFolding
import SchemaContract.Unicode.Data.HostMapping
import SchemaContract.Unicode.Normalization

/-!
# Mapping of host names

Before a host name is looked at, its characters are mapped: capitals to small letters, variants to
the plain form, and some to nothing. What is left has to be in composed form and allowed.
-/

namespace SchemaContract.HostMapping

open Unicode

def replacements : List Shift := shifts Data.hostReplacements

def hostExpansions : List (Nat × List Nat) := expansions Data.hostExpansions

def ignored : List (Nat × Nat) := ranges Data.hostIgnored

def allowed : List (Nat × Nat) := ranges Data.hostAllowed

/-- The Greek final sigma, which stays although it is a case of another letter. -/
def finalSigma : Nat := 0x3C2

/-- The characters that a character is mapped to. -/
def imageOf (n : Nat) : List Nat :=
  if n < 0x80 then [folded n]
  else if isWithin ignored n then []
  else
    match expansionAt? hostExpansions n, imageAt? replacements n with
    | some images, _ => images
    | none, some image => [image]
    | none, none => if n = finalSigma then [n] else [folded n]

/-- The composed form of the mapped text. -/
def mapped (text : List Nat) : List Nat := normalized (text.flatMap imageOf)

/-- Letters and digits of ASCII, and the hyphen. -/
def isPlain (n : Nat) : Bool := (0x61 ≤ n && n ≤ 0x7A) || (0x30 ≤ n && n ≤ 0x39) || n == 0x2D

def isAllowed (n : Nat) : Bool := if n < 0x80 then isPlain n else isWithin allowed n

end SchemaContract.HostMapping
