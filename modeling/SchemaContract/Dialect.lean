/-!
# Dialects

The drafts of the schema language. A dialect is chosen by the URI of its meta-schema.
-/

namespace SchemaContract

inductive Dialect where
  | draft4
  | draft6
  | draft7
  | draft2019
  | draft2020
  deriving DecidableEq, Repr, Inhabited

namespace Dialect

/-- The position in the order of publication. -/
def rank : Dialect → Nat
  | .draft4 => 4
  | .draft6 => 6
  | .draft7 => 7
  | .draft2019 => 8
  | .draft2020 => 9

def isSince (d first : Dialect) : Bool := first.rank ≤ d.rank

def isUpTo (d last : Dialect) : Bool := d.rank ≤ last.rank

def uri : Dialect → String
  | .draft4 => "http://json-schema.org/draft-04/schema"
  | .draft6 => "http://json-schema.org/draft-06/schema"
  | .draft7 => "http://json-schema.org/draft-07/schema"
  | .draft2019 => "https://json-schema.org/draft/2019-09/schema"
  | .draft2020 => "https://json-schema.org/draft/2020-12/schema"

def all : List Dialect := [.draft4, .draft6, .draft7, .draft2019, .draft2020]

/-- A text without the number signs at its end. -/
def trimSigns (cs : List Char) : List Char := (cs.reverse.dropWhile (· == '#')).reverse

/-- The dialect that a `$schema` text names. -/
def ofUri? (s : String) : Option Dialect :=
  all.find? fun d => d.uri == String.ofList (trimSigns s.toList)

end Dialect

end SchemaContract
