import SchemaContract.Format
import SchemaContract.Json.Printer
import SchemaContract.Json.Reader
import SchemaContract.Number.Multiple
import SchemaContract.Text.Base64
import SchemaContract.Text.Utf8
import SchemaContract.Validation.Failure

/-!
# Assertions

The keywords that hold no schemas. Each looks at values of one kind and accepts the others.
-/

namespace SchemaContract

inductive Assertion where
  | type (name : TypeName) (exact : Bool)
  | types (names : List TypeName)
  | enum (values : List Json)
  | const (value : Json)
  | minLength (limit : Nat)
  | maxLength (limit : Nat)
  | pattern (pattern : Pattern)
  | format (format : Format)
  | base64
  | jsonText
  | base64JsonText
  | minimum (limit : Number)
  | maximum (limit : Number)
  | exclusiveMinimum (limit : Number)
  | exclusiveMaximum (limit : Number)
  | multipleOf (divisor : Number)
  | minItems (limit : Nat)
  | maxItems (limit : Nat)
  | itemsUpTo (count : Nat)
  | uniqueItems
  | minProperties (limit : Nat)
  | maxProperties (limit : Nat)
  | required (names : List String)
  | noProperties
  deriving Repr

namespace TypeName

/-- Whether a value has the type. An integer may be a double without fraction unless it has to be
written as an integer. -/
def holds (t : TypeName) (exact : Bool) (v : Json) : Bool :=
  match t, v with
  | .array, .array _ => true
  | .boolean, .bool _ => true
  | .integer, .number (.int _) => true
  | .integer, .number n => !exact && n.isIntegral
  | .null, .null => true
  | .number, .number _ => true
  | .object, .object _ => true
  | .string, .string _ => true
  | _, _ => false

end TypeName

namespace Assertion

def allDistinct : List Json → Bool
  | [] => true
  | v :: rest => !rest.any (v.same ·) && allDistinct rest

/-- Equality with a constant, where numbers may differ by less than the distance of doubles at 1. -/
def sameConstant (c v : Json) : Bool :=
  match c, v with
  | .number a, .number b => a.nearlyEqual b
  | c, v => c.same v

def isJsonText (s : String) : Bool :=
  match Json.parse s with
  | .ok _ => true
  | .error _ => false

def base64Failures (p : Place) (s : String) : List Failure :=
  match Text.base64Decode? s.toList with
  | none => p.fails (.contentEncoding (.string s) "base64")
  | some bytes =>
    match String.fromUTF8? bytes.toByteArray with
    | none => p.fails (.notUnicode (Text.Utf8.fault bytes))
    | some text => p.demand (isJsonText text) (.contentMediaType (.string s) "application/json")

/-- What is wrong with a text that should match a pattern. A search that goes on for too long fails
for a reason of its own. -/
def patternFailures (p : Place) (pattern : Pattern) (s : String) : List Failure :=
  match pattern.search s with
  | .found => []
  | .absent => p.fails (.pattern pattern.text)
  | .exhausted => p.fails .searchLimit

def failures (a : Assertion) (p : Place) (v : Json) : List Failure :=
  match a, v with
  | .type t exact, v => p.demand (t.holds exact v) (.type t)
  | .types ts, v => p.demand (ts.any fun t => t.holds true v) .types
  | .enum values, v => p.demand (values.any (·.same v)) .enum
  | .const c, v => p.demand (sameConstant c v) .constant
  | .minLength n, .string s => p.demand (n ≤ s.length) (.minLength n)
  | .maxLength n, .string s => p.demand (s.length ≤ n) (.maxLength n)
  | .pattern r, .string s => patternFailures p r s
  | .format f, .string s => p.demand (f.holds s) (.format f.name)
  | .base64, .string s =>
    p.demand (Text.base64Decode? s.toList).isSome (.contentEncoding (.string s) "base64")
  | .jsonText, .string s =>
    p.demand (isJsonText s) (.contentMediaType (.string s) "application/json")
  | .base64JsonText, .string s => base64Failures p s
  | .minimum n, .number x => p.demand (x.order n != .lt) (.minimum n)
  | .maximum n, .number x => p.demand (x.order n != .gt) (.maximum n)
  | .exclusiveMinimum n, .number x => p.demand (x.order n == .gt) (.exclusiveMinimum n)
  | .exclusiveMaximum n, .number x => p.demand (x.order n == .lt) (.exclusiveMaximum n)
  | .multipleOf d, .number x => p.demand (x.isMultipleOf d) .multipleOf
  | .minItems n, .array vs => p.demand (n ≤ vs.length) (.minItems n)
  | .maxItems n, .array vs => p.demand (vs.length ≤ n) (.maxItems n)
  | .itemsUpTo n, .array vs => p.demand (vs.length ≤ n) .additionalItems
  | .uniqueItems, .array vs => p.demand (allDistinct vs) .uniqueItems
  | .minProperties n, .object ms => p.demand (n ≤ ms.length) (.minProperties n)
  | .maxProperties n, .object ms => p.demand (ms.length ≤ n) (.maxProperties n)
  | .required names, .object ms =>
    names.flatMap fun name => p.demand (Json.hasMember name ms) (.required name)
  | .noProperties, .object ms => p.demand ms.isEmpty .falseSchema
  | _, _ => []

end Assertion

end SchemaContract
