import SchemaContract.Dialect
import SchemaContract.Validation.Assertion

/-!
# Reading assertions

The assertion that a keyword and its value make in a dialect. A keyword that the dialect does not
have, or whose value has another form than it should, asserts nothing.
-/

namespace SchemaContract.Assertion

def stringsOf (vs : List Json) : List String := vs.filterMap Json.string?

/-- One type, which may be written as a list, or several. -/
def ofType? (d : Dialect) (v : Json) : Option Assertion :=
  match v with
  | .string s => (TypeName.ofText? s).map fun t => .type t (d == .draft4)
  | .array [.string s] => (TypeName.ofText? s).map fun t => .type t (d == .draft4)
  | .array vs => some (.types ((stringsOf vs).filterMap TypeName.ofText?))
  | _ => none

/-- A bound of draft 4 excludes its limit if the sibling says so. -/
def ofBound? (d : Dialect) (siblings : List (String × Json)) (sibling : String)
    (inclusive exclusive : Number → Assertion) (v : Json) : Option Assertion :=
  match v with
  | .number n =>
    match d, Json.lookup sibling siblings with
    | .draft4, some (.bool true) => some (exclusive n)
    | _, _ => some (inclusive n)
  | _ => none

def ofLimit? (assertion : Nat → Assertion) (v : Json) : Option Assertion :=
  match v with
  | .number n => n.toLimit?.map assertion
  | _ => none

/-- The content keywords of drafts 6 and 7; with both of them the media type speaks for the two. -/
def ofContent? (siblings : List (String × Json)) (keyword : String) (v : Json) :
    Option Assertion :=
  match keyword, v with
  | "contentEncoding", .string "base64" =>
    if Json.hasMember "contentMediaType" siblings then none else some .base64
  | "contentMediaType", .string "application/json" =>
    match Json.lookup "contentEncoding" siblings with
    | none => some .jsonText
    | some (.string "base64") => some .base64JsonText
    | some _ => none
  | _, _ => none

def ofKeyword? (d : Dialect) (formats : Bool) (siblings : List (String × Json)) (keyword : String)
    (v : Json) : Option Assertion :=
  match keyword with
  | "type" => ofType? d v
  | "enum" => v.items?.map .enum
  | "const" => if d.isSince .draft6 then some (.const v) else none
  | "minLength" => ofLimit? .minLength v
  | "maxLength" => ofLimit? .maxLength v
  | "minItems" => ofLimit? .minItems v
  | "maxItems" => ofLimit? .maxItems v
  | "minProperties" => ofLimit? .minProperties v
  | "maxProperties" => ofLimit? .maxProperties v
  | "uniqueItems" =>
    match v with
    | .bool true => some .uniqueItems
    | _ => none
  | "required" => v.items?.map fun vs => .required (stringsOf vs)
  | "format" =>
    if formats then (v.string?.bind (Format.ofName? d)).map .format else none
  | "minimum" => ofBound? d siblings "exclusiveMinimum" .minimum .exclusiveMinimum v
  | "maximum" => ofBound? d siblings "exclusiveMaximum" .maximum .exclusiveMaximum v
  | "exclusiveMinimum" =>
    match v with
    | .number n => if d.isSince .draft6 then some (.exclusiveMinimum n) else none
    | _ => none
  | "exclusiveMaximum" =>
    match v with
    | .number n => if d.isSince .draft6 then some (.exclusiveMaximum n) else none
    | _ => none
  | "multipleOf" =>
    match v with
    | .number n => some (.multipleOf n)
    | _ => none
  | "contentEncoding" | "contentMediaType" =>
    if d = .draft6 ∨ d = .draft7 then ofContent? siblings keyword v else none
  | _ => none

end SchemaContract.Assertion
