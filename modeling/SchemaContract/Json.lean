import SchemaContract.Number

/-!
# JSON values

Objects are lists of members in the order of the document. Two equalities live side by side: `=` is
structural, and `Json.same` is the equality of the schema keywords, which compares numbers by value
and objects member by member in order.
-/

namespace SchemaContract

inductive Json where
  | null
  | bool (value : Bool)
  | number (value : Number)
  | string (value : String)
  | array (items : List Json)
  | object (members : List (String × Json))
  deriving Repr, Inhabited

namespace Json

inductive Kind where
  | null
  | bool
  | number
  | string
  | array
  | object
  deriving DecidableEq, Repr

def kind : Json → Kind
  | .null => .null
  | .bool _ => .bool
  | .number _ => .number
  | .string _ => .string
  | .array _ => .array
  | .object _ => .object

def nat (n : Nat) : Json := .number (.int n)

/-- The value of the first member with this name. -/
def lookup (name : String) (members : List (String × Json)) : Option Json :=
  (members.find? fun m => m.1 == name).map (·.2)

def hasMember (name : String) (members : List (String × Json)) : Bool :=
  members.any fun m => m.1 == name

/-- A member written later replaces the value of an earlier one of its name, in place. -/
def putMember (name : String) (value : Json) : List (String × Json) → List (String × Json)
  | [] => [(name, value)]
  | m :: rest => if m.1 == name then (name, value) :: rest else m :: putMember name value rest

def members? : Json → Option (List (String × Json))
  | .object ms => some ms
  | _ => none

def items? : Json → Option (List Json)
  | .array vs => some vs
  | _ => none

def string? : Json → Option String
  | .string s => some s
  | _ => none

def bool? : Json → Option Bool
  | .bool b => some b
  | _ => none

def get? (v : Json) (name : String) : Option Json := v.members?.bind (lookup name)

mutual

/-- Equality of values, numbers by value and objects member by member in order. -/
def same : Json → Json → Bool
  | .null, .null => true
  | .bool a, .bool b => a == b
  | .number a, .number b => a.same b
  | .string a, .string b => a == b
  | .array as, .array bs => sameItems as bs
  | .object as, .object bs => sameMembers as bs
  | _, _ => false

def sameItems : List Json → List Json → Bool
  | [], [] => true
  | a :: as, b :: bs => same a b && sameItems as bs
  | _, _ => false

def sameMembers : List (String × Json) → List (String × Json) → Bool
  | [], [] => true
  | (k, a) :: as, (l, b) :: bs => k == l && same a b && sameMembers as bs
  | _, _ => false

end

mutual

/-- The number of arrays and objects around the innermost value. -/
def depth : Json → Nat
  | .array vs => depthItems vs + 1
  | .object ms => depthMembers ms + 1
  | _ => 0

def depthItems : List Json → Nat
  | [] => 0
  | v :: vs => max (depth v) (depthItems vs)

def depthMembers : List (String × Json) → Nat
  | [] => 0
  | (_, v) :: ms => max (depth v) (depthMembers ms)

end

mutual

/-- The number of values inside, the value itself included. -/
def size : Json → Nat
  | .array vs => sizeItems vs + 1
  | .object ms => sizeMembers ms + 1
  | _ => 1

def sizeItems : List Json → Nat
  | [] => 0
  | v :: vs => size v + sizeItems vs

def sizeMembers : List (String × Json) → Nat
  | [] => 0
  | (_, v) :: ms => size v + sizeMembers ms

end

mutual

/-- The number of texts inside, without the names of members. -/
def texts : Json → Nat
  | .string _ => 1
  | .array vs => textsItems vs
  | .object ms => textsMembers ms
  | _ => 0

def textsItems : List Json → Nat
  | [] => 0
  | v :: vs => texts v + textsItems vs

def textsMembers : List (String × Json) → Nat
  | [] => 0
  | (_, v) :: ms => texts v + textsMembers ms

end

end Json

end SchemaContract
