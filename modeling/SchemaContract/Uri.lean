import SchemaContract.Address

/-!
# URI references

A reference has five components: `scheme://authority/path?query#fragment`. The authority is a host,
perhaps with user information before it and a port behind it. `Uri.Reader` reads references,
`Uri.Resolve` puts them together.
-/

namespace SchemaContract

namespace Uri

inductive Host where
  | name (text : List Char)
  | ipv6 (groups : List Nat)
  | future (text : List Char)
  deriving BEq, ReflBEq, LawfulBEq, Repr

structure Authority where
  user : Option (List Char)
  host : Host
  port : Option (List Char)
  deriving BEq, ReflBEq, LawfulBEq, Repr

end Uri

structure Uri where
  scheme : Option (List Char)
  authority : Option Uri.Authority
  path : List Char
  query : Option (List Char)
  fragment : Option (List Char)
  deriving BEq, ReflBEq, LawfulBEq, Repr

instance : DecidableEq Uri := instDecidableEqOfLawfulBEq

namespace Uri

def Host.toChars : Host → List Char
  | .name text => text
  | .ipv6 groups => '[' :: Address.ipv6Text groups ++ [']']
  | .future text => '[' :: text ++ [']']

/-- The host of authorities that name none. -/
def Host.none : Host := .name []

def Authority.toChars (a : Authority) : List Char :=
  (match a.user with
    | some user => user ++ ['@']
    | none => []) ++
  a.host.toChars ++
  (match a.port with
    | some port => ':' :: port
    | none => [])

def toChars (u : Uri) : List Char :=
  (match u.scheme with
    | some s => s ++ [':']
    | none => []) ++
  (match u.authority with
    | some a => '/' :: '/' :: a.toChars
    | none => []) ++
  u.path ++
  (match u.query with
    | some q => '?' :: q
    | none => []) ++
  (match u.fragment with
    | some f => '#' :: f
    | none => [])

def text (u : Uri) : String := String.ofList u.toChars

def withoutFragment (u : Uri) : Uri := { u with fragment := none }

end Uri

end SchemaContract
