import SchemaContract.Uri.Reader

/-!
# Resolving references

A reference is resolved against a base as RFC 3986 section 5.2 says, and brought into the form that
serves as a key: scheme and host in small letters, escapes only where they are needed, no port that
goes without saying.
-/

namespace SchemaContract.Uri

/-! ## Dot segments -/

/-- A dot, written as itself or as an escape, at the front. -/
def dropDot? : List Char → Option (List Char)
  | '.' :: rest => some rest
  | '%' :: '2' :: 'E' :: rest => some rest
  | '%' :: '2' :: 'e' :: rest => some rest
  | _ => none

def isDot (segment : List Char) : Bool := dropDot? segment == some []

def isDoubleDot (segment : List Char) : Bool := ((dropDot? segment).bind dropDot?) == some []

/-- Drops `.` and `..` segments; the second argument holds the segments kept, last first. A dot
segment at the end leaves an empty one. -/
def dropDots : List (List Char) → List (List Char) → List (List Char)
  | [], kept => kept.reverse
  | s :: rest, kept =>
    if isDot s then
      if rest.isEmpty then ([] :: kept).reverse else dropDots rest kept
    else if isDoubleDot s then
      if rest.isEmpty then ([] :: kept.tail).reverse else dropDots rest kept.tail
    else dropDots rest (s :: kept)

def joinSegments (segments : List (List Char)) : List Char :=
  (segments.intersperse ['/']).flatten

/-- The path without dot segments. A path that does not start with a slash is left alone. -/
def plainPath (path : List Char) : List Char :=
  match path with
  | '/' :: rest => '/' :: joinSegments (dropDots (Text.pieces '/' rest) [])
  | _ => path

/-- Without an authority a path may not start with two slashes. -/
def guardPath (authority : Option Authority) (path : List Char) : List Char :=
  match authority, path with
  | none, '/' :: '/' :: _ => '/' :: '.' :: path
  | _, _ => path

/-! ## Resolving -/

/-- Why nothing can be resolved against a base. -/
inductive BaseFault where
  | fragment
  | rootless
  deriving DecidableEq, Repr

def BaseFault.message : BaseFault → String
  | .fragment => "base URI/IRI with fragment"
  | .rootless => "relative reference must be empty or start with '#' when resolved against " ++
      "authority-less base URI/IRI with rootless path"

/-- The base has neither an authority nor a path that starts with a slash. -/
def isRootless (base : Uri) : Bool := base.authority.isNone && base.path.head? != some '/'

/-- The path of the base up to its last slash, with the path of the reference behind it. -/
def mergePath (base : Uri) (path : List Char) : List Char :=
  if base.authority.isSome ∧ base.path.isEmpty then '/' :: path
  else (base.path.reverse.dropWhile (· != '/')).reverse ++ path

/-- The target of a reference without scheme and authority that has a path or a query. -/
def resolveRelative (base ref : Uri) : Uri :=
  let path :=
    if ref.path.isEmpty then base.path
    else if ref.path.head? == some '/' then ref.path
    else mergePath base ref.path
  { base with
    path := guardPath base.authority (plainPath path)
    query := if ref.path.isEmpty && ref.query.isNone then base.query else ref.query
    fragment := ref.fragment }

def resolve (base ref : Uri) : Except BaseFault Uri :=
  if base.fragment.isSome then .error .fragment
  else if ref.scheme.isSome then
    .ok { ref with path := guardPath ref.authority (plainPath ref.path) }
  else if ref.authority.isSome then
    .ok { ref with scheme := base.scheme, path := plainPath ref.path }
  else if ref.path.isEmpty && ref.query.isNone then .ok { base with fragment := ref.fragment }
  else if base.isRootless then .error .rootless
  else .ok (resolveRelative base ref)

/-! ## Normal form -/

/-- Escapes of unreserved characters are undone, the digits of the others are capitals. -/
def plainEscapes : List Char → List Char
  | [] => []
  | '%' :: x :: y :: rest =>
    match Text.hexNumber? [x, y] with
    | some n =>
      let c := Char.ofNat n
      if isUnreserved .ascii c then c :: plainEscapes rest
      else '%' :: x.toUpper :: y.toUpper :: plainEscapes rest
    | none => '%' :: x :: y :: plainEscapes rest
  | c :: rest => c :: plainEscapes rest

/-- Small letters outside escapes. -/
def lowerOutsideEscapes : List Char → List Char
  | [] => []
  | '%' :: x :: y :: rest => '%' :: x :: y :: lowerOutsideEscapes rest
  | c :: rest => c.toLower :: lowerOutsideEscapes rest

def Host.normal : Host → Host
  | .name text => .name (lowerOutsideEscapes (plainEscapes text))
  | .ipv6 groups => .ipv6 groups
  | .future text => .future (text.map Char.toLower)

def defaultPort? (scheme : List Char) : Option Nat :=
  match String.ofList scheme with
  | "ftp" => some 21
  | "http" => some 80
  | "https" => some 443
  | "ws" => some 80
  | "wss" => some 443
  | _ => none

/-- A port that is neither empty nor implied. -/
def plainPort (scheme : Option (List Char)) (port : List Char) : Option (List Char) :=
  if port.isEmpty ∨ scheme.bind defaultPort? = some (Text.decimalValue port) then none
  else some port

def Authority.normal (scheme : Option (List Char)) (a : Authority) : Authority :=
  ⟨a.user.map plainEscapes, a.host.normal, a.port.bind (plainPort scheme)⟩

def normal (u : Uri) : Uri :=
  let scheme := u.scheme.map fun s => s.map Char.toLower
  let path := plainEscapes u.path
  { scheme := scheme
    authority := u.authority.map (·.normal scheme)
    path := if scheme.isSome then guardPath u.authority (plainPath path) else path
    query := u.query.map plainEscapes
    fragment := u.fragment.map plainEscapes }

/-! ## References as texts -/

/-- Why a reference text stands for no URI. -/
inductive Unfollowable where
  | malformed (fault : Fault)
  | unresolvable (fault : BaseFault)
  deriving DecidableEq, Repr

/-- The URI that a reference text stands for at a base, in normal form. A mere fragment that the
base has already leaves it as it is. -/
def follow (base : Uri) (reference : List Char) : Except Unfollowable Uri :=
  if reference.head? == some '#' && base.fragment.any ('#' :: · == reference) then .ok base
  else
    match read .ascii reference with
    | .error f => .error (.malformed f)
    | .ok ref =>
      match base.resolve ref with
      | .error f => .error (.unresolvable f)
      | .ok u => .ok u.normal

end SchemaContract.Uri
