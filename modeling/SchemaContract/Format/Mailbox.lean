import SchemaContract.Address
import SchemaContract.Text.Blank
import SchemaContract.Text.Pieces
import SchemaContract.Unicode.Property

/-!
# Mailboxes

The mailboxes of RFC 5321: a local part, which may be quoted, an at sign and a domain, which may be
an address in brackets. A mailbox in angle brackets may follow a name. What a host name is comes
from outside.
-/

namespace SchemaContract.Format

def maxLocalPart : Nat := 64

def maxDomain : Nat := 254

def bytesOf (cs : List Char) : Nat := cs.foldl (fun n c => n + c.utf8Size) 0

def isBeyondAscii (c : Char) : Bool := 0x80 ≤ c.toNat

def isAtomChar (c : Char) : Bool :=
  c.isAlphanum || isBeyondAscii c || "!#$%&'*+-/=?^_\x60\x7b|\x7d~".toList.contains c

/-- The content between the quotes of a local part. -/
def isQuotedContent : List Char → Bool
  | [] => true
  | '\\' :: c :: rest =>
    0x21 ≤ c.toNat && c.toNat ≤ 0x7E && isQuotedContent rest
  | c :: rest =>
    (c == ' ' || c == '\t' || (0x21 ≤ c.toNat && c.toNat ≤ 0x7E && c != '"' && c != '\\') ||
      isBeyondAscii c) && isQuotedContent rest

def isDotAtom (cs : List Char) : Bool :=
  (Text.pieces '.' cs).all fun atom => !atom.isEmpty && atom.all isAtomChar

def isLocalPart (cs : List Char) : Bool :=
  bytesOf cs ≤ maxLocalPart &&
  match cs with
  | '"' :: rest =>
    if rest.getLast? = some '"' then rest.length ≠ 1 && isQuotedContent rest.dropLast
    else false
  | _ => isDotAtom cs

/-- An address in brackets, behind the opening one. -/
def isAddressLiteral (cs : List Char) : Bool :=
  match cs with
  | 'I' :: 'P' :: 'v' :: '6' :: ':' :: rest => Address.isIpv6 rest
  | _ => Address.isIpv4 cs

/-- The longest label of a domain, in bytes. -/
def maxDomainLabel : Nat := 63

def isDomainLabel (cs : List Char) : Bool :=
  bytesOf cs ≤ maxDomainLabel && cs.all isAtomChar &&
    cs.head?.any (fun c => Unicode.isAlphanumeric c.toNat) &&
    cs.getLast?.any (fun c => Unicode.isAlphanumeric c.toNat)

def isDomain (isHost : List Char → Bool) (cs : List Char) : Bool :=
  bytesOf cs ≤ maxDomain &&
  match cs with
  | '[' :: rest => rest.getLast? == some ']' && isAddressLiteral rest.dropLast
  | _ => (Text.pieces '.' cs).all isDomainLabel && isHost cs

def cutLastAt (cs : List Char) : Option (List Char × List Char) :=
  match Text.cutAt '@' cs.reverse with
  | (domain, some rest) => some (rest.reverse, domain.reverse)
  | _ => none

/-- The text behind the last blank with an angle bracket, if there is one. -/
def bracketed? : List Char → Option (List Char)
  | [] => none
  | ' ' :: '<' :: rest => some ((bracketed? rest).getD rest)
  | _ :: rest => bracketed? rest

/-- The mailbox behind a name, or the text itself if there is none. -/
def unnamed? (cs : List Char) : Option (List Char) :=
  match bracketed? cs with
  | none => some cs
  | some rest =>
    let rest := Text.trimChars rest
    if rest.getLast? = some '>' then some rest.dropLast else none

def isMailbox (isHost : List Char → Bool) (cs : List Char) : Bool :=
  match (unnamed? cs).bind cutLastAt with
  | some (part, domain) => isLocalPart part && isDomain isHost domain
  | none => false

end SchemaContract.Format
