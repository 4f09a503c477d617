import SchemaContract.Dialect
import SchemaContract.Format.Calendar
import SchemaContract.Format.Hostname
import SchemaContract.Format.International
import SchemaContract.Format.Mailbox
import SchemaContract.Format.Template
import SchemaContract.Pattern
import SchemaContract.Uri.Reader

/-!
# Formats

The named formats of strings. A dialect knows a format from the draft on that defines it; names that
a dialect does not know hold of every string.
-/

namespace SchemaContract

inductive Format where
  | date
  | dateTime
  | time
  | duration
  | email
  | idnEmail
  | hostname
  | idnHostname
  | ipv4
  | ipv6
  | uri
  | uriReference
  | iri
  | iriReference
  | uriTemplate
  | jsonPointer
  | relativeJsonPointer
  | regex
  | uuid
  deriving DecidableEq, Repr

namespace Format

def name : Format → String
  | .date => "date"
  | .dateTime => "date-time"
  | .time => "time"
  | .duration => "duration"
  | .email => "email"
  | .idnEmail => "idn-email"
  | .hostname => "hostname"
  | .idnHostname => "idn-hostname"
  | .ipv4 => "ipv4"
  | .ipv6 => "ipv6"
  | .uri => "uri"
  | .uriReference => "uri-reference"
  | .iri => "iri"
  | .iriReference => "iri-reference"
  | .uriTemplate => "uri-template"
  | .jsonPointer => "json-pointer"
  | .relativeJsonPointer => "relative-json-pointer"
  | .regex => "regex"
  | .uuid => "uuid"

def all : List Format :=
  [.date, .dateTime, .time, .duration, .email, .idnEmail, .hostname, .idnHostname, .ipv4, .ipv6,
   .uri, .uriReference, .iri, .iriReference, .uriTemplate, .jsonPointer, .relativeJsonPointer,
   .regex, .uuid]

/-- The first dialect that knows the format. -/
def firstDialect : Format → Dialect
  | .jsonPointer | .uriReference | .uriTemplate => .draft6
  | .idnHostname | .iri | .iriReference | .relativeJsonPointer => .draft7
  | .duration | .uuid => .draft2019
  | _ => .draft4

/-- The format that a name stands for in a dialect. -/
def ofName? (d : Dialect) (s : String) : Option Format :=
  all.find? fun f => f.name == s && d.isSince f.firstDialect

def holds (f : Format) (s : String) : Bool :=
  let cs := s.toList
  match f with
  | .date => isDate cs
  | .dateTime => isDateTime cs
  | .time => isTime cs
  | .duration => isDuration cs
  | .email => isMailbox isHostname cs
  | .idnEmail => isMailbox isInternationalHostname cs
  | .hostname => isHostname cs
  | .idnHostname => isInternationalHostname cs
  | .ipv4 => Address.isIpv4 cs
  | .ipv6 => Address.isIpv6 cs
  | .uri => Uri.isAbsolute .ascii cs
  | .uriReference => Uri.isReference .ascii cs
  | .iri => Uri.isAbsolute .international cs
  | .iriReference => Uri.isReference .international cs
  | .uriTemplate => isTemplate cs
  | .jsonPointer => isJsonPointer cs
  | .relativeJsonPointer => isRelativeJsonPointer cs
  | .regex => Pattern.isWellFormed s
  | .uuid => isUuid cs

end Format

end SchemaContract
