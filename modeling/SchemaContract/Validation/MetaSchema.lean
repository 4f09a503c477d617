import SchemaContract.Validation.Linking
import SchemaContract.Validation.MetaSchema.Draft2019
import SchemaContract.Validation.MetaSchema.Draft2020
import SchemaContract.Validation.MetaSchema.Draft4
import SchemaContract.Validation.MetaSchema.Draft6
import SchemaContract.Validation.MetaSchema.Draft7

/-!
# Meta-schemas

The schemas of schemas. Those of a dialect make up a library, which schemas of the dialect may refer
to. Formats count in them up to draft 7.
-/

namespace SchemaContract.MetaSchema

def documents : Dialect → List Json
  | .draft4 => Draft4.documents
  | .draft6 => Draft6.documents
  | .draft7 => Draft7.documents
  | .draft2019 => Draft2019.documents
  | .draft2020 => Draft2020.documents

def root : Dialect → Json
  | .draft4 => Draft4.schema
  | .draft6 => Draft6.schema
  | .draft7 => Draft7.schema
  | .draft2019 => Draft2019.schema
  | .draft2020 => Draft2020.schema

def uri (d : Dialect) : Uri :=
  match Uri.unnamed.follow d.uri.toList with
  | .ok u => u
  | .error _ => .unnamed

/-- The documents of a dialect, each under the URI that it gives itself. -/
def library (d : Dialect) : Library :=
  (documents d).foldl
    (fun lib doc =>
      match Uri.unnamed.enter d doc with
      | .ok u => lib.add d u doc
      | .error _ => lib)
    .empty

/-- A compiled meta-schema; one that did not compile would hold no schema back. -/
def compiled (d : Dialect) : Program :=
  match Program.compile (library d) (d.isUpTo .draft7) d (uri d) (root d) with
  | .ok p => p
  | .error _ => .acceptAll

def draft4 : Program := compiled .draft4

def draft6 : Program := compiled .draft6

def draft7 : Program := compiled .draft7

def draft2019 : Program := compiled .draft2019

def draft2020 : Program := compiled .draft2020

def program : Dialect → Program
  | .draft4 => draft4
  | .draft6 => draft6
  | .draft7 => draft7
  | .draft2019 => draft2019
  | .draft2020 => draft2020

end SchemaContract.MetaSchema
