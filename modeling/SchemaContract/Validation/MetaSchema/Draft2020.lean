import SchemaContract.Json

/-!
# The meta-schema of draft 2020-12

What a schema of this dialect has to look like: a schema that collects one vocabulary after the
other, with the members in the order in which they are checked.
-/

namespace SchemaContract.MetaSchema.Draft2020

def schema : Json :=
  .object [
    ("$schema", .string "https://json-schema.org/draft/2020-12/schema"),
    ("$id", .string "https://json-schema.org/draft/2020-12/schema"),
    ("$vocabulary", .object [
      ("https://json-schema.org/draft/2020-12/vocab/core", .bool true),
      ("https://json-schema.org/draft/2020-12/vocab/applicator", .bool true),
      ("https://json-schema.org/draft/2020-12/vocab/unevaluated", .bool true),
      ("https://json-schema.org/draft/2020-12/vocab/validation", .bool true),
      ("https://json-schema.org/draft/2020-12/vocab/meta-data", .bool true),
      ("https://json-schema.org/draft/2020-12/vocab/format-annotation", .bool true),
      ("https://json-schema.org/draft/2020-12/vocab/content", .bool true)]),
    ("$dynamicAnchor", .string "meta"),
    ("title", .string "Core and Validation specifications meta-schema"),
    ("allOf", .array [
      .object [("$ref", .string "meta/core")],
      .object [("$ref", .string "meta/applicator")],
      .object [("$ref", .string "meta/unevaluated")],
      .object [("$ref", .string "meta/validation")],
      .object [("$ref", .string "meta/meta-data")],
      .object [("$ref", .string "meta/format-annotation")],
      .object [("$ref", .string "meta/content")]]),
    ("type", .array [.string "object", .string "boolean"]),
    ("$comment",
      .string ("This meta-schema also defines keywords that have appeared in previous drafts in " ++
        "order to prevent incompatible extensions as they remain in common use.")),
    ("properties", .object [
      ("definitions", .object [
        ("$comment", .string "\"definitions\" has been replaced by \"$defs\"."),
        ("type", .string "object"),
        ("additionalProperties", .object [("$dynamicRef", .string "#meta")]),
        ("deprecated", .bool true),
        ("default", .object [])]),
      ("dependencies", .object [
        ("$comment",
          .string ("\"dependencies\" has been split and replaced by \"dependentSchemas\" and " ++
            "\"dependentRequired\" in order to serve their differing semantics.")),
        ("type", .string "object"),
        ("additionalProperties", .object [
          ("anyOf", .array [
            .object [("$dynamicRef", .string "#meta")],
            .object [("$ref", .string "meta/validation#/$defs/stringArray")]])]),
        ("deprecated", .bool true),
        ("default", .object [])]),
      ("$recursiveAnchor", .object [
        ("$comment", .string "\"$recursiveAnchor\" has been replaced by \"$dynamicAnchor\"."),
        ("$ref", .string "meta/core#/$defs/anchorString"),
        ("deprecated", .bool true)]),
      ("$recursiveRef", .object [
        ("$comment", .string "\"$recursiveRef\" has been replaced by \"$dynamicRef\"."),
        ("$ref", .string "meta/core#/$defs/uriReferenceString"),
        ("deprecated", .bool true)])])]

def core : Json :=
  .object [
    ("$schema", .string "https://json-schema.org/draft/2020-12/schema"),
    ("$id", .string "https://json-schema.org/draft/2020-12/meta/core"),
    ("$vocabulary", .object [("https://json-schema.org/draft/2020-12/vocab/core", .bool true)]),
    ("$dynamicAnchor", .string "meta"),
    ("title", .string "Core vocabulary meta-schema"),
    ("type", .array [.string "object", .string "boolean"]),
    ("properties", .object [
      ("$id", .object [
        ("$ref", .string "#/$defs/uriReferenceString"),
        ("$comment", .string "Non-empty fragments not allowed."),
        ("pattern", .string "^[^#]*#?$")]),
      ("$schema", .object [("$ref", .string "#/$defs/uriString")]),
      ("$ref", .object [("$ref", .string "#/$defs/uriReferenceString")]),
      ("$anchor", .object [("$ref", .string "#/$defs/anchorString")]),
      ("$dynamicRef", .object [("$ref", .string "#/$defs/uriReferenceString")]),
      ("$dynamicAnchor", .object [("$ref", .string "#/$defs/anchorString")]),
      ("$vocabulary", .object [
        ("type", .string "object"),
        ("propertyNames", .object [("$ref", .string "#/$defs/uriString")]),
        ("additionalProperties", .object [("type", .string "boolean")])]),
      ("$comment", .object [("type", .string "string")]),
      ("$defs", .object [
        ("type", .string "object"),
        ("additionalProperties", .object [("$dynamicRef", .string "#meta")])])]),
    ("$defs", .object [
      ("anchorString", .object [
        ("type", .string "string"),
        ("pattern", .string "^[A-Za-z_][-A-Za-z0-9._]*$")]),
      ("uriString", .object [("type", .string "string"), ("format", .string "uri")]),
      ("uriReferenceString",
        .object [("type", .string "string"), ("format", .string "uri-reference")])])]

def applicator : Json :=
  .object [
    ("$schema", .string "https://json-schema.org/draft/2020-12/schema"),
    ("$id", .string "https://json-schema.org/draft/2020-12/meta/applicator"),
    ("$vocabulary", .object [
      ("https://json-schema.org/draft/2020-12/vocab/applicator", .bool true)]),
    ("$dynamicAnchor", .string "meta"),
    ("title", .string "Applicator vocabulary meta-schema"),
    ("type", .array [.string "object", .string "boolean"]),
    ("properties", .object [
      ("prefixItems", .object [("$ref", .string "#/$defs/schemaArray")]),
      ("items", .object [("$dynamicRef", .string "#meta")]),
      ("contains", .object [("$dynamicRef", .string "#meta")]),
      ("additionalProperties", .object [("$dynamicRef", .string "#meta")]),
      ("properties", .object [
        ("type", .string "object"),
        ("additionalProperties", .object [("$dynamicRef", .string "#meta")]),
        ("default", .object [])]),
      ("patternProperties", .object [
        ("type", .string "object"),
        ("additionalProperties", .object [("$dynamicRef", .string "#meta")]),
        ("propertyNames", .object [("format", .string "regex")]),
        ("default", .object [])]),
      ("dependentSchemas", .object [
        ("type", .string "object"),
        ("additionalProperties", .object [("$dynamicRef", .string "#meta")]),
        ("default", .object [])]),
      ("propertyNames", .object [("$dynamicRef", .string "#meta")]),
      ("if", .object [("$dynamicRef", .string "#meta")]),
      ("then", .object [("$dynamicRef", .string "#meta")]),
      ("else", .object [("$dynamicRef", .string "#meta")]),
      ("allOf", .object [("$ref", .string "#/$defs/schemaArray")]),
      ("anyOf", .object [("$ref", .string "#/$defs/schemaArray")]),
      ("oneOf", .object [("$ref", .string "#/$defs/schemaArray")]),
      ("not", .object [("$dynamicRef", .string "#meta")])]),
    ("$defs", .object [
      ("schemaArray", .object [
        ("type", .string "array"),
        ("minItems", .number (.int 1)),
        ("items", .object [("$dynamicRef", .string "#meta")])])])]

def unevaluated : Json :=
  .object [
    ("$schema", .string "https://json-schema.org/draft/2020-12/schema"),
    ("$id", .string "https://json-schema.org/draft/2020-12/meta/unevaluated"),
    ("$vocabulary", .object [
      ("https://json-schema.org/draft/2020-12/vocab/unevaluated", .bool true)]),
    ("$dynamicAnchor", .string "meta"),
    ("title", .string "Unevaluated applicator vocabulary meta-schema"),
    ("type", .array [.string "object", .string "boolean"]),
    ("properties", .object [
      ("unevaluatedItems", .object [("$dynamicRef", .string "#meta")]),
      ("unevaluatedProperties", .object [("$dynamicRef", .string "#meta")])])]

def validation : Json :=
  .object [
    ("$schema", .string "https://json-schema.org/draft/2020-12/schema"),
    ("$id", .string "https://json-schema.org/draft/2020-12/meta/validation"),
    ("$vocabulary", .object [
      ("https://json-schema.org/draft/2020-12/vocab/validation", .bool true)]),
    ("$dynamicAnchor", .string "meta"),
    ("title", .string "Validation vocabulary meta-schema"),
    ("type", .array [.string "object", .string "boolean"]),
    ("properties", .object [
      ("type", .object [
        ("anyOf", .array [
          .object [("$ref", .string "#/$defs/simpleTypes")],
          .object [
            ("type", .string "array"),
            ("items", .object [("$ref", .string "#/$defs/simpleTypes")]),
            ("minItems", .number (.int 1)),
            ("uniqueItems", .bool true)]])]),
      ("const", .bool true),
      ("enum", .object [("type", .string "array"), ("items", .bool true)]),
      ("multipleOf", .object [
        ("type", .string "number"),
        ("exclusiveMinimum", .number (.int 0))]),
      ("maximum", .object [("type", .string "number")]),
      ("exclusiveMaximum", .object [("type", .string "number")]),
      ("minimum", .object [("type", .string "number")]),
      ("exclusiveMinimum", .object [("type", .string "number")]),
      ("maxLength", .object [("$ref", .string "#/$defs/nonNegativeInteger")]),
      ("minLength", .object [("$ref", .string "#/$defs/nonNegativeIntegerDefault0")]),
      ("pattern", .object [("type", .string "string"), ("format", .string "regex")]),
      ("maxItems", .object [("$ref", .string "#/$defs/nonNegativeInteger")]),
      ("minItems", .object [("$ref", .string "#/$defs/nonNegativeIntegerDefault0")]),
      ("uniqueItems", .object [("type", .string "boolean"), ("default", .bool false)]),
      ("maxContains", .object [("$ref", .string "#/$defs/nonNegativeInteger")]),
      ("minContains", .object [
        ("$ref", .string "#/$defs/nonNegativeInteger"),
        ("default", .number (.int 1))]),
      ("maxProperties", .object [("$ref", .string "#/$defs/nonNegativeInteger")]),
      ("minProperties", .object [("$ref", .string "#/$defs/nonNegativeIntegerDefault0")]),
      ("required", .object [("$ref", .string "#/$defs/stringArray")]),
      ("dependentRequired", .object [
        ("type", .string "object"),
        ("additionalProperties", .object [("$ref", .string "#/$defs/stringArray")])])]),
    ("$defs", .object [
      ("nonNegativeInteger", .object [("type", .string "integer"), ("minimum", .number (.int 0))]),
      ("nonNegativeIntegerDefault0", .object [
        ("$ref", .string "#/$defs/nonNegativeInteger"),
        ("default", .number (.int 0))]),
      ("simpleTypes", .object [
        ("enum", .array [
          .string "array",
          .string "boolean",
          .string "integer",
          .string "null",
          .string "number",
          .string "object",
          .string "string"])]),
      ("stringArray", .object [
        ("type", .string "array"),
        ("items", .object [("type", .string "string")]),
        ("uniqueItems", .bool true),
        ("default", .array [])])])]

def metaData : Json :=
  .object [
    ("$schema", .string "https://json-schema.org/draft/2020-12/schema"),
    ("$id", .string "https://json-schema.org/draft/2020-12/meta/meta-data"),
    ("$vocabulary", .object [
      ("https://json-schema.org/draft/2020-12/vocab/meta-data", .bool true)]),
    ("$dynamicAnchor", .string "meta"),
    ("title", .string "Meta-data vocabulary meta-schema"),
    ("type", .array [.string "object", .string "boolean"]),
    ("properties", .object [
      ("title", .object [("type", .string "string")]),
      ("description", .object [("type", .string "string")]),
      ("default", .bool true),
      ("deprecated", .object [("type", .string "boolean"), ("default", .bool false)]),
      ("readOnly", .object [("type", .string "boolean"), ("default", .bool false)]),
      ("writeOnly", .object [("type", .string "boolean"), ("default", .bool false)]),
      ("examples", .object [("type", .string "array"), ("items", .bool true)])])]

def formatAnnotation : Json :=
  .object [
    ("$schema", .string "https://json-schema.org/draft/2020-12/schema"),
    ("$id", .string "https://json-schema.org/draft/2020-12/meta/format-annotation"),
    ("$vocabulary", .object [
      ("https://json-schema.org/draft/2020-12/vocab/format-annotation", .bool true)]),
    ("$dynamicAnchor", .string "meta"),
    ("title", .string "Format vocabulary meta-schema for annotation results"),
    ("type", .array [.string "object", .string "boolean"]),
    ("properties", .object [("format", .object [("type", .string "string")])])]

def content : Json :=
  .object [
    ("$schema", .string "https://json-schema.org/draft/2020-12/schema"),
    ("$id", .string "https://json-schema.org/draft/2020-12/meta/content"),
    ("$vocabulary", .object [
      ("https://json-schema.org/draft/2020-12/vocab/content", .bool true)]),
    ("$dynamicAnchor", .string "meta"),
    ("title", .string "Content vocabulary meta-schema"),
    ("type", .array [.string "object", .string "boolean"]),
    ("properties", .object [
      ("contentEncoding", .object [("type", .string "string")]),
      ("contentMediaType", .object [("type", .string "string")]),
      ("contentSchema", .object [("$dynamicRef", .string "#meta")])])]

def documents : List Json :=
  [schema, core, applicator, unevaluated, validation, metaData, formatAnnotation, content]

end SchemaContract.MetaSchema.Draft2020
