import SchemaContract.Json

/-!
# The meta-schema of draft 2019-09

What a schema of this dialect has to look like: a schema that collects one vocabulary after the
other, with the members in the order in which they are checked.
-/

namespace SchemaContract.MetaSchema.Draft2019

def schema : Json :=
  .object [
    ("$schema", .string "https://json-schema.org/draft/2019-09/schema"),
    ("$id", .string "https://json-schema.org/draft/2019-09/schema"),
    ("$vocabulary", .object [
      ("https://json-schema.org/draft/2019-09/vocab/core", .bool true),
      ("https://json-schema.org/draft/2019-09/vocab/applicator", .bool true),
      ("https://json-schema.org/draft/2019-09/vocab/validation", .bool true),
      ("https://json-schema.org/draft/2019-09/vocab/meta-data", .bool true),
      ("https://json-schema.org/draft/2019-09/vocab/format", .bool false),
      ("https://json-schema.org/draft/2019-09/vocab/content", .bool true)]),
    ("$recursiveAnchor", .bool true),
    ("title", .string "Core and Validation specifications meta-schema"),
    ("allOf", .array [
      .object [("$ref", .string "meta/core")],
      .object [("$ref", .string "meta/applicator")],
      .object [("$ref", .string "meta/validation")],
      .object [("$ref", .string "meta/meta-data")],
      .object [("$ref", .string "meta/format")],
      .object [("$ref", .string "meta/content")]]),
    ("type", .array [.string "object", .string "boolean"]),
    ("properties", .object [
      ("definitions", .object [
        ("$comment",
          .string ("While no longer an official keyword as it is replaced by $defs, this " ++
            "keyword is retained in the meta-schema to prevent incompatible extensions as it " ++
            "remains in common use.")),
        ("type", .string "object"),
        ("additionalProperties", .object [("$recursiveRef", .string "#")]),
        ("default", .object [])]),
      ("dependencies", .object [
        ("$comment",
          .string ("\"dependencies\" is no longer a keyword, but schema authors should avoid " ++
            "redefining it to facilitate a smooth transition to \"dependentSchemas\" and " ++
            "\"dependentRequired\"")),
        ("type", .string "object"),
        ("additionalProperties", .object [
          ("anyOf", .array [
            .object [("$recursiveRef", .string "#")],
            .object [("$ref", .string "meta/validation#/$defs/stringArray")]])])])])]

def core : Json :=
  .object [
    ("$schema", .string "https://json-schema.org/draft/2019-09/schema"),
    ("$id", .string "https://json-schema.org/draft/2019-09/meta/core"),
    ("$vocabulary", .object [("https://json-schema.org/draft/2019-09/vocab/core", .bool true)]),
    ("$recursiveAnchor", .bool true),
    ("title", .string "Core vocabulary meta-schema"),
    ("type", .array [.string "object", .string "boolean"]),
    ("properties", .object [
      ("$id", .object [
        ("type", .string "string"),
        ("format", .string "uri-reference"),
        ("$comment", .string "Non-empty fragments not allowed."),
        ("pattern", .string "^[^#]*#?$")]),
      ("$schema", .object [("type", .string "string"), ("format", .string "uri")]),
      ("$anchor", .object [
        ("type", .string "string"),
        ("pattern", .string "^[A-Za-z][-A-Za-z0-9.:_]*$")]),
      ("$ref", .object [("type", .string "string"), ("format", .string "uri-reference")]),
      ("$recursiveRef", .object [("type", .string "string"), ("format", .string "uri-reference")]),
      ("$recursiveAnchor", .object [("type", .string "boolean"), ("default", .bool false)]),
      ("$vocabulary", .object [
        ("type", .string "object"),
        ("propertyNames", .object [("type", .string "string"), ("format", .string "uri")]),
        ("additionalProperties", .object [("type", .string "boolean")])]),
      ("$comment", .object [("type", .string "string")]),
      ("$defs", .object [
        ("type", .string "object"),
        ("additionalProperties", .object [("$recursiveRef", .string "#")]),
        ("default", .object [])])])]

def applicator : Json :=
  .object [
    ("$schema", .string "https://json-schema.org/draft/2019-09/schema"),
    ("$id", .string "https://json-schema.org/draft/2019-09/meta/applicator"),
    ("$vocabulary", .object [
      ("https://json-schema.org/draft/2019-09/vocab/applicator", .bool true)]),
    ("$recursiveAnchor", .bool true),
    ("title", .string "Applicator vocabulary meta-schema"),
    ("type", .array [.string "object", .string "boolean"]),
    ("properties", .object [
      ("additionalItems", .object [("$recursiveRef", .string "#")]),
      ("unevaluatedItems", .object [("$recursiveRef", .string "#")]),
      ("items", .object [
        ("anyOf", .array [
          .object [("$recursiveRef", .string "#")],
          .object [("$ref", .string "#/$defs/schemaArray")]])]),
      ("contains", .object [("$recursiveRef", .string "#")]),
      ("additionalProperties", .object [("$recursiveRef", .string "#")]),
      ("unevaluatedProperties", .object [("$recursiveRef", .string "#")]),
      ("properties", .object [
        ("type", .string "object"),
        ("additionalProperties", .object [("$recursiveRef", .string "#")]),
        ("default", .object [])]),
      ("patternProperties", .object [
        ("type", .string "object"),
        ("additionalProperties", .object [("$recursiveRef", .string "#")]),
        ("propertyNames", .object [("format", .string "regex")]),
        ("default", .object [])]),
      ("dependentSchemas", .object [
        ("type", .string "object"),
        ("additionalProperties", .object [("$recursiveRef", .string "#")])]),
      ("propertyNames", .object [("$recursiveRef", .string "#")]),
      ("if", .object [("$recursiveRef", .string "#")]),
      ("then", .object [("$recursiveRef", .string "#")]),
      ("else", .object [("$recursiveRef", .string "#")]),
      ("allOf", .object [("$ref", .string "#/$defs/schemaArray")]),
      ("anyOf", .object [("$ref", .string "#/$defs/schemaArray")]),
      ("oneOf", .object [("$ref", .string "#/$defs/schemaArray")]),
      ("not", .object [("$recursiveRef", .string "#")])]),
    ("$defs", .object [
      ("schemaArray", .object [
        ("type", .string "array"),
        ("minItems", .number (.int 1)),
        ("items", .object [("$recursiveRef", .string "#")])])])]

def validation : Json :=
  .object [
    ("$schema", .string "https://json-schema.org/draft/2019-09/schema"),
    ("$id", .string "https://json-schema.org/draft/2019-09/meta/validation"),
    ("$vocabulary", .object [
      ("https://json-schema.org/draft/2019-09/vocab/validation", .bool true)]),
    ("$recursiveAnchor", .bool true),
    ("title", .string "Validation vocabulary meta-schema"),
    ("type", .array [.string "object", .string "boolean"]),
    ("properties", .object [
      ("multipleOf", .object [
        ("type", .string "number"),
        ("exclusiveMinimum", .number (.int 0))]),
      ("maximum", .object [("type", .string "number")]),
      ("exclusiveMaximum", .object [("type", .string "number")]),
      ("minimum", .object [("type", .string "number")]),
      ("exclusiveMinimum", .object [("type", .string "number")]),
      ("maxLength", .object [("$ref", .string "#/$defs/nonNegativeInteger")]),
      ("minLength", .object [("$ref", .string "#/$defs/nonNegativeIntegerDefault0")]),
      ("pattern", .object [("type", .string "string"), ("format", .string "regex")]),
      ("maxItems", .object [("$ref", .string "#/$defs/nonNegativeInteger")]),
      ("minItems", .object [("$ref", .string "#/$defs/nonNegativeIntegerDefault0")]),
      ("uniqueItems", .object [("type", .string "boolean"), ("default", .bool false)]),
      ("maxContains", .object [("$ref", .string "#/$defs/nonNegativeInteger")]),
      ("minContains", .object [
        ("$ref", .string "#/$defs/nonNegativeInteger"),
        ("default", .number (.int 1))]),
      ("maxProperties", .object [("$ref", .string "#/$defs/nonNegativeInteger")]),
      ("minProperties", .object [("$ref", .string "#/$defs/nonNegativeIntegerDefault0")]),
      ("required", .object [("$ref", .string "#/$defs/stringArray")]),
      ("dependentRequired", .object [
        ("type", .string "object"),
        ("additionalProperties", .object [("$ref", .string "#/$defs/stringArray")])]),
      ("const", .bool true),
      ("enum", .object [("type", .string "array"), ("items", .bool true)]),
      ("type", .object [
        ("anyOf", .array [
          .object [("$ref", .string "#/$defs/simpleTypes")],
          .object [
            ("type", .string "array"),
            ("items", .object [("$ref", .string "#/$defs/simpleTypes")]),
            ("minItems", .number (.int 1)),
            ("uniqueItems", .bool true)]])])]),
    ("$defs", .object [
      ("nonNegativeInteger", .object [("type", .string "integer"), ("minimum", .number (.int 0))]),
      ("nonNegativeIntegerDefault0", .object [
        ("$ref", .string "#/$defs/nonNegativeInteger"),
        ("default", .number (.int 0))]),
      ("simpleTypes", .object [
        ("enum", .array [
          .string "array",
          .string "boolean",
          .string "integer",
          .string "null",
          .string "number",
          .string "object",
          .string "string"])]),
      ("stringArray", .object [
        ("type", .string "array"),
        ("items", .object [("type", .string "string")]),
        ("uniqueItems", .bool true),
        ("default", .array [])])])]

def metaData : Json :=
  .object [
    ("$schema", .string "https://json-schema.org/draft/2019-09/schema"),
    ("$id", .string "https://json-schema.org/draft/2019-09/meta/meta-data"),
    ("$vocabulary", .object [
      ("https://json-schema.org/draft/2019-09/vocab/meta-data", .bool true)]),
    ("$recursiveAnchor", .bool true),
    ("title", .string "Meta-data vocabulary meta-schema"),
    ("type", .array [.string "object", .string "boolean"]),
    ("properties", .object [
      ("title", .object [("type", .string "string")]),
      ("description", .object [("type", .string "string")]),
      ("default", .bool true),
      ("deprecated", .object [("type", .string "boolean"), ("default", .bool false)]),
      ("readOnly", .object [("type", .string "boolean"), ("default", .bool false)]),
      ("writeOnly", .object [("type", .string "boolean"), ("default", .bool false)]),
      ("examples", .object [("type", .string "array"), ("items", .bool true)])])]

def format : Json :=
  .object [
    ("$schema", .string "https://json-schema.org/draft/2019-09/schema"),
    ("$id", .string "https://json-schema.org/draft/2019-09/meta/format"),
    ("$vocabulary", .object [("https://json-schema.org/draft/2019-09/vocab/format", .bool true)]),
    ("$recursiveAnchor", .bool true),
    ("title", .string "Format vocabulary meta-schema"),
    ("type", .array [.string "object", .string "boolean"]),
    ("properties", .object [("format", .object [("type", .string "string")])])]

def content : Json :=
  .object [
    ("$schema", .string "https://json-schema.org/draft/2019-09/schema"),
    ("$id", .string "https://json-schema.org/draft/2019-09/meta/content"),
    ("$vocabulary", .object [
      ("https://json-schema.org/draft/2019-09/vocab/content", .bool true)]),
    ("$recursiveAnchor", .bool true),
    ("title", .string "Content vocabulary meta-schema"),
    ("type", .array [.string "object", .string "boolean"]),
    ("properties", .object [
      ("contentMediaType", .object [("type", .string "string")]),
      ("contentEncoding", .object [("type", .string "string")]),
      ("contentSchema", .object [("$recursiveRef", .string "#")])])]

def documents : List Json :=
  [schema, core, applicator, validation, metaData, format, content]

end SchemaContract.MetaSchema.Draft2019
