import SchemaContract.Json

/-!
# The meta-schema of draft 6

What a schema of this dialect has to look like, with the members in the order in which they are
checked.
-/

namespace SchemaContract.MetaSchema.Draft6

def schema : Json :=
  .object [
    ("$schema", .string "http://json-schema.org/draft-06/schema#"),
    ("$id", .string "http://json-schema.org/draft-06/schema#"),
    ("title", .string "Core schema meta-schema"),
    ("definitions", .object [
      ("schemaArray", .object [
        ("type", .string "array"),
        ("minItems", .number (.int 1)),
        ("items", .object [("$ref", .string "#")])]),
      ("nonNegativeInteger", .object [("type", .string "integer"), ("minimum", .number (.int 0))]),
      ("nonNegativeIntegerDefault0", .object [
        ("allOf", .array [
          .object [("$ref", .string "#/definitions/nonNegativeInteger")],
          .object [("default", .number (.int 0))]])]),
      ("simpleTypes", .object [
        ("enum", .array [
          .string "array",
          .string "boolean",
          .string "integer",
          .string "null",
          .string "number",
          .string "object",
          .string "string"])]),
      ("stringArray", .object [
        ("type", .string "array"),
        ("items", .object [("type", .string "string")]),
        ("uniqueItems", .bool true),
        ("default", .array [])])]),
    ("type", .array [.string "object", .string "boolean"]),
    ("properties", .object [
      ("$id", .object [("type", .string "string"), ("format", .string "uri-reference")]),
      ("$schema", .object [("type", .string "string"), ("format", .string "uri")]),
      ("$ref", .object [("type", .string "string"), ("format", .string "uri-reference")]),
      ("title", .object [("type", .string "string")]),
      ("description", .object [("type", .string "string")]),
      ("default", .object []),
      ("examples", .object [("type", .string "array"), ("items", .object [])]),
      ("multipleOf", .object [
        ("type", .string "number"),
        ("exclusiveMinimum", .number (.int 0))]),
      ("maximum", .object [("type", .string "number")]),
      ("exclusiveMaximum", .object [("type", .string "number")]),
      ("minimum", .object [("type", .string "number")]),
      ("exclusiveMinimum", .object [("type", .string "number")]),
      ("maxLength", .object [("$ref", .string "#/definitions/nonNegativeInteger")]),
      ("minLength", .object [("$ref", .string "#/definitions/nonNegativeIntegerDefault0")]),
      ("pattern", .object [("type", .string "string"), ("format", .string "regex")]),
      ("additionalItems", .object [("$ref", .string "#")]),
      ("items", .object [
        ("anyOf", .array [
          .object [("$ref", .string "#")],
          .object [("$ref", .string "#/definitions/schemaArray")]]),
        ("default", .object [])]),
      ("maxItems", .object [("$ref", .string "#/definitions/nonNegativeInteger")]),
      ("minItems", .object [("$ref", .string "#/definitions/nonNegativeIntegerDefault0")]),
      ("uniqueItems", .object [("type", .string "boolean"), ("default", .bool false)]),
      ("contains", .object [("$ref", .string "#")]),
      ("maxProperties", .object [("$ref", .string "#/definitions/nonNegativeInteger")]),
      ("minProperties", .object [("$ref", .string "#/definitions/nonNegativeIntegerDefault0")]),
      ("required", .object [("$ref", .string "#/definitions/stringArray")]),
      ("additionalProperties", .object [("$ref", .string "#")]),
      ("definitions", .object [
        ("type", .string "object"),
        ("additionalProperties", .object [("$ref", .string "#")]),
        ("default", .object [])]),
      ("properties", .object [
        ("type", .string "object"),
        ("additionalProperties", .object [("$ref", .string "#")]),
        ("default", .object [])]),
      ("patternProperties", .object [
        ("type", .string "object"),
        ("additionalProperties", .object [("$ref", .string "#")]),
        ("propertyNames", .object [("format", .string "regex")]),
        ("default", .object [])]),
      ("dependencies", .object [
        ("type", .string "object"),
        ("additionalProperties", .object [
          ("anyOf", .array [
            .object [("$ref", .string "#")],
            .object [("$ref", .string "#/definitions/stringArray")]])])]),
      ("propertyNames", .object [("$ref", .string "#")]),
      ("const", .object []),
      ("enum", .object [("type", .string "array")]),
      ("type", .object [
        ("anyOf", .array [
          .object [("$ref", .string "#/definitions/simpleTypes")],
          .object [
            ("type", .string "array"),
            ("items", .object [("$ref", .string "#/definitions/simpleTypes")]),
            ("minItems", .number (.int 1)),
            ("uniqueItems", .bool true)]])]),
      ("format", .object [("type", .string "string")]),
      ("allOf", .object [("$ref", .string "#/definitions/schemaArray")]),
      ("anyOf", .object [("$ref", .string "#/definitions/schemaArray")]),
      ("oneOf", .object [("$ref", .string "#/definitions/schemaArray")]),
      ("not", .object [("$ref", .string "#")])]),
    ("default", .object [])]

def documents : List Json := [schema]

end SchemaContract.MetaSchema.Draft6
