import SchemaContract.Json

/-!
# The meta-schema of draft 4

What a schema of this dialect has to look like, with the members in the order in which they are
checked.
-/

namespace SchemaContract.MetaSchema.Draft4

def schema : Json :=
  .object [
    ("id", .string "http://json-schema.org/draft-04/schema#"),
    ("$schema", .string "http://json-schema.org/draft-04/schema#"),
    ("description", .string "Core schema meta-schema"),
    ("definitions", .object [
      ("schemaArray", .object [
        ("type", .string "array"),
        ("minItems", .number (.int 1)),
        ("items", .object [("$ref", .string "#")])]),
      ("positiveInteger", .object [("type", .string "integer"), ("minimum", .number (.int 0))]),
      ("positiveIntegerDefault0", .object [
        ("allOf", .array [
          .object [("$ref", .string "#/definitions/positiveInteger")],
          .object [("default", .number (.int 0))]])]),
      ("simpleTypes", .object [
        ("enum", .array [
          .string "array",
          .string "boolean",
          .string "integer",
          .string "null",
          .string "number",
          .string "object",
          .string "string"])]),
      ("stringArray", .object [
        ("type", .string "array"),
        ("items", .object [("type", .string "string")]),
        ("minItems", .number (.int 1)),
        ("uniqueItems", .bool true)])]),
    ("type", .string "object"),
    ("properties", .object [
      ("id", .object [("type", .string "string")]),
      ("$schema", .object [("type", .string "string")]),
      ("title", .object [("type", .string "string")]),
      ("description", .object [("type", .string "string")]),
      ("default", .object []),
      ("multipleOf", .object [
        ("type", .string "number"),
        ("minimum", .number (.int 0)),
        ("exclusiveMinimum", .bool true)]),
      ("maximum", .object [("type", .string "number")]),
      ("exclusiveMaximum", .object [("type", .string "boolean"), ("default", .bool false)]),
      ("minimum", .object [("type", .string "number")]),
      ("exclusiveMinimum", .object [("type", .string "boolean"), ("default", .bool false)]),
      ("maxLength", .object [("$ref", .string "#/definitions/positiveInteger")]),
      ("minLength", .object [("$ref", .string "#/definitions/positiveIntegerDefault0")]),
      ("pattern", .object [("type", .string "string"), ("format", .string "regex")]),
      ("additionalItems", .object [
        ("anyOf", .array [.object [("type", .string "boolean")], .object [("$ref", .string "#")]]),
        ("default", .object [])]),
      ("items", .object [
        ("anyOf", .array [
          .object [("$ref", .string "#")],
          .object [("$ref", .string "#/definitions/schemaArray")]]),
        ("default", .object [])]),
      ("maxItems", .object [("$ref", .string "#/definitions/positiveInteger")]),
      ("minItems", .object [("$ref", .string "#/definitions/positiveIntegerDefault0")]),
      ("uniqueItems", .object [("type", .string "boolean"), ("default", .bool false)]),
      ("maxProperties", .object [("$ref", .string "#/definitions/positiveInteger")]),
      ("minProperties", .object [("$ref", .string "#/definitions/positiveIntegerDefault0")]),
      ("required", .object [("$ref", .string "#/definitions/stringArray")]),
      ("additionalProperties", .object [
        ("anyOf", .array [.object [("type", .string "boolean")], .object [("$ref", .string "#")]]),
        ("default", .object [])]),
      ("definitions", .object [
        ("type", .string "object"),
        ("additionalProperties", .object [("$ref", .string "#")]),
        ("default", .object [])]),
      ("properties", .object [
        ("type", .string "object"),
        ("additionalProperties", .object [("$ref", .string "#")]),
        ("default", .object [])]),
      ("patternProperties", .object [
        ("type", .string "object"),
        ("additionalProperties", .object [("$ref", .string "#")]),
        ("default", .object [])]),
      ("dependencies", .object [
        ("type", .string "object"),
        ("additionalProperties", .object [
          ("anyOf", .array [
            .object [("$ref", .string "#")],
            .object [("$ref", .string "#/definitions/stringArray")]])])]),
      ("enum", .object [("type", .string "array")]),
      ("type", .object [
        ("anyOf", .array [
          .object [("$ref", .string "#/definitions/simpleTypes")],
          .object [
            ("type", .string "array"),
            ("items", .object [("$ref", .string "#/definitions/simpleTypes")]),
            ("minItems", .number (.int 1)),
            ("uniqueItems", .bool true)]])]),
      ("format", .object [("type", .string "string")]),
      ("allOf", .object [("$ref", .string "#/definitions/schemaArray")]),
      ("anyOf", .object [("$ref", .string "#/definitions/schemaArray")]),
      ("oneOf", .object [("$ref", .string "#/definitions/schemaArray")]),
      ("not", .object [("$ref", .string "#")])]),
    ("dependencies", .object [
      ("exclusiveMaximum", .array [.string "maximum"]),
      ("exclusiveMinimum", .array [.string "minimum"])]),
    ("default", .object [])]

def documents : List Json := [schema]

end SchemaContract.MetaSchema.Draft4
