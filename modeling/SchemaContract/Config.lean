/-!
# Configuration

How schemas are compiled, and how much is read from a directory.
-/

namespace SchemaContract

structure Config where
  /-- Whether the `format` keyword asserts anything. -/
  formats : Bool
  /-- Whether object schemas are closed before they are compiled. -/
  strict : Bool
  /-- The most schema files that a directory may hold. -/
  maxFiles : Nat
  /-- The most bytes that a schema file may have. -/
  maxFileBytes : Nat
  deriving DecidableEq, Repr

namespace Config

def standard : Config := ⟨true, false, 256, 256 * 1024⟩

def describe (c : Config) : String :=
  "RegistryConfig \x7b validate_formats: " ++ toString c.formats ++
    ", strict_mode: " ++ toString c.strict ++
    ", max_schemas_from_directory: " ++ toString c.maxFiles ++
    ", max_schema_file_size: " ++ toString c.maxFileBytes ++ " \x7d"

end Config

end SchemaContract
