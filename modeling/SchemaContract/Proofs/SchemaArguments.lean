import Mathlib.Data.List.DropRight
import SchemaContract.CommandLine
import SchemaContract.Proofs.StringLiterals

/-!
# Schema arguments

A schema argument is a JSON text or the name of a registered schema. In quotes every name can be
written, as any of its literals. Without them a name stands for itself exactly when it is no JSON
text and neither begins nor ends with white space.
-/

namespace SchemaContract

namespace Text

/-- A text that neither begins nor ends with white space. -/
def IsTrimmed (s : String) : Prop :=
  (∀ c ∈ s.toList.head?, isBlank c = false) ∧ ∀ c ∈ s.toList.getLast?, isBlank c = false

theorem dropWhile_isBlank_eq_self_iff (cs : List Char) :
    cs.dropWhile isBlank = cs ↔ ∀ c ∈ cs.head?, isBlank c = false := by
  cases cs with
  | nil => simp
  | cons c cs => simp [List.dropWhile_eq_self_iff]

theorem rdropWhile_isBlank_eq_self_iff (cs : List Char) :
    cs.rdropWhile isBlank = cs ↔ ∀ c ∈ cs.getLast?, isBlank c = false := by
  rw [List.rdropWhile_eq_self_iff]
  constructor
  · intro h c hc
    obtain ⟨hNonempty, rfl⟩ := List.mem_getLast?_eq_getLast hc
    simpa using h hNonempty
  · intro h hNonempty
    simpa using h _ (List.getLast?_eq_some_getLast hNonempty)

theorem trimChars_eq_self_iff (cs : List Char) :
    trimChars cs = cs ↔
      (∀ c ∈ cs.head?, isBlank c = false) ∧ ∀ c ∈ cs.getLast?, isBlank c = false := by
  have hForm : trimChars cs = (cs.dropWhile isBlank).rdropWhile isBlank := rfl
  rw [hForm, ← dropWhile_isBlank_eq_self_iff, ← rdropWhile_isBlank_eq_self_iff]
  constructor
  · intro h
    have hFront : cs.dropWhile isBlank = cs := by
      have hSuffix := List.dropWhile_suffix (l := cs) isBlank
      have hShorter := (List.rdropWhile_prefix isBlank (l := cs.dropWhile isBlank)).length_le
      rw [h] at hShorter
      exact hSuffix.eq_of_length_le hShorter
    rw [hFront] at h
    exact ⟨hFront, h⟩
  · rintro ⟨hFront, hBack⟩
    rw [hFront, hBack]

theorem trim_eq_self_iff (s : String) : trim s = s ↔ IsTrimmed s := by
  rw [IsTrimmed, ← trimChars_eq_self_iff, trim, ← String.toList_inj, String.toList_ofList]

end Text

namespace CommandLine

open Json (IsLiteral)

theorem schemaOfArgument_of_parse {argument : String} {s : Schema}
    (h : Json.parse argument = .ok s.toJson) : schemaOfArgument argument = .ok s := by
  rw [schemaOfArgument, h]
  dsimp only
  rw [Schema.ofJson_toJson]

/-- The arguments that name a schema: the literals of the name, and all that is no JSON text around
which the name is left when white space is cut off. -/
theorem schemaOfArgument_eq_reference_iff (argument name : String) :
    schemaOfArgument argument = .ok (.reference name) ↔
      IsLiteral argument name ∨
        (∀ v, Json.parse argument ≠ .ok v) ∧ Text.trim argument = name := by
  rw [← Json.parse_eq_string_iff, schemaOfArgument]
  cases h : Json.parse argument with
  | error e => simp
  | ok v =>
    cases v with
    | bool b => cases b <;> simp [Schema.ofJson]
    | null => simp [Schema.ofJson]
    | number n => simp [Schema.ofJson]
    | string s => simp [Schema.ofJson]
    | array vs => simp [Schema.ofJson]
    | object ms => simp [Schema.ofJson]

/-- Every name is addressed by each of its literals, and there is one. A name stands for itself
exactly when it is no JSON text and has no white space at its ends. The printed form of a schema
stands for the schema, if it is read back at all. -/
theorem schemaOfArgument_addresses :
    (∀ text name, IsLiteral text name → schemaOfArgument text = .ok (.reference name)) ∧
    (∀ name, IsLiteral (Schema.reference name).toJson.render name) ∧
    (∀ name, schemaOfArgument name = .ok (.reference name) ↔
      (∀ v, Json.parse name ≠ .ok v) ∧ Text.IsTrimmed name) ∧
    ∀ s : Schema, Json.parse s.toJson.render = .ok s.toJson →
      schemaOfArgument s.toJson.render = .ok s := by
  refine ⟨?_, ?_, ?_, fun s h => schemaOfArgument_of_parse h⟩
  · intro text name h
    exact (schemaOfArgument_eq_reference_iff text name).mpr (.inl h)
  · intro name
    rw [Schema.toJson, Json.render]
    exact Json.isLiteral_renderString name
  · intro name
    rw [schemaOfArgument_eq_reference_iff, Text.trim_eq_self_iff]
    constructor
    · rintro (hLiteral | hBare)
      · exact absurd rfl hLiteral.ne
      · exact hBare
    · exact fun hBare => .inr hBare

def smallInteger : Schema :=
  .definition [("type", .string "integer"), ("minimum", .nat 3)]

/-- A name that is written with escapes of each kind, and a definition as it is printed. -/
theorem schemaOfArgument_addresses_escapedAndPrinted :
    schemaOfArgument "\"\\u006As\\/\\t\\uD83D\\ude00\"" = .ok (.reference "js/\t😀") ∧
      schemaOfArgument smallInteger.toJson.render = .ok smallInteger := by
  have hLiteral : IsLiteral "\"\\u006As\\/\\t\\uD83D\\ude00\"" "js/\t😀" :=
    (Json.parse_eq_string_iff _ _).mp rfl
  obtain ⟨hNames, -, -, hPrinted⟩ := schemaOfArgument_addresses
  exact ⟨hNames _ _ hLiteral, hPrinted smallInteger rfl⟩

end CommandLine

end SchemaContract
