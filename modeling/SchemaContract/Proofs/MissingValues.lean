import SchemaContract.Proofs.ClosedForms
import SchemaContract.Proofs.Construction
import SchemaContract.Proofs.StrictMode

/-!
# Missing values

A missing value meets a schema unless a keyword at its root that concerns values of every kind
stands against it. Closing a schema leaves these keywords as they are, so that strict mode makes no
difference; nor does anything below the root, or behind a reference.
-/

namespace SchemaContract

namespace Json

/-! ## Schemas that refuse a missing value -/

/-- The reason why a schema refuses a missing value: its type goes before its values, and these
before a single one. -/
inductive RefusesAbsence : Json → String → Prop where
  | falseSchema : RefusesAbsence (.bool false) "boolean schema is false"
  | type {ms : List (String × Json)} {name : String} (h : lookup "type" ms = some (.string name)) :
      RefusesAbsence (.object ms) ("should be " ++ name)
  | types {ms : List (String × Json)} {names : List Json}
      (h : lookup "type" ms = some (.array names)) :
      RefusesAbsence (.object ms)
        ("should be " ++ String.intercalate "," (names.filterMap Json.string?))
  | unnamed {ms : List (String × Json)} {kinds : Json} (h : lookup "type" ms = some kinds)
      (hName : kinds.string? = none) (hNames : kinds.items? = none) :
      RefusesAbsence (.object ms) "should be of an allowed type"
  | enum {ms : List (String × Json)} (hType : "type" ∉ ms.map (·.1)) (h : "enum" ∈ ms.map (·.1)) :
      RefusesAbsence (.object ms) "should be equal to one of the allowed values"
  | constant {ms : List (String × Json)} (hType : "type" ∉ ms.map (·.1))
      (hEnum : "enum" ∉ ms.map (·.1)) (h : "const" ∈ ms.map (·.1)) :
      RefusesAbsence (.object ms) "should be equal to constant"

/-- The schemas that a missing value meets. -/
inductive AllowsAbsence : Json → Prop where
  | trueSchema : AllowsAbsence (.bool true)
  | object {ms : List (String × Json)} (hType : "type" ∉ ms.map (·.1))
      (hEnum : "enum" ∉ ms.map (·.1)) (hConst : "const" ∉ ms.map (·.1)) : AllowsAbsence (.object ms)

theorem lookup_eq_none_iff {k : String} {ms : List (String × Json)} :
    lookup k ms = none ↔ k ∉ ms.map (·.1) := by
  rw [← hasMember_iff_mem, ← lookup_isSome_iff, Option.not_isSome_iff_eq_none]

theorem absence?_object {ms : List (String × Json)} (hType : "type" ∉ ms.map (·.1)) :
    (Json.object ms).absence? =
      if "enum" ∈ ms.map (·.1) then some "should be equal to one of the allowed values"
      else if "const" ∈ ms.map (·.1) then some "should be equal to constant"
      else none := by
  rw [absence?, lookup_eq_none_iff.mpr hType]
  simp only [hasMember_iff_mem]
  rfl

theorem RefusesAbsence.absence?_eq {s : Json} {reason : String} (h : s.RefusesAbsence reason) :
    s.absence? = some reason := by
  cases h with
  | falseSchema => rfl
  | type h => rw [absence?, h]; rfl
  | types h => rw [absence?, h]; rfl
  | @unnamed ms kinds h hName hNames =>
    rw [absence?, h]
    cases kinds with
    | string name => cases hName
    | array names => cases hNames
    | _ => rfl
  | enum hType h => rw [absence?_object hType, if_pos h]
  | constant hType hEnum h => rw [absence?_object hType, if_neg hEnum, if_pos h]

theorem AllowsAbsence.absence?_eq {s : Json} (h : s.AllowsAbsence) : s.absence? = none := by
  cases h with
  | trueSchema => rfl
  | object hType hEnum hConst => rw [absence?_object hType, if_neg hEnum, if_neg hConst]

theorem refusesAbsence_or_allowsAbsence {s : Json}
    (hs : (∃ b, s = .bool b) ∨ ∃ ms, s = .object ms) :
    (∃ reason, s.RefusesAbsence reason) ∨ s.AllowsAbsence := by
  obtain ⟨_ | _, rfl⟩ | ⟨ms, rfl⟩ := hs
  · exact .inl ⟨_, .falseSchema⟩
  · exact .inr .trueSchema
  · cases hKinds : lookup "type" ms with
    | some kinds =>
      cases kinds with
      | string name => exact .inl ⟨_, .type hKinds⟩
      | array names => exact .inl ⟨_, .types hKinds⟩
      | _ => exact .inl ⟨_, .unnamed hKinds rfl rfl⟩
    | none =>
      have hType := lookup_eq_none_iff.mp hKinds
      by_cases hEnum : "enum" ∈ ms.map (·.1)
      · exact .inl ⟨_, .enum hType hEnum⟩
      · by_cases hConst : "const" ∈ ms.map (·.1)
        · exact .inl ⟨_, .constant hType hEnum hConst⟩
        · exact .inr (.object hType hEnum hConst)

theorem absence?_eq_some_iff {s : Json} (hs : (∃ b, s = .bool b) ∨ ∃ ms, s = .object ms)
    {reason : String} : s.absence? = some reason ↔ s.RefusesAbsence reason := by
  refine ⟨fun h => ?_, RefusesAbsence.absence?_eq⟩
  obtain ⟨other, hRefuses⟩ | hAllows := refusesAbsence_or_allowsAbsence hs
  · cases hRefuses.absence?_eq.symm.trans h
    exact hRefuses
  · cases hAllows.absence?_eq.symm.trans h

theorem absence?_eq_none_iff {s : Json} (hs : (∃ b, s = .bool b) ∨ ∃ ms, s = .object ms) :
    s.absence? = none ↔ s.AllowsAbsence := by
  refine ⟨fun h => ?_, AllowsAbsence.absence?_eq⟩
  obtain ⟨reason, hRefuses⟩ | hAllows := refusesAbsence_or_allowsAbsence hs
  · cases hRefuses.absence?_eq.symm.trans h
  · exact hAllows

/-! ## Closed schemas -/

open Closing

theorem absence?_closed (s : Json) : s.closed.absence? = s.absence? := by
  cases s with
  | object ms =>
    have hLookup : ∀ {k}, role k = .other → k ≠ "additionalProperties" →
        lookup k (ms.map (fun m => (m.1, close (role m.1) m.2)) ++ closing ms) = lookup k ms := by
      intro k hRole hk
      rw [lookup, List.find?_append, Option.map_or, ← lookup, lookup_map_close hRole]
      rcases closing_eq ms with hNone | ⟨hOne, -⟩
      · rw [hNone]
        exact Option.or_none
      · rw [hOne, List.find?_singleton, if_neg (by simpa using hk.symm)]
        exact Option.or_none
    have hMember : ∀ {k}, role k = .other → k ≠ "additionalProperties" →
        hasMember k (ms.map (fun m => (m.1, close (role m.1) m.2)) ++ closing ms) =
          hasMember k ms := by
      intro k hRole hk
      rw [Bool.eq_iff_iff, ← lookup_isSome_iff, ← lookup_isSome_iff, hLookup hRole hk]
    rw [closed, close_object]
    change (Json.object (ms.map (fun m => (m.1, close (role m.1) m.2)) ++ closing ms)).absence? = _
    rw [absence?, absence?, hLookup rfl (by decide), hMember rfl (by decide),
      hMember rfl (by decide)]
  | array vs => rfl
  | _ => rfl

end Json

/-! ## Compiled schemas -/

theorem Validation.schema_of_compile {formats : Bool} {s : Json} {p : Program}
    (h : compile formats s = .ok p) : (∃ b, s = .bool b) ∨ ∃ ms, s = .object ms := by
  obtain ⟨d, base, lib, T, -, -, hRoot, -⟩ := exists_linkage h
  cases s with
  | bool b => exact .inl ⟨b, rfl⟩
  | object ms => exact .inr ⟨ms, rfl⟩
  | _ => exact absurd hRoot Compile.not_gives_refuse

namespace Compiled

variable {config config' : Config} {label label' : String} {s : Json} {c c' : Compiled}

theorem schema_of_compile (h : compile config label s = .ok c) :
    (∃ b, s = .bool b) ∨ ∃ ms, s = .object ms := by
  have hSource := Validation.schema_of_compile (compile_eq_ok_iff.mp h).2
  rw [sourceOf] at hSource
  split at hSource
  · cases s with
    | bool b => exact .inl ⟨b, rfl⟩
    | object ms => exact .inr ⟨ms, rfl⟩
    | _ => rcases hSource with ⟨_, ⟨⟩⟩ | ⟨_, ⟨⟩⟩
  · exact hSource

theorem checkAbsent_of_compile (h : compile config label s = .ok c) (l : String) :
    c.checkAbsent l = s.absence?.map fun reason => l ++ " " ++ reason := by
  have hAbsence : (sourceOf config s).absence? = s.absence? := by
    rw [sourceOf]
    split
    · exact s.absence?_closed
    · rfl
  rw [checkAbsent, (compile_eq_ok_iff.mp h).1, hAbsence]

/-- Whether a schema refuses a missing value, and what it says, shows in the keywords at its root
alone, however it is compiled: in strict mode or not, with formats or without. -/
theorem checkAbsent_iff (h : compile config label s = .ok c)
    (h' : compile config' label' s = .ok c') :
    (∀ l, c'.checkAbsent l = c.checkAbsent l) ∧
    (∀ l, c.checkAbsent l = none ↔ s.AllowsAbsence) ∧
    ∀ l line, c.checkAbsent l = some line ↔
      ∃ reason, s.RefusesAbsence reason ∧ line = l ++ " " ++ reason := by
  have hs := schema_of_compile h
  refine ⟨fun l => ?_, fun l => ?_, fun l line => ?_⟩
  · rw [checkAbsent_of_compile h, checkAbsent_of_compile h']
  · rw [checkAbsent_of_compile h, Option.map_eq_none_iff, Json.absence?_eq_none_iff hs]
  · rw [checkAbsent_of_compile h, Option.map_eq_some_iff]
    simp only [Json.absence?_eq_some_iff hs, eq_comm]

/-- Strict mode compiles another schema here, and says the same. -/
theorem checkAbsent_iff_object :
    ∃ c c', compile { Config.standard with strict := false } "object"
        (.object [("type", .string "object")]) = .ok c ∧
      compile { Config.standard with strict := true } "object"
        (.object [("type", .string "object")]) = .ok c' ∧ c'.source ≠ c.source ∧
      c.checkAbsent "x" = some "x should be object" ∧
      c'.checkAbsent "x" = some "x should be object" := by
  obtain ⟨c, h⟩ :=
    Registry.compile_aliasOf { Config.standard with strict := false } "object" .object
  obtain ⟨c', h'⟩ :=
    Registry.compile_aliasOf { Config.standard with strict := true } "object" .object
  obtain ⟨hSame, -, hSome⟩ := checkAbsent_iff h h'
  have hLine := (hSome "x" "x should be object").mpr ⟨_, .type rfl, rfl⟩
  refine ⟨c, c', h, h', ?_, hLine, (hSame "x").trans hLine⟩
  rw [(compile_eq_ok_iff.mp h).1, (compile_eq_ok_iff.mp h').1]
  intro hSource
  injection hSource with hMembers
  cases congrArg List.length hMembers

end Compiled

end SchemaContract
