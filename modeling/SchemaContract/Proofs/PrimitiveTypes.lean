import SchemaContract.Proofs.Construction
import SchemaContract.Proofs.StrictMode

/-!
# Primitive types

The primitive types that every registry holds accept the values of their type. In strict mode that
of objects is closed like any other object schema: no member is declared, so that it accepts the
empty object alone.
-/

namespace SchemaContract

/-! ## Types -/

/-- What the values of each type are. An integer may be written with a fraction that is zero. -/
inductive TypeName.Describes : TypeName → Json → Prop where
  | array (items : List Json) : Describes .array (.array items)
  | boolean (value : Bool) : Describes .boolean (.bool value)
  | integer (n : Number) (z : Int) (h : n.ratio.1 = z * n.ratio.2) : Describes .integer (.number n)
  | null : Describes .null .null
  | number (n : Number) : Describes .number (.number n)
  | object (members : List (String × Json)) : Describes .object (.object members)
  | string (text : String) : Describes .string (.string text)

theorem Number.isIntegral_iff (n : Number) :
    n.isIntegral = true ↔ ∃ z : Int, n.ratio.1 = z * n.ratio.2 := by
  cases n with
  | int i => exact ⟨fun _ => ⟨i, (Int.mul_one i).symm⟩, fun _ => rfl⟩
  | double x =>
    rw [isIntegral, Binary64.isIntegral, ratio, beq_iff_eq, ← Int.dvd_iff_emod_eq_zero]
    constructor
    · rintro ⟨z, hz⟩
      exact ⟨z, hz.trans (Int.mul_comm ..)⟩
    · rintro ⟨z, hz⟩
      exact ⟨z, hz.trans (Int.mul_comm ..)⟩

namespace TypeName

theorem holds_integer (n : Number) : holds .integer false (.number n) = n.isIntegral := by
  cases n <;> rfl

theorem holds_iff (t : TypeName) (v : Json) : t.holds false v = true ↔ t.Describes v := by
  constructor
  · intro h
    cases t <;> cases v <;> try exact absurd h Bool.false_ne_true
    case integer.number n =>
      rw [holds_integer] at h
      obtain ⟨z, hz⟩ := n.isIntegral_iff.mp h
      exact .integer n z hz
    all_goals constructor
  · rintro (_ | _ | ⟨n, z, hz⟩ | _ | _ | _ | _)
    case integer =>
      rw [holds_integer]
      exact n.isIntegral_iff.mpr ⟨z, hz⟩
    all_goals rfl

theorem text_injective {s t : TypeName} (h : s.text = t.text) : s = t := by
  revert h
  cases s <;> cases t <;> decide

end TypeName

/-! ## Their schemas -/

/-- The members of the schema that is compiled for a primitive type. -/
def Registry.aliasMembers (config : Config) (t : TypeName) : List (String × Json) :=
  ("type", .string t.text) ::
    if config.strict = true ∧ t = .object then [("additionalProperties", .bool false)] else []

theorem Registry.sourceOf_aliasOf (config : Config) (t : TypeName) :
    Compiled.sourceOf config (aliasOf t).2 = .object (aliasMembers config t) := by
  rw [Compiled.sourceOf, aliasMembers]
  cases config.strict <;> cases t <;> rfl

/-- The rule of a primitive type: of the type itself, and of the member that closes it. -/
def Registry.aliasRules (config : Config) (t : TypeName) : List Rule :=
  .assertion "type" (.type t false) ::
    if config.strict = true ∧ t = .object then
      [.assertion "additionalProperties" .noProperties] else []

section

variable {W : Linkage} {ctx : Context} {siblings : Part.Siblings}

theorem Part.gives_typeRule (hDialect : ctx.dialect = .draft2020) {t : TypeName}
    {rule : Option Rule}
    (h : Compile.Gives W ctx (keywordRule siblings "type" (prepare (.string t.text))) rule) :
    rule = some (.assertion "type" (.type t false)) := by
  have hAssertion : Assertion.ofKeyword? .draft2020 ctx.formats (valuesOf siblings) "type"
      (.string t.text) = some (.type t false) := by
    cases t <;> rfl
  simp only [keywordRule, Compile.gives_bind, Compile.gives_read, prepare] at h
  obtain ⟨_, rfl, h⟩ := h
  rw [hDialect, hAssertion] at h
  exact h.symm

theorem Part.gives_closingRule (hProperties : find? siblings "properties" = none)
    (hPatterns : find? siblings "patternProperties" = none) {rule : Option Rule}
    (h : Compile.Gives W ctx
      (keywordRule siblings "additionalProperties" (prepare (.bool false))) rule) :
    rule = some (.assertion "additionalProperties" .noProperties) := by
  simp [keywordRule, prepare, Assertion.ofKeyword?, applicator, additionalProperties,
    patternedBeside, objectAt?, hProperties, hPatterns] at h
  exact h.symm

theorem Registry.root_of_aliasMembers {config : Config} {t : TypeName}
    (hDialect : ctx.dialect = .draft2020) {root : Rule}
    (h : Compile.Gives W ctx (Part.body (Part.prepareMembers (aliasMembers config t))) root) :
    root = .all (aliasRules config t) := by
  simp only [Part.body, Compile.gives_bind, Compile.gives_read, Compile.gives_mapM,
    Compile.gives_pure] at h
  obtain ⟨_, rfl, rules, hRules, rfl⟩ := h
  rw [hDialect] at hRules
  -- In the latest dialect a reference hides no other keyword: all of them count.
  change List.Forall₂ _ (Part.prepareMembers (aliasMembers config t)) rules at hRules
  rw [aliasRules]
  by_cases hClosed : config.strict = true ∧ t = .object
  · simp only [aliasMembers, if_pos hClosed, Part.prepareMembers] at hRules ⊢
    obtain _ | ⟨hType, _ | ⟨hClosing, ⟨⟩⟩⟩ := hRules
    rw [Part.gives_typeRule hDialect hType, Part.gives_closingRule rfl rfl hClosing]
    rfl
  · simp only [aliasMembers, if_neg hClosed, Part.prepareMembers] at hRules ⊢
    obtain _ | ⟨hType, ⟨⟩⟩ := hRules
    rw [Part.gives_typeRule hDialect hType]
    rfl

end

/-! ## Their values -/

theorem Registry.failures_aliasRules (config : Config) (t : TypeName) (follow : Follow) (p : Place)
    (v : Json) : (Rule.all (aliasRules config t)).failures follow p v = [] ↔
      t.Describes v ∧ (config.strict = true → t = .object → v = .object []) := by
  have hType : ∀ q : Place, (Assertion.type t false).failures q v = [] ↔ t.Describes v := by
    intro q
    rw [Assertion.failures, Place.demand_eq_nil_iff, TypeName.holds_iff]
  rw [aliasRules]
  by_cases hClosed : config.strict = true ∧ t = .object
  · obtain ⟨hStrict, rfl⟩ := hClosed
    simp only [hStrict, and_self, if_true, Rule.failures, Rule.allFailures, List.append_nil,
      List.append_eq_nil_iff, hType, forall_true_left]
    refine and_congr_right fun hDescribes => ?_
    obtain ⟨members⟩ := hDescribes
    rw [Assertion.failures, Place.demand_eq_nil_iff, List.isEmpty_iff, Json.object.injEq]
  · rw [if_neg hClosed]
    simp only [Rule.failures, Rule.allFailures, List.append_nil, hType]
    exact (and_iff_left fun hStrict hObject => absurd ⟨hStrict, hObject⟩ hClosed).symm

theorem Compiled.accepts_aliasOf {config : Config} {label : String} {t : TypeName} {c : Compiled}
    (h : compile config label (Registry.aliasOf t).2 = .ok c) (v : Json) :
    c.accepts v = true ↔
      t.Describes v ∧ (config.strict = true → t = .object → v = .object []) := by
  rw [compile_eq_ok_iff, Registry.sourceOf_aliasOf] at h
  obtain ⟨d, base, lib, T, hPrepare, -, hRoot, -⟩ := Validation.exists_linkage h.2
  obtain ⟨-, -, hDialect, -⟩ := Validation.prepare_eq_ok_iff.mp hPrepare
  -- No member of the schema names a dialect, so it is read in the latest one.
  have hLatest : Validation.dialectOf (.object (Registry.aliasMembers config t)) =
      .ok .draft2020 := by
    rw [Registry.aliasMembers]
    split_ifs <;> rfl
  cases hDialect.symm.trans hLatest
  rw [accepts, Program.accepts, List.isEmpty_iff, Program.failures,
    Registry.root_of_aliasMembers rfl hRoot, Registry.failures_aliasRules]

namespace Registry

variable {config : Config} {supplied : Json} {r : Registry}

theorem eq_aliasOf_of_mem {entries : List (String × Json)} (hReserved : reservedNames entries = [])
    {e : String × Json} (he : e ∈ entries ++ primitives) {t : TypeName} (h : e.1 = (aliasOf t).1) :
    e = aliasOf t := by
  rcases List.mem_append.mp he with he | he
  · have hPrefix : isReserved e.1 = true := by
      rw [h]
      exact isReserved_of_mem_primitives
        (List.mem_map_of_mem (List.mem_map_of_mem t.mem_all))
    rw [← reservedNames_eq] at hReserved
    exact absurd hPrefix (List.filter_eq_nil_iff.mp hReserved e.1 (List.mem_map_of_mem he))
  · obtain ⟨s, -, rfl⟩ := List.mem_map.mp he
    rw [TypeName.text_injective ((String.append_right_inj _).mp h)]

/-- No supplied schema stands in the place of a primitive type. -/
theorem resolve_alias (h : build config supplied = .ok r) (t : TypeName) :
    ∃ c, r.resolve (.reference ("jss/" ++ t.text)) = .ok (.compiled c) ∧
      Compiled.compile config (Text.inQuotes (aliasOf t).1) (aliasOf t).2 = .ok c := by
  obtain ⟨entries, xs, hAdmissible, hxs, rfl⟩ := build_eq_ok_iff.mp h
  have hHas : has ⟨config, xs⟩ (aliasOf t).1 = true :=
    (has_iff_of_compiled hxs _).mpr
      (.inr (List.mem_map_of_mem (List.mem_map_of_mem t.mem_all)))
  rw [has_eq_isSome] at hHas
  obtain ⟨c, hGet⟩ := Option.isSome_iff_exists.mp hHas
  obtain ⟨x, hFind, rfl⟩ := Option.map_eq_some_iff.mp hGet
  have hName := List.find?_some hFind
  obtain ⟨e, he, hName', hCompile⟩ :=
    exists_of_forall₂ hxs.flip x (List.mem_of_find?_eq_some hFind)
  obtain rfl := eq_aliasOf_of_mem hAdmissible.unreserved he (hName'.symm.trans (eq_of_beq hName))
  refine ⟨x.2, ?_, hCompile⟩
  rw [resolve, show get? ⟨config, xs⟩ ("jss/" ++ t.text) = some x.2 from hGet]

/-- A value meets the reference to a primitive type if it is of the type; in strict mode an object
has to be empty as well. -/
theorem check_alias_eq_none_iff (h : build config supplied = .ok r) (t : TypeName) (label : String)
    (v : Json) : r.check label (.reference ("jss/" ++ t.text)) v = none ↔
      t.Describes v ∧ (config.strict = true → t = .object → v = .object []) := by
  obtain ⟨c, hResolve, hCompile⟩ := resolve_alias h t
  rw [check_of_resolve hResolve, Resolved.check_eq_none_iff]
  exact Compiled.accepts_aliasOf hCompile v

theorem exists_build_empty (config : Config) : ∃ r, build config (.object []) = .ok r :=
  exists_build ⟨rfl, rfl, rfl⟩ nofun

theorem check_alias_emptyObject :
    ∃ r, build { Config.standard with strict := true } (.object []) = .ok r ∧
      r.check "value" (.reference ("jss/" ++ TypeName.object.text)) (.object []) = none := by
  obtain ⟨r, hBuild⟩ := exists_build_empty { Config.standard with strict := true }
  exact ⟨r, hBuild, (check_alias_eq_none_iff hBuild .object "value" (.object [])).mpr
    ⟨.object [], fun _ _ => rfl⟩⟩

/-- Not every object meets the reference to the type of objects in strict mode. -/
theorem strict_alias_rejects_object :
    ∃ r, build { Config.standard with strict := true } (.object []) = .ok r ∧
      TypeName.object.Describes (.object [("a", .null)]) ∧
      r.check "value" (.reference "jss/object") (.object [("a", .null)]) ≠ none := by
  obtain ⟨r, hBuild⟩ := exists_build_empty { Config.standard with strict := true }
  refine ⟨r, hBuild, .object _, fun hNone => ?_⟩
  obtain ⟨c, hResolve, hCompile⟩ := resolve_alias hBuild .object
  rw [show "jss/" ++ TypeName.object.text = "jss/object" by decide] at hResolve
  rw [check_of_resolve hResolve, Resolved.check_eq_none_iff] at hNone
  cases ((Compiled.accepts_aliasOf hCompile _).mp hNone).2 rfl rfl

end Registry

end SchemaContract
