import SchemaContract.Proofs.Narrowing.Parts
import SchemaContract.Proofs.Unbroken.Plans

/-!
# Compiling plain schemas

Every part of a plain schema ensures plain rules. Each keyword takes this over from the parts that
it compiles, its own and those of its siblings.
-/

namespace SchemaContract

open Text

namespace Part

/-- A part of a plain schema: so are the parts inside, and as a schema it ensures a plain rule. -/
inductive Plain : Part → Prop where
  | mk {part : Part} (value : part.value.isPlain = true)
      (schema : part.schema.Ensures Rule.Plain)
      (coverage : ∀ kind, (part.coverage kind).Sound)
      (names : ∀ m ∈ part.members, Unbroken m.1.toList)
      (members : ∀ m ∈ part.members, Plain m.2)
      (items : ∀ q ∈ part.items, Plain q) : Plain part

namespace Plain

variable {part : Part}

theorem value (h : part.Plain) : part.value.isPlain = true := by
  cases h
  assumption

theorem schema (h : part.Plain) : part.schema.Ensures Rule.Plain := by
  cases h
  assumption

theorem coverage (h : part.Plain) : ∀ kind, (part.coverage kind).Sound := by
  cases h
  assumption

theorem names (h : part.Plain) : ∀ m ∈ part.members, Unbroken m.1.toList := by
  cases h
  assumption

theorem members (h : part.Plain) : ∀ m ∈ part.members, m.2.Plain := by
  cases h
  assumption

theorem items (h : part.Plain) : ∀ q ∈ part.items, q.Plain := by
  cases h
  assumption

end Plain

structure PlainKeyword (m : String × Part) : Prop where
  member : Json.isPlainMember m.1 m.2.value = true
  part : m.2.Plain

theorem PlainKeyword.name {m : String × Part} (h : PlainKeyword m) : Unbroken m.1.toList :=
  Json.unbroken_of_isPlainMember h.member

theorem plain_of_find? {siblings : Siblings} (h : ∀ m ∈ siblings, PlainKeyword m)
    {keyword : String} {part : Part} (hPart : find? siblings keyword = some part) :
    part.Plain := by
  obtain ⟨m, hm, rfl⟩ := Option.map_eq_some_iff.mp hPart
  exact (h m (List.mem_of_find?_eq_some hm)).part

/-! ## Parts as schemas -/

/-- The rule of a keyword, where it has one, is plain. -/
def PlainRule (rule? : Option Rule) : Prop := ∀ r ∈ rule?, r.Plain

theorem plainRule_none : PlainRule none := nofun

theorem PlainRule.some {r : Rule} (h : r.Plain) : PlainRule (some r) := forall_mem_some h

theorem unbroken_member {name : String} (h : Unbroken name.toList) :
    ∀ s ∈ [Step.member name], s.Unbroken :=
  List.forall_mem_singleton.mpr h

theorem unbroken_memberOf {keyword name : String} (hKeyword : Unbroken keyword.toList)
    (h : Unbroken name.toList) : ∀ s ∈ [Step.member keyword, Step.member name], s.Unbroken :=
  List.forall_mem_cons.mpr ⟨hKeyword, unbroken_member h⟩

section Parts

variable {part : Part} (h : part.Plain) {keyword : String} (hKeyword : Unbroken keyword.toList)

include h hKeyword

theorem ensures_single : (part.single keyword).Ensures Rule.Plain :=
  Compile.ensures_under h.schema (unbroken_member hKeyword)

theorem ensures_listed : (part.listed keyword).Ensures fun rs => ∀ r ∈ rs, r.Plain := by
  refine Compile.ensures_mapM fun e he => ?_
  have hItem := h.items _ (List.fst_mem_of_mem_zipIdx he)
  exact Compile.ensures_under hItem.schema
    (List.forall_mem_cons.mpr ⟨hKeyword, List.forall_mem_singleton.mpr (Step.unbroken_index _)⟩)

theorem ensures_declared : (part.declared keyword).Ensures fun ds => ∀ d ∈ ds, d.2.Plain := by
  refine Compile.ensures_mapM fun m hm => ?_
  have hSteps := unbroken_memberOf hKeyword (h.names m hm)
  exact (Compile.ensures_under (h.members m hm).schema hSteps).map fun _ hr => hr

end Parts

theorem ensures_patterned {part : Part} (h : part.Plain) :
    part.patterned.Ensures fun ps => ∀ q ∈ ps, q.2.Plain := by
  have hKeyword : Unbroken "patternProperties".toList := unbroken_literal rfl
  refine Compile.ensures_mapM fun m hm => ?_
  refine (Compile.ensures_inside (Compile.ensures_pattern m.1) (unbroken_member hKeyword)).bind
    fun pattern _ => ?_
  have hSteps := unbroken_memberOf hKeyword (h.names m hm)
  exact (Compile.ensures_under (h.members m hm).schema hSteps).map fun _ hr => hr

/-! ## Keywords beside each other -/

section Siblings

variable {siblings : Siblings} (h : ∀ m ∈ siblings, PlainKeyword m)

include h

theorem ensures_declaredBeside :
    (declaredBeside siblings).Ensures fun ds => ∀ d ∈ ds, d.2.Plain := by
  unfold declaredBeside
  split
  next p hp =>
    have hFound := (Option.filter_eq_some_iff.mp hp).1
    exact ensures_declared (plain_of_find? h hFound) (unbroken_literal rfl)
  next => exact Compile.ensures_pure fun _ hd => absurd hd List.not_mem_nil

theorem ensures_patternedBeside :
    (patternedBeside siblings).Ensures fun ps => ∀ q ∈ ps, q.2.Plain := by
  unfold patternedBeside
  split
  next p hp =>
    have hFound := (Option.filter_eq_some_iff.mp hp).1
    exact ensures_patterned (plain_of_find? h hFound)
  next => exact Compile.ensures_pure fun _ hd => absurd hd List.not_mem_nil

theorem ensures_ruleBeside {keyword : String} (hKeyword : Unbroken keyword.toList) :
    (ruleBeside siblings keyword).Ensures Rule.Plain := by
  unfold ruleBeside
  split
  next p hp => exact ensures_single (plain_of_find? h hp) hKeyword
  next => exact Compile.ensures_pure .accept

theorem ensures_additionalProperties {part : Part} (hPart : part.Plain) :
    (additionalProperties siblings part).Ensures PlainRule := by
  have hKeyword : Unbroken "additionalProperties".toList := unbroken_literal rfl
  refine (ensures_patternedBeside h).bind fun patterns hPatterns => ?_
  split
  next =>
    split_ifs
    · exact Compile.ensures_pure (.some (.assertion trivial))
    · exact (ensures_declaredBeside h).map fun names hNames => .some (.closed hNames hPatterns)
  next =>
    refine (ensures_declaredBeside h).bind fun names hNames => ?_
    exact (ensures_single hPart hKeyword).map fun rest hRest => .some (.open hNames hPatterns hRest)
  next => exact Compile.ensures_pure plainRule_none

theorem ensures_conditional {part : Part} (hPart : part.Plain) :
    (conditional siblings part).Ensures PlainRule := by
  unfold conditional
  split_ifs
  · exact Compile.ensures_pure plainRule_none
  · refine (ensures_single hPart (by decide)).bind fun condition _ => ?_
    refine (ensures_ruleBeside h (by decide)).bind fun consequence hYes => ?_
    exact (ensures_ruleBeside h (by decide)).map
      fun alternative hNo => .some (.conditional hYes hNo)

end Siblings

theorem ensures_itemsRule (siblings : Siblings) {part : Part} (hPart : part.Plain) :
    (itemsRule siblings part).Ensures PlainRule := by
  have hKeyword : Unbroken "items".toList := by decide
  unfold itemsRule
  split
  next => exact (ensures_listed hPart hKeyword).map fun rules hRules => .some (.positions hRules)
  next => exact (ensures_single hPart hKeyword).map fun rule hRule => .some (.itemsFrom hRule)
  next => exact Compile.ensures_pure (.some (.itemsFrom (.within .reject)))
  next => exact Compile.ensures_pure plainRule_none

theorem ensures_additionalItems (siblings : Siblings) {part : Part} (hPart : part.Plain) :
    (additionalItems siblings part).Ensures PlainRule := by
  have hKeyword : Unbroken "additionalItems".toList := unbroken_literal rfl
  unfold additionalItems
  split
  next => exact (ensures_single hPart hKeyword).map fun rule hRule => .some (.itemsFrom hRule)
  next => exact Compile.ensures_pure (.some (.assertion trivial))
  next => exact Compile.ensures_pure (.some (.within .reject))
  next => exact Compile.ensures_pure plainRule_none

theorem ensures_propertyNames (d : Dialect) {part : Part} (hPart : part.Plain) :
    (propertyNames d part).Ensures PlainRule := by
  have hKeyword : Unbroken "propertyNames".toList := unbroken_literal rfl
  unfold propertyNames
  split
  next => exact Compile.ensures_pure (.some (.assertion trivial))
  next =>
    split_ifs
    · exact (ensures_single hPart hKeyword).map fun rule _ => .some .propertyNames
    · exact Compile.ensures_pure plainRule_none
  next => exact Compile.ensures_pure plainRule_none

theorem ensures_contains (d : Dialect) (siblings : Siblings) {part : Part} (hPart : part.Plain) :
    (contains d siblings part).Ensures PlainRule := by
  have hBounded : ∀ low high, (boundedPart low high part).Ensures Rule.Plain := by
    intro low high
    cases low <;> cases high
    · exact ensures_single hPart (by decide)
    · exact ensures_single hPart (unbroken_literal rfl)
    · exact ensures_single hPart (unbroken_literal rfl)
    · exact hPart.schema
  unfold contains
  split_ifs
  · exact (ensures_single hPart (by decide)).map fun rule _ => .some .contains
  · exact (hBounded _ _).map fun rule _ => .some .contains

/-! ## Names that have to be there -/

theorem unbroken_stringsOf {vs : List Json} (h : (Json.array vs).isPlain = true) :
    ∀ name ∈ Assertion.stringsOf vs, Unbroken name.toList := by
  intro name hName
  obtain ⟨v, hv, hText⟩ := List.mem_filterMap.mp hName
  have hPlain := Json.isPlain_array_iff.mp h v hv
  cases v with
  | string s =>
    cases hText
    exact Json.isPlain_string_iff.mp hPlain
  | _ => cases hText

theorem ensures_dependency {keyword name : String} (hKeyword : Unbroken keyword.toList)
    (hName : Unbroken name.toList) {part : Part} (hPart : part.Plain) :
    (dependency keyword name part).Ensures Rule.Plain := by
  unfold dependency
  split
  next vs hValue =>
    have hPlain := hPart.value
    rw [hValue] at hPlain
    exact Compile.ensures_pure (.assertion (unbroken_stringsOf hPlain))
  next => exact Compile.ensures_under hPart.schema (unbroken_memberOf hKeyword hName)

theorem ensures_dependencies {keyword : String} (hKeyword : Unbroken keyword.toList) {part : Part}
    (hPart : part.Plain) : (dependencies keyword part).Ensures PlainRule := by
  refine Compile.Ensures.bind (P := fun ds => ∀ d ∈ ds, d.2.Plain)
    (Compile.ensures_mapM fun m hm => ?_) fun rules hRules => ?_
  · exact (ensures_dependency hKeyword (hPart.names m hm) (hPart.members m hm)).map fun _ hr => hr
  · exact Compile.ensures_pure (.some (.dependent hRules))

end Part

end SchemaContract
