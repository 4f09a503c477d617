import SchemaContract.Proofs.Unbroken.Parts

/-!
# Plain schemas ensure plain rules

Keyword by keyword a plain schema compiles to plain rules, or fails in one line. With its coverages
it is part of the schema around it, so that by induction every part of a plain schema is plain.
-/

namespace SchemaContract

open Text

namespace Part

/-! ## References and patterns -/

theorem PlainKeyword.verbatim {keyword text : String} {part : Part}
    (h : PlainKeyword (keyword, part)) (hKeyword : keyword ∈ Json.uriKeywords)
    (hText : part.value = .string text) : Verbatim text.toList := by
  have hMember := h.member
  have hPlain := h.part.value
  rw [hText] at hMember hPlain
  exact ⟨Json.isPlain_string_iff.mp hPlain, (Json.isPlainMember_string hMember).1 hKeyword⟩

theorem ensures_reference {keyword : String} {part : Part} (h : PlainKeyword (keyword, part))
    (hKeyword : keyword ∈ Json.uriKeywords) : (reference keyword part).Ensures PlainRule := by
  unfold reference
  split
  next text hText =>
    have hNumber := Compile.sound_ruleNumber h.name (h.verbatim hKeyword hText)
    refine Compile.Ensures.map hNumber fun number _ => ?_
    cases number with
    | none => exact plainRule_none
    | some i => exact .some .reference
  next => exact Compile.ensures_refuse trivial

theorem ensures_pattern {part : Part} (h : PlainKeyword ("pattern", part)) :
    (pattern part).Ensures PlainRule := by
  have hMember := h.member
  unfold pattern
  split
  next text hText =>
    rw [hText] at hMember
    have hPlain : (Pattern.portable? text).all (fun cs => decide (Unbroken cs)) = true :=
      (Json.isPlainMember_string hMember).2 rfl
    refine (Compile.ensures_pattern text).map fun p hp => ?_
    have hUnbroken : Unbroken p.text.toList := by
      rw [hp] at hPlain
      simpa using hPlain
    exact .some (.assertion hUnbroken)
  next => exact Compile.ensures_pure plainRule_none

end Part

/-! ## Assertions -/

namespace Assertion

theorem plain_of_type {d : Dialect} {v : Json} {a : Assertion} (h : ofType? d v = some a) :
    a.Plain := by
  unfold ofType? at h
  split at h
  next =>
    obtain ⟨t, -, rfl⟩ := Option.map_eq_some_iff.mp h
    trivial
  next =>
    obtain ⟨t, -, rfl⟩ := Option.map_eq_some_iff.mp h
    trivial
  next =>
    cases h
    trivial
  next => cases h

theorem plain_of_bound {d : Dialect} {siblings : List (String × Json)} {sibling : String}
    {inclusive exclusive : Number → Assertion} {v : Json} {a : Assertion}
    (h : ofBound? d siblings sibling inclusive exclusive v = some a)
    (hInclusive : ∀ n, (inclusive n).Plain) (hExclusive : ∀ n, (exclusive n).Plain) : a.Plain := by
  unfold ofBound? at h
  split at h
  next n =>
    split at h
    · cases h
      exact hExclusive n
    · cases h
      exact hInclusive n
  next => cases h

theorem plain_of_limit {assertion : Nat → Assertion} {v : Json} {a : Assertion}
    (h : ofLimit? assertion v = some a) (hPlain : ∀ n, (assertion n).Plain) : a.Plain := by
  unfold ofLimit? at h
  split at h
  next =>
    obtain ⟨limit, -, rfl⟩ := Option.map_eq_some_iff.mp h
    exact hPlain limit
  next => cases h

theorem plain_of_content {siblings : List (String × Json)} {keyword : String} {v : Json}
    {a : Assertion} (h : ofContent? siblings keyword v = some a) : a.Plain := by
  unfold ofContent? at h
  split at h
  next =>
    split_ifs at h
    cases h
    trivial
  next =>
    split at h <;> cases h <;> trivial
  next => cases h

theorem plain_of_keyword {d : Dialect} {formats : Bool} {siblings : List (String × Json)}
    {keyword : String} {v : Json} (hv : v.isPlain = true) {a : Assertion}
    (h : ofKeyword? d formats siblings keyword v = some a) : a.Plain := by
  unfold ofKeyword? at h
  split at h
  case h_1 => exact plain_of_type h
  case h_2 =>
    obtain ⟨values, -, rfl⟩ := Option.map_eq_some_iff.mp h
    trivial
  case h_3 =>
    split_ifs at h
    cases h
    trivial
  case h_4 | h_5 | h_6 | h_7 | h_8 | h_9 => exact plain_of_limit h fun _ => trivial
  case h_10 =>
    split at h <;> cases h
    trivial
  case h_11 =>
    obtain ⟨vs, hItems, rfl⟩ := Option.map_eq_some_iff.mp h
    cases v with
    | array vs =>
      cases hItems
      exact Part.unbroken_stringsOf hv
    | _ => cases hItems
  case h_12 =>
    split_ifs at h
    obtain ⟨f, -, rfl⟩ := Option.map_eq_some_iff.mp h
    trivial
  case h_13 | h_14 => exact plain_of_bound h (fun _ => trivial) fun _ => trivial
  case h_15 | h_16 =>
    split at h
    · split_ifs at h
      cases h
      trivial
    · cases h
  case h_17 =>
    split at h <;> cases h
    trivial
  case h_18 | h_19 =>
    split_ifs at h
    exact plain_of_content h
  case h_20 => cases h

end Assertion

namespace Part

/-! ## Coverages -/

theorem sound_patterns {ms : List (String × Part)} :
    (ms.mapM fun m => Compile.pattern m.1 : Compile (List Pattern)).Sound :=
  Compile.sound_mapM fun m _ => (Compile.ensures_pattern m.1).sound

theorem sound_named {α : Type} {ms : List (String × Part)} (inner : Part → Compile α)
    (h : ∀ m ∈ ms, (inner m.2).Sound) :
    (ms.mapM fun m => return (m.1, ← inner m.2) : Compile (List (String × α))).Sound :=
  Compile.sound_mapM fun m hm => (h m hm).map _

theorem sound_referenceCoverage (kind : PartKind) {keyword : String} {part : Part}
    (h : PlainKeyword (keyword, part)) (hKeyword : keyword ∈ Json.uriKeywords) :
    (referenceCoverage kind keyword part).Sound := by
  unfold referenceCoverage
  split
  next text hText =>
    exact (Compile.sound_coverageNumber kind h.name (h.verbatim hKeyword hText)).map _
  next => exact Compile.sound_pure _

theorem sound_branches (kind : PartKind) {part : Part} (h : part.Plain) :
    (branches kind part).Sound := by
  refine Compile.sound_mapM fun q hq => ?_
  have hBranch := h.items q (List.mem_filter.mp hq).1
  exact hBranch.schema.bind fun rule _ => (hBranch.coverage kind).map _

theorem sound_combinedCoverage (kind : PartKind) (quorum : Quorum) {part : Part}
    (h : part.Plain) : (combinedCoverage kind quorum part).Sound := by
  unfold combinedCoverage
  split
  next => exact (sound_branches kind h).map _
  next => exact Compile.sound_pure _

theorem sound_objectCoverage (kind : PartKind) {siblings : Siblings}
    (h : ∀ m ∈ siblings, PlainKeyword m) (keyword : String) :
    (objectCoverage kind (find? siblings keyword)).Sound := by
  unfold objectCoverage
  split
  next p hp =>
    split_ifs
    · exact (plain_of_find? h hp).coverage kind
    · exact Compile.sound_pure _
  next => exact Compile.sound_pure _

theorem sound_conditionCoverage (kind : PartKind) {siblings : Siblings}
    (h : ∀ m ∈ siblings, PlainKeyword m) {part : Part} (hPart : part.Plain) :
    (conditionCoverage kind siblings part).Sound := by
  unfold conditionCoverage
  split_ifs
  · refine hPart.schema.bind fun condition _ => (hPart.coverage kind).bind fun own _ => ?_
    refine (sound_objectCoverage kind h "then").bind fun yes _ => ?_
    exact (sound_objectCoverage kind h "else").map _
  · exact Compile.sound_pure _

theorem sound_commonCoverage (kind : PartKind) {siblings : Siblings}
    (h : ∀ m ∈ siblings, PlainKeyword m) {keyword : String} {part : Part}
    (hPart : PlainKeyword (keyword, part)) :
    (commonCoverage kind siblings keyword part).Sound := by
  unfold commonCoverage
  split
  next => exact sound_referenceCoverage _ hPart (by decide)
  next => exact sound_referenceCoverage _ hPart (by decide)
  next => exact sound_referenceCoverage _ hPart (by decide)
  next => exact sound_conditionCoverage _ h hPart.part
  case h_10 => exact Compile.sound_pure _
  all_goals exact sound_combinedCoverage _ _ hPart.part

theorem sound_memberCoverage (keyword : String) {part : Part} (hPart : part.Plain) :
    (memberCoverage keyword part).Sound := by
  unfold memberCoverage
  split
  next =>
    split_ifs
    · exact (sound_named Part.schema fun m hm => (hPart.members m hm).schema.sound).map _
    · exact Compile.sound_pure _
  next => exact sound_patterns.map _
  next => exact hPart.schema.sound.map _
  next => exact hPart.schema.sound.map _
  next =>
    refine Compile.Sound.map (sound_named (fun p => p.coverage .members) fun m hm => ?_) _
    exact (hPart.members m (List.mem_filter.mp hm).1).coverage .members
  next => exact Compile.sound_pure _

theorem sound_itemCoverage (d : Dialect) (siblings : Siblings) (keyword : String) {part : Part}
    (hPart : part.Plain) : (itemCoverage d siblings keyword part).Sound := by
  unfold itemCoverage
  split
  next => split_ifs <;> exact Compile.sound_pure _
  next => exact Compile.sound_pure _
  next => split_ifs <;> exact Compile.sound_pure _
  next => exact hPart.schema.sound.map _
  next => exact hPart.schema.sound.map _
  next => exact Compile.sound_pure _

theorem sound_coverageOf (kind : PartKind) {siblings : Siblings}
    (h : ∀ m ∈ siblings, PlainKeyword m) : (coverageOf siblings kind).Sound := by
  refine Compile.Sound.map (Compile.sound_mapM fun m hm => ?_) _
  have hKeyword := h m hm
  refine Compile.ensures_read.bind fun ctx _ => ?_
  refine (sound_commonCoverage kind h hKeyword).bind fun common _ => ?_
  cases kind with
  | members => exact (sound_memberCoverage _ hKeyword.part).map _
  | items => exact (sound_itemCoverage _ siblings _ hKeyword.part).map _

/-! ## Rules -/

theorem ensures_applicator (d : Dialect) {siblings : Siblings}
    (h : ∀ m ∈ siblings, PlainKeyword m) {keyword : String} {part : Part}
    (hm : PlainKeyword (keyword, part)) :
    (applicator d siblings keyword part).Ensures PlainRule := by
  have hPart := hm.part
  have hNone := Compile.ensures_pure plainRule_none
  unfold applicator
  split
  case h_1 => exact ensures_reference hm (by decide)
  case h_2 =>
    split_ifs
    · exact ensures_reference hm (by decide)
    · exact hNone
  case h_3 =>
    split_ifs
    · exact ensures_reference hm (by decide)
    · exact hNone
  case h_4 =>
    split_ifs
    · exact (ensures_declared hPart (unbroken_literal rfl)).map
        fun ds hds => .some (.properties hds)
    · exact hNone
  case h_5 =>
    split_ifs
    · exact (ensures_patterned hPart).map fun ps hps => .some (.patternProperties hps)
    · exact hNone
  case h_6 => exact ensures_additionalProperties h hPart
  case h_7 => exact ensures_propertyNames d hPart
  case h_8 => exact ensures_dependencies (unbroken_literal rfl) hPart
  case h_9 | h_10 =>
    split_ifs
    · exact ensures_dependencies hm.name hPart
    · exact hNone
  case h_11 => exact ensures_itemsRule siblings hPart
  case h_12 =>
    split_ifs
    · exact (ensures_listed hPart (unbroken_literal rfl)).map fun rs hrs => .some (.positions hrs)
    · exact hNone
  case h_13 => exact ensures_additionalItems siblings hPart
  case h_14 =>
    split_ifs
    · exact ensures_contains d siblings hPart
    · exact hNone
  case h_15 => exact (ensures_listed hPart (by decide)).map fun rs hrs => .some (.allOf hrs)
  case h_16 => exact (ensures_listed hPart (by decide)).map fun rs hrs => .some (.anyOf hrs)
  case h_17 => exact (ensures_listed hPart (by decide)).map fun rs hrs => .some (.oneOf hrs)
  case h_18 => exact (ensures_single hPart (by decide)).map fun r _ => .some .not
  case h_19 =>
    split_ifs
    · exact ensures_conditional h hPart
    · exact hNone
  case h_20 => exact ensures_pattern hm
  case h_21 => exact hNone

theorem ensures_keywordRule {siblings : Siblings} (h : ∀ m ∈ siblings, PlainKeyword m)
    {keyword : String} {part : Part} (hm : PlainKeyword (keyword, part)) :
    (keywordRule siblings keyword part).Ensures PlainRule := by
  refine Compile.ensures_read.bind fun ctx _ => ?_
  split
  next a hAssertion =>
    exact Compile.ensures_pure
      (.some (.assertion (Assertion.plain_of_keyword hm.part.value hAssertion)))
  next =>
    split_ifs
    · exact Compile.Ensures.map (sound_coverageOf .members h)
        fun c _ => .some .unevaluatedProperties
    · exact Compile.Ensures.map (sound_coverageOf .items h) fun c _ => .some .unevaluatedItems
    · exact ensures_applicator ctx.dialect h hm

/-! ## Schemas -/

theorem mem_of_mem_counted {d : Dialect} {siblings : Siblings} {m : String × Part}
    (hm : m ∈ counted d siblings) : m ∈ siblings := by
  unfold counted at hm
  split_ifs at hm
  · exact (List.mem_filter.mp hm).1
  · exact hm

theorem ensures_body {siblings : Siblings} (h : ∀ m ∈ siblings, PlainKeyword m) :
    (body siblings).Ensures Rule.Plain := by
  refine Compile.ensures_read.bind fun ctx _ => ?_
  have hRules := Compile.ensures_mapM fun m hm =>
    ensures_keywordRule h (h m (mem_of_mem_counted (d := ctx.dialect) hm))
  refine hRules.map fun rules hRules => .all fun r hr => ?_
  obtain ⟨rule?, hMem, hRule⟩ := List.mem_filterMap.mp hr
  exact hRules rule? hMem r hRule

theorem ensures_entering {schema : Json} (h : schema.isPlain = true)
    (members : List (String × Json)) {inner : Compile Rule} (hInner : inner.Ensures Rule.Plain) :
    (entering schema members inner).Ensures Rule.Plain := by
  refine Compile.ensures_read.bind fun ctx hCtx => ?_
  refine (Compile.ensures_orRefuse (Uri.enter_ends hCtx.base _ h)).bind fun base hBase => ?_
  exact Compile.ensures_withReader hInner fun ctx hCtx => ⟨hBase, hCtx.scope, hCtx.location⟩

theorem plainKeyword_of_mem_prepareMembers {ms : List (String × Json)}
    (h : (Json.object ms).isPlain = true) (hParts : ∀ m ∈ ms, (prepare m.2).Plain) :
    ∀ m ∈ prepareMembers ms, PlainKeyword m := by
  rw [prepareMembers_eq]
  refine List.forall_mem_map.mpr fun m hm => ⟨?_, hParts m hm⟩
  rw [prepare_value]
  exact (Json.isPlain_object_iff.mp h m hm).1

theorem plain_withoutMembers {v : Json} (hv : v.isPlain = true) {schema : Compile Rule}
    (hSchema : schema.Ensures Rule.Plain) {items : List Part} (hItems : ∀ q ∈ items, q.Plain) :
    Plain ⟨v, schema, fun _ => pure (.any []), [], items⟩ :=
  .mk hv hSchema (fun _ => Compile.sound_pure _) (fun _ hm => absurd hm List.not_mem_nil)
    (fun _ hm => absurd hm List.not_mem_nil) hItems

theorem plain_prepare {v : Json} (h : v.isPlain = true) : (prepare v).Plain := by
  have hNoItems : ∀ q ∈ ([] : List Part), q.Plain := fun _ hq => absurd hq List.not_mem_nil
  have hRefused : (Compile.refuse .types : Compile Rule).Ensures Rule.Plain :=
    Compile.ensures_refuse trivial
  induction v using Json.inductionOn with
  | scalar v hItems hMembers =>
    cases v with
    | bool b =>
      refine plain_withoutMembers h (Compile.ensures_pure ?_) hNoItems
      cases b
      · exact .reject
      · exact .accept
    | array vs => cases hItems
    | object ms => cases hMembers
    | _ => exact plain_withoutMembers h hRefused hNoItems
  | array vs ih =>
    refine plain_withoutMembers h hRefused ?_
    rw [prepareItems_eq]
    exact List.forall_mem_map.mpr fun v hv => ih v hv (Json.isPlain_array_iff.mp h v hv)
  | object ms ih =>
    have hMembers := plainKeyword_of_mem_prepareMembers h fun m hm =>
      ih m hm (Json.isPlain_object_iff.mp h m hm).2
    exact .mk h (ensures_entering h ms (ensures_body hMembers))
      (fun kind => sound_coverageOf kind hMembers) (fun m hm => (hMembers m hm).name)
      (fun m hm => (hMembers m hm).part) hNoItems

end Part

end SchemaContract
