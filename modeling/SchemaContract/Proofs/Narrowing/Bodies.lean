import SchemaContract.Proofs.Narrowing.KeywordCoverages

/-!
# Bodies of narrower schemas

The rule of a schema is narrowed by that of its counterpart if its keywords are.
-/

namespace SchemaContract

/-! ## Assertions -/

namespace Assertion

variable {d : Dialect} {formats : Bool} {k : String}

/-- Closing looks into no keyword that asserts something. -/
theorem ofKeyword?_eq_none (hk : Closing.role k ≠ .other) (siblings : List (String × Json))
    (v : Json) : ofKeyword? d formats siblings k v = none := by
  unfold ofKeyword?
  split <;> first | rfl | exact absurd rfl hk

theorem hasMember_congr {ms ms' : List (String × Json)}
    (h : Json.lookup k ms' = Json.lookup k ms) : Json.hasMember k ms' = Json.hasMember k ms := by
  rw [Bool.eq_iff_iff, ← Json.lookup_isSome_iff, ← Json.lookup_isSome_iff, h]

/-- An assertion looks at none but the keywords that closing does not look into. -/
theorem ofKeyword?_congr {ms ms' : List (String × Json)}
    (h : ∀ l, Closing.role l = .other → Json.lookup l ms' = Json.lookup l ms) (v : Json) :
    ofKeyword? d formats ms' k v = ofKeyword? d formats ms k v := by
  have hContent : ofContent? ms' k v = ofContent? ms k v := by
    unfold ofContent?
    rw [hasMember_congr (h "contentMediaType" rfl), h "contentEncoding" rfl]
  unfold ofKeyword? ofBound?
  rw [h "exclusiveMinimum" rfl, h "exclusiveMaximum" rfl, hContent]

end Assertion

namespace Part

open Compile Closing

section

variable {A B : World} {ctx ctx' : Context} {ms core extra : List (String × Json)}

/-! ## Keywords that hold schemas -/

theorem closesProperties_eq (h : KeywordPairs (Json.SiblingNarrows A B ms) ms core extra)
    (hExtra : extra = []) :
    closesProperties (prepareMembers (core ++ extra)) = closesProperties (prepareMembers ms) := by
  have hRel := h.lookup (k := "additionalProperties") (.inr hExtra)
  unfold closesProperties
  rw [valueOf?_prepareMembers, valueOf?_prepareMembers]
  generalize Json.lookup "additionalProperties" (core ++ extra) = found' at hRel ⊢
  generalize Json.lookup "additionalProperties" ms = found at hRel ⊢
  cases hRel with
  | none => rfl
  | some hm => cases hm.value.kindred <;> rfl

theorem narrows_where {p : Prop} [Decidable p] {m m' : Compile (Option Rule)} {o o' : Option Rule}
    (ho : Gives A.linkage ctx (if p then m else return none) o)
    (ho' : Gives B.linkage ctx' (if p then m' else return none) o')
    (h : Gives A.linkage ctx m o → Gives B.linkage ctx' m' o' → RuleNarrows A B o o') :
    RuleNarrows A B o o' := by
  split at ho
  next hp =>
    rw [if_pos hp] at ho'
    exact h ho ho'
  next =>
    exact .of_none ho o'

theorem narrows_built {α : Type} {m m' : Compile α} {f : α → Rule} {o o' : Option Rule}
    (ho : Gives A.linkage ctx (do return some (f (← m))) o)
    (ho' : Gives B.linkage ctx' (do return some (f (← m'))) o')
    (h : ∀ a a', Gives A.linkage ctx m a → Gives B.linkage ctx' m' a' →
      Rule.Narrows A.follow B.follow (f a) (f a')) : RuleNarrows A B o o' := by
  simp only [gives_bind, gives_pure] at ho ho'
  obtain ⟨a, ha, rfl⟩ := ho
  obtain ⟨a', ha', rfl⟩ := ho'
  exact .some (h a a' ha ha')

theorem narrows_propertyNames (hCtx : ctx.Alike ctx') {d : Dialect} {v v' : Json}
    (hv : v.NarrowsIn A B v') {o o' : Option Rule}
    (ho : Gives A.linkage ctx (propertyNames d (prepare v)) o)
    (ho' : Gives B.linkage ctx' (propertyNames d (prepare v')) o') : RuleNarrows A B o o' := by
  unfold propertyNames at ho ho'
  rw [prepare_value] at ho ho'
  cases hv.kindred with
  | scalar hItems hMembers =>
    cases v with
    | object vs => cases hMembers
    | bool b =>
      cases b with
      | true =>
        exact .of_none ho o'
      | false =>
        rw [← gives_pure.mp ho, ← gives_pure.mp ho']
        exact .some (Rule.narrows_assertion _ _)
    | _ =>
      exact .of_none ho o'
  | array =>
    exact .of_none ho o'
  | object =>
    refine narrows_where ho ho' fun ho ho' => narrows_built ho ho' fun r r' hr hr' => ?_
    exact Rule.narrows_propertyNames (narrows_single hv hCtx hr hr')

theorem narrows_pattern {v : Json} {o o' : Option Rule}
    (ho : Gives A.linkage ctx (pattern (prepare v)) o)
    (ho' : Gives B.linkage ctx' (pattern (prepare v)) o') : RuleNarrows A B o o' := by
  unfold pattern at ho ho'
  rw [prepare_value] at ho ho'
  cases v with
  | string text =>
    refine narrows_built ho ho' fun p p' hp hp' => ?_
    cases Option.some.inj ((gives_pattern.mp hp).symm.trans (gives_pattern.mp hp'))
    exact Rule.narrows_assertion _ _
  | _ =>
    exact .of_none ho o'

theorem narrows_applicator (h : KeywordPairs (Json.SiblingNarrows A B ms) ms core extra)
    (hCtx : ctx.Alike ctx') {d : Dialect} {k : String} {v v' : Json}
    (hv : Json.SiblingNarrows A B ms (k, v) (k, v'))
    (hOpen : k = "properties" ∨ k = "patternProperties" → extra = []) {o o' : Option Rule}
    (ho : Gives A.linkage ctx (applicator d (prepareMembers ms) k (prepare v)) o)
    (ho' : Gives B.linkage ctx' (applicator d (prepareMembers (core ++ extra)) k (prepare v')) o') :
    RuleNarrows A B o o' := by
  unfold applicator at ho ho'
  split at ho
  · exact narrows_reference hCtx (by simp [Json.referenceKeywords]) hv ho ho'
  · exact narrows_where ho ho' (narrows_reference hCtx (by simp [Json.referenceKeywords]) hv)
  · exact narrows_where ho ho' (narrows_reference hCtx (by simp [Json.referenceKeywords]) hv)
  · rw [isObject_eq hv.value.kindred, closesProperties_eq h (hOpen (.inl rfl))] at ho'
    refine narrows_where ho ho' fun ho ho' => narrows_built ho ho' fun ds ds' hds hds' => ?_
    exact Rule.narrows_properties (narrows_declared hCtx hds hds' hv.value.named)
  · rw [isObject_eq hv.value.kindred, closesProperties_eq h (hOpen (.inr rfl))] at ho'
    refine narrows_where ho ho' fun ho ho' => narrows_built ho ho' fun ps ps' hps hps' => ?_
    exact Rule.narrows_patternProperties (narrows_patterned hCtx hps hps' hv.value.named)
  · exact narrows_additionalProperties h hCtx (hv.value.own rfl) ho ho'
  · exact narrows_propertyNames hCtx (hv.value.own rfl) ho ho'
  · exact narrows_dependencies hv.value hCtx ho ho'
  · exact narrows_where ho ho' (narrows_dependencies hv.value hCtx)
  · exact narrows_where ho ho' (narrows_dependencies hv.value hCtx)
  · exact narrows_itemsRule h hCtx hv.value ho ho'
  · refine narrows_where ho ho' fun ho ho' => narrows_built ho ho' fun rs rs' hrs hrs' => ?_
    exact Rule.narrows_positions (narrows_listed hv.value hCtx hrs hrs')
  · exact narrows_additionalItems h hCtx (hv.value.own rfl) ho ho'
  · exact narrows_where ho ho' (narrows_contains h hCtx hv)
  · refine narrows_built ho ho' fun rs rs' hrs hrs' => ?_
    exact Rule.narrows_allOf (narrows_listed hv.value hCtx hrs hrs')
  · refine narrows_built ho ho' fun rs rs' hrs hrs' => ?_
    exact Rule.narrows_anyOf (narrows_listed hv.value hCtx hrs hrs')
  · exact narrows_built ho ho' fun rs rs' hrs hrs' => narrows_oneOf hCtx hv hrs hrs'
  · exact narrows_built ho ho' fun r r' hr hr' => narrows_not hCtx hv hr hr'
  · exact narrows_where ho ho' (narrows_conditional h hCtx hv)
  · obtain rfl : v' = v := hv.other rfl
    exact narrows_pattern ho ho'
  · exact .of_none ho o'

/-! ## Any keyword -/

theorem narrows_keywordRule (h : KeywordPairs (Json.SiblingNarrows A B ms) ms core extra)
    (hCtx : ctx.Alike ctx') {k : String} {v v' : Json}
    (hv : Json.SiblingNarrows A B ms (k, v) (k, v'))
    (hOpen : k = "properties" ∨ k = "patternProperties" → extra = []) {o o' : Option Rule}
    (ho : Gives A.linkage ctx (keywordRule (prepareMembers ms) k (prepare v)) o)
    (ho' : Gives B.linkage ctx' (keywordRule (prepareMembers (core ++ extra)) k (prepare v')) o') :
    RuleNarrows A B o o' := by
  have hAssertion : Assertion.ofKeyword? ctx'.dialect ctx'.formats (core ++ extra) k v' =
      Assertion.ofKeyword? ctx.dialect ctx.formats ms k v := by
    rw [hCtx.dialect, hCtx.formats]
    by_cases hk : role k = .other
    · rw [show v' = v from hv.other hk]
      exact Assertion.ofKeyword?_congr (fun l hl => h.lookup_other (fun _ _ hm => hm.other) hl) v
    · rw [Assertion.ofKeyword?_eq_none hk, Assertion.ofKeyword?_eq_none hk]
  unfold keywordRule at ho ho'
  simp only [gives_bind, gives_read, exists_eq_left', valuesOf_prepareMembers, prepare_value]
    at ho ho'
  rw [hAssertion, hCtx.dialect] at ho'
  split at ho
  next a hSome =>
    rw [hSome] at ho'
    rw [← gives_pure.mp ho, ← gives_pure.mp ho']
    exact .some (Rule.narrows_assertion k a)
  next hNone =>
    rw [hNone] at ho'
    dsimp only at ho'
    split at ho
    next hMembers =>
      rw [if_pos hMembers] at ho'
      refine narrows_built ho ho' fun c c' hc hc' => ?_
      exact Rule.narrows_unevaluatedProperties (narrows_coverageOf h hCtx hc hc')
    next hMembers =>
      rw [if_neg hMembers] at ho'
      split at ho
      next hItems =>
        rw [if_pos hItems] at ho'
        refine narrows_built ho ho' fun c c' hc hc' => ?_
        exact Rule.narrows_unevaluatedItems (narrows_coverageOf h hCtx hc hc')
      next hItems =>
        rw [if_neg hItems] at ho'
        exact narrows_applicator h hCtx hv hOpen ho ho'

/-- No assertion stands at a keyword that holds schemas, and nothing is left over there. -/
theorem keywordRule_eq_applicator {W : Linkage} {siblings : Siblings} {k : String} {p : Part}
    {o : Option Rule} (hk : role k ≠ .other) (hMembers : k ≠ "unevaluatedProperties")
    (hItems : k ≠ "unevaluatedItems") :
    Gives W ctx (keywordRule siblings k p) o ↔
      Gives W ctx (applicator ctx.dialect siblings k p) o := by
  unfold keywordRule
  simp only [gives_bind, gives_read, exists_eq_left', Assertion.ofKeyword?_eq_none hk]
  rw [if_neg (by simp [hMembers]), if_neg (by simp [hItems])]

/-- In a schema that is closed, the member that closes it takes the declared members and the
patterns over. -/
theorem narrows_takenOver (h : KeywordPairs (Json.SiblingNarrows A B ms) ms core extra)
    (hCtx : ctx.Alike ctx') (hExtra : extra ≠ []) {k : String}
    (hk : k = "properties" ∨ k = "patternProperties") {v : Json}
    (hv : Json.lookup k ms = some v) {o o' : Option Rule}
    (ho : Gives A.linkage ctx (keywordRule (prepareMembers ms) k (prepare v)) o)
    (ho' : Gives B.linkage ctx' (keywordRule (prepareMembers (core ++ extra))
      "additionalProperties" (prepare (.bool false))) o') : RuleNarrows A B o o' := by
  have hClosing := (keywordRule_eq_applicator (by decide) (by decide) (by decide)).mp ho'
  have hOpen : closesProperties (prepareMembers ms) = false := by
    rw [closesProperties, valueOf?_prepareMembers, (h.lookup_closing hExtra).1]
  rcases hk with rfl | rfl
  · have hOwn := (keywordRule_eq_applicator (by decide) (by decide) (by decide)).mp ho
    change Gives A.linkage ctx (if (prepare v).isObject && !closesProperties (prepareMembers ms)
      then _ else _) o at hOwn
    cases v with
    | object members =>
      rw [if_pos (by rw [hOpen]; rfl)] at hOwn
      simp only [gives_bind, gives_pure] at hOwn
      obtain ⟨ds, hds, rfl⟩ := hOwn
      exact narrows_properties_of_closing h hCtx hv hds hClosing
    | _ =>
      exact .of_none hOwn o'
  · have hOwn := (keywordRule_eq_applicator (by decide) (by decide) (by decide)).mp ho
    change Gives A.linkage ctx (if (prepare v).isObject && !closesProperties (prepareMembers ms)
      then _ else _) o at hOwn
    cases v with
    | object members =>
      rw [if_pos (by rw [hOpen]; rfl)] at hOwn
      simp only [gives_bind, gives_pure] at hOwn
      obtain ⟨ps, hps, rfl⟩ := hOwn
      exact narrows_patternProperties_of_closing h hCtx hv hps hClosing
    | _ =>
      exact .of_none hOwn o'

/-! ## Schemas -/

/-- Up to draft 7 a reference hides the other keywords. -/
theorem counted_prepareMembers (d : Dialect) (ms : List (String × Json)) :
    counted d (prepareMembers ms) =
      if d.isUpTo .draft7 && Json.hasMember "$ref" ms then
        prepareMembers (ms.filter fun m => m.1 == "$ref")
      else prepareMembers ms := by
  have hAny : (prepareMembers ms).any (fun m => m.1 == "$ref") = Json.hasMember "$ref" ms := by
    rw [prepareMembers_eq, List.any_map]
    rfl
  rw [counted, hAny]
  split
  · rw [prepareMembers_eq, prepareMembers_eq, List.filter_map]
    rfl
  · rfl

theorem gives_body {W : Linkage} {r : Rule} :
    Gives W ctx (body (prepareMembers ms)) r ↔ ∃ os, List.Forall₂
      (fun m o => Gives W ctx (keywordRule (prepareMembers ms) m.1 (prepare m.2)) o)
        (if ctx.dialect.isUpTo .draft7 && Json.hasMember "$ref" ms then
          ms.filter fun m => m.1 == "$ref" else ms) os ∧ r = .all (os.filterMap id) := by
  unfold body
  simp only [gives_bind, gives_read, exists_eq_left', counted_prepareMembers]
  rw [← apply_ite prepareMembers]
  generalize hSiblings : prepareMembers ms = siblings
  refine exists_congr fun os => and_congr ?_ (by rw [gives_pure, eq_comm])
  rw [gives_mapM, prepareMembers_eq, List.forall₂_map_left_iff]

theorem mem_filterMap_id {os : List (Option Rule)} {r : Rule} :
    r ∈ os.filterMap id ↔ some r ∈ os := by
  simp

theorem narrows_body_of_reference (h : KeywordPairs (Json.SiblingNarrows A B ms) ms core extra)
    (hCtx : ctx.Alike ctx') {os os' : List (Option Rule)}
    (hos : List.Forall₂ (fun m o => Gives A.linkage ctx
      (keywordRule (prepareMembers ms) m.1 (prepare m.2)) o) (ms.filter fun m => m.1 == "$ref") os)
    (hos' : List.Forall₂ (fun m o => Gives B.linkage ctx'
      (keywordRule (prepareMembers (core ++ extra)) m.1 (prepare m.2)) o)
        ((core ++ extra).filter fun m => m.1 == "$ref") os') :
    Rule.Narrows A.follow B.follow (.all (os.filterMap id)) (.all (os'.filterMap id)) := by
  have hAlone : extra.filter (fun m => m.1 == "$ref") = [] := by
    rcases h.closing with rfl | ⟨rfl, -⟩ <;> rfl
  rw [List.filter_append, hAlone, List.append_nil] at hos'
  have hReferences := List.rel_filter (p := fun m => m.1 == "$ref") (q := fun m => m.1 == "$ref")
    (fun m m' hm => by simp [hm.name]) h.each
  have hMem : ∀ m ∈ ms.filter (fun m => m.1 == "$ref"), m.1 = "$ref" := fun m hm =>
    eq_of_beq (List.mem_filter.mp hm).2
  have hEach := forall₂_results (S := RuleNarrows A B) ?_
    ((List.forall₂_and_left _ _).mpr ⟨hMem, hReferences⟩) hos hos'
  · refine Rule.narrows_all fun r hr => ?_
    obtain ⟨o', ho', hNarrows⟩ := exists_of_forall₂ hEach _ (mem_filterMap_id.mp hr)
    obtain ⟨r', rfl, hLess⟩ := hNarrows r rfl
    exact ⟨r', mem_filterMap_id.mpr ho', hLess⟩
  · rintro ⟨k, v⟩ ⟨k', v'⟩ o o' ⟨hk, hm⟩ ho ho'
    cases hm.name
    have hOpen : k = "properties" ∨ k = "patternProperties" → extra = [] := by
      rw [show k = "$ref" from hk]
      simp
    exact narrows_keywordRule h hCtx hm hOpen ho ho'

theorem narrows_body_of_keywords (h : KeywordPairs (Json.SiblingNarrows A B ms) ms core extra)
    (hCtx : ctx.Alike ctx') {os os' : List (Option Rule)}
    (hos : List.Forall₂ (fun m o => Gives A.linkage ctx
      (keywordRule (prepareMembers ms) m.1 (prepare m.2)) o) ms os)
    (hos' : List.Forall₂ (fun m o => Gives B.linkage ctx'
      (keywordRule (prepareMembers (core ++ extra)) m.1 (prepare m.2)) o) (core ++ extra) os') :
    Rule.Narrows A.follow B.follow (.all (os.filterMap id)) (.all (os'.filterMap id)) := by
  obtain ⟨own', more', rfl, hOwn', hMore'⟩ := forall₂_append_left hos'
  refine Rule.narrows_all fun r hr => ?_
  -- Each rule is narrowed by one of the counterpart: its own, or that of the closing member.
  have hEach := forall₂_results (S := fun o o' => RuleNarrows A B o o' ∨
    ∃ o'' ∈ more', RuleNarrows A B o o'') ?_
    ((List.forall₂_and_left _ _).mpr ⟨fun m hm => hm, h.each⟩) hos hOwn'
  · obtain ⟨o', ho', hNarrows | ⟨o'', ho'', hNarrows⟩⟩ :=
      exists_of_forall₂ hEach _ (mem_filterMap_id.mp hr)
    · obtain ⟨r', rfl, hLess⟩ := hNarrows r rfl
      exact ⟨r', mem_filterMap_id.mpr (List.mem_append_left _ ho'), hLess⟩
    · obtain ⟨r', rfl, hLess⟩ := hNarrows r rfl
      exact ⟨r', mem_filterMap_id.mpr (List.mem_append_right _ ho''), hLess⟩
  · rintro ⟨k, v⟩ ⟨k', v'⟩ o o' ⟨hMem, hm⟩ ho ho'
    cases hm.name
    by_cases hOpen : k = "properties" ∨ k = "patternProperties" → extra = []
    · exact .inl (narrows_keywordRule h hCtx hm hOpen ho ho')
    · obtain ⟨hk, hExtra⟩ := Classical.not_imp.mp hOpen
      have hLookup : Json.lookup k ms = some v := by
        rw [Json.lookup, find?_of_nodup h.distinct hMem]
        rfl
      rcases h.closing with rfl | ⟨rfl, -⟩
      · exact absurd rfl hExtra
      · rcases hMore' with _ | ⟨ho'', hNil⟩
        cases hNil
        refine .inr ⟨_, List.mem_singleton_self _, ?_⟩
        exact narrows_takenOver h hCtx hExtra hk hLookup ho ho''

theorem narrows_body (h : KeywordPairs (Json.SiblingNarrows A B ms) ms core extra)
    (hCtx : ctx.Alike ctx') {r r' : Rule}
    (hr : Gives A.linkage ctx (body (prepareMembers ms)) r)
    (hr' : Gives B.linkage ctx' (body (prepareMembers (core ++ extra))) r') :
    Rule.Narrows A.follow B.follow r r' := by
  obtain ⟨os, hos, rfl⟩ := gives_body.mp hr
  obtain ⟨os', hos', rfl⟩ := gives_body.mp hr'
  rw [hCtx.dialect, h.hasMember_eq (.inl (by decide))] at hos'
  split at hos
  next hHides =>
    rw [if_pos hHides] at hos'
    exact narrows_body_of_reference h hCtx hos hos'
  next hShows =>
    rw [if_neg hShows] at hos'
    exact narrows_body_of_keywords h hCtx hos hos'

end

end Part

end SchemaContract
