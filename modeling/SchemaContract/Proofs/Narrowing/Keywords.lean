import SchemaContract.Proofs.Narrowing.Parts

/-!
# Keywords of narrower schemas

Keyword by keyword, the rule of a schema is narrowed by that of its counterpart. The rules of
`properties` and `patternProperties` are the exception: where the counterpart is closed they are
taken over by the rule of the member that closes it.
-/

namespace SchemaContract.Part

open Compile Closing

/-- Where the first schema has a rule, the second has one that narrows it. -/
def RuleNarrows (A B : World) (o o' : Option Rule) : Prop :=
  ∀ r, o = some r → ∃ r', o' = some r' ∧ Rule.Narrows A.follow B.follow r r'

section

variable {A B : World} {ctx ctx' : Context} {ms core extra : List (String × Json)}

theorem RuleNarrows.some {r r' : Rule} (h : Rule.Narrows A.follow B.follow r r') :
    RuleNarrows A B (some r) (some r') := by
  rintro _ ⟨⟩
  exact ⟨r', rfl, h⟩

theorem RuleNarrows.none (o' : Option Rule) : RuleNarrows A B none o' := by
  rintro _ ⟨⟩

theorem RuleNarrows.of_none {o : Option Rule} (ho : Gives A.linkage ctx (pure Option.none) o)
    (o' : Option Rule) : RuleNarrows A B o o' := by
  rw [← gives_pure.mp ho]
  exact .none o'

/-! ## Siblings -/

theorem objectAt?_rel (h : KeywordPairs (Json.SiblingNarrows A B ms) ms core extra) {k : String}
    (hk : k ≠ "additionalProperties") (hMap : holdsMap k = true) :
    (objectAt? (prepareMembers ms) k = none ∧ objectAt? (prepareMembers (core ++ extra)) k = none) ∨
      ∃ ds ds', objectAt? (prepareMembers ms) k = some (prepare (.object ds)) ∧
        objectAt? (prepareMembers (core ++ extra)) k = some (prepare (.object ds')) ∧
        (ds.map (·.1)).Nodup ∧
          List.Forall₂ (fun m m' => m.1 = m'.1 ∧ m.2.NarrowsIn A B m'.2) ds ds' := by
  have hRel := h.lookup (k := k) (.inl hk)
  unfold objectAt?
  rw [find?_prepareMembers, find?_prepareMembers]
  generalize Json.lookup k (core ++ extra) = found' at hRel ⊢
  generalize Json.lookup k ms = found at hRel ⊢
  cases hRel with
  | none => exact .inl ⟨rfl, rfl⟩
  | @some v v' hm =>
    have hValue := hm.value
    cases v with
    | object ds =>
      obtain ⟨hNames, ds', hEq, hEach⟩ := hValue.members hMap rfl
      cases hEq
      exact .inr ⟨ds, ds', rfl, rfl, hNames, hEach⟩
    | _ =>
      have hNot := hValue.kindred.isObject_eq
      cases v' with
      | object ds' => cases hNot
      | _ => exact .inl ⟨rfl, rfl⟩

theorem exists_objectAt? (h : KeywordPairs (Json.SiblingNarrows A B ms) ms core extra) {k : String}
    (hk : k ≠ "additionalProperties") (hMap : holdsMap k = true) {ds : List (String × Json)}
    (hds : Json.lookup k ms = some (.object ds)) : ∃ ds',
      objectAt? (prepareMembers (core ++ extra)) k = some (prepare (.object ds')) ∧
        (ds.map (·.1)).Nodup ∧
          List.Forall₂ (fun m m' => m.1 = m'.1 ∧ m.2.NarrowsIn A B m'.2) ds ds' := by
  have hOwn : objectAt? (prepareMembers ms) k = some (prepare (.object ds)) := by
    rw [objectAt?, find?_prepareMembers, hds]
    rfl
  rcases objectAt?_rel h hk hMap with ⟨hNone, -⟩ | ⟨own, ds', hSome, hSome', hNames, hEach⟩
  · cases hNone.symm.trans hOwn
  · cases hSome.symm.trans hOwn
    exact ⟨ds', hSome', hNames, hEach⟩

theorem narrows_declaredBeside (h : KeywordPairs (Json.SiblingNarrows A B ms) ms core extra)
    (hCtx : ctx.Alike ctx') {ds ds' : List (String × Rule)}
    (hds : Gives A.linkage ctx (declaredBeside (prepareMembers ms)) ds)
    (hds' : Gives B.linkage ctx' (declaredBeside (prepareMembers (core ++ extra))) ds') :
    Rule.NarrowsEach A.follow B.follow ds ds' := by
  unfold declaredBeside at hds hds'
  rcases objectAt?_rel h (k := "properties") (by simp) rfl with
    ⟨hNone, hNone'⟩ | ⟨ms, ms', hSome, hSome', -, hEach⟩
  · rw [hNone] at hds
    rw [hNone'] at hds'
    rw [← gives_pure.mp hds, ← gives_pure.mp hds']
    exact .nil
  · rw [hSome] at hds
    rw [hSome'] at hds'
    exact narrows_declared hCtx hds hds' hEach

theorem narrows_patternedBeside (h : KeywordPairs (Json.SiblingNarrows A B ms) ms core extra)
    (hCtx : ctx.Alike ctx') {ps ps' : List (Pattern × Rule)}
    (hps : Gives A.linkage ctx (patternedBeside (prepareMembers ms)) ps)
    (hps' : Gives B.linkage ctx' (patternedBeside (prepareMembers (core ++ extra))) ps') :
    Rule.NarrowsEach A.follow B.follow ps ps' := by
  unfold patternedBeside at hps hps'
  rcases objectAt?_rel h (k := "patternProperties") (by simp) rfl with
    ⟨hNone, hNone'⟩ | ⟨ms, ms', hSome, hSome', -, hEach⟩
  · rw [hNone] at hps
    rw [hNone'] at hps'
    rw [← gives_pure.mp hps, ← gives_pure.mp hps']
    exact .nil
  · rw [hSome] at hps
    rw [hSome'] at hps'
    exact narrows_patterned hCtx hps hps' hEach

theorem isNone_objectAt? (h : KeywordPairs (Json.SiblingNarrows A B ms) ms core extra) {k : String}
    (hk : k ≠ "additionalProperties") (hMap : holdsMap k = true) :
    (objectAt? (prepareMembers (core ++ extra)) k).isNone =
      (objectAt? (prepareMembers ms) k).isNone := by
  rcases objectAt?_rel h hk hMap with ⟨hNone, hNone'⟩ | ⟨ds, ds', hSome, hSome', -⟩
  · rw [hNone, hNone']
  · rw [hSome, hSome']
    rfl

/-- A sibling as a schema, where it does not hold a map and is not inverted. -/
theorem narrows_ruleBeside (h : KeywordPairs (Json.SiblingNarrows A B ms) ms core extra)
    (hCtx : ctx.Alike ctx') {k : String} (hk : k ≠ "additionalProperties")
    (hMap : holdsMap k = false) {r r' : Rule}
    (hr : Gives A.linkage ctx (ruleBeside (prepareMembers ms) k) r)
    (hr' : Gives B.linkage ctx' (ruleBeside (prepareMembers (core ++ extra)) k) r') :
    Rule.Narrows A.follow B.follow r r' := by
  have hRel := h.lookup (k := k) (.inl hk)
  unfold ruleBeside at hr hr'
  rw [find?_prepareMembers] at hr hr'
  generalize Json.lookup k (core ++ extra) = found' at hRel hr'
  generalize Json.lookup k ms = found at hRel hr
  cases hRel with
  | none =>
    rw [← gives_pure.mp hr, ← gives_pure.mp hr']
    exact Rule.narrows_accept _
  | some hm => exact narrows_single (hm.value.own hMap) hCtx hr hr'

theorem find?_isNone_eq (h : KeywordPairs (Json.SiblingNarrows A B ms) ms core extra) {k : String}
    (hk : k ≠ "additionalProperties" ∨ extra = []) :
    (find? (prepareMembers (core ++ extra)) k).isNone = (find? (prepareMembers ms) k).isNone := by
  have hRel := h.lookup hk
  rw [find?_prepareMembers, find?_prepareMembers]
  generalize Json.lookup k (core ++ extra) = found' at hRel ⊢
  generalize Json.lookup k ms = found at hRel ⊢
  cases hRel <;> rfl

/-! ## Keywords of objects -/

theorem narrows_additionalProperties
    (h : KeywordPairs (Json.SiblingNarrows A B ms) ms core extra) (hCtx : ctx.Alike ctx')
    {v v' : Json} (hv : v.NarrowsIn A B v') {o o' : Option Rule}
    (ho : Gives A.linkage ctx (additionalProperties (prepareMembers ms) (prepare v)) o)
    (ho' : Gives B.linkage ctx'
      (additionalProperties (prepareMembers (core ++ extra)) (prepare v')) o') :
    RuleNarrows A B o o' := by
  unfold additionalProperties at ho ho'
  rw [gives_bind] at ho ho'
  obtain ⟨ps, hps, ho⟩ := ho
  obtain ⟨ps', hps', ho'⟩ := ho'
  have hPatterns := narrows_patternedBeside h hCtx hps hps'
  rw [prepare_value] at ho ho'
  rw [isNone_objectAt? h (by simp) rfl, isNone_objectAt? h (by simp) rfl] at ho'
  cases hv.kindred with
  | scalar hItems hMembers =>
    cases v with
    | object vs => cases hMembers
    | bool b =>
      cases b with
      | true =>
        exact .of_none ho o'
      | false =>
        dsimp only at ho ho'
        split at ho
        next hNone =>
          rw [if_pos hNone] at ho'
          rw [← gives_pure.mp ho, ← gives_pure.mp ho']
          exact .some (Rule.narrows_assertion _ _)
        next hSome =>
          rw [if_neg hSome] at ho'
          simp only [gives_bind, gives_pure] at ho ho'
          obtain ⟨ds, hds, rfl⟩ := ho
          obtain ⟨ds', hds', rfl⟩ := ho'
          exact .some (Rule.narrows_closed (narrows_declaredBeside h hCtx hds hds') hPatterns)
    | _ =>
      exact .of_none ho o'
  | array =>
    exact .of_none ho o'
  | object vs vs' =>
    simp only [gives_bind, gives_pure] at ho ho'
    obtain ⟨ds, hds, r, hr, rfl⟩ := ho
    obtain ⟨ds', hds', r', hr', rfl⟩ := ho'
    exact .some (Rule.narrows_open (narrows_declaredBeside h hCtx hds hds') hPatterns
      (narrows_single hv hCtx hr hr'))

/-- In a schema that is closed, the member that closes it checks the declared members. -/
theorem narrows_properties_of_closing
    (h : KeywordPairs (Json.SiblingNarrows A B ms) ms core extra) (hCtx : ctx.Alike ctx')
    {members : List (String × Json)} (hv : Json.lookup "properties" ms = some (.object members))
    {ds : List (String × Rule)}
    (hds : Gives A.linkage ctx ((prepare (.object members)).declared "properties") ds)
    {o' : Option Rule}
    (ho' : Gives B.linkage ctx'
      (additionalProperties (prepareMembers (core ++ extra)) (prepare (.bool false))) o') :
    RuleNarrows A B (some (.properties ds)) o' := by
  obtain ⟨members', hSome', hNames, hEach⟩ := exists_objectAt? h (by simp) rfl hv
  unfold additionalProperties at ho'
  rw [gives_bind] at ho'
  obtain ⟨ps', -, ho'⟩ := ho'
  rw [prepare_value] at ho'
  dsimp only at ho'
  rw [if_neg (by simp [hSome'])] at ho'
  simp only [gives_bind, gives_pure] at ho'
  obtain ⟨ds', hds', rfl⟩ := ho'
  rw [declaredBeside, hSome'] at hds'
  refine .some (Rule.narrows_properties_closed ?_ (narrows_declared hCtx hds hds' hEach))
  rwa [names_declared hds]

theorem narrows_patternProperties_of_closing
    (h : KeywordPairs (Json.SiblingNarrows A B ms) ms core extra) (hCtx : ctx.Alike ctx')
    {members : List (String × Json)}
    (hv : Json.lookup "patternProperties" ms = some (.object members))
    {ps : List (Pattern × Rule)}
    (hps : Gives A.linkage ctx (prepare (.object members)).patterned ps)
    {o' : Option Rule}
    (ho' : Gives B.linkage ctx'
      (additionalProperties (prepareMembers (core ++ extra)) (prepare (.bool false))) o') :
    RuleNarrows A B (some (.patternProperties ps)) o' := by
  obtain ⟨members', hSome', -, hEach⟩ := exists_objectAt? h (by simp) rfl hv
  unfold additionalProperties at ho'
  rw [gives_bind] at ho'
  obtain ⟨ps', hps', ho'⟩ := ho'
  rw [prepare_value] at ho'
  dsimp only at ho'
  rw [if_neg (by simp [hSome'])] at ho'
  simp only [gives_bind, gives_pure] at ho'
  obtain ⟨ds', -, rfl⟩ := ho'
  rw [patternedBeside, hSome'] at hps'
  exact .some (Rule.narrows_patternProperties_closed (narrows_patterned hCtx hps hps' hEach))

theorem narrows_dependency {k name : String} {v v' : Json} (hv : v.NarrowsIn A B v')
    (hCtx : ctx.Alike ctx') {r r' : Rule}
    (hr : Gives A.linkage ctx (dependency k name (prepare v)) r)
    (hr' : Gives B.linkage ctx' (dependency k name (prepare v')) r') :
    Rule.Narrows A.follow B.follow r r' := by
  unfold dependency at hr hr'
  rw [prepare_value] at hr hr'
  cases hv.kindred with
  | scalar hItems hMembers =>
    cases v with
    | array vs => cases hItems
    | _ => exact narrows_under hv hCtx hr hr'
  | array hLength hTexts =>
    rw [← gives_pure.mp hr, ← gives_pure.mp hr', requiredRule, requiredRule, Assertion.stringsOf,
      hTexts]
    exact Rule.narrows_assertion _ _
  | object => exact narrows_under hv hCtx hr hr'

theorem narrows_dependencies {k : String} {v v' : Json} (hv : v.KeywordNarrows A B true v')
    (hCtx : ctx.Alike ctx') {o o' : Option Rule}
    (ho : Gives A.linkage ctx (dependencies k (prepare v)) o)
    (ho' : Gives B.linkage ctx' (dependencies k (prepare v')) o') : RuleNarrows A B o o' := by
  unfold dependencies at ho ho'
  rw [members_prepare] at ho ho'
  simp only [gives_bind, gives_pure] at ho ho'
  obtain ⟨ds, hds, rfl⟩ := ho
  obtain ⟨ds', hds', rfl⟩ := ho'
  have hNarrows := narrows_named (f := dependency k) (S := Rule.Narrows A.follow B.follow) hv.named
    (fun hw hr hr' => narrows_dependency hw hCtx hr hr') hds hds'
  exact .some (Rule.narrows_dependent hNarrows)

/-! ## Keywords of arrays -/

theorem prefixCount_eq (h : KeywordPairs (Json.SiblingNarrows A B ms) ms core extra) :
    prefixCount (prepareMembers (core ++ extra)) = prefixCount (prepareMembers ms) := by
  have hRel := h.lookup (k := "prefixItems") (.inl (by simp))
  unfold prefixCount
  rw [valueOf?_prepareMembers, valueOf?_prepareMembers]
  generalize Json.lookup "prefixItems" (core ++ extra) = found' at hRel ⊢
  generalize Json.lookup "prefixItems" ms = found at hRel ⊢
  cases hRel with
  | none => rfl
  | some hm =>
    cases hm.value.kindred with
    | scalar => rfl
    | array hLength => exact hLength.symm
    | object => rfl

theorem narrows_itemsRule (h : KeywordPairs (Json.SiblingNarrows A B ms) ms core extra)
    (hCtx : ctx.Alike ctx') {v v' : Json} (hv : v.KeywordNarrows A B false v') {o o' : Option Rule}
    (ho : Gives A.linkage ctx (itemsRule (prepareMembers ms) (prepare v)) o)
    (ho' : Gives B.linkage ctx' (itemsRule (prepareMembers (core ++ extra)) (prepare v')) o') :
    RuleNarrows A B o o' := by
  unfold itemsRule at ho ho'
  rw [prepare_value] at ho ho'
  rw [prefixCount_eq h] at ho'
  cases hv.kindred with
  | scalar hItems hMembers =>
    cases v with
    | array vs => cases hItems
    | object vs => cases hMembers
    | bool b =>
      cases b with
      | true =>
        exact .of_none ho o'
      | false =>
        rw [← gives_pure.mp ho, ← gives_pure.mp ho']
        exact .some (Rule.narrows_itemsFrom _ (Rule.narrows_within _ (Rule.narrows_reject _)))
    | _ =>
      exact .of_none ho o'
  | array =>
    simp only [gives_bind, gives_pure] at ho ho'
    obtain ⟨rs, hrs, rfl⟩ := ho
    obtain ⟨rs', hrs', rfl⟩ := ho'
    exact .some (Rule.narrows_positions (narrows_listed hv hCtx hrs hrs'))
  | object =>
    simp only [gives_bind, gives_pure] at ho ho'
    obtain ⟨r, hr, rfl⟩ := ho
    obtain ⟨r', hr', rfl⟩ := ho'
    exact .some (Rule.narrows_itemsFrom _ (narrows_single (hv.own rfl) hCtx hr hr'))

theorem narrows_additionalItems (h : KeywordPairs (Json.SiblingNarrows A B ms) ms core extra)
    (hCtx : ctx.Alike ctx') {v v' : Json} (hv : v.NarrowsIn A B v') {o o' : Option Rule}
    (ho : Gives A.linkage ctx (additionalItems (prepareMembers ms) (prepare v)) o)
    (ho' : Gives B.linkage ctx'
      (additionalItems (prepareMembers (core ++ extra)) (prepare v')) o') :
    RuleNarrows A B o o' := by
  have hRel := h.lookup (k := "items") (.inl (by simp))
  unfold additionalItems at ho ho'
  rw [valueOf?_prepareMembers, prepare_value] at ho ho'
  generalize Json.lookup "items" (core ++ extra) = found' at hRel ho'
  generalize Json.lookup "items" ms = found at hRel ho
  cases hRel with
  | none =>
    exact .of_none ho o'
  | @some items items' hm =>
    cases hm.value.kindred with
    | scalar hItems hMembers =>
      cases items with
      | array vs => cases hItems
      | bool b =>
        cases b with
        | true =>
          exact .of_none ho o'
        | false =>
          rw [← gives_pure.mp ho, ← gives_pure.mp ho']
          exact .some (Rule.narrows_within _ (Rule.narrows_reject _))
      | _ =>
        exact .of_none ho o'
    | @array vs vs' hLength =>
      cases hv.kindred with
      | scalar hItems hMembers =>
        cases v with
        | object => cases hMembers
        | bool b =>
          cases b with
          | true =>
            exact .of_none ho o'
          | false =>
            rw [← gives_pure.mp ho, ← gives_pure.mp ho', hLength]
            exact .some (Rule.narrows_assertion _ _)
        | _ =>
          exact .of_none ho o'
      | array =>
        exact .of_none ho o'
      | object =>
        simp only [gives_bind, gives_pure] at ho ho'
        obtain ⟨r, hr, rfl⟩ := ho
        obtain ⟨r', hr', rfl⟩ := ho'
        rw [hLength]
        exact .some (Rule.narrows_itemsFrom _ (narrows_single hv hCtx hr hr'))
    | object =>
      exact .of_none ho o'

theorem limitOf?_eq (h : KeywordPairs (Json.SiblingNarrows A B ms) ms core extra) {k : String}
    (hk : role k = .other) :
    limitOf? (prepareMembers (core ++ extra)) k = limitOf? (prepareMembers ms) k := by
  unfold limitOf?
  rw [valueOf?_prepareMembers, valueOf?_prepareMembers, h.lookup_other (fun _ _ hm => hm.other) hk]

theorem inverts_contains {n : Nat}
    (hHigh : limitOf? (prepareMembers ms) "maxContains" = some n) :
    inverts ms "contains" = true := by
  unfold limitOf? at hHigh
  rw [valueOf?_prepareMembers] at hHigh
  have hMember : Json.hasMember "maxContains" ms = true := by
    rw [← Json.lookup_isSome_iff]
    cases hv : Json.lookup "maxContains" ms with
    | none =>
      rw [hv] at hHigh
      cases hHigh
    | some v => rfl
  simp [inverts, hMember]

theorem narrows_boundedPart {low high : Option Nat} {v v' : Json} (hv : v.NarrowsIn A B v')
    (hCtx : ctx.Alike ctx') {r r' : Rule}
    (hr : Gives A.linkage ctx (boundedPart low high (prepare v)) r)
    (hr' : Gives B.linkage ctx' (boundedPart low high (prepare v')) r') :
    Rule.Narrows A.follow B.follow r r' := by
  cases low <;> cases high
  · exact narrows_single hv hCtx hr hr'
  · exact narrows_single hv hCtx hr hr'
  · exact narrows_single hv hCtx hr hr'
  · exact hv.rule hCtx hr hr'

theorem narrows_contains (h : KeywordPairs (Json.SiblingNarrows A B ms) ms core extra)
    (hCtx : ctx.Alike ctx') {v v' : Json}
    (hv : Json.SiblingNarrows A B ms ("contains", v) ("contains", v')) {d : Dialect}
    {o o' : Option Rule}
    (ho : Gives A.linkage ctx (contains d (prepareMembers ms) (prepare v)) o)
    (ho' : Gives B.linkage ctx' (contains d (prepareMembers (core ++ extra)) (prepare v')) o') :
    RuleNarrows A B o o' := by
  have hOwn : v.NarrowsIn A B v' := hv.value.own rfl
  unfold contains at ho ho'
  split at ho
  next hOld =>
    rw [if_pos hOld] at ho'
    simp only [gives_bind, gives_pure] at ho ho'
    obtain ⟨r, hr, rfl⟩ := ho
    obtain ⟨r', hr', rfl⟩ := ho'
    exact .some (Rule.narrows_contains 1 (narrows_single hOwn hCtx hr hr'))
  next hNew =>
    rw [if_neg hNew] at ho'
    rw [limitOf?_eq h rfl, limitOf?_eq h rfl] at ho'
    simp only [gives_bind, gives_pure] at ho ho'
    obtain ⟨r, hr, rfl⟩ := ho
    obtain ⟨r', hr', rfl⟩ := ho'
    have hNarrows := narrows_boundedPart hOwn hCtx hr hr'
    cases hHigh : limitOf? (prepareMembers ms) "maxContains" with
    | none => exact .some (Rule.narrows_contains _ hNarrows)
    | some n =>
      -- An upper bound asks for equal rules.
      have hBack := (hv.back (inverts_contains hHigh)).own rfl
      have hConverse := narrows_boundedPart hBack hCtx.symm hr' hr
      exact .some (Rule.narrows_contains_of_agrees _ _ (.of_narrows hNarrows hConverse))

/-! ## Combinations -/

theorem narrows_conditional (h : KeywordPairs (Json.SiblingNarrows A B ms) ms core extra)
    (hCtx : ctx.Alike ctx') {v v' : Json}
    (hv : Json.SiblingNarrows A B ms ("if", v) ("if", v')) {o o' : Option Rule}
    (ho : Gives A.linkage ctx (conditional (prepareMembers ms) (prepare v)) o)
    (ho' : Gives B.linkage ctx' (conditional (prepareMembers (core ++ extra)) (prepare v')) o') :
    RuleNarrows A B o o' := by
  unfold conditional at ho ho'
  rw [find?_isNone_eq h (.inl (by simp)), find?_isNone_eq h (.inl (by simp))] at ho'
  split at ho
  next => exact .of_none ho o'
  next hSome =>
    rw [if_neg hSome] at ho'
    simp only [gives_bind, gives_pure] at ho ho'
    obtain ⟨c, hc, t, ht, e, he, rfl⟩ := ho
    obtain ⟨c', hc', t', ht', e', he', rfl⟩ := ho'
    have hNarrows := narrows_single (hv.value.own rfl) hCtx hc hc'
    have hConverse := narrows_single ((hv.back rfl).own rfl) hCtx.symm hc' hc
    exact .some (Rule.narrows_conditional (.of_narrows hNarrows hConverse)
      (narrows_ruleBeside h hCtx (by simp) rfl ht ht')
      (narrows_ruleBeside h hCtx (by simp) rfl he he'))

theorem narrows_not (hCtx : ctx.Alike ctx') {v v' : Json}
    (hv : Json.SiblingNarrows A B ms ("not", v) ("not", v')) {r r' : Rule}
    (hr : Gives A.linkage ctx ((prepare v).single "not") r)
    (hr' : Gives B.linkage ctx' ((prepare v').single "not") r') :
    Rule.Narrows A.follow B.follow (.not r) (.not r') := by
  have hNarrows := narrows_single (hv.value.own rfl) hCtx hr hr'
  have hConverse := narrows_single ((hv.back rfl).own rfl) hCtx.symm hr' hr
  exact Rule.narrows_not (.of_narrows hNarrows hConverse)

theorem narrows_oneOf (hCtx : ctx.Alike ctx') {v v' : Json}
    (hv : Json.SiblingNarrows A B ms ("oneOf", v) ("oneOf", v')) {rs rs' : List Rule}
    (hrs : Gives A.linkage ctx ((prepare v).listed "oneOf") rs)
    (hrs' : Gives B.linkage ctx' ((prepare v').listed "oneOf") rs') :
    Rule.Narrows A.follow B.follow (.oneOf rs) (.oneOf rs') := by
  have hNarrows := narrows_listed hv.value hCtx hrs hrs'
  have hConverse := (narrows_listed (hv.back rfl) hCtx.symm hrs' hrs).flip
  exact Rule.narrows_oneOf (hNarrows.mp (fun _ _ h h' => .of_narrows h h') hConverse)

theorem narrows_reference (hCtx : ctx.Alike ctx') {k : String} (hk : k ∈ Json.referenceKeywords)
    {v v' : Json} (hv : Json.SiblingNarrows A B ms (k, v) (k, v')) {o o' : Option Rule}
    (ho : Gives A.linkage ctx (reference k (prepare v)) o)
    (ho' : Gives B.linkage ctx' (reference k (prepare v')) o') : RuleNarrows A B o o' := by
  obtain rfl : v' = v := hv.other (role_of_referenceKeywords hk)
  unfold reference at ho ho'
  rw [prepare_value] at ho ho'
  cases v' with
  | string text =>
    simp only [gives_bind, gives_pure, gives_ruleNumber] at ho ho'
    obtain ⟨answer, hAnswer, rfl⟩ := ho
    obtain ⟨answer', hAnswer', rfl⟩ := ho'
    cases answer with
    | none => exact .none _
    | some i =>
      have hReference := hv.reference (k, text) (by simp [Json.reference?, hk, Json.string?])
      obtain ⟨i', rfl, hLess⟩ := hReference.rule hCtx hAnswer hAnswer'
      exact .some (Rule.narrows_reference k hLess)
  | _ => exact absurd ho not_gives_refuse

end

end SchemaContract.Part
