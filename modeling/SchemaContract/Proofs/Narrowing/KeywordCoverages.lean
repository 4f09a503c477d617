import SchemaContract.Proofs.Narrowing.Keywords

/-!
# Coverages of narrower schemas

Keyword by keyword, a schema looks at all that its counterpart looks at. The member that closes a
schema looks at nothing.
-/

namespace SchemaContract.Part

open Compile Closing

section

variable {A B : World} {ctx ctx' : Context} {ms core extra : List (String × Json)}

/-- Both lists of coverages, as those of one schema. -/
def CoveragesNarrow (A B : World) (cs cs' : List Coverage) : Prop :=
  Rule.NarrowsCoverage A.follow B.follow (.any cs) (.any cs')

theorem CoveragesNarrow.nil (cs : List Coverage) : CoveragesNarrow A B cs [] :=
  Rule.narrowsCoverage_nil (.any cs)

theorem CoveragesNarrow.of_nil (cs : List Coverage) {cs' : List Coverage}
    (hcs' : Gives B.linkage ctx' (pure []) cs') : CoveragesNarrow A B cs cs' := by
  rw [← gives_pure.mp hcs']
  exact .nil cs

theorem CoveragesNarrow.single {c c' : Coverage}
    (h : Rule.NarrowsCoverage A.follow B.follow c c') : CoveragesNarrow A B [c] [c'] :=
  Rule.narrowsCoverage_singleton h

theorem isObject_eq {v v' : Json} (h : v.Kindred v') :
    (prepare v').isObject = (prepare v).isObject := by
  rw [isObject, isObject, prepare_value, prepare_value, h.isObject_eq]

/-! ## Keywords that count in values of any kind -/

theorem narrows_referenceCoverage (hCtx : ctx.Alike ctx') {kind : PartKind} {k : String}
    (hk : k ∈ Json.referenceKeywords) {v v' : Json}
    (hv : Json.SiblingNarrows A B ms (k, v) (k, v')) {cs cs' : List Coverage}
    (hcs : Gives A.linkage ctx (referenceCoverage kind k (prepare v)) cs)
    (hcs' : Gives B.linkage ctx' (referenceCoverage kind k (prepare v')) cs') :
    CoveragesNarrow A B cs cs' := by
  obtain rfl : v' = v := hv.other (role_of_referenceKeywords hk)
  unfold referenceCoverage at hcs hcs'
  rw [prepare_value] at hcs hcs'
  cases v' with
  | string text =>
    simp only [gives_bind, gives_pure, gives_coverageNumber] at hcs hcs'
    obtain ⟨answer, hAnswer, rfl⟩ := hcs
    obtain ⟨answer', hAnswer', rfl⟩ := hcs'
    cases answer' with
    | none => exact .nil _
    | some i' =>
      have hReference := hv.reference (k, text) (by simp [Json.reference?, hk, Json.string?])
      obtain ⟨i, rfl, hLess⟩ := hReference.coverage hCtx hAnswer hAnswer'
      exact .single (Rule.narrowsCoverage_reference hLess)
  | _ =>
    exact .of_nil cs hcs'

theorem narrows_objectCoverage (h : KeywordPairs (Json.SiblingNarrows A B ms) ms core extra)
    (hCtx : ctx.Alike ctx') {kind : PartKind} {k : String} (hk : k ≠ "additionalProperties")
    (hMap : holdsMap k = false) {c c' : Coverage}
    (hc : Gives A.linkage ctx (objectCoverage kind (find? (prepareMembers ms) k)) c)
    (hc' : Gives B.linkage ctx' (objectCoverage kind (find? (prepareMembers (core ++ extra)) k))
      c') : Rule.NarrowsCoverage A.follow B.follow c c' := by
  have hRel := h.lookup (k := k) (.inl hk)
  rw [find?_prepareMembers] at hc hc'
  generalize Json.lookup k (core ++ extra) = found' at hRel hc'
  generalize Json.lookup k ms = found at hRel hc
  cases hRel with
  | none =>
    rw [← gives_pure.mp hc']
    exact Rule.narrowsCoverage_nil c
  | some hm =>
    dsimp only [Option.map_some, objectCoverage] at hc hc'
    rw [isObject_eq hm.value.kindred] at hc'
    split at hc
    next hObject =>
      rw [if_pos hObject] at hc'
      exact (hm.value.own hMap).coverage hCtx hc hc'
    next hNone =>
      rw [if_neg hNone] at hc'
      rw [← gives_pure.mp hc']
      exact Rule.narrowsCoverage_nil c

theorem narrows_conditionCoverage (h : KeywordPairs (Json.SiblingNarrows A B ms) ms core extra)
    (hCtx : ctx.Alike ctx') {kind : PartKind} {v v' : Json}
    (hv : Json.SiblingNarrows A B ms ("if", v) ("if", v')) {cs cs' : List Coverage}
    (hcs : Gives A.linkage ctx (conditionCoverage kind (prepareMembers ms) (prepare v)) cs)
    (hcs' : Gives B.linkage ctx'
      (conditionCoverage kind (prepareMembers (core ++ extra)) (prepare v')) cs') :
    CoveragesNarrow A B cs cs' := by
  have hOwn := hv.value.own rfl
  unfold conditionCoverage at hcs hcs'
  rw [isObject_eq hv.value.kindred] at hcs'
  split at hcs
  next hObject =>
    rw [if_pos hObject] at hcs'
    simp only [gives_bind, gives_pure] at hcs hcs'
    obtain ⟨r, hr, own, hCovers, yes, hYes, no, hNo, rfl⟩ := hcs
    obtain ⟨r', hr', own', hCovers', yes', hYes', no', hNo', rfl⟩ := hcs'
    have hNarrows := hOwn.rule hCtx hr hr'
    have hConverse := ((hv.back rfl).own rfl).rule hCtx.symm hr' hr
    have hThen := narrows_objectCoverage h hCtx (by simp) rfl hYes hYes'
    refine .single (Rule.narrowsCoverage_conditional (.of_narrows hNarrows hConverse) ?_ ?_)
    · exact Rule.narrowsCoverage_append
        (Rule.narrowsCoverage_singleton (hOwn.coverage hCtx hCovers hCovers'))
        (Rule.narrowsCoverage_singleton hThen)
    · exact narrows_objectCoverage h hCtx (by simp) rfl hNo hNo'
  next hNone =>
    rw [if_neg hNone] at hcs'
    exact .of_nil cs hcs'

theorem narrows_branches {kind : PartKind} {vs vs' : List Json}
    (h : List.Forall₂ (Json.NarrowsIn A B) vs vs') (hCtx : ctx.Alike ctx')
    {bs bs' : List (Rule × Coverage)}
    (hbs : Gives A.linkage ctx (branches kind (prepare (.array vs))) bs)
    (hbs' : Gives B.linkage ctx' (branches kind (prepare (.array vs'))) bs') :
    Rule.NarrowsBranches A.follow B.follow bs bs' := by
  change Gives A.linkage ctx (((prepareItems vs).filter isObject).mapM _) bs at hbs
  change Gives B.linkage ctx' (((prepareItems vs').filter isObject).mapM _) bs' at hbs'
  rw [prepareItems_eq, List.filter_map, gives_mapM, List.forall₂_map_left_iff] at hbs hbs'
  have hObjects : List.Forall₂ (Json.NarrowsIn A B) (vs.filter (isObject ∘ prepare))
      (vs'.filter (isObject ∘ prepare)) :=
    List.rel_filter (fun v v' hv => by simp [isObject_eq hv.kindred]) h
  refine forall₂_results ?_ hObjects hbs hbs'
  rintro v v' ⟨r, c⟩ ⟨r', c'⟩ hv hb hb'
  simp only [gives_bind, gives_pure, Prod.mk.injEq] at hb hb'
  obtain ⟨r, hr, c, hc, rfl, rfl⟩ := hb
  obtain ⟨r', hr', c', hc', rfl, rfl⟩ := hb'
  exact ⟨hv.rule hCtx hr hr', hv.coverage hCtx hc hc'⟩

theorem narrows_combinedCoverage (hCtx : ctx.Alike ctx') {kind : PartKind} {q : Quorum}
    (hq : q = .all ∨ q = .some) {v v' : Json} (hv : v.KeywordNarrows A B false v')
    {cs cs' : List Coverage}
    (hcs : Gives A.linkage ctx (combinedCoverage kind q (prepare v)) cs)
    (hcs' : Gives B.linkage ctx' (combinedCoverage kind q (prepare v')) cs') :
    CoveragesNarrow A B cs cs' := by
  unfold combinedCoverage at hcs hcs'
  rw [prepare_value] at hcs hcs'
  cases hv.kindred with
  | scalar hItems hMembers =>
    cases v with
    | array vs => cases hItems
    | _ =>
      exact .of_nil cs hcs'
  | array =>
    obtain ⟨vs', hEq, hEach⟩ := hv.items rfl
    cases hEq
    simp only [gives_bind, gives_pure] at hcs hcs'
    obtain ⟨bs, hbs, rfl⟩ := hcs
    obtain ⟨bs', hbs', rfl⟩ := hcs'
    exact .single (Rule.narrowsCoverage_branches hq (narrows_branches hEach hCtx hbs hbs'))
  | object =>
    exact .of_nil cs hcs'

/-- Branches that exclude each other, which are the same in both schemas. -/
theorem narrows_combinedCoverage_of_agrees (hCtx : ctx.Alike ctx') {kind : PartKind} (q : Quorum)
    {v : Json} (hv : v.KeywordNarrows A B false v) (hBack : v.KeywordNarrows B A false v)
    {cs cs' : List Coverage}
    (hcs : Gives A.linkage ctx (combinedCoverage kind q (prepare v)) cs)
    (hcs' : Gives B.linkage ctx' (combinedCoverage kind q (prepare v)) cs') :
    CoveragesNarrow A B cs cs' := by
  unfold combinedCoverage at hcs hcs'
  rw [prepare_value] at hcs hcs'
  cases v with
  | array vs =>
    obtain ⟨vs', hEq, hEach⟩ := hv.items rfl
    cases hEq
    obtain ⟨vs', hEq, hConverse⟩ := hBack.items rfl
    cases hEq
    simp only [gives_bind, gives_pure] at hcs hcs'
    obtain ⟨bs, hbs, rfl⟩ := hcs
    obtain ⟨bs', hbs', rfl⟩ := hcs'
    have hNarrows := narrows_branches hEach hCtx hbs hbs'
    have hWidens := (narrows_branches hConverse hCtx.symm hbs' hbs).flip
    refine .single (Rule.narrowsCoverage_branches_of_agrees q (hNarrows.mp ?_ hWidens))
    exact fun b b' h h' => ⟨.of_narrows h.1 h'.1, .of_narrows h.2 h'.2⟩
  | _ =>
    exact .of_nil cs hcs'

theorem narrows_commonCoverage (h : KeywordPairs (Json.SiblingNarrows A B ms) ms core extra)
    (hCtx : ctx.Alike ctx') {kind : PartKind} {k : String} {v v' : Json}
    (hv : Json.SiblingNarrows A B ms (k, v) (k, v')) {cs cs' : List Coverage}
    (hcs : Gives A.linkage ctx (commonCoverage kind (prepareMembers ms) k (prepare v)) cs)
    (hcs' : Gives B.linkage ctx'
      (commonCoverage kind (prepareMembers (core ++ extra)) k (prepare v')) cs') :
    CoveragesNarrow A B cs cs' := by
  unfold commonCoverage at hcs hcs'
  split at hcs'
  · exact narrows_referenceCoverage hCtx (by simp [Json.referenceKeywords]) hv hcs hcs'
  · exact narrows_referenceCoverage hCtx (by simp [Json.referenceKeywords]) hv hcs hcs'
  · exact narrows_referenceCoverage hCtx (by simp [Json.referenceKeywords]) hv hcs hcs'
  · exact narrows_conditionCoverage h hCtx hv hcs hcs'
  · exact narrows_combinedCoverage hCtx (.inl rfl) hv.value hcs hcs'
  · exact narrows_combinedCoverage hCtx (.inr rfl) hv.value hcs hcs'
  · exact narrows_combinedCoverage hCtx (.inl rfl) hv.value hcs hcs'
  · obtain ⟨hEq, hBack⟩ := hv.agrees rfl
    obtain rfl : v' = v := hEq
    exact narrows_combinedCoverage_of_agrees hCtx _ hv.value hBack hcs hcs'
  · obtain ⟨hEq, hBack⟩ := hv.agrees rfl
    obtain rfl : v' = v := hEq
    exact narrows_combinedCoverage_of_agrees hCtx _ hv.value hBack hcs hcs'
  · exact .of_nil cs hcs'

/-! ## Keywords of objects -/

theorem narrows_validCoverage (hCtx : ctx.Alike ctx') {v v' : Json} (hv : v.NarrowsIn A B v')
    {cs cs' : List Coverage}
    (hcs : Gives A.linkage ctx (do return [.valid (← (prepare v).schema)]) cs)
    (hcs' : Gives B.linkage ctx' (do return [.valid (← (prepare v').schema)]) cs') :
    CoveragesNarrow A B cs cs' := by
  simp only [gives_bind, gives_pure] at hcs hcs'
  obtain ⟨r, hr, rfl⟩ := hcs
  obtain ⟨r', hr', rfl⟩ := hcs'
  exact .single (Rule.narrowsCoverage_valid (hv.rule hCtx hr hr'))

theorem patterns_eq {ms ms' : List (String × Json)} {ps ps' : List Pattern}
    (h : List.Forall₂ (fun m m' => m.1 = m'.1 ∧ m.2.NarrowsIn A B m'.2) ms ms')
    (hps : Gives A.linkage ctx
      ((prepareMembers ms).mapM fun (name, _) => Compile.pattern name) ps)
    (hps' : Gives B.linkage ctx'
      ((prepareMembers ms').mapM fun (name, _) => Compile.pattern name) ps') : ps' = ps := by
  rw [prepareMembers_eq, gives_mapM, List.forall₂_map_left_iff] at hps hps'
  have hEach : List.Forall₂ Eq ps ps' := by
    refine forall₂_results ?_ h hps hps'
    rintro ⟨name, v⟩ ⟨name', v'⟩ p p' ⟨hName, -⟩ hp hp'
    cases hName
    exact Option.some.inj ((gives_pattern.mp hp).symm.trans (gives_pattern.mp hp'))
  exact (List.forall₂_eq_eq_eq ▸ hEach : ps = ps').symm

theorem filter_prepareMembers (ms : List (String × Json)) :
    (prepareMembers ms).filter (fun m => m.2.isObject) =
      prepareMembers (ms.filter fun m => m.2.members?.isSome) := by
  rw [prepareMembers_eq, prepareMembers_eq, List.filter_map]
  simp [Function.comp_def, isObject]

theorem narrows_memberCoverage (hCtx : ctx.Alike ctx') {k : String} {v v' : Json}
    (hv : v.KeywordNarrows A B (holdsMap k) v') {cs cs' : List Coverage}
    (hcs : Gives A.linkage ctx (memberCoverage k (prepare v)) cs)
    (hcs' : Gives B.linkage ctx' (memberCoverage k (prepare v')) cs') :
    CoveragesNarrow A B cs cs' := by
  unfold memberCoverage at hcs hcs'
  split at hcs'
  · rw [isObject_eq hv.kindred] at hcs'
    split at hcs'
    next hObject =>
      rw [if_pos hObject] at hcs
      rw [members_prepare] at hcs hcs'
      simp only [gives_bind, gives_pure] at hcs hcs'
      obtain ⟨ds, hds, rfl⟩ := hcs
      obtain ⟨ds', hds', rfl⟩ := hcs'
      exact .single (Rule.narrowsCoverage_declared (narrows_named (f := fun _ p => p.schema)
        hv.named (fun hw hr hr' => hw.rule hCtx hr hr') hds hds'))
    next =>
      exact .of_nil cs hcs'
  · rw [members_prepare] at hcs hcs'
    simp only [gives_bind, gives_pure] at hcs hcs'
    obtain ⟨ps, hps, rfl⟩ := hcs
    obtain ⟨ps', hps', rfl⟩ := hcs'
    rw [patterns_eq hv.named hps hps']
    exact .single (Rule.narrowsCoverage_matching ps)
  · exact narrows_validCoverage hCtx (hv.own rfl) hcs hcs'
  · exact narrows_validCoverage hCtx (hv.own rfl) hcs hcs'
  · rw [members_prepare, filter_prepareMembers] at hcs hcs'
    simp only [gives_bind, gives_pure] at hcs hcs'
    obtain ⟨ds, hds, rfl⟩ := hcs
    obtain ⟨ds', hds', rfl⟩ := hcs'
    have hObjects := List.rel_filter (p := fun m => m.2.members?.isSome)
      (q := fun m => m.2.members?.isSome) (fun m m' hm => by simp [hm.2.kindred.isObject_eq])
      hv.named
    exact .single (Rule.narrowsCoverage_dependent (narrows_named
      (f := fun _ p => p.coverage .members) hObjects
      (fun hw hc hc' => hw.coverage hCtx hc hc') hds hds'))
  · exact .of_nil cs hcs'

/-! ## Keywords of arrays -/

theorem narrows_itemCoverage (h : KeywordPairs (Json.SiblingNarrows A B ms) ms core extra)
    (hCtx : ctx.Alike ctx') {d : Dialect} {k : String} {v v' : Json}
    (hv : v.KeywordNarrows A B (holdsMap k) v') {cs cs' : List Coverage}
    (hcs : Gives A.linkage ctx (itemCoverage d (prepareMembers ms) k (prepare v)) cs)
    (hcs' : Gives B.linkage ctx'
      (itemCoverage d (prepareMembers (core ++ extra)) k (prepare v')) cs') :
    CoveragesNarrow A B cs cs' := by
  unfold itemCoverage at hcs hcs'
  rw [prepare_value] at hcs hcs'
  rw [find?_isNone_eq h (.inl (by simp))] at hcs'
  have hKindred := hv.kindred
  split at hcs'
  · cases hKindred with
    | scalar hItems => cases hItems
    | array hLength =>
      change Gives A.linkage ctx (if _ then _ else _) cs at hcs
      split at hcs
      next hShort =>
        rw [if_pos hShort] at hcs'
        rw [← gives_pure.mp hcs, ← gives_pure.mp hcs', hLength]
        exact .single (Rule.narrowsCoverage_upTo _)
      next hLong =>
        rw [if_neg hLong] at hcs'
        rw [← gives_pure.mp hcs, ← gives_pure.mp hcs']
        exact .single (Rule.narrowsCoverage_everything _)
  next hOther =>
    cases hKindred with
    | scalar hItems =>
      cases v with
      | array vs => cases hItems
      | _ =>
        rw [← gives_pure.mp hcs, ← gives_pure.mp hcs']
        exact .single (Rule.narrowsCoverage_everything _)
    | @array vs vs' => exact absurd rfl (hOther vs')
    | object =>
      rw [← gives_pure.mp hcs, ← gives_pure.mp hcs']
      exact .single (Rule.narrowsCoverage_everything _)
  · cases hKindred with
    | scalar hItems => cases hItems
    | array hLength =>
      change Gives A.linkage ctx (if _ then _ else _) cs at hcs
      split at hcs
      next hNew =>
        rw [if_pos hNew] at hcs'
        rw [← gives_pure.mp hcs, ← gives_pure.mp hcs', hLength]
        exact .single (Rule.narrowsCoverage_upTo _)
      next hOld =>
        rw [if_neg hOld] at hcs'
        exact .of_nil cs hcs'
  · exact narrows_validCoverage hCtx (hv.own rfl) hcs hcs'
  · exact narrows_validCoverage hCtx (hv.own rfl) hcs hcs'
  · exact .of_nil cs hcs'

/-! ## Schemas -/

theorem narrows_keywordCoverage (h : KeywordPairs (Json.SiblingNarrows A B ms) ms core extra)
    (hCtx : ctx.Alike ctx') {kind : PartKind} {k : String} {v v' : Json}
    (hv : Json.SiblingNarrows A B ms (k, v) (k, v')) {cs cs' : List Coverage}
    (hcs : Gives A.linkage ctx (keywordCoverage kind (prepareMembers ms) k (prepare v)) cs)
    (hcs' : Gives B.linkage ctx'
      (keywordCoverage kind (prepareMembers (core ++ extra)) k (prepare v')) cs') :
    CoveragesNarrow A B cs cs' := by
  unfold keywordCoverage at hcs hcs'
  simp only [gives_bind, gives_read, exists_eq_left'] at hcs hcs'
  obtain ⟨common, hCommon, hcs⟩ := hcs
  obtain ⟨common', hCommon', hcs'⟩ := hcs'
  have hNarrows := narrows_commonCoverage h hCtx hv hCommon hCommon'
  cases kind with
  | members =>
    simp only [gives_bind, gives_pure] at hcs hcs'
    obtain ⟨own, hOwn, rfl⟩ := hcs
    obtain ⟨own', hOwn', rfl⟩ := hcs'
    exact Rule.narrowsCoverage_append hNarrows (narrows_memberCoverage hCtx hv.value hOwn hOwn')
  | items =>
    simp only [gives_bind, gives_pure, hCtx.dialect] at hcs hcs'
    obtain ⟨own, hOwn, rfl⟩ := hcs
    obtain ⟨own', hOwn', rfl⟩ := hcs'
    exact Rule.narrowsCoverage_append hNarrows (narrows_itemCoverage h hCtx hv.value hOwn hOwn')

/-- The member that closes a schema looks at no member that is valid. -/
theorem closing_coverage {kind : PartKind} {siblings : Siblings} {cs' : List Coverage}
    (hcs' : Gives B.linkage ctx'
      (keywordCoverage kind siblings "additionalProperties" (prepare (.bool false))) cs') :
    CoveragesNarrow A B [] cs' := by
  unfold keywordCoverage at hcs'
  simp only [gives_bind, gives_read, exists_eq_left'] at hcs'
  obtain ⟨common', hCommon', hcs'⟩ := hcs'
  obtain rfl : [] = common' := hCommon'
  cases kind with
  | members =>
    simp only [gives_bind, gives_pure] at hcs'
    obtain ⟨own', hOwn', rfl⟩ := hcs'
    obtain ⟨r', hReject, hOwn'⟩ := gives_bind.mp hOwn'
    obtain rfl : Rule.reject = r' := hReject
    obtain rfl : [Coverage.valid .reject] = own' := hOwn'
    intro v s x hx
    simp [Place.fails] at hx
  | items =>
    simp only [gives_bind, gives_pure] at hcs'
    obtain ⟨own', hOwn', rfl⟩ := hcs'
    obtain rfl : [] = own' := hOwn'
    exact .nil _

theorem forall₂_append_left {α β : Type} {R : α → β → Prop} {as as' : List α} {bs : List β}
    (h : List.Forall₂ R (as ++ as') bs) :
    ∃ cs cs', bs = cs ++ cs' ∧ List.Forall₂ R as cs ∧ List.Forall₂ R as' cs' := by
  induction as generalizing bs with
  | nil => exact ⟨[], bs, rfl, .nil, h⟩
  | cons a as ih =>
    rw [List.cons_append] at h
    rcases h with _ | ⟨hb, hRest⟩
    obtain ⟨cs, cs', rfl, hcs, hcs'⟩ := ih hRest
    exact ⟨_ :: cs, cs', rfl, .cons hb hcs, hcs'⟩

theorem gives_coverageOf {W : Linkage} {kind : PartKind} {c : Coverage} :
    Gives W ctx (coverageOf (prepareMembers ms) kind) c ↔ ∃ css, List.Forall₂
      (fun m cs => Gives W ctx (keywordCoverage kind (prepareMembers ms) m.1 (prepare m.2)) cs)
        ms css ∧ c = .any css.flatten := by
  generalize hSiblings : prepareMembers ms = siblings
  unfold coverageOf
  rw [gives_bind]
  refine exists_congr fun css => and_congr ?_ (by rw [gives_pure, eq_comm])
  rw [← hSiblings, gives_mapM, prepareMembers_eq, List.forall₂_map_left_iff]

theorem narrows_coverageOf (h : KeywordPairs (Json.SiblingNarrows A B ms) ms core extra)
    (hCtx : ctx.Alike ctx') {kind : PartKind} {c c' : Coverage}
    (hc : Gives A.linkage ctx (coverageOf (prepareMembers ms) kind) c)
    (hc' : Gives B.linkage ctx' (coverageOf (prepareMembers (core ++ extra)) kind) c') :
    Rule.NarrowsCoverage A.follow B.follow c c' := by
  obtain ⟨css, hcss, rfl⟩ := gives_coverageOf.mp hc
  obtain ⟨css', hcss', rfl⟩ := gives_coverageOf.mp hc'
  obtain ⟨own', more', rfl, hOwn', hMore'⟩ := forall₂_append_left hcss'
  have hEach : List.Forall₂ (CoveragesNarrow A B) css own' := by
    refine forall₂_results ?_ h.each hcss hOwn'
    rintro ⟨k, v⟩ ⟨k', v'⟩ cs cs' hm hcs hcs'
    cases hm.name
    exact narrows_keywordCoverage h hCtx hm hcs hcs'
  have hExtra : CoveragesNarrow A B [] more'.flatten := by
    rcases h.closing with rfl | ⟨rfl, -⟩
    · cases hMore'
      exact .nil []
    · rcases hMore' with _ | ⟨hcs', hNil⟩
      cases hNil
      rw [List.flatten_singleton]
      exact closing_coverage hcs'
  rw [List.flatten_append, ← List.append_nil css.flatten]
  exact Rule.narrowsCoverage_append (Rule.narrowsCoverage_flatten hEach) hExtra

end

end SchemaContract.Part
