import SchemaContract.Proofs.Narrowing.Bodies
import SchemaContract.Proofs.Narrowing.Names

/-!
# Counterparts narrow

A schema and its counterpart in the closed document are compiled side by side: by induction on the
schema, the rule and the coverages of the counterpart narrow those of the schema, if its references
lead to less.
-/

namespace SchemaContract

open Closing

variable {A B : World} {stable : List (String × String)} {ok : String × String → Prop}
  {closed map : Bool} {v v' : Json}

/-- References of one kind lead to less, and the stable ones among them to the same. -/
structure World.ReferencesNarrow (A B : World) (stable : List (String × String))
    (ok : String × String → Prop) : Prop where
  forth : ∀ e, ok e → A.ReferenceNarrows B e
  back : ∀ e ∈ stable, ok e → B.ReferenceNarrows A e

theorem World.ReferencesNarrow.swap (h : A.ReferencesNarrow B stable ok) :
    B.ReferencesNarrow A stable fun e => e ∈ stable ∧ ok e :=
  ⟨fun e he => h.back e he.1 he.2, fun e _ he => h.forth e he.2⟩

/-- The counterparts of a value narrow it, in any worlds with references that narrow. -/
def Json.AlwaysNarrows (v : Json) : Prop :=
  ∀ {A B : World} {stable : List (String × String)} {ok : String × String → Prop} {closed : Bool}
    {v' : Json}, A.ReferencesNarrow B stable ok → Counterpart stable ok closed false v v' →
      v.NarrowsIn A B v'

/-- What the induction carries: the value itself, its items and its members. -/
structure Json.NarrowsThroughout (v : Json) : Prop where
  own : v.AlwaysNarrows
  items : ∀ {vs}, v = .array vs → ∀ w ∈ vs, w.AlwaysNarrows
  members : ∀ {ms}, v = .object ms → ∀ m ∈ ms, m.2.AlwaysNarrows

theorem Closing.Counterpart.keywordNarrows (hOk : A.ReferencesNarrow B stable ok)
    (ih : v.NarrowsThroughout) (h : Counterpart stable ok closed map v v') :
    v.KeywordNarrows A B map v' where
  kindred := h.kindred
  own hMap := by
    subst hMap
    exact ih.own hOk h
  items := by
    rintro vs rfl
    obtain ⟨vs', rfl, hEach⟩ := h.array
    refine ⟨vs', rfl, ?_⟩
    have hMem := (List.forall₂_and_left _ _).mpr ⟨fun w hw => hw, hEach⟩
    exact hMem.imp fun w w' hw => ih.items rfl w hw.1 hOk hw.2
  members := by
    rintro rfl ms rfl
    obtain ⟨hNames, -⟩ := Json.hasDistinctNames_object_iff.mp h.distinct
    obtain ⟨ms', rfl, hEach⟩ := h.values
    refine ⟨hNames, ms', rfl, ?_⟩
    have hMem := (List.forall₂_and_left _ _).mpr ⟨fun m hm => hm, hEach⟩
    exact hMem.imp fun m m' hm => ⟨hm.2.1, ih.members rfl m hm.1 hOk hm.2.2⟩

theorem Closing.Counterpart.siblings (hOk : A.ReferencesNarrow B stable ok)
    {ms : List (String × Json)} (ih : ∀ m ∈ ms, m.2.NarrowsThroughout)
    (h : Counterpart stable ok closed false (.object ms) v') :
    ∃ core extra, v' = .object (core ++ extra) ∧
      KeywordPairs (Json.SiblingNarrows A B ms) ms core extra := by
  obtain ⟨core, extra, rfl, hKeywords⟩ := h.keywords
  refine ⟨core, extra, rfl, hKeywords.imp (fun _ _ hm => hm.name) fun m hm m' hPair => ?_⟩
  refine ⟨hPair.name, hPair.value.keywordNarrows hOk (ih m hm), fun hInverts => ?_,
    hPair.eq_of_other, fun e he => hOk.forth e (hPair.reference e he)⟩
  -- Below an inverting keyword nothing changes, and references lead to the same.
  obtain ⟨hEq, hStable⟩ := hPair.settled hInverts
  have hSame := hPair.value.open_self (fun e => e ∈ stable ∧ ok e)
    fun e he hKind => ⟨hStable e he, hKind⟩
  exact ⟨hEq, hSame.keywordNarrows hOk.swap (ih m hm)⟩

theorem Json.alwaysNarrows_object {ms : List (String × Json)}
    (ih : ∀ m ∈ ms, m.2.NarrowsThroughout) : (Json.object ms).AlwaysNarrows := by
  intro A B stable ok closed v' hOk h
  obtain ⟨core, extra, rfl, hPairs⟩ := h.siblings hOk ih
  refine ⟨.object ms (core ++ extra), ?_, ?_⟩
  · intro ctx ctx' r r' hCtx hr hr'
    change Compile.Gives _ _ (Part.entering _ _ _) _ at hr hr'
    unfold Part.entering at hr hr'
    simp only [Compile.gives_bind, Compile.gives_read, exists_eq_left', Compile.gives_orRefuse,
      Compile.gives_withReader] at hr hr'
    rw [h.inside_eq, h.enter_eq, hCtx.dialect, hCtx.base] at hr'
    obtain ⟨base, hBase, hr⟩ := hr
    obtain ⟨base', hBase', hr'⟩ := hr'
    cases hBase.symm.trans hBase'
    refine Part.narrows_body hPairs ?_ hr hr'
    exact ⟨hCtx.formats, rfl, rfl, hCtx.scope⟩
  · intro kind ctx ctx' c c' hCtx hc hc'
    exact Part.narrows_coverageOf hPairs hCtx hc hc'

theorem Json.alwaysNarrows_array (vs : List Json) : (Json.array vs).AlwaysNarrows := by
  intro A B stable ok closed v' hOk h
  obtain ⟨vs', rfl, hEach⟩ := h.array
  refine ⟨h.kindred, fun hCtx hr => ?_, fun hCtx hc hc' => ?_⟩
  · exact absurd hr Compile.not_gives_refuse
  · rw [← Compile.gives_pure.mp hc']
    exact Rule.narrowsCoverage_nil _

theorem Json.alwaysNarrows_scalar {v : Json} (hItems : v.items? = none)
    (hMembers : v.members? = none) : v.AlwaysNarrows := by
  intro A B stable ok closed v' hOk h
  rw [h.scalar hItems hMembers]
  have hCoverage : ∀ kind, (Part.prepare v).coverage kind = pure (.any []) := by
    cases v with
    | object ms => cases hMembers
    | _ => exact fun _ => rfl
  refine ⟨.scalar hItems hMembers, fun {ctx ctx' r r'} hCtx hr hr' => ?_,
    fun {kind ctx ctx' c c'} hCtx hc hc' => ?_⟩
  · cases v with
    | array vs => cases hItems
    | object ms => cases hMembers
    | bool b =>
      rw [← Compile.gives_pure.mp hr, ← Compile.gives_pure.mp hr']
      cases b with
      | true => exact Rule.narrows_accept _
      | false => exact Rule.narrows_reject _
    | _ => exact absurd hr Compile.not_gives_refuse
  · rw [hCoverage kind] at hc'
    rw [← Compile.gives_pure.mp hc']
    exact Rule.narrowsCoverage_nil _

theorem Json.narrowsThroughout (v : Json) : v.NarrowsThroughout := by
  induction v using Json.inductionOn with
  | scalar v hItems hMembers =>
    refine ⟨Json.alwaysNarrows_scalar hItems hMembers, ?_, ?_⟩
    · rintro vs rfl
      cases hItems
    · rintro ms rfl
      cases hMembers
  | array vs ih =>
    refine ⟨Json.alwaysNarrows_array vs, ?_, nofun⟩
    rintro _ ⟨⟩ w hw
    exact (ih w hw).own
  | object ms ih =>
    refine ⟨Json.alwaysNarrows_object ih, nofun, ?_⟩
    rintro _ ⟨⟩ m hm
    exact (ih m hm).own

theorem Closing.Counterpart.narrowsIn (hOk : A.ReferencesNarrow B stable ok)
    (h : Counterpart stable ok closed false v v') : v.NarrowsIn A B v' :=
  v.narrowsThroughout.own hOk h

end SchemaContract
