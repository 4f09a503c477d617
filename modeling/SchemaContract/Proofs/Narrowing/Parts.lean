import SchemaContract.Proofs.Narrowing.Counterparts
import SchemaContract.Proofs.Narrowing.Coverages
import SchemaContract.Proofs.Plans

/-!
# Parts of narrower schemas

Two documents are compiled side by side, each with its own table and its own way to follow
references. One value narrows another if the rule and the coverages that it compiles to do, whatever
the numbers of its targets are; this goes on from the parts of a keyword to what the keyword takes
from them.
-/

namespace SchemaContract

/-- The contexts differ in nothing but the place that failures are told from. -/
structure Context.Alike (ctx ctx' : Context) : Prop where
  formats : ctx'.formats = ctx.formats
  dialect : ctx'.dialect = ctx.dialect
  base : ctx'.base = ctx.base
  scope : ctx'.scope = ctx.scope

theorem Context.Alike.symm {ctx ctx' : Context} (h : ctx.Alike ctx') : ctx'.Alike ctx :=
  ⟨h.formats.symm, h.dialect.symm, h.base.symm, h.scope.symm⟩

theorem Context.Alike.relocate {ctx ctx' : Context} (h : ctx.Alike ctx') (a b : List Step) :
    Context.Alike { ctx with location := a } { ctx' with location := b } :=
  ⟨h.formats, h.dialect, h.base, h.scope⟩

/-- A document that is being evaluated: the linking of its program, and the way its references are
followed. -/
structure World where
  linkage : Linkage
  follow : Follow

/-- The second value, compiled in the second world, narrows the first. -/
structure Json.NarrowsIn (A B : World) (v v' : Json) : Prop where
  kindred : v.Kindred v'
  rule : ∀ {ctx ctx' r r'}, ctx.Alike ctx' →
    Compile.Gives A.linkage ctx (Part.prepare v).schema r →
    Compile.Gives B.linkage ctx' (Part.prepare v').schema r' →
      Rule.Narrows A.follow B.follow r r'
  coverage : ∀ {kind ctx ctx' c c'}, ctx.Alike ctx' →
    Compile.Gives A.linkage ctx ((Part.prepare v).coverage kind) c →
    Compile.Gives B.linkage ctx' ((Part.prepare v').coverage kind) c' →
      Rule.NarrowsCoverage A.follow B.follow c c'

/-- What the counterpart of a keyword's value narrows: the value as a schema, its items, and its
members where they have names of their own. -/
structure Json.KeywordNarrows (A B : World) (map : Bool) (v v' : Json) : Prop where
  kindred : v.Kindred v'
  own : map = false → v.NarrowsIn A B v'
  items : ∀ {vs}, v = .array vs →
    ∃ vs', v' = .array vs' ∧ List.Forall₂ (Json.NarrowsIn A B) vs vs'
  members : map = true → ∀ {ms}, v = .object ms →
    (ms.map (·.1)).Nodup ∧ ∃ ms', v' = .object ms' ∧
      List.Forall₂ (fun m m' => m.1 = m'.1 ∧ m.2.NarrowsIn A B m'.2) ms ms'

theorem Json.KeywordNarrows.named {A B : World} {v v' : Json} (h : v.KeywordNarrows A B true v') :
    List.Forall₂ (fun m m' => m.1 = m'.1 ∧ m.2.NarrowsIn A B m'.2) (v.members?.getD [])
      (v'.members?.getD []) := by
  cases v with
  | object ms =>
    obtain ⟨-, ms', rfl, hEach⟩ := h.members rfl rfl
    exact hEach
  | _ =>
    have hObject := h.kindred.isObject_eq
    cases v' with
    | object ms' => cases hObject
    | _ => exact .nil

theorem Json.KeywordNarrows.listed {A B : World} {map : Bool} {v v' : Json}
    (h : v.KeywordNarrows A B map v') :
    List.Forall₂ (Json.NarrowsIn A B) (v.items?.getD []) (v'.items?.getD []) := by
  cases h.kindred with
  | scalar hItems hMembers =>
    rw [hItems]
    exact .nil
  | array =>
    obtain ⟨vs', hEq, hEach⟩ := h.items rfl
    cases hEq
    exact hEach
  | object => exact .nil

/-- The reference leads to less in the second world. -/
structure World.ReferenceNarrows (A B : World) (e : String × String) : Prop where
  rule : ∀ {ctx ctx' i answer'}, ctx.Alike ctx' →
    A.linkage.RuleAnswer ⟨e.1, e.2, ctx⟩ (some i) →
    B.linkage.RuleAnswer ⟨e.1, e.2, ctx'⟩ answer' →
      ∃ i', answer' = some i' ∧
        ∀ p v, B.follow.failures i' p v = [] → A.follow.failures i p v = []
  coverage : ∀ {kind ctx ctx' answer i'}, ctx.Alike ctx' →
    A.linkage.CoverageAnswer ⟨e.1, e.2, ctx⟩ kind answer →
    B.linkage.CoverageAnswer ⟨e.1, e.2, ctx'⟩ kind (some i') →
      ∃ i, answer = some i ∧
        ∀ v s x, B.follow.covers i' v s x = true → A.follow.covers i v s x = true

/-- A keyword of a schema and the keyword of its counterpart. Below an inverting keyword the value
is the same, and narrows itself both ways. -/
structure Json.SiblingNarrows (A B : World) (siblings : List (String × Json))
    (m m' : String × Json) : Prop where
  name : m.1 = m'.1
  value : m.2.KeywordNarrows A B (Closing.holdsMap m.1) m'.2
  agrees : Closing.inverts siblings m.1 = true →
    m'.2 = m.2 ∧ m.2.KeywordNarrows B A (Closing.holdsMap m.1) m.2
  other : Closing.role m.1 = .other → m'.2 = m.2
  reference : ∀ e, Json.reference? m.1 m.2 = some e → A.ReferenceNarrows B e

theorem Json.SiblingNarrows.back {A B : World} {siblings : List (String × Json)} {k : String}
    {v v' : Json} (h : SiblingNarrows A B siblings (k, v) (k, v'))
    (hInverts : Closing.inverts siblings k = true) :
    v'.KeywordNarrows B A (Closing.holdsMap k) v := by
  obtain ⟨hEq, hBack⟩ := h.agrees hInverts
  obtain rfl : v' = v := hEq
  exact hBack

namespace Part

open Compile

theorem prepareMembers_eq (ms : List (String × Json)) :
    prepareMembers ms = ms.map fun m => (m.1, prepare m.2) := by
  induction ms with
  | nil => rfl
  | cons m ms ih => rw [prepareMembers, ih, List.map_cons]

theorem prepareItems_eq (vs : List Json) : prepareItems vs = vs.map prepare := by
  induction vs with
  | nil => rfl
  | cons v vs ih => rw [prepareItems, ih, List.map_cons]

@[simp] theorem prepare_value (v : Json) : (prepare v).value = v := by
  cases v <;> rfl

theorem members_prepare (v : Json) : (prepare v).members = prepareMembers (v.members?.getD []) := by
  cases v <;> rfl

theorem items_prepare (v : Json) : (prepare v).items = prepareItems (v.items?.getD []) := by
  cases v <;> rfl

theorem find?_prepareMembers (ms : List (String × Json)) (k : String) :
    find? (prepareMembers ms) k = (Json.lookup k ms).map prepare := by
  rw [prepareMembers_eq, find?, Json.lookup, List.find?_map]
  simp [Function.comp_def]

@[simp] theorem valueOf?_prepareMembers (ms : List (String × Json)) (k : String) :
    valueOf? (prepareMembers ms) k = Json.lookup k ms := by
  rw [valueOf?, find?_prepareMembers]
  cases Json.lookup k ms <;> simp

@[simp] theorem valuesOf_prepareMembers (ms : List (String × Json)) :
    valuesOf (prepareMembers ms) = ms := by
  simp [valuesOf, prepareMembers_eq, Function.comp_def]

theorem forall₂_results {α α' β β' : Type} {R : α → α' → Prop} {P : α → β → Prop}
    {P' : α' → β' → Prop} {S : β → β' → Prop}
    (hStep : ∀ a a' b b', R a a' → P a b → P' a' b' → S b b') {as : List α} {as' : List α'}
    {bs : List β} {bs' : List β'} (h : List.Forall₂ R as as') (hbs : List.Forall₂ P as bs)
    (hbs' : List.Forall₂ P' as' bs') : List.Forall₂ S bs bs' := by
  induction h generalizing bs bs' with
  | nil =>
    cases hbs
    cases hbs'
    exact .nil
  | cons hR _ ih =>
    rcases hbs with _ | ⟨hb, hbs⟩
    rcases hbs' with _ | ⟨hb', hbs'⟩
    exact .cons (hStep _ _ _ _ hR hb hb') (ih hbs hbs')

variable {A B : World} {ctx ctx' : Context}

/-! ## What a keyword takes from its value -/

theorem narrows_under {steps : List Step} {v v' : Json} {r r' : Rule} (h : v.NarrowsIn A B v')
    (hCtx : ctx.Alike ctx') (hr : Gives A.linkage ctx (under steps (prepare v).schema) r)
    (hr' : Gives B.linkage ctx' (under steps (prepare v').schema) r') :
    Rule.Narrows A.follow B.follow r r' := by
  obtain ⟨s, hs, rfl⟩ := gives_under.mp hr
  obtain ⟨s', hs', rfl⟩ := gives_under.mp hr'
  exact Rule.narrows_within steps (h.rule (hCtx.relocate _ _) hs hs')

theorem narrows_single {k : String} {v v' : Json} {r r' : Rule} (h : v.NarrowsIn A B v')
    (hCtx : ctx.Alike ctx') (hr : Gives A.linkage ctx ((prepare v).single k) r)
    (hr' : Gives B.linkage ctx' ((prepare v').single k) r') :
    Rule.Narrows A.follow B.follow r r' :=
  narrows_under h hCtx hr hr'

theorem gives_named {W : Linkage} {α : Type} {f : String → Part → Compile α}
    {ms : List (String × Json)} {as : List (String × α)} :
    Gives W ctx ((prepareMembers ms).mapM fun (name, p) => return (name, ← f name p)) as ↔
      List.Forall₂ (fun m a => m.1 = a.1 ∧ Gives W ctx (f m.1 (prepare m.2)) a.2) ms as := by
  rw [gives_mapM, prepareMembers_eq, List.forall₂_map_left_iff]
  refine iff_of_eq (congrArg (fun R => List.Forall₂ R ms as) ?_)
  funext m a
  obtain ⟨name, a⟩ := a
  simp only [gives_bind, gives_pure, Prod.mk.injEq, eq_iff_iff]
  constructor
  · rintro ⟨b, hb, hName, rfl⟩
    exact ⟨hName, hb⟩
  · rintro ⟨hName, ha⟩
    exact ⟨a, ha, hName, rfl⟩

theorem narrows_named {α : Type} {S : α → α → Prop} {f : String → Part → Compile α}
    {ms ms' : List (String × Json)} {as as' : List (String × α)}
    (h : List.Forall₂ (fun m m' => m.1 = m'.1 ∧ m.2.NarrowsIn A B m'.2) ms ms')
    (hStep : ∀ {name v v' a a'}, v.NarrowsIn A B v' → Gives A.linkage ctx (f name (prepare v)) a →
      Gives B.linkage ctx' (f name (prepare v')) a' → S a a')
    (has : Gives A.linkage ctx
      ((prepareMembers ms).mapM fun (name, p) => return (name, ← f name p)) as)
    (has' : Gives B.linkage ctx'
      ((prepareMembers ms').mapM fun (name, p) => return (name, ← f name p)) as') :
    List.Forall₂ (fun a a' => a.1 = a'.1 ∧ S a.2 a'.2) as as' := by
  refine forall₂_results ?_ h (gives_named.mp has) (gives_named.mp has')
  rintro ⟨name, v⟩ ⟨name', v'⟩ a a' ⟨hName, hv⟩ ⟨ha, hGives⟩ ⟨ha', hGives'⟩
  cases hName
  exact ⟨ha.symm.trans ha', hStep hv hGives hGives'⟩

theorem names_declared {W : Linkage} {k : String} {ms : List (String × Json)}
    {ds : List (String × Rule)} (h : Gives W ctx ((prepare (.object ms)).declared k) ds) :
    ds.map (·.1) = ms.map (·.1) := by
  have hEach := gives_named (f := fun name p => under [.member k, .member name] p.schema).mp h
  clear h
  induction hEach with
  | nil => rfl
  | cons hd _ ih => rw [List.map_cons, List.map_cons, ih, hd.1]

theorem narrows_declared {k : String} {v v' : Json} {ds ds' : List (String × Rule)}
    (hCtx : ctx.Alike ctx') (hds : Gives A.linkage ctx ((prepare v).declared k) ds)
    (hds' : Gives B.linkage ctx' ((prepare v').declared k) ds')
    (h : List.Forall₂ (fun m m' => m.1 = m'.1 ∧ m.2.NarrowsIn A B m'.2) (v.members?.getD [])
      (v'.members?.getD [])) : Rule.NarrowsEach A.follow B.follow ds ds' := by
  rw [declared, members_prepare] at hds hds'
  exact narrows_named (f := fun name p => under [.member k, .member name] p.schema) h
    (fun hw hr hr' => narrows_under hw hCtx hr hr') hds hds'

theorem gives_patterned {W : Linkage} {v : Json} {ps : List (Pattern × Rule)} :
    Gives W ctx (prepare v).patterned ps ↔
      List.Forall₂ (fun m q => Pattern.ofText? m.1 = some q.1 ∧
        Gives W ctx (under [.member "patternProperties", .member m.1] (prepare m.2).schema) q.2)
        (v.members?.getD []) ps := by
  rw [patterned, members_prepare, gives_mapM, prepareMembers_eq, List.forall₂_map_left_iff]
  refine iff_of_eq (congrArg (fun R => List.Forall₂ R (v.members?.getD []) ps) ?_)
  funext m q
  obtain ⟨pattern, r⟩ := q
  simp only [inside, gives_bind, gives_withReader, gives_pattern, gives_pure, Prod.mk.injEq,
    eq_iff_iff]
  constructor
  · rintro ⟨pattern, hPattern, s, hs, rfl, rfl⟩
    exact ⟨hPattern, hs⟩
  · rintro ⟨hPattern, hs⟩
    exact ⟨pattern, hPattern, r, hs, rfl, rfl⟩

theorem narrows_patterned {v v' : Json} {ps ps' : List (Pattern × Rule)} (hCtx : ctx.Alike ctx')
    (hps : Gives A.linkage ctx (prepare v).patterned ps)
    (hps' : Gives B.linkage ctx' (prepare v').patterned ps')
    (h : List.Forall₂ (fun m m' => m.1 = m'.1 ∧ m.2.NarrowsIn A B m'.2) (v.members?.getD [])
      (v'.members?.getD [])) : Rule.NarrowsEach A.follow B.follow ps ps' := by
  refine forall₂_results ?_ h (gives_patterned.mp hps) (gives_patterned.mp hps')
  rintro ⟨name, w⟩ ⟨name', w'⟩ q q' ⟨hName, hw⟩ ⟨hq, hr⟩ ⟨hq', hr'⟩
  cases hName
  exact ⟨Option.some.inj (hq.symm.trans hq'), narrows_under hw hCtx hr hr'⟩

theorem gives_listed {W : Linkage} {k : String} {v : Json} {rs : List Rule} :
    Gives W ctx ((prepare v).listed k) rs ↔
      List.Forall₂ (fun e r => Gives W ctx (under [.member k, .index e.2] (prepare e.1).schema) r)
        (v.items?.getD []).zipIdx rs := by
  rw [listed, gives_mapM, items_prepare, prepareItems_eq, List.zipIdx_map,
    List.forall₂_map_left_iff]
  rfl

theorem forall₂_zipIdx {α β : Type} {R : α → β → Prop} {as : List α} {bs : List β}
    (h : List.Forall₂ R as bs) (n : Nat) :
    List.Forall₂ (fun a b : _ × Nat => a.2 = b.2 ∧ R a.1 b.1) (as.zipIdx n) (bs.zipIdx n) := by
  induction h generalizing n with
  | nil => exact .nil
  | cons hR _ ih =>
    rw [List.zipIdx_cons, List.zipIdx_cons]
    exact .cons ⟨rfl, hR⟩ (ih (n + 1))

theorem narrows_listed {k : String} {map : Bool} {v v' : Json} (hv : v.KeywordNarrows A B map v')
    (hCtx : ctx.Alike ctx') {rs rs' : List Rule}
    (hrs : Gives A.linkage ctx ((prepare v).listed k) rs)
    (hrs' : Gives B.linkage ctx' ((prepare v').listed k) rs') :
    List.Forall₂ (Rule.Narrows A.follow B.follow) rs rs' := by
  rw [gives_listed] at hrs hrs'
  refine forall₂_results ?_ (forall₂_zipIdx hv.listed 0) hrs hrs'
  rintro ⟨w, i⟩ ⟨w', i'⟩ r r' ⟨hIndex, hw⟩ hr hr'
  cases hIndex
  exact narrows_under hw hCtx hr hr'

end Part

end SchemaContract
