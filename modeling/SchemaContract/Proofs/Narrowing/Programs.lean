import SchemaContract.Proofs.Linking
import SchemaContract.Proofs.Narrowing.Libraries
import SchemaContract.Proofs.Narrowing.Simulation

/-!
# Programs side by side

Two programs that were compiled from a document and its closed form follow references for the same
number of steps. By induction on that number, what a reference leads to in the closed document
narrows what it leads to in the other.
-/

namespace SchemaContract

open Closing

variable {stable : List (String × String)} {ok : String × String → Prop}

/-! ## What a reference leads to -/

namespace Library

variable {lib lib' : Library} {request : Request} {t : Target}

theorem leadsTo_alike {ctx ctx' : Context} (h : ctx.Alike ctx') (keyword text : String) :
    lib.leadsTo ⟨keyword, text, ctx'⟩ = lib.leadsTo ⟨keyword, text, ctx⟩ := by
  unfold leadsTo
  dsimp only
  rw [h.dialect, h.base, h.scope]

/-- Whether a keyword counts, and how it is followed, does not depend on the library. -/
theorem leadsTo_cases (request : Request) :
    (∀ lib : Library, lib.leadsTo request = .ok none) ∨
      (∀ lib : Library, lib.leadsTo request =
        (lib.target request.context.base request.context.scope request.reference.toList).map some) ∨
      ∀ lib : Library, lib.leadsTo request =
        (lib.recursiveTarget request.context.base request.context.scope).map some := by
  unfold leadsTo
  dsimp only
  split
  · exact .inr (.inl fun lib => rfl)
  · split
    · exact .inr (.inl fun lib => rfl)
    · exact .inl fun lib => rfl
  · split
    · exact .inr (.inr fun lib => rfl)
    · exact .inl fun lib => rfl
  · exact .inl fun lib => rfl

theorem map_some_eq {found : Except ReferenceFault Target} :
    found.map some = .ok (some t) ↔ found = .ok t := by
  cases found <;> simp [Except.map]

theorem map_some_ne {found : Except ReferenceFault Target} : found.map some ≠ .ok none := by
  cases found <;> simp [Except.map]

theorem holds_of_leadsTo (h : lib.leadsTo request = .ok (some t)) : lib.Holds t := by
  rcases leadsTo_cases request with hNone | hTarget | hRecursive
  · rw [hNone] at h
    cases h
  · rw [hTarget, map_some_eq] at h
    exact holds_target h
  · rw [hRecursive, map_some_eq] at h
    exact holds_recursiveTarget h

theorem leadsTo_rel (hLib : lib.Beside stable ok lib') (h : lib.leadsTo request = .ok (some t))
    (hMap : lib.isMapAt t.document t.part = false) :
    ∃ t', lib'.leadsTo request = .ok (some t') ∧ t.Beside stable ok t' := by
  rcases leadsTo_cases request with hNone | hTarget | hRecursive
  · rw [hNone] at h
    cases h
  · rw [hTarget, map_some_eq] at h
    obtain ⟨t', ht', hBeside⟩ := target_rel hLib h hMap
    exact ⟨t', by rw [hTarget, map_some_eq, ht'], hBeside⟩
  · rw [hRecursive, map_some_eq] at h
    obtain ⟨t', ht', hBeside⟩ := recursiveTarget_rel hLib h hMap
    exact ⟨t', by rw [hRecursive, map_some_eq, ht'], hBeside⟩

theorem leadsTo_none (h : lib.leadsTo request = .ok none) : lib'.leadsTo request = .ok none := by
  rcases leadsTo_cases request with hNone | hTarget | hRecursive
  · exact hNone lib'
  · exact absurd ((hTarget lib).symm.trans h) map_some_ne
  · exact absurd ((hRecursive lib).symm.trans h) map_some_ne

end Library

/-! ## Targets -/

namespace Target

variable {A B : World} {t t' : Target} {formats : Bool} {location location' : List Step}

theorem key_eq_iff : t'.key = t.key ↔
    t'.document = t.document ∧ t'.part = t.part ∧ t'.base = t.base ∧ t'.scope = t.scope := by
  simp [Target.key]

theorem context_alike (hKey : t'.key = t.key) (hDialect : t'.dialect = t.dialect) :
    (t.context formats location).Alike (t'.context formats location') := by
  obtain ⟨-, -, hBase, hScope⟩ := key_eq_iff.mp hKey
  exact ⟨rfl, hDialect, hBase, hScope⟩

theorem narrows_rule (hWorlds : A.ReferencesNarrow B stable ok) {ctx ctx' : Context}
    (hCtx : ctx.Alike ctx') (hContents : Schemas stable ok t.contents t'.contents) {r r' : Rule}
    (hr : Compile.Gives A.linkage ctx t.rule r) (hr' : Compile.Gives B.linkage ctx' t'.rule r') :
    Rule.Narrows A.follow B.follow r r' := by
  obtain ⟨closed, hContents⟩ := hContents
  unfold rule at hr hr'
  generalize t.contents = v at hContents hr
  generalize t'.contents = v' at hContents hr'
  cases v with
  | object ms =>
    obtain ⟨core, extra, rfl, hPairs⟩ :=
      hContents.siblings hWorlds fun m _ => m.2.narrowsThroughout
    exact Part.narrows_body hPairs hCtx hr hr'
  | _ =>
    have hNarrows := hContents.narrowsIn hWorlds
    have hObject := hContents.kindred.isObject_eq
    cases v' with
    | object ms' => cases hObject
    | _ => exact hNarrows.rule hCtx hr hr'

theorem narrows_coverage (hWorlds : A.ReferencesNarrow B stable ok) {ctx ctx' : Context}
    (hCtx : ctx.Alike ctx') (hContents : Schemas stable ok t.contents t'.contents) {kind : PartKind}
    {c c' : Coverage} (hc : Compile.Gives A.linkage ctx (t.coverage kind) c)
    (hc' : Compile.Gives B.linkage ctx' (t'.coverage kind) c') :
    Rule.NarrowsCoverage A.follow B.follow c c' := by
  obtain ⟨closed, hContents⟩ := hContents
  exact (hContents.narrowsIn hWorlds).coverage hCtx hc hc'

theorem repeats_eq (hContents : Schemas stable ok t.contents t'.contents) (request : Request) :
    t'.repeats request = t.repeats request := by
  have hText : ∀ u : Target, u.repeats request =
      (((u.contents.get? request.keyword).bind Json.string?).any (· == request.reference)) := by
    intro u
    unfold repeats
    cases u.contents.get? request.keyword with
    | none => rfl
    | some v => cases v <;> rfl
  obtain ⟨closed, hContents⟩ := hContents
  rw [hText, hText, hContents.get?_text_eq]

end Target

/-! ## Tables -/

/-- The references of a kind lead to schemas and not to objects of schemas, and to none that holds
the very same reference. The stable ones lead to the same schema in the other library, with stable
references alone. -/
structure Library.LeadsAlike (lib lib' : Library) (stable : List (String × String))
    (ok : String × String → Prop) : Prop where
  schema : ∀ {e ctx t}, ok e → lib.leadsTo ⟨e.1, e.2, ctx⟩ = .ok (some t) →
    lib.isMapAt t.document t.part = false
  other : ∀ {e ctx t}, ok e → lib.leadsTo ⟨e.1, e.2, ctx⟩ = .ok (some t) →
    t.repeats ⟨e.1, e.2, ctx⟩ = false
  same : ∀ {e ctx t t'}, e ∈ stable → ok e → lib.leadsTo ⟨e.1, e.2, ctx⟩ = .ok (some t) →
    lib'.leadsTo ⟨e.1, e.2, ctx⟩ = .ok (some t') →
      t'.contents = t.contents ∧ ∀ f ∈ t.contents.references, f ∈ stable

section

variable {lib lib' : Library} {T T' : Table} {formats : Bool} {fo fo' : Follow} {t t' : Target}

theorem Library.Holds.eq_of_key (h : lib.Holds t) (h' : lib.Holds t') (hKey : t'.key = t.key) :
    t'.dialect = t.dialect ∧ t'.contents = t.contents := by
  obtain ⟨hDocument, hPart, -⟩ := Target.key_eq_iff.mp hKey
  rw [Library.Holds, hDocument, hPart] at h'
  exact Prod.mk.inj (Option.some.inj (h'.symm.trans h))

theorem Target.Beside.of_key {u u' : Target} (h : t.Beside stable ok t') (hHolds : lib.Holds t)
    (hHolds' : lib'.Holds t') (hu : lib.Holds u) (hu' : lib'.Holds u') (hKey : u.key = t.key)
    (hKey' : u'.key = t'.key) : u.Beside stable ok u' := by
  obtain ⟨hDialect, hContents⟩ := hHolds.eq_of_key hu hKey
  obtain ⟨hDialect', hContents'⟩ := hHolds'.eq_of_key hu' hKey'
  refine ⟨by rw [hKey, hKey', h.key], by rw [hDialect, hDialect', h.dialect], ?_⟩
  rw [hContents, hContents']
  exact h.contents

theorem Linkage.Sound.narrows_rules (S : Linkage.Sound ⟨lib, T⟩ formats)
    (S' : Linkage.Sound ⟨lib', T'⟩ formats)
    (hWorlds : World.ReferencesNarrow ⟨⟨lib, T⟩, fo⟩ ⟨⟨lib', T'⟩, fo'⟩ stable ok)
    (hHolds : lib.Holds t) (hHolds' : lib'.Holds t') (hBeside : t.Beside stable ok t')
    {i i' : Nat} {r r' : Rule} (hr : T.rules[i]? = some (t.key, r))
    (hr' : T'.rules[i']? = some (t'.key, r')) : Rule.Narrows fo fo' r r' := by
  obtain ⟨u, location, ⟨request, hLeads⟩, hKey, hGives⟩ := S.rules i t.key r hr
  obtain ⟨u', location', ⟨request', hLeads'⟩, hKey', hGives'⟩ := S'.rules i' t'.key r' hr'
  have hPair := hBeside.of_key hHolds hHolds' (Library.holds_of_leadsTo hLeads)
    (Library.holds_of_leadsTo hLeads') hKey hKey'
  exact Target.narrows_rule hWorlds (Target.context_alike hPair.key hPair.dialect) hPair.contents
    hGives hGives'

theorem Linkage.Sound.narrows_coverages (S : Linkage.Sound ⟨lib, T⟩ formats)
    (S' : Linkage.Sound ⟨lib', T'⟩ formats)
    (hWorlds : World.ReferencesNarrow ⟨⟨lib, T⟩, fo⟩ ⟨⟨lib', T'⟩, fo'⟩ stable ok)
    (hHolds : lib.Holds t) (hHolds' : lib'.Holds t') (hBeside : t.Beside stable ok t')
    {kind : PartKind} {i i' : Nat} {c c' : Coverage}
    (hc : T.coverages[i]? = some ((t.key, kind), c))
    (hc' : T'.coverages[i']? = some ((t'.key, kind), c')) : Rule.NarrowsCoverage fo fo' c c' := by
  obtain ⟨u, location, ⟨request, hLeads⟩, hKey, hGives⟩ := S.coverages i t.key kind c hc
  obtain ⟨u', location', ⟨request', hLeads'⟩, hKey', hGives'⟩ := S'.coverages i' t'.key kind c' hc'
  have hPair := hBeside.of_key hHolds hHolds' (Library.holds_of_leadsTo hLeads)
    (Library.holds_of_leadsTo hLeads') hKey hKey'
  exact Target.narrows_coverage hWorlds (Target.context_alike hPair.key hPair.dialect)
    hPair.contents hGives hGives'

end

/-! ## Steps -/

/-- A program whose targets and coverages are a sound table. -/
structure Program.LinkedBy (p : Program) (W : Linkage) (formats : Bool) : Prop where
  sound : W.Sound formats
  targets : p.targets = W.table.rules.map (·.2)
  coverages : p.coverages = W.table.coverages.map (·.2)

section

variable {lib lib' : Library} {T T' : Table} {formats : Bool} {p p' : Program} {t t' : Target}

theorem Table.RuleAt.exists_rule {i : Nat} {key : TargetKey} (h : T.RuleAt i key) :
    ∃ r, T.rules[i]? = some (key, r) := by
  rw [Table.RuleAt, List.getElem?_map] at h
  obtain ⟨⟨key, r⟩, hr, rfl⟩ := Option.map_eq_some_iff.mp h
  exact ⟨r, hr⟩

theorem Table.CoverageAt.exists_coverage {i : Nat} {key : TargetKey} {kind : PartKind}
    (h : T.CoverageAt i key kind) : ∃ c, T.coverages[i]? = some ((key, kind), c) := by
  rw [Table.CoverageAt, List.getElem?_map] at h
  obtain ⟨⟨⟨key, kind⟩, c⟩, hc, hEq⟩ := Option.map_eq_some_iff.mp h
  cases hEq
  exact ⟨c, hc⟩

theorem Program.LinkedBy.failures_follow (h : p.LinkedBy ⟨lib, T⟩ formats) {i : Nat}
    {key : TargetKey} {r : Rule} (hr : T.rules[i]? = some (key, r)) (steps : Nat) (place : Place)
    (v : Json) :
    (p.follow (steps + 1)).failures i place v = r.failures (p.follow steps) place v := by
  have hTarget : p.targets[i]? = some r := by
    rw [h.targets, List.getElem?_map, hr]
    rfl
  change (p.targets[i]?.getD .accept).failures (p.follow steps) place v = _
  rw [hTarget, Option.getD_some]

theorem Program.LinkedBy.covers_follow (h : p.LinkedBy ⟨lib, T⟩ formats) {i : Nat}
    {key : TargetKey} {kind : PartKind} {c : Coverage}
    (hc : T.coverages[i]? = some ((key, kind), c)) (steps : Nat) (v : Json) (s : Step) (x : Json) :
    (p.follow (steps + 1)).covers i v s x = Rule.covers (p.follow steps) c v s x := by
  have hCoverage : p.coverages[i]? = some c := by
    rw [h.coverages, List.getElem?_map, hc]
    rfl
  change Rule.covers (p.follow steps) (p.coverages[i]?.getD (.any [])) v s x = _
  rw [hCoverage, Option.getD_some]

theorem Program.LinkedBy.narrows_targets (h : p.LinkedBy ⟨lib, T⟩ formats)
    (h' : p'.LinkedBy ⟨lib', T'⟩ formats) {steps : Nat}
    (hWorlds : ∀ n, n < steps →
      World.ReferencesNarrow ⟨⟨lib, T⟩, p.follow n⟩ ⟨⟨lib', T'⟩, p'.follow n⟩ stable ok)
    (hHolds : lib.Holds t) (hHolds' : lib'.Holds t') (hBeside : t.Beside stable ok t')
    {i i' : Nat} (hi : T.RuleAt i t.key) (hi' : T'.RuleAt i' t'.key) (place : Place) (v : Json)
    (hv : (p'.follow steps).failures i' place v = []) :
    (p.follow steps).failures i place v = [] := by
  cases steps with
  | zero => rfl
  | succ n =>
    obtain ⟨r, hr⟩ := hi.exists_rule
    obtain ⟨r', hr'⟩ := hi'.exists_rule
    rw [h'.failures_follow hr'] at hv
    rw [h.failures_follow hr]
    exact h.sound.narrows_rules h'.sound (hWorlds n (Nat.lt_succ_self n)) hHolds hHolds' hBeside hr
      hr' place v hv

theorem Program.LinkedBy.narrows_covers (h : p.LinkedBy ⟨lib, T⟩ formats)
    (h' : p'.LinkedBy ⟨lib', T'⟩ formats) {steps : Nat}
    (hWorlds : ∀ n, n < steps →
      World.ReferencesNarrow ⟨⟨lib, T⟩, p.follow n⟩ ⟨⟨lib', T'⟩, p'.follow n⟩ stable ok)
    (hHolds : lib.Holds t) (hHolds' : lib'.Holds t') (hBeside : t.Beside stable ok t')
    {kind : PartKind} {i i' : Nat} (hi : T.CoverageAt i t.key kind)
    (hi' : T'.CoverageAt i' t'.key kind) (v : Json) (s : Step) (x : Json)
    (hx : (p'.follow steps).covers i' v s x = true) :
    (p.follow steps).covers i v s x = true := by
  cases steps with
  | zero => cases hx
  | succ n =>
    obtain ⟨c, hc⟩ := hi.exists_coverage
    obtain ⟨c', hc'⟩ := hi'.exists_coverage
    rw [h'.covers_follow hc'] at hx
    rw [h.covers_follow hc]
    exact h.sound.narrows_coverages h'.sound (hWorlds n (Nat.lt_succ_self n)) hHolds hHolds'
      hBeside hc hc' v s x hx

theorem Library.LeadsAlike.beside (hLeads : lib.LeadsAlike lib' stable ok)
    (hLib : lib.Beside stable ok lib') {e : String × String} (he : ok e) {ctx ctx' : Context}
    (hCtx : ctx.Alike ctx') (ht : lib.leadsTo ⟨e.1, e.2, ctx⟩ = .ok (some t)) :
    ∃ t', lib'.leadsTo ⟨e.1, e.2, ctx'⟩ = .ok (some t') ∧ t.Beside stable ok t' := by
  rw [Library.leadsTo_alike hCtx]
  exact Library.leadsTo_rel hLib ht (hLeads.schema he ht)

theorem Target.Beside.swap (h : t.Beside stable ok t') (hSame : t'.contents = t.contents)
    (hStable : ∀ f ∈ t.contents.references, f ∈ stable) :
    t'.Beside stable (fun e => e ∈ stable ∧ ok e) t := by
  obtain ⟨closed, hContents⟩ := h.contents
  refine ⟨h.key.symm, h.dialect.symm, false, ?_⟩
  rw [hSame]
  exact hContents.open_self _ fun e he hOk => ⟨hStable e he, hOk⟩

theorem Program.LinkedBy.narrows_reference (h : p.LinkedBy ⟨lib, T⟩ formats)
    (h' : p'.LinkedBy ⟨lib', T'⟩ formats) (hLib : lib.Beside stable ok lib')
    (hLeads : lib.LeadsAlike lib' stable ok) {steps : Nat}
    (hWorlds : ∀ n, n < steps →
      World.ReferencesNarrow ⟨⟨lib, T⟩, p.follow n⟩ ⟨⟨lib', T'⟩, p'.follow n⟩ stable ok)
    {e : String × String} (he : ok e) :
    World.ReferenceNarrows ⟨⟨lib, T⟩, p.follow steps⟩ ⟨⟨lib', T'⟩, p'.follow steps⟩ e := by
  constructor
  · rintro ctx ctx' i answer' hCtx ⟨t, ht, hAt⟩ hAnswer'
    obtain ⟨t', ht', hBeside⟩ := hLeads.beside hLib he hCtx ht
    cases answer' with
    | none =>
      rcases hAnswer' with hNone | ⟨u', hu', hRepeats⟩
      · cases ht'.symm.trans hNone
      -- Nothing is left out in the closed document for holding the very same reference.
      · cases ht'.symm.trans hu'
        rw [Target.repeats_eq hBeside.contents] at hRepeats
        cases (hLeads.other he ht).symm.trans hRepeats
    | some i' =>
      obtain ⟨u', hu', hAt'⟩ := hAnswer'
      cases ht'.symm.trans hu'
      exact ⟨i', rfl, h.narrows_targets h' hWorlds (Library.holds_of_leadsTo ht)
        (Library.holds_of_leadsTo ht') hBeside hAt hAt'⟩
  · rintro kind ctx ctx' answer i' hCtx hAnswer ⟨u', hu', hAt'⟩
    cases answer with
    | none =>
      rw [Library.leadsTo_alike hCtx] at hu'
      cases (Library.leadsTo_none hAnswer).symm.trans hu'
    | some i =>
      obtain ⟨t, ht, hAt⟩ := hAnswer
      obtain ⟨t', ht', hBeside⟩ := hLeads.beside hLib he hCtx ht
      cases ht'.symm.trans hu'
      exact ⟨i, rfl, h.narrows_covers h' hWorlds (Library.holds_of_leadsTo ht)
        (Library.holds_of_leadsTo ht') hBeside hAt hAt'⟩

/-- A stable reference leads to less in the first document, too. -/
theorem Program.LinkedBy.narrows_stable (h : p.LinkedBy ⟨lib, T⟩ formats)
    (h' : p'.LinkedBy ⟨lib', T'⟩ formats) (hLib : lib.Beside stable ok lib')
    (hLeads : lib.LeadsAlike lib' stable ok) {steps : Nat}
    (hWorlds : ∀ n, n < steps →
      World.ReferencesNarrow ⟨⟨lib, T⟩, p.follow n⟩ ⟨⟨lib', T'⟩, p'.follow n⟩ stable ok)
    {e : String × String} (hStable : e ∈ stable) (he : ok e) :
    World.ReferenceNarrows ⟨⟨lib', T'⟩, p'.follow steps⟩ ⟨⟨lib, T⟩, p.follow steps⟩ e := by
  -- What a stable reference leads to is the same in both documents, so the sides can be swapped.
  have hSame : ∀ {ctx ctx' t}, Context.Alike ctx' ctx →
      lib.leadsTo ⟨e.1, e.2, ctx'⟩ = .ok (some t) →
        ∃ t', lib'.leadsTo ⟨e.1, e.2, ctx⟩ = .ok (some t') ∧
          t'.Beside stable (fun e => e ∈ stable ∧ ok e) t := by
    intro ctx ctx' t hCtx ht
    obtain ⟨t', ht', hBeside⟩ := hLeads.beside hLib he hCtx ht
    rw [← Library.leadsTo_alike hCtx] at ht
    obtain ⟨hContents, hReferences⟩ := hLeads.same hStable he ht ht'
    exact ⟨t', ht', hBeside.swap hContents hReferences⟩
  constructor
  · rintro ctx ctx' i' answer hCtx ⟨u', hu', hAt'⟩ hAnswer
    cases answer with
    | none =>
      rcases hAnswer with hNone | ⟨t, ht, hRepeats⟩
      · rw [← Library.leadsTo_alike hCtx] at hu'
        cases (Library.leadsTo_none hNone).symm.trans hu'
      · exact absurd hRepeats (by rw [hLeads.other he ht]; simp)
    | some i =>
      obtain ⟨t, ht, hAt⟩ := hAnswer
      obtain ⟨t', ht', hBeside⟩ := hSame hCtx.symm ht
      cases ht'.symm.trans hu'
      exact ⟨i, rfl, h'.narrows_targets h (fun n hn => (hWorlds n hn).swap)
        (Library.holds_of_leadsTo ht') (Library.holds_of_leadsTo ht) hBeside hAt' hAt⟩
  · rintro kind ctx ctx' answer' i hCtx hAnswer' ⟨t, ht, hAt⟩
    obtain ⟨t', ht', hBeside⟩ := hSame hCtx.symm ht
    cases answer' with
    | none => cases ht'.symm.trans hAnswer'
    | some i' =>
      obtain ⟨u', hu', hAt'⟩ := hAnswer'
      cases ht'.symm.trans hu'
      exact ⟨i', rfl, h'.narrows_covers h (fun n hn => (hWorlds n hn).swap)
        (Library.holds_of_leadsTo ht') (Library.holds_of_leadsTo ht) hBeside hAt' hAt⟩

theorem Program.LinkedBy.referencesNarrow (h : p.LinkedBy ⟨lib, T⟩ formats)
    (h' : p'.LinkedBy ⟨lib', T'⟩ formats) (hLib : lib.Beside stable ok lib')
    (hLeads : lib.LeadsAlike lib' stable ok) (steps : Nat) :
    World.ReferencesNarrow ⟨⟨lib, T⟩, p.follow steps⟩ ⟨⟨lib', T'⟩, p'.follow steps⟩ stable ok := by
  -- The targets are evaluated with fewer steps, in which their own references narrow.
  induction steps using Nat.strongRecOn with
  | ind steps ih =>
    exact ⟨fun e he => h.narrows_reference h' hLib hLeads ih he,
      fun e hStable he => h.narrows_stable h' hLib hLeads ih hStable he⟩

end

end SchemaContract
