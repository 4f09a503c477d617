import SchemaContract.Proofs.Construction
import SchemaContract.Proofs.Meanings

/-!
# Larger registries

A registry that is built from more schemas means the same by every name that a smaller one knows: no
supplied schema has a part in the compilation of another. So references can only become known when
schemas are added, and a call whose references are all known does not change.
-/

namespace SchemaContract

/-- The second registry compiles as the first one does and means the same by each of its names. -/
structure Registry.Extends (r r' : Registry) : Prop where
  config : r'.config = r.config
  get? : ∀ name c, r.get? name = some c → r'.get? name = some c

namespace Registry

/-- A registry gives a schema its meaning by the configuration and by what it keeps under the name
that the schema refers to. -/
theorem resolve_eq_of_get?_eq {r r' : Registry} (hConfig : r'.config = r.config) {s : Schema}
    (hs : ∀ name, s = .reference name → r.get? name = r'.get? name) :
    r.resolve s = r'.resolve s := by
  cases s with
  | accept => rfl
  | reject => rfl
  | definition members => rw [resolve, resolve, hConfig]
  | reference name => rw [resolve, resolve, hs name rfl]

theorem extends_of_build {config : Config} {entries entries' : List (String × Json)}
    {r r' : Registry} (hBuild : build config (.object entries) = .ok r)
    (hBuild' : build config (.object entries') = .ok r')
    (hDistinct : (entries.map (·.1)).Nodup) (hDistinct' : (entries'.map (·.1)).Nodup)
    (hEntries : entries ⊆ entries') : r.Extends r' := by
  have hHolds := holds_of_build hBuild hDistinct
  have hHolds' := holds_of_build hBuild' hDistinct'
  refine ⟨hHolds'.configured.trans hHolds.configured.symm, fun name c hGet => ?_⟩
  have hName : name ∈ (entries ++ primitives).map (·.1) := by
    rw [List.map_append, List.mem_append, ← hHolds.has_iff, has_eq_isSome, hGet]
    rfl
  obtain ⟨e, he, rfl⟩ := List.mem_map.mp hName
  have he' : e ∈ entries' ++ primitives := by
    rcases List.mem_append.mp he with he | he
    · exact List.mem_append_left _ (hEntries he)
    · exact List.mem_append_right _ he
  obtain ⟨d, hGet', hCompile⟩ := hHolds.get?_eq e he
  obtain ⟨d', hGet'', hCompile'⟩ := hHolds'.get?_eq e he'
  rw [hGet'', ← hGet, hGet']
  exact congrArg some (Except.ok.inj (hCompile'.symm.trans hCompile))

namespace Extends

variable {r r' : Registry}

theorem has (h : r.Extends r') {name : String} (hName : r.has name = true) :
    r'.has name = true := by
  rw [has_eq_isSome, Option.isSome_iff_exists] at hName ⊢
  obtain ⟨c, hGet⟩ := hName
  exact ⟨c, h.get? name c hGet⟩

theorem resolve_eq (h : r.Extends r') {s : Schema}
    (hs : ∀ name, s = .reference name → r.has name = true) : r.resolve s = r'.resolve s := by
  refine resolve_eq_of_get?_eq h.config fun name hName => ?_
  have hHas := hs name hName
  rw [has_eq_isSome, Option.isSome_iff_exists] at hHas
  obtain ⟨c, hGet⟩ := hHas
  rw [hGet, h.get? name c hGet]

end Extends

end Registry

namespace Contract

variable {r r' : Registry}

theorem unresolved_sublist (h : r.Extends r') (c : Contract) :
    (c.unresolved r').Sublist (c.unresolved r) := by
  refine filterMap_sublist_filterMap (fun e line hLine => ?_) c.schemas
  obtain ⟨location, s⟩ := e
  cases s with
  | reference name =>
    simp only [Schema.reference?] at hLine ⊢
    by_cases hName : r.has name = true
    · rw [if_pos (h.has hName)] at hLine
      cases hLine
    · rw [if_neg hName]
      split_ifs at hLine
      exact hLine
  | _ => cases hLine

theorem meansAlike_of_extends (h : r.Extends r') {c : Contract} (hKnown : c.unresolved r = [])
    {s : Schema} (hs : c.Declares s) : s.MeansAlike r r' s := by
  refine .of_resolve_eq (h.resolve_eq fun name hName => ?_)
  exact (unresolved_eq_nil_iff r c).mp hKnown name (hName ▸ hs)

end Contract

namespace Registry

theorem callsAlike_of_extends {r r' : Registry} (h : r.Extends r') {ps : Parameters}
    {result : Option Schema} {mode : Mode}
    (hKnown : Contract.unresolved r ⟨ps, result, mode⟩ = []) :
    r.CallsAlike r' ps ps result result := by
  refine callsAlike_of_meansAlike ?_ ?_
  · refine List.forall₂_same.mpr fun p hp => ⟨rfl, rfl, rfl, ?_⟩
    exact Contract.meansAlike_of_extends h hKnown (.inl ⟨p, hp, rfl⟩)
  · cases result with
    | none => exact .none
    | some s => exact .some (Contract.meansAlike_of_extends h hKnown (.inr rfl))

/-- Of two registries, the second built from more schemas in whatever order, the second leaves no
reference unknown that the first one knows, and a call whose references the first one knows runs
alike over both. -/
theorem call_of_more {config : Config} {entries entries' : List (String × Json)}
    {r r' : Registry} (hBuild : build config (.object entries) = .ok r)
    (hBuild' : build config (.object entries') = .ok r')
    (hDistinct : (entries.map (·.1)).Nodup) (hDistinct' : (entries'.map (·.1)).Nodup)
    (hEntries : entries ⊆ entries') (ps : Parameters) (result : Option Schema) (mode : Mode) :
    (Contract.unresolved r' ⟨ps, result, mode⟩).Sublist
        (Contract.unresolved r ⟨ps, result, mode⟩) ∧
      (Contract.unresolved r ⟨ps, result, mode⟩ = [] → r.CallsAlike r' ps ps result result) := by
  have hExtends := extends_of_build hBuild hBuild' hDistinct hDistinct' hEntries
  exact ⟨Contract.unresolved_sublist hExtends _, callsAlike_of_extends hExtends⟩

/-- The schema that is added stands in front of the one that the call refers to. -/
theorem call_of_more_titleAndCount :
    ∃ r r', build Config.standard (.object (titleAndCount.drop 1)) = .ok r ∧
      build Config.standard (.object titleAndCount) = .ok r' ∧
      titleAndCount.drop 1 ⊆ titleAndCount ∧
      r.CallsAlike r' (.positional [(.nat 1, .reference "todo/count")])
        (.positional [(.nat 1, .reference "todo/count")])
        (some (.reference "todo/count")) (some (.reference "todo/count")) := by
  have hCompiles := compiles_titleAndCount Config.standard
  have hEntries : titleAndCount.drop 1 ⊆ titleAndCount := List.drop_subset 1 titleAndCount
  have hAdmissible : Admissible (.object (titleAndCount.drop 1)) (titleAndCount.drop 1) :=
    ⟨rfl, by decide, by decide⟩
  obtain ⟨r, hBuild⟩ := exists_build hAdmissible fun e he => hCompiles e (hEntries he)
  obtain ⟨r', hBuild'⟩ := exists_build ⟨rfl, by decide, by decide⟩ hCompiles
  refine ⟨r, r', hBuild, hBuild', hEntries, ?_⟩
  have hDistinct : ((titleAndCount.drop 1).map (·.1)).Nodup := by decide
  obtain ⟨-, hAlike⟩ := call_of_more hBuild hBuild' hDistinct (by decide) hEntries
    (.positional [(.nat 1, .reference "todo/count")]) (some (.reference "todo/count")) .sync
  refine hAlike ((Contract.unresolved_eq_nil_iff r _).mpr fun name hName => ?_)
  have hCount : name = "todo/count" := by
    obtain ⟨p, hp, hSchema⟩ | hResult := hName
    · rw [List.mem_singleton.mp hp] at hSchema
      cases hSchema
      rfl
    · cases hResult
      rfl
  rw [(holds_of_build hBuild hDistinct).has_iff, hCount]
  exact .inl List.mem_cons_self

end Registry

end SchemaContract
