import Mathlib.Data.List.Induction
import SchemaContract.Proofs.ParameterLists

/-!
# Named parameters as a map

Parameters that are given by name are kept as a map keeps them that remembers the order in which it
was filled: a name has its place from the first triple that gives it, and its value and its schema
from the last one.
-/

namespace SchemaContract

namespace Parameters

/-- A parameter is what the last triple of its name says, and its label is the name in quotes. -/
inductive LastOf (triples : List (String × Json × Schema)) : Parameter → Prop where
  | intro {before after : List (String × Json × Schema)} {name : String} {value : Json}
      {schema : Schema} (h : triples = before ++ (name, value, schema) :: after)
      (hLast : name ∉ after.map (·.1)) : LastOf triples ⟨name, "\"" ++ name ++ "\"", value, schema⟩

/-- The parameters that a map keeps of triples. -/
structure Keeps (triples : List (String × Json × Schema)) (ps : List Parameter) : Prop where
  distinct : (ps.map (·.name)).Nodup
  mem_iff : ∀ name, name ∈ ps.map (·.name) ↔ name ∈ triples.map (·.1)
  /-- One name stands before another if it first occurs before that one does. -/
  ordered : (ps.map (·.name)).Pairwise fun a b =>
    (triples.map (·.1)).idxOf a < (triples.map (·.1)).idxOf b
  last : ∀ p ∈ ps, LastOf triples p

/-- The parameter with the value and the schema of one more triple, if that has its name. -/
def replaced (name : String) (value : Json) (schema : Schema) (p : Parameter) : Parameter :=
  if p.name = name then { p with value := value, schema := schema } else p

variable {triples : List (String × Json × Schema)} {ps : List Parameter} {name : String}
  {value : Json} {schema : Schema}

/-! ## One more triple -/

theorem map_replaced_of_not_mem (h : name ∉ ps.map (·.name)) :
    ps.map (replaced name value schema) = ps := by
  have hEach : ∀ p ∈ ps, replaced name value schema p = p := by
    intro p hp
    refine if_neg fun hName => h ?_
    exact List.mem_map.mpr ⟨p, hp, hName⟩
  rw [List.map_congr_left hEach, List.map_id']

theorem putNamed_of_mem (hDistinct : (ps.map (·.name)).Nodup) (h : name ∈ ps.map (·.name)) :
    putNamed name value schema ps = ps.map (replaced name value schema) := by
  induction ps with
  | nil => cases h
  | cons p ps ih =>
    rw [List.map_cons, List.nodup_cons] at hDistinct
    rw [putNamed, List.map_cons, replaced]
    by_cases hName : p.name = name
    -- The name does not occur again, so nothing behind the parameter is replaced.
    · rw [if_pos (by simpa using hName), if_pos hName,
        map_replaced_of_not_mem (hName ▸ hDistinct.1)]
    · have hMem : name ∈ ps.map (·.name) := by
        rw [List.map_cons, List.mem_cons] at h
        exact h.resolve_left (Ne.symm hName)
      rw [if_neg (by simpa using hName), if_neg hName, ih hDistinct.2 hMem]

theorem LastOf.append {p : Parameter} (h : LastOf triples p) (hName : p.name ≠ name) :
    LastOf (triples ++ [(name, value, schema)]) p := by
  obtain @⟨before, after, own, ownValue, ownSchema, rfl, hLast⟩ := h
  have hSplit : (before ++ (own, ownValue, ownSchema) :: after) ++ [(name, value, schema)] =
      before ++ (own, ownValue, ownSchema) :: (after ++ [(name, value, schema)]) :=
    List.append_assoc _ _ _
  refine .intro hSplit ?_
  rw [List.map_append, List.mem_append, not_or]
  exact ⟨hLast, fun hMem => hName (List.mem_singleton.mp hMem)⟩

theorem lastOf_append (triples : List (String × Json × Schema)) (name : String) (value : Json)
    (schema : Schema) : LastOf (triples ++ [(name, value, schema)])
      ⟨name, "\"" ++ name ++ "\"", value, schema⟩ :=
  .intro rfl List.not_mem_nil

theorem LastOf.replaced {p : Parameter} (h : LastOf triples p) :
    LastOf (triples ++ [(name, value, schema)]) (replaced name value schema p) := by
  by_cases hName : p.name = name
  · rw [Parameters.replaced, if_pos hName]
    cases h
    cases hName
    exact lastOf_append _ _ _ _
  · rw [Parameters.replaced, if_neg hName]
    exact h.append hName

namespace Keeps

theorem nil : Keeps [] [] :=
  ⟨List.nodup_nil, fun _ => Iff.rfl, .nil, fun _ h => absurd h List.not_mem_nil⟩

theorem replaced (h : Keeps triples ps) (hName : name ∈ triples.map (·.1)) :
    Keeps (triples ++ [(name, value, schema)]) (ps.map (replaced name value schema)) := by
  have hOld : name ∈ ps.map (·.name) := (h.mem_iff name).mpr hName
  have hNames : (ps.map (Parameters.replaced name value schema)).map (·.name) =
      ps.map (·.name) := by
    rw [← putNamed_of_mem h.distinct hOld, map_name_putNamed, if_pos hOld]
  refine ⟨hNames ▸ h.distinct, fun a => ?_, ?_, ?_⟩
  · rw [hNames, h.mem_iff, List.map_append, List.mem_append]
    refine (or_iff_left_of_imp fun ha => ?_).symm
    rwa [List.mem_singleton.mp ha]
  · rw [hNames]
    refine h.ordered.imp_of_mem fun {a b} ha hb hLt => ?_
    rwa [List.map_append, List.idxOf_append_of_mem ((h.mem_iff a).mp ha),
      List.idxOf_append_of_mem ((h.mem_iff b).mp hb)]
  · exact List.forall_mem_map.mpr fun p hp => (h.last p hp).replaced

theorem appended (h : Keeps triples ps) (hName : name ∉ triples.map (·.1)) :
    Keeps (triples ++ [(name, value, schema)]) (ps ++ [.withName name value schema]) := by
  have hNew : name ∉ ps.map (·.name) := mt (h.mem_iff name).mp hName
  have hNames : (ps ++ [Parameter.withName name value schema]).map (·.name) =
      ps.map (·.name) ++ [name] := List.map_append
  refine ⟨?_, fun a => ?_, ?_, ?_⟩
  · rw [hNames, List.nodup_append_comm, List.singleton_append, List.nodup_cons]
    exact ⟨hNew, h.distinct⟩
  · rw [hNames, List.map_append, List.mem_append, List.mem_append, h.mem_iff]
    rfl
  · rw [hNames, List.map_append, List.pairwise_append]
    refine ⟨h.ordered.imp_of_mem fun {a b} ha hb hLt => ?_, List.pairwise_singleton _ _, ?_⟩
    · rwa [List.idxOf_append_of_mem ((h.mem_iff a).mp ha),
        List.idxOf_append_of_mem ((h.mem_iff b).mp hb)]
    · intro a ha b hb
      have hMem := (h.mem_iff a).mp ha
      rw [List.mem_singleton.mp hb, List.idxOf_append_of_mem hMem,
        List.idxOf_append_of_notMem hName]
      exact Nat.lt_add_right _ (List.idxOf_lt_length_of_mem hMem)
  · refine List.forall_mem_append.mpr ⟨fun p hp => (h.last p hp).append fun hEq => ?_, ?_⟩
    · exact hNew (hEq ▸ List.mem_map_of_mem hp)
    · exact List.forall_mem_singleton.mpr (lastOf_append _ _ _ _)

end Keeps

/-! ## The whole list -/

theorem items_named_append (triples : List (String × Json × Schema)) (name : String) (value : Json)
    (schema : Schema) : (named (triples ++ [(name, value, schema)])).items =
      putNamed name value schema (named triples).items := by
  rw [items_named_eq, List.foldl_append]
  rfl

theorem Keeps.putNamed_eq (h : Keeps triples ps) (name : String) (value : Json) (schema : Schema) :
    putNamed name value schema ps =
      if name ∈ triples.map (·.1) then ps.map (Parameters.replaced name value schema)
      else ps ++ [.withName name value schema] := by
  split
  next hName => exact putNamed_of_mem h.distinct ((h.mem_iff name).mpr hName)
  next hName => exact putNamed_of_not_mem value schema (mt (h.mem_iff name).mp hName)

theorem keeps_items_named (triples : List (String × Json × Schema)) :
    Keeps triples (named triples).items := by
  induction triples using List.reverseRecOn with
  | nil => exact .nil
  | append_singleton triples t ih =>
    obtain ⟨name, value, schema⟩ := t
    rw [items_named_append, ih.putNamed_eq]
    split
    next hName => exact ih.replaced hName
    next hName => exact ih.appended hName

/-- Parameters that are given by name, with names repeated in whatever way, are those that a map
keeps. So one more triple adds one parameter behind the others if its name is new, and else replaces
the value and the schema of the parameter of its name. -/
theorem items_named_of_triples (triples : List (String × Json × Schema)) :
    Keeps triples (named triples).items ∧
      ∀ name value schema, (named (triples ++ [(name, value, schema)])).items =
        if name ∈ triples.map (·.1) then (named triples).items.map (replaced name value schema)
        else (named triples).items ++ [⟨name, "\"" ++ name ++ "\"", value, schema⟩] := by
  refine ⟨keeps_items_named triples, fun name value schema => ?_⟩
  rw [items_named_append]
  exact (keeps_items_named triples).putNamed_eq name value schema

def repeatedName : List (String × Json × Schema) :=
  [("a", .nat 1, .reference "jss/number"), ("b", .nat 2, .accept),
    ("a", .string "x", .reference "jss/string")]

theorem items_named_of_repeatedName :
    (named repeatedName).items.map (·.name) = ["a", "b"] ∧
      ∃ p ∈ (named repeatedName).items, p.value = .string "x" ∧ LastOf repeatedName p := by
  obtain ⟨hKeeps, -⟩ := items_named_of_triples repeatedName
  exact ⟨rfl, _, List.mem_cons_self, rfl, hKeeps.last _ List.mem_cons_self⟩

end Parameters

end SchemaContract
