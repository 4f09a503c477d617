import SchemaContract.Proofs.ParameterLists

/-!
# Parameters written and read

Parameters are written as pairs of a value and a schema, in an array or under their names in an
object. Reading gives them back as they were, whatever stands behind the pairs.
-/

namespace SchemaContract.Parameters

/-- The entry of a parameter: its value and its schema, and anything behind the two. -/
def entry (more : List Json) (p : Parameter) : Json := .array (p.value :: p.schema.toJson :: more)

/-- The entries of parameters under their names, numbered from the given one on; `more` has what
stands behind each pair. -/
def entriesFrom (more : Nat → List Json) (i : Nat) : List Parameter → List (String × Json)
  | [] => []
  | p :: ps => (p.name, entry (more i) p) :: entriesFrom more (i + 1) ps

/-- Parameters in JSON: an array of entries, or an object of entries under their names. -/
def written (more : Nat → List Json) (ps : Parameters) : Json :=
  match ps.form with
  | .positional => .array ((entriesFrom more 0 ps.items).map (·.2))
  | .named => .object (entriesFrom more 0 ps.items)

def triple (p : Parameter) : String × Json × Schema := (p.name, p.value, p.schema)

variable (more : Nat → List Json)

theorem reads_entriesFrom (i : Nat) (ps : List Parameter) :
    List.Forall₂ Reads (entriesFrom more i ps) (ps.map triple) := by
  induction ps generalizing i with
  | nil => exact .nil
  | cons p ps ih => exact .cons ⟨rfl, more i, rfl⟩ (ih (i + 1))

theorem triplesOf_entriesFrom (i : Nat) (ps : List Parameter) :
    triplesOf (entriesFrom more i ps) = .ok (ps.map triple) :=
  triplesOf_eq_ok_iff.mpr (reads_entriesFrom more i ps)

theorem map_name_entriesFrom (i : Nat) (ps : List Parameter) :
    (entriesFrom more i ps).map (·.1) = ps.map (·.name) := by
  induction ps generalizing i with
  | nil => rfl
  | cons p ps ih => rw [entriesFrom, List.map_cons, List.map_cons, ih]

/-! ## Positional parameters -/

theorem positioned_entriesFrom (i : Nat) (pairs : List (Json × Schema)) :
    positioned i ((entriesFrom more i (atPositions i pairs)).map (·.2)) =
      entriesFrom more i (atPositions i pairs) := by
  induction pairs generalizing i with
  | nil => rfl
  | cons pair pairs ih =>
    rw [atPositions_cons, entriesFrom, List.map_cons, positioned_cons, ih]
    rfl

theorem map_triple_atPositions (i : Nat) (pairs : List (Json × Schema)) :
    ((atPositions i pairs).map triple).map (·.2) = pairs := by
  induction pairs generalizing i with
  | nil => rfl
  | cons pair pairs ih =>
    rw [atPositions_cons, List.map_cons, List.map_cons, ih]
    rfl

theorem ofJson_written_positional (pairs : List (Json × Schema)) :
    ofJson ((positional pairs).written more) = .ok (positional pairs) := by
  have hEntries : entries? ((positional pairs).written more) =
      some (.positional, entriesFrom more 0 (atPositions 0 pairs)) :=
    congrArg (fun es => some (Form.positional, es)) (positioned_entriesFrom more 0 pairs)
  rw [ofJson_of_entries hEntries, triplesOf_entriesFrom]
  exact congrArg (fun ps => Except.ok (positional ps)) (map_triple_atPositions 0 pairs)

/-! ## Named parameters -/

theorem AreNamed.map_withName {ps : List Parameter} (h : AreNamed ps) :
    (ps.map triple).map (fun t => .withName t.1 t.2.1 t.2.2) = ps := by
  rw [List.map_map]
  calc
    ps.map _ = ps.map id := List.map_congr_left fun p hp => by
      simp only [Function.comp_apply, triple, Parameter.withName, ← h.labels p hp, id_eq]
    _ = ps := List.map_id ps

theorem AreNamed.named_triples {ps : List Parameter} (h : AreNamed ps) :
    named (ps.map triple) = ⟨.named, ps⟩ := by
  have hNames : ((ps.map triple).map (·.1)).Nodup := by
    rw [List.map_map]
    exact h.distinct
  calc
    named (ps.map triple) = ⟨.named, (named (ps.map triple)).items⟩ := rfl
    _ = ⟨.named, ps⟩ := by rw [items_named hNames, h.map_withName]

theorem ofJson_written_named (triples : List (String × Json × Schema)) :
    ofJson ((named triples).written more) = .ok (named triples) := by
  have hEntries : entries? ((named triples).written more) =
      some (.named, entriesFrom more 0 (named triples).items) := rfl
  rw [ofJson_of_entries hEntries, triplesOf_entriesFrom]
  exact congrArg Except.ok (areNamed_items_named triples).named_triples

/-- What is written is read back as it was, whatever stands behind the pairs. Named parameters are
written under names that occur once, and no parameters at all are read back in the form they had. -/
theorem ofJson_written :
    (∀ pairs, ofJson ((positional pairs).written more) = .ok (positional pairs)) ∧
      (∀ triples, ofJson ((named triples).written more) = .ok (named triples)) ∧
      (∀ triples, ∃ ms, (named triples).written more = .object ms ∧ (ms.map (·.1)).Nodup) ∧
      ofJson ((positional []).written more) ≠ ofJson ((named []).written more) := by
  refine ⟨ofJson_written_positional more, ofJson_written_named more, ?_, ?_⟩
  · intro triples
    refine ⟨_, rfl, ?_⟩
    rw [map_name_entriesFrom]
    exact (areNamed_items_named triples).distinct
  · rw [ofJson_written_positional, ofJson_written_named]
    intro h
    cases congrArg form (Except.ok.inj h)

end SchemaContract.Parameters
