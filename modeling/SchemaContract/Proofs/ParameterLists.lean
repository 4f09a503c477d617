import Mathlib.Data.List.Forall2
import Mathlib.Data.List.Nodup
import SchemaContract.Parameter
import SchemaContract.Proofs.Lists
import SchemaContract.Proofs.Values

/-!
# Parameters in JSON

A value is read as parameters exactly if each of its entries is a pair of a value and a schema, and
else the first entry that is none is blamed. There is one parameter for each entry, for the names of
an object occur once. Whatever the names are, no two parameters have the same.
-/

namespace SchemaContract

/-! ## Schemas -/

/-- What may stand in the place of a schema: a boolean, an object or a text. -/
def Json.IsSchemaForm (v : Json) : Prop := v.kind = .bool ∨ v.kind = .object ∨ v.kind = .string

namespace Schema

theorem ofJson_eq_ok_iff {v : Json} {s : Schema} : ofJson v = .ok s ↔ v = s.toJson := by
  constructor
  · intro h
    unfold ofJson at h
    split at h <;> cases h <;> rfl
  · rintro rfl
    exact ofJson_toJson s

theorem ofJson_eq_error_iff {v : Json} {fault : Invalid} :
    ofJson v = .error fault ↔ ¬ v.IsSchemaForm ∧ fault = ⟨v.kind⟩ := by
  cases v with
  | bool b => cases b <;> simp [ofJson, Json.IsSchemaForm, Json.kind]
  | _ => simp [ofJson, Json.IsSchemaForm, Json.kind, eq_comm]

theorem isSchemaForm_iff {v : Json} : v.IsSchemaForm ↔ ∃ s : Schema, v = s.toJson := by
  constructor
  · intro hForm
    cases hRead : ofJson v with
    | ok s => exact ⟨s, ofJson_eq_ok_iff.mp hRead⟩
    | error fault => exact absurd hForm (ofJson_eq_error_iff.mp hRead).1
  · rintro ⟨s, rfl⟩
    cases s with
    | accept | reject => exact .inl rfl
    | definition ms => exact .inr (.inl rfl)
    | reference name => exact .inr (.inr rfl)

end Schema

namespace Parameters

/-! ## Pairs -/

/-- The entry is an array of a value and a schema, whatever follows the two. -/
def IsPair (v : Json) : Prop :=
  ∃ value schema more, v = .array (value :: schema :: more) ∧ schema.IsSchemaForm

/-- The entry is no array, or one of fewer than two items. -/
def IsShort (v : Json) : Prop := ∀ vs, v = .array vs → vs.length < 2

/-- The entry is an array of this value and this schema, whatever follows the two. -/
def Says (v value : Json) (schema : Schema) : Prop :=
  ∃ more, v = .array (value :: schema.toJson :: more)

/-- What is told of an entry that is no pair. -/
inductive Blames (name : String) : Json → ParameterFault → Prop where
  | malformed {v : Json} (h : IsShort v) : Blames name v (.malformed name)
  | schema {value schema : Json} {more : List Json} (h : ¬ schema.IsSchemaForm) :
      Blames name (.array (value :: schema :: more)) (.schema name ⟨schema.kind⟩)

variable {name : String}

theorem not_isShort {value schema : Json} {more : List Json} :
    ¬ IsShort (.array (value :: schema :: more)) := by
  intro h
  have hLength := h _ rfl
  simp only [List.length_cons] at hLength
  omega

theorem isShort_or (v : Json) :
    IsShort v ∨ ∃ value schema more, v = .array (value :: schema :: more) := by
  cases v with
  | array vs =>
    match vs with
    | [] | [_] =>
      refine .inl fun vs h => ?_
      cases h
      simp
    | value :: schema :: more => exact .inr ⟨value, schema, more, rfl⟩
  | _ => exact .inl nofun

theorem pairOf_of_isShort {v : Json} (h : IsShort v) :
    pairOf name v = .error (.malformed name) := by
  unfold pairOf
  split
  next value schema more => exact absurd h not_isShort
  next => rfl

theorem pairOf_eq_ok_iff {v value : Json} {s : Schema} :
    pairOf name v = .ok (value, s) ↔ Says v value s := by
  rcases isShort_or v with hShort | ⟨w, schema, more, rfl⟩
  · rw [pairOf_of_isShort hShort]
    constructor
    · exact nofun
    · rintro ⟨more, rfl⟩
      exact absurd hShort not_isShort
  · have hSays : Says (.array (w :: schema :: more)) value s ↔ w = value ∧ schema = s.toJson := by
      simp [Says]
    rw [pairOf, hSays, ← Schema.ofJson_eq_ok_iff]
    cases Schema.ofJson schema <;> simp

theorem pairOf_eq_error_iff {v : Json} {fault : ParameterFault} :
    pairOf name v = .error fault ↔ Blames name v fault := by
  rcases isShort_or v with hShort | ⟨value, schema, more, rfl⟩
  · rw [pairOf_of_isShort hShort]
    constructor
    · intro h
      cases h
      exact .malformed hShort
    · intro h
      cases h with
      | malformed => rfl
      | schema => exact absurd hShort not_isShort
  · rw [pairOf]
    constructor
    · intro h
      cases hRead : Schema.ofJson schema with
      | ok s =>
        rw [hRead] at h
        cases h
      | error invalid =>
        rw [hRead] at h
        cases h
        obtain ⟨hForm, rfl⟩ := Schema.ofJson_eq_error_iff.mp hRead
        exact .schema hForm
    · intro h
      cases h with
      | malformed hShort => exact absurd hShort not_isShort
      | schema hForm => rw [Schema.ofJson_eq_error_iff.mpr ⟨hForm, rfl⟩]

theorem not_blames_notAList {v : Json} : ¬ Blames name v .notAList := nofun

theorem isPair_iff {v : Json} : IsPair v ↔ ∃ value schema, Says v value schema := by
  constructor
  · rintro ⟨value, schema, more, rfl, hForm⟩
    obtain ⟨s, rfl⟩ := Schema.isSchemaForm_iff.mp hForm
    exact ⟨value, s, more, rfl⟩
  · rintro ⟨value, schema, more, rfl⟩
    exact ⟨value, schema.toJson, more, rfl, Schema.isSchemaForm_iff.mpr ⟨schema, rfl⟩⟩

/-! ## Entries -/

/-- What is read from a named entry. -/
def Reads (e : String × Json) (t : String × Json × Schema) : Prop :=
  t.1 = e.1 ∧ Says e.2 t.2.1 t.2.2

variable {es : List (String × Json)}

theorem triplesOf_eq_ok_iff {ts : List (String × Json × Schema)} :
    triplesOf es = .ok ts ↔ List.Forall₂ Reads es ts := by
  induction es generalizing ts with
  | nil => simp [triplesOf, eq_comm]
  | cons e es ih =>
    obtain ⟨name, v⟩ := e
    rw [triplesOf]
    constructor
    · intro h
      split at h
      next => cases h
      next value schema hPair =>
        split at h
        next => cases h
        next rest hRest =>
          cases h
          exact .cons ⟨rfl, pairOf_eq_ok_iff.mp hPair⟩ (ih.mp hRest)
    · rintro (_ | ⟨⟨hName, hSays⟩, hRest⟩)
      rw [pairOf_eq_ok_iff.mpr hSays, ih.mpr hRest]
      exact congrArg (fun name => Except.ok ((name, _) :: _)) hName.symm

theorem exists_triplesOf_iff : (∃ ts, triplesOf es = .ok ts) ↔ ∀ e ∈ es, IsPair e.2 := by
  simp only [triplesOf_eq_ok_iff]
  induction es with
  | nil => exact ⟨fun _ _ h => absurd h List.not_mem_nil, fun _ => ⟨[], .nil⟩⟩
  | cons e es ih =>
    rw [List.forall_mem_cons, ← ih, isPair_iff]
    constructor
    · rintro ⟨_, _ | ⟨⟨-, hSays⟩, hRest⟩⟩
      exact ⟨⟨_, _, hSays⟩, _, hRest⟩
    · rintro ⟨⟨value, schema, hSays⟩, ts, hRest⟩
      exact ⟨(e.1, value, schema) :: ts, .cons ⟨rfl, hSays⟩ hRest⟩

theorem triplesOf_eq_error_iff {fault : ParameterFault} :
    triplesOf es = .error fault ↔ ∃ before e after, es = before ++ e :: after ∧
      (∀ d ∈ before, IsPair d.2) ∧ Blames e.1 e.2 fault := by
  induction es with
  | nil => simp [triplesOf]
  | cons e es ih =>
    rw [exists_first_cons_iff, ← ih, ← pairOf_eq_error_iff, isPair_iff]
    obtain ⟨name, v⟩ := e
    rw [triplesOf]
    cases hPair : pairOf name v with
    | error other =>
      have hNot : ¬ ∃ value schema, Says v value schema := by
        rintro ⟨value, schema, hSays⟩
        cases hPair.symm.trans (pairOf_eq_ok_iff.mpr hSays)
      simp [hNot]
    | ok pair =>
      have hSays : ∃ value schema, Says v value schema :=
        ⟨pair.1, pair.2, pairOf_eq_ok_iff.mp hPair⟩
      cases triplesOf es <;> simp [hSays]

/-- The entries of an array, named by their positions from the given one on. -/
def positioned (i : Nat) (vs : List Json) : List (String × Json) :=
  (vs.zipIdx i).map fun (v, i) => ("params[" ++ toString i ++ "]", v)

theorem positioned_cons (i : Nat) (v : Json) (vs : List Json) :
    positioned i (v :: vs) = ("params[" ++ toString i ++ "]", v) :: positioned (i + 1) vs := by
  rw [positioned, List.zipIdx_cons]
  rfl

/-- The pairs of an array are read as those of an object would be whose names are the positions. -/
theorem pairsFrom_eq (i : Nat) (vs : List Json) :
    pairsFrom i vs = (triplesOf (positioned i vs)).map (List.map (·.2)) := by
  induction vs generalizing i with
  | nil => rfl
  | cons v vs ih =>
    rw [positioned_cons, pairsFrom, triplesOf, ih, Parameter.positionName]
    cases pairOf ("params[" ++ toString i ++ "]") v with
    | error fault => rfl
    | ok pair => cases triplesOf (positioned (i + 1) vs) <;> rfl

/-- How a value writes parameters, and its entries with the names that they are blamed by. -/
def entries? : Json → Option (Form × List (String × Json))
  | .array vs => some (.positional, positioned 0 vs)
  | .object ms => some (.named, ms)
  | _ => none

/-- The parameters of what is read from the entries. -/
def ofTriples : Form → List (String × Json × Schema) → Parameters
  | .positional, ts => positional (ts.map (·.2))
  | .named, ts => named ts

theorem ofJson_of_entries {v : Json} {form : Form} (h : entries? v = some (form, es)) :
    ofJson v = (triplesOf es).map (ofTriples form) := by
  cases v with
  | array vs =>
    cases h
    rw [ofJson, pairsFrom_eq]
    cases triplesOf (positioned 0 vs) <;> rfl
  | object ms =>
    cases h
    rfl
  | _ => cases h

theorem ofJson_eq_notAList_iff {v : Json} :
    ofJson v = .error .notAList ↔ v.kind ≠ .array ∧ v.kind ≠ .object := by
  -- The entries of a list are blamed under their names, never with the list as a whole.
  have hList : ∀ form es, entries? v = some (form, es) → ofJson v ≠ .error .notAList := by
    intro form es hEntries h
    rw [ofJson_of_entries hEntries] at h
    cases hRead : triplesOf es with
    | ok ts =>
      rw [hRead] at h
      cases h
    | error fault =>
      rw [hRead] at h
      cases h
      obtain ⟨_, _, _, _, _, hBlames⟩ := triplesOf_eq_error_iff.mp hRead
      exact not_blames_notAList hBlames
  cases v with
  | array vs => simp [hList _ _ rfl, Json.kind]
  | object ms => simp [hList _ _ rfl, Json.kind]
  | _ => simp [ofJson, Json.kind]

/-! ## Named parameters -/

/-- Parameters as names give them: no name occurs twice, and each label is the quoted name. -/
structure AreNamed (ps : List Parameter) : Prop where
  distinct : (ps.map (·.name)).Nodup
  labels : ∀ p ∈ ps, p.label = Text.inQuotes p.name

theorem map_name_putNamed (name : String) (value : Json) (schema : Schema) (ps : List Parameter) :
    (putNamed name value schema ps).map (·.name) =
      if name ∈ ps.map (·.name) then ps.map (·.name) else ps.map (·.name) ++ [name] := by
  induction ps with
  | nil => rfl
  | cons p ps ih =>
    rw [putNamed]
    by_cases hName : p.name = name
    · simp [hName]
    · have hOther : ¬ name = p.name := fun e => hName e.symm
      simp only [beq_iff_eq, hName, if_false, List.map_cons, List.mem_cons, hOther, false_or, ih]
      split <;> rfl

theorem label_putNamed {name : String} {value : Json} {schema : Schema} {ps : List Parameter}
    (h : ∀ p ∈ ps, p.label = Text.inQuotes p.name) :
    ∀ p ∈ putNamed name value schema ps, p.label = Text.inQuotes p.name := by
  induction ps with
  | nil => exact List.forall_mem_singleton.mpr rfl
  | cons p ps ih =>
    obtain ⟨hp, hps⟩ := List.forall_mem_cons.mp h
    rw [putNamed]
    split
    · exact List.forall_mem_cons.mpr ⟨hp, hps⟩
    · exact List.forall_mem_cons.mpr ⟨hp, ih hps⟩

theorem AreNamed.putNamed {name : String} {value : Json} {schema : Schema} {ps : List Parameter}
    (h : AreNamed ps) : AreNamed (putNamed name value schema ps) where
  distinct := by
    rw [map_name_putNamed]
    split
    · exact h.distinct
    next hNew =>
      refine List.nodup_append.mpr ⟨h.distinct, List.nodup_singleton name, ?_⟩
      rintro a ha b hb rfl
      exact hNew (List.mem_singleton.mp hb ▸ ha)
  labels := label_putNamed h.labels

/-- What is read from one more entry is put to the parameters. -/
def putTriple (ps : List Parameter) (t : String × Json × Schema) : List Parameter :=
  putNamed t.1 t.2.1 t.2.2 ps

theorem items_named_eq (triples : List (String × Json × Schema)) :
    (named triples).items = triples.foldl putTriple [] := rfl

theorem AreNamed.foldl {ps : List Parameter} (h : AreNamed ps)
    (triples : List (String × Json × Schema)) : AreNamed (triples.foldl putTriple ps) := by
  induction triples generalizing ps with
  | nil => exact h
  | cons t triples ih => exact ih h.putNamed

theorem areNamed_items_named (triples : List (String × Json × Schema)) :
    AreNamed (named triples).items := by
  have hNone : AreNamed [] := ⟨List.nodup_nil, fun _ h => absurd h List.not_mem_nil⟩
  exact hNone.foldl triples

theorem putNamed_of_not_mem {name : String} (value : Json) (schema : Schema) {ps : List Parameter}
    (h : name ∉ ps.map (·.name)) :
    putNamed name value schema ps = ps ++ [.withName name value schema] := by
  induction ps with
  | nil => rfl
  | cons p ps ih =>
    rw [List.map_cons, List.mem_cons, not_or] at h
    have hOther : ¬ (p.name == name) = true := by simpa using fun e : p.name = name => h.1 e.symm
    rw [putNamed, if_neg hOther, ih h.2, List.cons_append]

theorem foldl_putTriple {triples : List (String × Json × Schema)} {ps : List Parameter}
    (h : (ps.map (·.name) ++ triples.map (·.1)).Nodup) :
    triples.foldl putTriple ps =
      ps ++ triples.map fun t => .withName t.1 t.2.1 t.2.2 := by
  induction triples generalizing ps with
  | nil => exact (List.append_nil ps).symm
  | cons t triples ih =>
    have hNew : t.1 ∉ ps.map (·.name) := fun hMem =>
      (List.nodup_append.mp h).2.2 _ hMem _ List.mem_cons_self rfl
    rw [List.foldl_cons, putTriple, putNamed_of_not_mem _ _ hNew, ih]
    · simp
    · simpa [Parameter.withName] using h

theorem items_named {triples : List (String × Json × Schema)}
    (h : (triples.map (·.1)).Nodup) :
    (named triples).items = triples.map fun t => .withName t.1 t.2.1 t.2.2 := by
  have hStart : (([] : List Parameter).map (·.name) ++ triples.map (·.1)).Nodup := h
  rw [items_named_eq, foldl_putTriple hStart, List.nil_append]

/-! ## One parameter an entry -/

/-- The parameter is what the entry says, under the name of the entry. -/
def Holds (e : String × Json) (p : Parameter) : Prop := p.name = e.1 ∧ Says e.2 p.value p.schema

/-- The parameters of pairs, known by their positions from the given one on. -/
def atPositions (i : Nat) (pairs : List (Json × Schema)) : List Parameter :=
  (pairs.zipIdx i).map fun ((value, schema), i) => .atPosition i value schema

theorem atPositions_cons (i : Nat) (pair : Json × Schema) (pairs : List (Json × Schema)) :
    atPositions i (pair :: pairs) =
      .atPosition i pair.1 pair.2 :: atPositions (i + 1) pairs := by
  rw [atPositions, List.zipIdx_cons]
  rfl

theorem holds_atPositions {vs : List Json} {ts : List (String × Json × Schema)} (i : Nat)
    (h : List.Forall₂ Reads (positioned i vs) ts) :
    List.Forall₂ Holds (positioned i vs) (atPositions i (ts.map (·.2))) := by
  induction vs generalizing i ts with
  | nil =>
    cases h
    exact .nil
  | cons v vs ih =>
    rw [positioned_cons] at h ⊢
    cases h with
    | cons hFirst hRest =>
      rw [List.map_cons, atPositions_cons]
      exact .cons ⟨rfl, hFirst.2⟩ (ih (i + 1) hRest)

theorem holds_named {ts : List (String × Json × Schema)} (hDistinct : (es.map (·.1)).Nodup)
    (h : List.Forall₂ Reads es ts) : List.Forall₂ Holds es (named ts).items := by
  have hNames : ts.map (·.1) = es.map (·.1) := map_eq_of_forall₂ (fun _ _ hRead => hRead.1) h
  rw [items_named (hNames ▸ hDistinct), List.forall₂_map_right_iff]
  exact h.imp fun _ _ hRead => hRead

/-- Every value without repeated names is read or refused as its entries are: one parameter for each
of them, or the fault of the first that is no pair. -/
theorem ofJson_reads_or_blames (v : Json) :
    (ofJson v = .error .notAList ↔ v.kind ≠ .array ∧ v.kind ≠ .object) ∧
      ∀ form es, entries? v = some (form, es) →
        ((∃ ps, ofJson v = .ok ps) ↔ ∀ e ∈ es, IsPair e.2) ∧
        (v.hasDistinctNames = true → ∀ ps, ofJson v = .ok ps →
          ps.form = form ∧ List.Forall₂ Holds es ps.items) ∧
        ∀ fault, ofJson v = .error fault ↔ ∃ before e after, es = before ++ e :: after ∧
          (∀ d ∈ before, IsPair d.2) ∧ Blames e.1 e.2 fault := by
  refine ⟨ofJson_eq_notAList_iff, fun form es hEntries => ?_⟩
  rw [ofJson_of_entries hEntries, ← exists_triplesOf_iff]
  simp only [← triplesOf_eq_error_iff]
  cases hRead : triplesOf es with
  | error fault => simp [Except.map]
  | ok ts =>
    have hReads := triplesOf_eq_ok_iff.mp hRead
    refine ⟨⟨fun _ => ⟨ts, rfl⟩, fun _ => ⟨_, rfl⟩⟩, ?_, ?_⟩
    · intro hDistinct ps hps
      cases hps
      cases v with
      | array vs =>
        cases hEntries
        exact ⟨rfl, holds_atPositions 0 hReads⟩
      | object ms =>
        cases hEntries
        exact ⟨rfl, holds_named (Json.hasDistinctNames_object_iff.mp hDistinct).1 hReads⟩
      | _ => cases hEntries
    · exact fun fault => ⟨nofun, nofun⟩

/-- An array whose second and third entries are no pairs. -/
def twoOffenders : Json :=
  .array [.array [.null, .string "a", .null], .array [.null, .nat 1], .null]

def onePair : Json := .object [("a", .array [.null, .bool true, .null])]

theorem ofJson_reads_or_blames_twoOffenders :
    ofJson twoOffenders = .error (.schema "params[1]" ⟨.number⟩) ∧
      onePair.hasDistinctNames = true ∧
      ∃ ps, ofJson onePair = .ok ps ∧ ps.form = .named ∧
        List.Forall₂ Holds [("a", .array [.null, .bool true, .null])] ps.items := by
  have hDistinct : onePair.hasDistinctNames = true := by decide
  obtain ⟨-, -, hError⟩ := (ofJson_reads_or_blames twoOffenders).2 .positional
    [("params[0]", .array [.null, .string "a", .null]), ("params[1]", .array [.null, .nat 1]),
      ("params[2]", .null)] rfl
  obtain ⟨hOk, hHolds, -⟩ := (ofJson_reads_or_blames onePair).2 .named
    [("a", .array [.null, .bool true, .null])] rfl
  refine ⟨(hError _).mpr ⟨[_], _, [_], rfl, ?_, .schema ?_⟩, hDistinct, ?_⟩
  · exact List.forall_mem_singleton.mpr ⟨_, _, [.null], rfl, .inr (.inr rfl)⟩
  · simp [Json.IsSchemaForm, Json.nat, Json.kind]
  · obtain ⟨ps, hps⟩ := hOk.mpr
      (List.forall_mem_singleton.mpr ⟨_, _, [.null], rfl, .inl rfl⟩)
    exact ⟨ps, hps, hHolds hDistinct ps hps⟩

end Parameters

end SchemaContract
