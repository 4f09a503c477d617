import Mathlib.Data.List.Forall2
import SchemaContract.Contract.Call

/-!
# The schemas of a contract and their meanings

What the stages before a call find, said schema by schema. References and definitions are looked at
by separate walks over the contract; here they come down to one question, whether each declared
schema resolves. A contract without any such problem resolves position by position, so that each
argument is checked by the schema of its own parameter.
-/

namespace SchemaContract

namespace Resolved

def accepts : Resolved → Json → Bool
  | .accept, _ => true
  | .reject, _ => false
  | .compiled c, v => c.accepts v

def acceptsAbsence : Resolved → Bool
  | .accept => true
  | .reject => false
  | .compiled c => c.source.absence?.isNone

theorem check_eq_none_iff (s : Resolved) (label : String) (v : Json) :
    s.check label v = none ↔ s.accepts v = true := by
  cases s with
  | accept => simp [check, accepts]
  | reject => simp [check, accepts]
  | compiled c => exact c.check_eq_none_iff label v

theorem checkAbsent_eq_none_iff (s : Resolved) (label : String) :
    s.checkAbsent label = none ↔ s.acceptsAbsence = true := by
  cases s <;> simp [checkAbsent, acceptsAbsence, Compiled.checkAbsent]

end Resolved

namespace Registry

/-- What a schema means in the registry: a reference means what is registered under its name, a
definition what it compiles to. -/
inductive Means (r : Registry) : Schema → Resolved → Prop where
  | accept : Means r .accept .accept
  | reject : Means r .reject .reject
  | reference {name : String} {c : Compiled} (h : r.get? name = some c) :
      Means r (.reference name) (.compiled c)
  | definition {members : List (String × Json)} {c : Compiled}
      (h : Compiled.compile r.config "schema" (.object members) = .ok c) :
      Means r (.definition members) (.compiled c)

theorem resolve_eq_ok_iff {r : Registry} {s : Schema} {m : Resolved} :
    r.resolve s = .ok m ↔ r.Means s m := by
  constructor
  · intro h
    cases s with
    | accept =>
      cases h
      exact .accept
    | reject =>
      cases h
      exact .reject
    | reference name =>
      cases hGet : r.get? name with
      | none =>
        rw [resolve, hGet] at h
        cases h
      | some c =>
        rw [resolve, hGet] at h
        cases h
        exact .reference hGet
    | definition members =>
      cases hCompile : Compiled.compile r.config "schema" (.object members) with
      | error message =>
        rw [resolve, hCompile] at h
        cases h
      | ok c =>
        rw [resolve, hCompile] at h
        cases h
        exact .definition hCompile
  · rintro (_ | _ | h | h)
    · rfl
    · rfl
    · rw [resolve, h]
    · rw [resolve, h]

/-- Whether a schema has a meaning in the registry. -/
def Resolves (r : Registry) (s : Schema) : Prop := ∃ m, r.resolve s = .ok m

theorem resolves_accept (r : Registry) : r.Resolves .accept := ⟨.accept, rfl⟩

theorem resolves_reject (r : Registry) : r.Resolves .reject := ⟨.reject, rfl⟩

theorem resolves_reference_iff (r : Registry) (name : String) :
    r.Resolves (.reference name) ↔ r.has name = true := by
  rw [has_eq_isSome]
  cases h : r.get? name <;> simp [Resolves, resolve, h]

theorem resolves_definition_iff (r : Registry) (members : List (String × Json)) :
    r.Resolves (.definition members) ↔
      ∃ c, Compiled.compile r.config "schema" (.object members) = .ok c := by
  cases h : Compiled.compile r.config "schema" (.object members) <;> simp [Resolves, resolve, h]

theorem check_of_resolve {r : Registry} {s : Schema} {m : Resolved} (h : r.resolve s = .ok m)
    (label : String) (v : Json) : r.check label s v = m.check label v := by
  simp [check, h]

theorem check_eq_none_iff (r : Registry) (label : String) (s : Schema) (v : Json) :
    r.check label s v = none ↔ ∃ m, r.Means s m ∧ m.accepts v = true := by
  simp only [← resolve_eq_ok_iff]
  cases h : r.resolve s with
  | ok m => simp [check, h, Resolved.check_eq_none_iff]
  | error fault => simp [check, h]

end Registry

namespace Contract

/-- Whether a schema stands in the contract, at a parameter or as that of the result. -/
def Declares (c : Contract) (s : Schema) : Prop :=
  (∃ p ∈ c.parameters.items, p.schema = s) ∨ c.result = some s

theorem exists_mem_schemas_iff (c : Contract) (s : Schema) :
    (∃ location, (location, s) ∈ c.schemas) ↔ c.Declares s := by
  simp only [schemas, List.mem_append, List.mem_map, Option.mem_toList,
    Option.map_eq_some_iff, Prod.mk.injEq, Declares]
  constructor
  · rintro ⟨location, ⟨p, hp, -, hs⟩ | ⟨t, ht, -, hs⟩⟩
    · exact .inl ⟨p, hp, hs⟩
    · exact .inr (hs ▸ ht)
  · rintro (⟨p, hp, hs⟩ | hs)
    · exact ⟨p.name, .inl ⟨p, hp, rfl, hs⟩⟩
    · exact ⟨c.mode.location, .inr ⟨s, hs, rfl, rfl⟩⟩

theorem forall_mem_schemas_iff (c : Contract) (P : Schema → Prop) :
    (∀ e ∈ c.schemas, P e.2) ↔ ∀ s, c.Declares s → P s := by
  constructor
  · intro h s hs
    obtain ⟨location, hmem⟩ := (c.exists_mem_schemas_iff s).mpr hs
    exact h (location, s) hmem
  · intro h e he
    exact h e.2 ((c.exists_mem_schemas_iff e.2).mp ⟨e.1, he⟩)

theorem unresolved_eq_nil_iff (r : Registry) (c : Contract) :
    c.unresolved r = [] ↔ ∀ name, c.Declares (.reference name) → r.has name = true := by
  have hrefs : (∀ s, c.Declares s → ∀ name, s = .reference name → r.has name = true) ↔
      ∀ name, c.Declares (.reference name) → r.has name = true :=
    ⟨fun h name hs => h _ hs name rfl, fun h s hs name he => h name (he ▸ hs)⟩
  rw [← hrefs, ← c.forall_mem_schemas_iff, unresolved, List.filterMap_eq_nil_iff]
  refine forall_congr' fun e => forall_congr' fun _ => ?_
  obtain ⟨location, s⟩ := e
  cases s <;> simp [Schema.reference?]

theorem invalid_eq_nil_iff (r : Registry) (c : Contract) :
    c.invalid r = [] ↔ ∀ s, c.Declares s → r.Resolves s := by
  rw [← c.forall_mem_schemas_iff, invalid, List.filterMap_eq_nil_iff]
  refine forall_congr' fun e => forall_congr' fun _ => ?_
  obtain ⟨location, s⟩ := e
  cases h : r.resolve s <;> simp [Registry.Resolves, h]

theorem forall_resolves_iff (r : Registry) (c : Contract) :
    (∀ s, c.Declares s → r.Resolves s) ↔
      (∀ name, c.Declares (.reference name) → r.has name = true) ∧
      ∀ members, c.Declares (.definition members) →
        ∃ d, Compiled.compile r.config "schema" (.object members) = .ok d := by
  constructor
  · intro h
    exact ⟨fun name hs => (r.resolves_reference_iff name).mp (h _ hs),
      fun members hs => (r.resolves_definition_iff members).mp (h _ hs)⟩
  · rintro ⟨hrefs, hdefs⟩ s hs
    cases s with
    | accept => exact r.resolves_accept
    | reject => exact r.resolves_reject
    | definition members => exact (r.resolves_definition_iff members).mpr (hdefs members hs)
    | reference name => exact (r.resolves_reference_iff name).mpr (hrefs name hs)

/-- The meaning of the schema of the result, if there is one. -/
def resolvedResult (r : Registry) (c : Contract) : Option Resolved :=
  c.result.bind fun s => (r.resolve s).toOption

/-- One line for each argument that the registry refuses. -/
def refused (r : Registry) (c : Contract) : List String :=
  c.parameters.items.filterMap fun p => r.check p.label p.schema p.value

theorem filterMap_toOption {r : Registry} {ps : List Parameter}
    (h : ∀ p ∈ ps, r.Resolves p.schema) :
    List.Forall₂ (fun p m => r.resolve p.schema = .ok m) ps
      (ps.filterMap fun p => (r.resolve p.schema).toOption) := by
  induction ps with
  | nil => exact .nil
  | cons p ps ih =>
    obtain ⟨m, hm⟩ := h p List.mem_cons_self
    have hp : (r.resolve p.schema).toOption = some m := by rw [hm]; rfl
    simp only [List.filterMap_cons, hp]
    exact .cons hm (ih fun q hq => h q (List.mem_cons_of_mem p hq))

/-- The pairs of parameters and meanings neither drop nor shift a parameter. -/
theorem rejected_eq {r : Registry} {ps : List Parameter} {ms : List Resolved}
    (h : List.Forall₂ (fun p m => r.resolve p.schema = .ok m) ps ms) :
    rejected ps ms = ps.filterMap fun p => r.check p.label p.schema p.value := by
  induction h with
  | nil => rfl
  | cons hm _ ih =>
    rw [rejected] at ih ⊢
    rw [List.zip_cons_cons, List.filterMap_cons, List.filterMap_cons, ih]
    simp only [Registry.check_of_resolve hm]

theorem checkArguments_eq (r : Registry) (c : Contract) :
    c.checkArguments r =
      if c.unresolved r ≠ [] then .error (.problems .referenceResolution (c.unresolved r))
      else if c.invalid r ≠ [] then .error (.problems .invalidSchema (c.invalid r))
      else if c.refused r ≠ [] then .error (.problems .parameterValidation (c.refused r))
      else .ok (c.resolvedResult r) := by
  rw [checkArguments]
  by_cases hu : c.unresolved r = []
  · by_cases hi : c.invalid r = []
    · have hall := (invalid_eq_nil_iff r c).mp hi
      have hlines : rejected c.parameters.items
          (c.parameters.items.filterMap fun p => (r.resolve p.schema).toOption) = c.refused r :=
        rejected_eq (filterMap_toOption fun p hp => hall p.schema (.inl ⟨p, hp, rfl⟩))
      by_cases hr : c.refused r = [] <;> simp [hu, hi, resolve, hlines, hr, resolvedResult]
    · simp [hu, hi, resolve]
  · simp [hu]

theorem refused_eq_nil_iff (r : Registry) (c : Contract) :
    c.refused r = [] ↔
      ∀ p ∈ c.parameters.items, ∃ m, r.Means p.schema m ∧ m.accepts p.value = true := by
  rw [refused, List.filterMap_eq_nil_iff]
  exact forall_congr' fun p => forall_congr' fun _ => r.check_eq_none_iff p.label p.schema p.value

/-- What has to hold before the function is called. -/
structure Passes (r : Registry) (c : Contract) : Prop where
  references : ∀ name, c.Declares (.reference name) → r.has name = true
  definitions : ∀ members, c.Declares (.definition members) →
    ∃ d, Compiled.compile r.config "schema" (.object members) = .ok d
  arguments : ∀ p ∈ c.parameters.items, ∃ m, r.Means p.schema m ∧ m.accepts p.value = true

theorem passes_iff (r : Registry) (c : Contract) :
    c.Passes r ↔ c.unresolved r = [] ∧ c.invalid r = [] ∧ c.refused r = [] := by
  rw [unresolved_eq_nil_iff, invalid_eq_nil_iff, refused_eq_nil_iff, forall_resolves_iff]
  exact ⟨fun h => ⟨h.references, ⟨h.references, h.definitions⟩, h.arguments⟩,
    fun ⟨hrefs, hdefs, hargs⟩ => ⟨hrefs, hdefs.2, hargs⟩⟩

instance (r : Registry) (c : Contract) : Decidable (c.Passes r) :=
  decidable_of_iff _ (passes_iff r c).symm

theorem Passes.resolves {r : Registry} {c : Contract} (h : c.Passes r) {s : Schema}
    (hs : c.Declares s) : r.Resolves s :=
  (forall_resolves_iff r c).mpr ⟨h.references, h.definitions⟩ s hs

theorem checkArguments_of_passes {r : Registry} {c : Contract} (h : c.Passes r) :
    c.checkArguments r = .ok (c.resolvedResult r) := by
  obtain ⟨hu, hi, hr⟩ := (passes_iff r c).mp h
  simp [checkArguments_eq, hu, hi, hr]

theorem checkArguments_of_not_passes {r : Registry} {c : Contract} (h : ¬ c.Passes r) :
    ∃ e, c.checkArguments r = .error e := by
  rw [checkArguments_eq]
  split_ifs with hu hi hr
  · exact ⟨_, rfl⟩
  · exact ⟨_, rfl⟩
  · exact ⟨_, rfl⟩
  · exact absurd ((passes_iff r c).mpr ⟨by simpa using hu, by simpa using hi, by simpa using hr⟩) h

end Contract

end SchemaContract
