import SchemaContract.Proofs.Lists
import SchemaContract.Proofs.Precedence

/-!
# Contracts with their meaning

Resolving a contract keeps its shape: each parameter gets its own meaning at its own place, and the
result gets one exactly where it has a schema. Where that is not possible there is a line for each
schema without a meaning, those of the parameters in their order and that of the result last.
-/

namespace SchemaContract

namespace Registry

instance (r : Registry) (s : Schema) : Decidable (r.Resolves s) :=
  decidable_of_iff ((r.resolve s).toOption.isSome = true) (by
    cases h : r.resolve s <;> simp [Resolves, h, Except.toOption])

theorem not_resolves_iff (r : Registry) (s : Schema) :
    ¬ r.Resolves s ↔ ∃ fault, r.resolve s = .error fault := by
  cases h : r.resolve s <;> simp [Resolves, h]

theorem resolve_eq_unknownReference_iff (r : Registry) (s : Schema) (name : String) :
    r.resolve s = .error (.unknownReference name) ↔ s = .reference name ∧ r.has name = false := by
  cases s with
  | accept => simp [resolve]
  | reject => simp [resolve]
  | definition members =>
    cases h : Compiled.compile r.config "schema" (.object members) <;> simp [resolve, h]
  | reference other =>
    rw [has_eq_isSome, Schema.reference.injEq]
    constructor
    · intro hUnknown
      cases h : r.get? other with
      | none =>
        rw [resolve, h] at hUnknown
        cases hUnknown
        exact ⟨rfl, by rw [h]; rfl⟩
      | some c =>
        rw [resolve, h] at hUnknown
        cases hUnknown
    · rintro ⟨rfl, hNone⟩
      rw [resolve, Option.isSome_eq_false_iff.mp hNone |> Option.isNone_iff_eq_none.mp]

end Registry

namespace Contract

/-- The meaning of a contract: one for each parameter, and one for the result if it has a schema. -/
structure Means (r : Registry) (c : Contract) (m : ResolvedContract) : Prop where
  parameters :
    List.Forall₂ (fun p s => r.resolve p.schema = .ok s) c.parameters.items m.parameters
  result : Option.Rel (fun s t => r.resolve s = .ok t) c.result m.result

/-- The line about a schema without a meaning, which stands at a location. -/
def Blames (r : Registry) (location : String) (s : Schema) (line : String) : Prop :=
  ∃ fault, r.resolve s = .error fault ∧
    line = "Invalid schema for \"" ++ location ++ "\": " ++ fault.message

/-- The lines about the schemas without a meaning, in their order. -/
def BlamesInOrder (r : Registry) (c : Contract) (lines : List String) : Prop :=
  ∃ ofParameters ofResult, lines = ofParameters ++ ofResult ∧
    List.Forall₂ (fun p line => Blames r p.name p.schema line)
      (c.parameters.items.filter fun p => ¬ r.Resolves p.schema) ofParameters ∧
    List.Forall₂ (Blames r (match c.mode with | .sync => "return" | .async => "resolve"))
      (c.result.toList.filter fun s => ¬ r.Resolves s) ofResult

variable {r : Registry} {c : Contract}

theorem unresolved_eq_nil_iff_of_resolve (r : Registry) (c : Contract) :
    c.unresolved r = [] ↔
      ∀ s, c.Declares s → ∀ name, r.resolve s ≠ .error (.unknownReference name) := by
  rw [unresolved_eq_nil_iff]
  constructor
  · intro h s hs name hUnknown
    obtain ⟨rfl, hMissing⟩ := (r.resolve_eq_unknownReference_iff s name).mp hUnknown
    rw [h name hs] at hMissing
    cases hMissing
  · intro h name hs
    by_contra hMissing
    exact h _ hs name ((r.resolve_eq_unknownReference_iff _ name).mpr
      ⟨rfl, by simpa using hMissing⟩)

/-! ## The meaning -/

theorem Means.resolves {m : ResolvedContract} (h : c.Means r m) :
    ∀ s, c.Declares s → r.Resolves s := by
  rintro s (⟨p, hp, rfl⟩ | hs)
  · obtain ⟨t, -, ht⟩ := exists_of_forall₂ h.parameters p hp
    exact ⟨t, ht⟩
  · obtain ⟨parameters, result⟩ := m
    have hResult : Option.Rel _ c.result result := h.result
    rw [hs] at hResult
    cases hResult with
    | some ht => exact ⟨_, ht⟩

theorem Means.eq {m : ResolvedContract} (h : c.Means r m) :
    m = ⟨c.parameters.items.filterMap fun p => (r.resolve p.schema).toOption,
      c.resolvedResult r⟩ := by
  obtain ⟨ps, declared, mode⟩ := c
  obtain ⟨parameters, result⟩ := m
  obtain ⟨hParameters, hResult⟩ := h
  have hEach := filterMap_eq_of_forall₂
    (f := fun p : Parameter => (r.resolve p.schema).toOption) (g := some)
    (fun p s hs => by rw [hs]; rfl) hParameters
  rw [List.filterMap_some] at hEach
  have hOne : result = resolvedResult r ⟨ps, declared, mode⟩ := by
    cases hResult with
    | none => rfl
    | some ht =>
      rw [resolvedResult, Option.bind_some, ht]
      rfl
  exact congrArg₂ ResolvedContract.mk hEach hOne

theorem means_of_resolves (h : ∀ s, c.Declares s → r.Resolves s) :
    c.Means r ⟨c.parameters.items.filterMap fun p => (r.resolve p.schema).toOption,
      c.resolvedResult r⟩ := by
  constructor
  · exact filterMap_toOption fun p hp => h p.schema (.inl ⟨p, hp, rfl⟩)
  · rw [resolvedResult]
    cases hs : c.result with
    | none => exact .none
    | some s =>
      obtain ⟨t, ht⟩ := h s (.inr hs)
      rw [Option.bind_some, ht]
      exact .some ht

theorem resolve_eq_ok_iff (r : Registry) (c : Contract) (m : ResolvedContract) :
    c.resolve r = .ok m ↔ c.Means r m := by
  rw [resolve]
  constructor
  · intro h
    split at h
    next hEmpty =>
      have hAll := (invalid_eq_nil_iff r c).mp (List.isEmpty_iff.mp hEmpty)
      cases h
      exact means_of_resolves hAll
    next => cases h
  · intro h
    have hNone : c.invalid r = [] := (invalid_eq_nil_iff r c).mpr h.resolves
    rw [if_pos (List.isEmpty_iff.mpr hNone), h.eq]
    rfl

theorem Means.zip {m : ResolvedContract} (h : c.Means r m) :
    (c.parameters.items.zip m.parameters).map Prod.fst = c.parameters.items ∧
      (c.parameters.items.zip m.parameters).map Prod.snd = m.parameters := by
  have hLength := h.parameters.length_eq
  constructor
  · exact List.map_fst_zip (Nat.le_of_eq hLength)
  · exact List.map_snd_zip (Nat.le_of_eq hLength.symm)

/-! ## The lines -/

/-- The line about a schema, if it has no meaning. -/
def faultLine? (r : Registry) (location : String) (s : Schema) : Option String :=
  match r.resolve s with
  | .ok _ => none
  | .error fault => some (invalidLine location fault)

theorem faultLine?_eq_some_iff (r : Registry) (location : String) (s : Schema) (line : String) :
    faultLine? r location s = some line ↔ Blames r location s line := by
  simp only [faultLine?, Blames, invalidLine_eq]
  cases r.resolve s with
  | ok =>
    constructor
    · intro h
      cases h
    · rintro ⟨fault, hFault, -⟩
      cases hFault
  | error fault =>
    constructor
    · intro h
      exact ⟨fault, rfl, (Option.some.inj h).symm⟩
    · rintro ⟨_, hFault, rfl⟩
      cases hFault
      rfl

theorem not_resolves_iff_faultLine? (r : Registry) (location : String) (s : Schema) :
    ¬ r.Resolves s ↔ ∃ line, faultLine? r location s = some line := by
  rw [r.not_resolves_iff, faultLine?]
  cases r.resolve s <;> simp

theorem invalid_eq_inOrder (r : Registry) (c : Contract) :
    c.invalid r = c.parameters.items.filterMap (fun p => faultLine? r p.name p.schema) ++
      c.result.toList.filterMap (faultLine? r c.mode.location) := by
  have hResult : c.result.toList.filterMap (faultLine? r c.mode.location) =
      (c.result.bind (faultLine? r c.mode.location)).toList := by
    cases hs : c.result with
    | none => rfl
    | some s =>
      rw [Option.toList_some, Option.bind_some, List.filterMap_cons, List.filterMap_nil]
      cases faultLine? r c.mode.location s <;> rfl
  rw [hResult, ← inOrder_eq]
  exact filterMap_schemas (faultLine? r) c

theorem blamesInOrder_iff (r : Registry) (c : Contract) (lines : List String) :
    c.BlamesInOrder r lines ↔ lines = c.invalid r := by
  have hParameters := filterMap_eq_iff_forall₂
    (fun p : Parameter => not_resolves_iff_faultLine? r p.name p.schema) c.parameters.items
  have hResult := filterMap_eq_iff_forall₂
    (not_resolves_iff_faultLine? r c.mode.location) c.result.toList
  simp only [faultLine?_eq_some_iff] at hParameters hResult
  have hPlace : (match c.mode with | .sync => "return" | .async => "resolve") =
      c.mode.location := by cases c.mode <;> rfl
  rw [invalid_eq_inOrder, BlamesInOrder, hPlace]
  constructor
  · rintro ⟨ofParameters, ofResult, rfl, hFirst, hLast⟩
    rw [(hParameters ofParameters).mpr hFirst, (hResult ofResult).mpr hLast]
  · rintro rfl
    exact ⟨_, _, rfl, (hParameters _).mp rfl, (hResult _).mp rfl⟩

theorem resolve_eq_error_iff (r : Registry) (c : Contract) (lines : List String) :
    c.resolve r = .error lines ↔ lines ≠ [] ∧ c.BlamesInOrder r lines := by
  rw [blamesInOrder_iff, resolve]
  split
  next hEmpty =>
    rw [List.isEmpty_iff.mp hEmpty]
    constructor
    · intro h
      cases h
    · rintro ⟨hSome, hNone⟩
      exact absurd hNone hSome
  next hSome =>
    rw [Except.error.injEq, eq_comm]
    constructor
    · rintro rfl
      exact ⟨fun hNone => hSome (List.isEmpty_iff.mpr hNone), rfl⟩
    · exact fun h => h.2

/-- References are missing exactly where the registry answers so, a resolved contract has its
meanings side by side with its schemas, and an unresolved one has a line for each schema without a
meaning. -/
theorem resolve_keeps_places (r : Registry) (c : Contract) :
    (c.unresolved r = [] ↔
      ∀ s, c.Declares s → ∀ name, r.resolve s ≠ .error (.unknownReference name)) ∧
    (∀ m, c.resolve r = .ok m ↔ c.Means r m) ∧
    (∀ m, c.resolve r = .ok m →
      (c.parameters.items.zip m.parameters).map Prod.fst = c.parameters.items ∧
      (c.parameters.items.zip m.parameters).map Prod.snd = m.parameters ∧
      rejected c.parameters.items m.parameters = c.refused r) ∧
    ∀ lines, c.resolve r = .error lines ↔ lines ≠ [] ∧ c.BlamesInOrder r lines := by
  refine ⟨unresolved_eq_nil_iff_of_resolve r c, resolve_eq_ok_iff r c, ?_, resolve_eq_error_iff r c⟩
  intro m h
  have hMeans := (resolve_eq_ok_iff r c m).mp h
  obtain ⟨hFirst, hSecond⟩ := hMeans.zip
  exact ⟨hFirst, hSecond, rejected_eq hMeans.parameters⟩

def acceptAndReject : Contract :=
  ⟨.named [("first", .null, .accept), ("second", .null, .reject)], some .accept, .sync⟩

/-- The two parameters have the two meanings in their order. -/
theorem resolve_keeps_places_acceptAndReject : ∃ m,
    acceptAndReject.resolve ⟨Config.standard, []⟩ = .ok m ∧ m.parameters = [.accept, .reject] ∧
      (acceptAndReject.parameters.items.zip m.parameters).map Prod.snd = m.parameters := by
  have hResolve : acceptAndReject.resolve ⟨Config.standard, []⟩ =
      .ok ⟨[.accept, .reject], some .accept⟩ := rfl
  obtain ⟨-, hSecond, -⟩ :=
    (resolve_keeps_places ⟨Config.standard, []⟩ acceptAndReject).2.2.1 _ hResolve
  exact ⟨_, hResolve, rfl, hSecond⟩

end Contract

end SchemaContract
