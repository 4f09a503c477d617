import SchemaContract.Json

/-!
# Values inside values

Induction on a value by its items and members, the references inside a value, and values without
repeated names.
-/

namespace SchemaContract.Json

theorem lookup_isSome_iff {k : String} {ms : List (String × Json)} :
    (lookup k ms).isSome = true ↔ hasMember k ms = true := by
  simp [lookup, hasMember]

theorem hasMember_iff {k : String} {ms : List (String × Json)} :
    hasMember k ms = true ↔ ∃ m ∈ ms, m.1 = k := by
  simp [hasMember]

theorem hasMember_iff_mem {k : String} {ms : List (String × Json)} :
    hasMember k ms = true ↔ k ∈ ms.map (·.1) := by
  rw [hasMember_iff, List.mem_map]

theorem sizeOf_member_lt {m : String × Json} {ms : List (String × Json)} (h : m ∈ ms) :
    sizeOf m.2 < sizeOf (Json.object ms) := by
  have hMember := List.sizeOf_lt_of_mem h
  obtain ⟨k, v⟩ := m
  simp only [Prod.mk.sizeOf_spec, object.sizeOf_spec] at hMember ⊢
  omega

theorem sizeOf_item_lt {v : Json} {vs : List Json} (h : v ∈ vs) :
    sizeOf v < sizeOf (Json.array vs) := by
  have hItem := List.sizeOf_lt_of_mem h
  simp only [array.sizeOf_spec]
  omega

@[elab_as_elim]
theorem inductionOn {motive : Json → Prop} (v : Json)
    (scalar : ∀ v : Json, v.items? = none → v.members? = none → motive v)
    (array : ∀ vs, (∀ v ∈ vs, motive v) → motive (.array vs))
    (object : ∀ ms, (∀ m ∈ ms, motive m.2) → motive (.object ms)) : motive v := by
  match v with
  | .array vs =>
    refine array vs fun w hw => ?_
    exact inductionOn w scalar array object
  | .object ms =>
    refine object ms fun m hm => ?_
    exact inductionOn m.2 scalar array object
  | .null | .bool _ | .number _ | .string _ => exact scalar _ rfl rfl
termination_by sizeOf v
decreasing_by
  · exact sizeOf_item_lt hw
  · exact sizeOf_member_lt hm

/-! ## References -/

def referenceKeywords : List String := ["$ref", "$dynamicRef", "$recursiveRef"]

def reference? (keyword : String) (v : Json) : Option (String × String) :=
  if referenceKeywords.contains keyword then v.string?.map (keyword, ·) else none

mutual

/-- The references inside a value, with their keywords. -/
def references : Json → List (String × String)
  | .array vs => referencesOfItems vs
  | .object ms => referencesOfMembers ms
  | _ => []

def referencesOfItems : List Json → List (String × String)
  | [] => []
  | v :: vs => references v ++ referencesOfItems vs

def referencesOfMembers : List (String × Json) → List (String × String)
  | [] => []
  | (k, v) :: ms => (reference? k v).toList ++ references v ++ referencesOfMembers ms

end

theorem mem_references_array {vs : List Json} {e : String × String} :
    e ∈ references (.array vs) ↔ ∃ v ∈ vs, e ∈ references v := by
  rw [references]
  induction vs with
  | nil => simp [referencesOfItems]
  | cons v vs ih => simp [referencesOfItems, ih]

theorem mem_references_object {ms : List (String × Json)} {e : String × String} :
    e ∈ references (.object ms) ↔
      ∃ m ∈ ms, reference? m.1 m.2 = some e ∨ e ∈ references m.2 := by
  rw [references]
  induction ms with
  | nil => simp [referencesOfMembers]
  | cons m ms ih => simp [referencesOfMembers, ih, or_assoc]

/-! ## Names -/

mutual

/-- Whether no object inside has two members of one name. -/
def hasDistinctNames : Json → Bool
  | .array vs => haveDistinctNames vs
  | .object ms => decide (ms.map (·.1)).Nodup && membersHaveDistinctNames ms
  | _ => true

def haveDistinctNames : List Json → Bool
  | [] => true
  | v :: vs => hasDistinctNames v && haveDistinctNames vs

def membersHaveDistinctNames : List (String × Json) → Bool
  | [] => true
  | (_, v) :: ms => hasDistinctNames v && membersHaveDistinctNames ms

end

theorem hasDistinctNames_array_iff {vs : List Json} :
    hasDistinctNames (.array vs) = true ↔ ∀ v ∈ vs, hasDistinctNames v = true := by
  rw [hasDistinctNames]
  induction vs with
  | nil => simp [haveDistinctNames]
  | cons v vs ih => simp [haveDistinctNames, ih]

theorem hasDistinctNames_object_iff {ms : List (String × Json)} :
    hasDistinctNames (.object ms) = true ↔
      (ms.map (·.1)).Nodup ∧ ∀ m ∈ ms, hasDistinctNames m.2 = true := by
  have hEach : membersHaveDistinctNames ms = true ↔ ∀ m ∈ ms, hasDistinctNames m.2 = true := by
    induction ms with
    | nil => simp [membersHaveDistinctNames]
    | cons m ms ih => simp [membersHaveDistinctNames, ih]
  rw [hasDistinctNames, Bool.and_eq_true, decide_eq_true_eq, hEach]

end SchemaContract.Json
