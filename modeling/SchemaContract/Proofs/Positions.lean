import Mathlib.Data.List.Induction
import SchemaContract.Proofs.Closing
import SchemaContract.Proofs.Ways

/-!
# Schema positions

Closing follows its keywords from the root of a schema, and a schema position is where it comes to
a value as a schema. It closes the open object schemas in schema positions, and leaves everything
else in place and as it is.
-/

namespace SchemaContract.Closing

open Json (Leads)

/-! ## Open object schemas -/

/-- An object schema, by its type or by the types in a list; where `type` is neither a text nor a
list, by any keyword about objects. -/
inductive DescribesObject (ms : List (String × Json)) : Prop where
  | type (h : Json.lookup "type" ms = some (.string "object"))
  | types {ts : List Json} (h : Json.lookup "type" ms = some (.array ts))
      (hObject : .string "object" ∈ ts)
  | keyword {k : String} (hType : ∀ t, Json.lookup "type" ms = some t →
      t.string? = none ∧ t.items? = none) (hk : k ∈ objectKeywords) (h : k ∈ ms.map (·.1))

/-- An object schema that says nothing about additional members. -/
def IsOpen (ms : List (String × Json)) : Prop :=
  DescribesObject ms ∧ "additionalProperties" ∉ ms.map (·.1)

theorem describesObject_iff {ms : List (String × Json)} :
    describesObject ms = true ↔ DescribesObject ms := by
  unfold describesObject
  split
  next t hType =>
    constructor
    · intro h
      rw [eq_of_beq h] at hType
      exact .type hType
    · rintro (h | ⟨h, -⟩ | ⟨hNone, -, -⟩)
      · cases hType.symm.trans h
        rfl
      · cases hType.symm.trans h
      · cases (hNone _ hType).1
  next ts hType =>
    have hAny : (ts.any fun t => t.string? == some "object") = true ↔ .string "object" ∈ ts := by
      rw [List.any_eq_true]
      constructor
      · rintro ⟨t, ht, hText⟩
        cases t <;> simp [Json.string?] at hText
        rwa [hText] at ht
      · intro h
        exact ⟨_, h, rfl⟩
    rw [hAny]
    constructor
    · intro h
      exact .types hType h
    · rintro (h | ⟨h, hObject⟩ | ⟨hNone, -, -⟩)
      · cases hType.symm.trans h
      · cases hType.symm.trans h
        exact hObject
      · cases (hNone _ hType).2
  next hText hList =>
    have hNone : ∀ t, Json.lookup "type" ms = some t → t.string? = none ∧ t.items? = none := by
      intro t ht
      cases t with
      | string t => exact absurd ht (hText t)
      | array ts => exact absurd ht (hList ts)
      | _ => exact ⟨rfl, rfl⟩
    simp only [List.any_eq_true, Json.hasMember_iff_mem]
    constructor
    · rintro ⟨k, hk, h⟩
      exact .keyword hNone hk h
    · rintro (h | ⟨h, -⟩ | ⟨-, hk, h⟩)
      · exact absurd h (hText _)
      · exact absurd h (hList _)
      · exact ⟨_, hk, h⟩

theorem isOpen_iff {ms : List (String × Json)} :
    IsOpen ms ↔ describesObject ms = true ∧ Json.hasMember "additionalProperties" ms = false := by
  rw [IsOpen, describesObject_iff, ← Bool.not_eq_true, Json.hasMember_iff_mem]

theorem closing_of_isOpen {ms : List (String × Json)} (h : IsOpen ms) :
    closing ms = [("additionalProperties", .bool false)] := by
  obtain ⟨hObject, hNone⟩ := isOpen_iff.mp h
  rw [closing, hObject, hNone]
  rfl

theorem closing_eq_nil_iff {ms : List (String × Json)} : closing ms = [] ↔ ¬ IsOpen ms := by
  constructor
  · intro hNone hOpen
    rw [closing_of_isOpen hOpen] at hNone
    cases hNone
  · intro hOpen
    rcases closing_eq ms with hNone | ⟨-, h⟩
    · exact hNone
    · exact absurd (isOpen_iff.mpr h) hOpen

/-! ## Roles along a way -/

/-- The role of what a step leads to from a value in a role. -/
def roleInside (r : Role) : Step → Role
  | .index _ => itemRole r
  | .member k => memberRole k r

theorem foldl_other (way : List Step) : way.foldl roleInside .other = .other := by
  induction way with
  | nil => rfl
  | cons step way ih => cases step <;> exact ih

theorem leads_close {r : Role} {v w : Json} {way : List Step} (h : v.Leads way w) :
    (close r v).Leads way (close (way.foldl roleInside r) w) := by
  induction h generalizing r with
  | here v => exact .here _
  | @item vs i v w way hItem _ ih =>
    rw [close_array]
    refine .item ?_ ih
    rw [List.getElem?_map, hItem]
    rfl
  | @member ms k v w way hMember _ ih =>
    rw [close_object]
    refine .member ?_ ih
    exact List.mem_append_left _ (List.mem_map.mpr ⟨(k, v), hMember, rfl⟩)

theorem leads_of_close {r : Role} {v w : Json} {way : List Step} (h : (close r v).Leads way w) :
    (∃ u, v.Leads way u ∧ w = close (way.foldl roleInside r) u) ∨ w = .bool false := by
  induction way generalizing r v with
  | nil => exact .inl ⟨v, .here v, (Json.leads_nil_iff.mp h).symm⟩
  | cons step way ih =>
    cases v with
    | array vs =>
      rw [close_array] at h
      cases h with
      | @item _ i _ _ _ hItem hRest =>
        rw [List.getElem?_map] at hItem
        obtain ⟨v, hv, rfl⟩ := Option.map_eq_some_iff.mp hItem
        exact (ih hRest).imp_left fun ⟨u, hu, hw⟩ => ⟨u, .item hv hu, hw⟩
    | object ms =>
      rw [close_object] at h
      cases h with
      | @member _ k _ _ _ hMember hRest =>
        rcases List.mem_append.mp hMember with hMember | hAdded
        · obtain ⟨m, hm, hEq⟩ := List.mem_map.mp hMember
          cases hEq
          exact (ih hRest).imp_left fun ⟨u, hu, hw⟩ => ⟨u, .member hm hu, hw⟩
        · -- The member that closes holds a scalar, so that no step leads on from it.
          rcases added_eq ms r with hNone | ⟨hOne, -⟩
          · rw [hNone] at hAdded
            cases hAdded
          · rw [hOne, List.mem_singleton] at hAdded
            cases hAdded
            exact .inr (hRest.eq_nil rfl rfl).2.symm
    | _ =>
      rw [close_scalar r rfl rfl] at h
      cases (h.eq_nil rfl rfl).1

/-! ## Positions -/

/-- The ways from the root of a schema to its schema positions. A step by index leads into an array,
one by name into an object. -/
inductive IsPosition : List Step → Prop where
  | root : IsPosition []
  | item {way : List Step} (h : IsPosition way) (i : Nat) : IsPosition (way ++ [.index i])
  | single {way : List Step} {k : String} (h : IsPosition way) (hk : k ∈ singleKeywords) :
      IsPosition (way ++ [.member k])
  | named {way : List Step} {k : String} (h : IsPosition way) (hk : k ∈ mapKeywords)
      (name : String) : IsPosition (way ++ [.member k, .member name])
  | listed {way : List Step} {k : String} (h : IsPosition way) (hk : k ∈ listKeywords) (i : Nat) :
      IsPosition (way ++ [.member k, .index i])

theorem role_of_mem_mapKeywords {k : String} (h : k ∈ mapKeywords) : role k = .map := by
  revert k
  decide

theorem role_of_mem_singleKeywords {k : String} (h : k ∈ singleKeywords) :
    role k = .schemaOrList := by
  revert k
  decide

theorem role_of_mem_listKeywords {k : String} (h : k ∈ listKeywords) : role k = .list := by
  revert k
  decide

/-- The roles of the values that closing comes to, by the ways to them. -/
inductive Stands : List Step → Role → Prop where
  | position {way : List Step} (h : IsPosition way) : Stands way .schemaOrList
  | map {way : List Step} {k : String} (h : IsPosition way) (hk : k ∈ mapKeywords) :
      Stands (way ++ [.member k]) .map
  | list {way : List Step} {k : String} (h : IsPosition way) (hk : k ∈ listKeywords) :
      Stands (way ++ [.member k]) .list
  | other (way : List Step) : Stands way .other

theorem role_of_not_mem {k : String} (hMap : k ∉ mapKeywords) (hSingle : k ∉ singleKeywords)
    (hList : k ∉ listKeywords) : role k = .other := by
  simp [role, hMap, hSingle, hList]

theorem IsPosition.stands_keyword {way : List Step} (h : IsPosition way) (k : String) :
    Stands (way ++ [.member k]) (role k) := by
  by_cases hMap : k ∈ mapKeywords
  · rw [role_of_mem_mapKeywords hMap]
    exact .map h hMap
  by_cases hSingle : k ∈ singleKeywords
  · rw [role_of_mem_singleKeywords hSingle]
    exact .position (h.single hSingle)
  by_cases hList : k ∈ listKeywords
  · rw [role_of_mem_listKeywords hList]
    exact .list h hList
  · rw [role_of_not_mem hMap hSingle hList]
    exact .other _

theorem Stands.step {way : List Step} {r : Role} (h : Stands way r) (step : Step) :
    Stands (way ++ [step]) (roleInside r step) := by
  cases h with
  | position h =>
    cases step with
    | index i => exact .position (h.item i)
    | member k => exact h.stands_keyword k
  | map h hk =>
    cases step with
    | index i => exact .other _
    | member name =>
      rw [List.append_assoc]
      exact .position (h.named hk name)
  | list h hk =>
    cases step with
    | index i =>
      rw [List.append_assoc]
      exact .position (h.listed hk i)
    | member name => exact .other _
  | other => cases step <;> exact .other _

theorem stands_foldl (way : List Step) : Stands way (way.foldl roleInside .schemaOrList) := by
  -- Positions grow at their ends, while closing takes the steps from the root.
  induction way using List.reverseRecOn with
  | nil => exact .position .root
  | append_singleton way step ih =>
    rw [List.foldl_append]
    exact ih.step step

theorem isPosition_iff {way : List Step} :
    IsPosition way ↔ way.foldl roleInside .schemaOrList = .schemaOrList := by
  constructor
  · intro h
    induction h with
    | root => rfl
    | item h i ih => simp [ih, roleInside, itemRole]
    | single h hk ih => simp [ih, roleInside, memberRole, role_of_mem_singleKeywords hk]
    | named h hk name ih => simp [ih, roleInside, memberRole, role_of_mem_mapKeywords hk]
    | listed h hk i ih => simp [ih, roleInside, memberRole, itemRole, role_of_mem_listKeywords hk]
  · intro hRole
    have hStands := stands_foldl way
    rw [hRole] at hStands
    cases hStands with
    | position h => exact h

theorem foldl_keyword {way : List Step} (h : IsPosition way) (k : String) (after : List Step) :
    (way ++ .member k :: after).foldl roleInside .schemaOrList =
      after.foldl roleInside (role k) := by
  rw [List.foldl_append, isPosition_iff.mp h]
  rfl

theorem foldl_keyword_other {way : List Step} (h : IsPosition way) {k : String}
    (hk : role k = .other) (after : List Step) :
    (way ++ .member k :: after).foldl roleInside .schemaOrList = .other := by
  rw [foldl_keyword h, hk]
  exact foldl_other after

theorem added_of_isPosition {way : List Step} (h : IsPosition way) (ms : List (String × Json)) :
    added ms (way.foldl roleInside .schemaOrList) = closing ms := by
  rw [isPosition_iff.mp h]
  rfl

theorem added_of_not_isPosition {way : List Step} (h : ¬ IsPosition way)
    (ms : List (String × Json)) : added ms (way.foldl roleInside .schemaOrList) = [] := by
  have hStands := stands_foldl way
  generalize way.foldl roleInside .schemaOrList = r at hStands ⊢
  cases hStands with
  | position hPosition => exact absurd hPosition h
  | _ => rfl

end SchemaContract.Closing
