import Mathlib.Algebra.GroupWithZero.Nat
import Mathlib.Data.List.Forall2
import SchemaContract.Closing
import SchemaContract.Proofs.Values

/-!
# The closed form member by member

The closed form of an object keeps its members in their order, each closed in its own role, and adds
at most one member behind them.
-/

namespace SchemaContract.Closing

theorem closeKeywords_eq_map (ms : List (String × Json)) :
    closeKeywords ms = ms.map fun m => (m.1, close (role m.1) m.2) := by
  induction ms with
  | nil => rfl
  | cons m ms ih =>
    obtain ⟨k, v⟩ := m
    rw [closeKeywords, List.map_cons, ih]

theorem closeValues_eq_map (ms : List (String × Json)) :
    closeValues ms = ms.map fun m => (m.1, close .schemaOrList m.2) := by
  induction ms with
  | nil => rfl
  | cons m ms ih =>
    obtain ⟨k, v⟩ := m
    rw [closeValues, List.map_cons, ih]

theorem closeItems_eq_map (vs : List Json) : closeItems vs = vs.map (close .schemaOrList) := by
  induction vs with
  | nil => rfl
  | cons v vs ih => rw [closeItems, List.map_cons, ih]

theorem closing_eq (ms : List (String × Json)) :
    closing ms = [] ∨ closing ms = [("additionalProperties", .bool false)] ∧
      describesObject ms = true ∧ Json.hasMember "additionalProperties" ms = false := by
  unfold closing
  split
  next h =>
    rw [Bool.and_eq_true, Bool.not_eq_true'] at h
    exact .inr ⟨rfl, h.1, h.2⟩
  next => exact .inl rfl

@[simp] theorem close_other (v : Json) : close .other v = v := by
  cases v <;> simp [close]

theorem close_list (v : Json) : close .list v = v ∨ close .list v = close .schemaOrList v := by
  cases v <;> simp [close]

theorem close_scalar (r : Role) {v : Json} (hArray : v.items? = none)
    (hObject : v.members? = none) : close r v = v := by
  cases v with
  | array vs => cases hArray
  | object ms => cases hObject
  | _ => rfl

@[simp] theorem string?_close (r : Role) (v : Json) : (close r v).string? = v.string? := by
  cases v <;> cases r <;> rfl

theorem role_eq_map_iff {k : String} : role k = .map ↔ mapKeywords.contains k = true := by
  unfold role
  split
  next h => exact ⟨fun _ => h, fun _ => rfl⟩
  next h =>
    split
    · exact ⟨fun h' => (nomatch h'), fun h' => absurd h' h⟩
    · split <;> exact ⟨fun h' => (nomatch h'), fun h' => absurd h' h⟩

theorem role_ne_schema (k : String) : role k ≠ .schema := by
  unfold role
  split
  · simp
  · split
    · simp
    · split <;> simp

theorem role_of_referenceKeywords {k : String} (hk : k ∈ Json.referenceKeywords) :
    role k = .other := by
  simp only [Json.referenceKeywords, List.mem_cons, List.not_mem_nil, or_false] at hk
  rcases hk with rfl | rfl | rfl <;> rfl

/-! ## Roles step by step -/

def itemRole : Role → Role
  | .schema | .schemaOrList | .list => .schemaOrList
  | .map | .other => .other

def memberRole (k : String) : Role → Role
  | .schema | .schemaOrList => role k
  | .map => .schemaOrList
  | .list | .other => .other

/-- The members that closing adds to an object in a role. -/
def added (ms : List (String × Json)) : Role → List (String × Json)
  | .schema | .schemaOrList => closing ms
  | .map | .list | .other => []

theorem added_eq (ms : List (String × Json)) (r : Role) :
    added ms r = [] ∨ added ms r = [("additionalProperties", .bool false)] ∧
      describesObject ms = true ∧ Json.hasMember "additionalProperties" ms = false := by
  cases r with
  | schema => exact closing_eq ms
  | schemaOrList => exact closing_eq ms
  | _ => exact .inl rfl

theorem close_array (r : Role) (vs : List Json) :
    close r (.array vs) = .array (vs.map (close (itemRole r))) := by
  have hOpen : vs.map (close .other) = vs := by
    rw [show close .other = id from funext close_other, List.map_id]
  cases r with
  | map => exact congrArg Json.array hOpen.symm
  | other => exact congrArg Json.array hOpen.symm
  | _ => exact congrArg Json.array (closeItems_eq_map vs)

theorem close_object (r : Role) (ms : List (String × Json)) :
    close r (.object ms) =
      .object (ms.map (fun m => (m.1, close (memberRole m.1 r) m.2)) ++ added ms r) := by
  have hOpen : ms.map (fun m => (m.1, close .other m.2)) ++ [] = ms := by simp
  cases r with
  | list => exact congrArg Json.object hOpen.symm
  | other => exact congrArg Json.object hOpen.symm
  | map =>
    rw [close, closeValues_eq_map]
    simp [added, memberRole]
  | _ =>
    rw [close, closeKeywords_eq_map]
    rfl

theorem names_map_close (ms : List (String × Json)) (r : Role) :
    (ms.map fun m => (m.1, close (memberRole m.1 r) m.2)).map (·.1) = ms.map (·.1) := by
  rw [List.map_map]
  rfl

theorem close_array_eq_self_iff {r : Role} {vs : List Json} :
    close r (.array vs) = .array vs ↔ ∀ v ∈ vs, close (itemRole r) v = v := by
  rw [close_array, Json.array.injEq]
  constructor
  · intro h v hv
    exact List.map_eq_map_iff.mp (h.trans (List.map_id vs).symm) v hv
  · intro h
    exact (List.map_congr_left h).trans (List.map_id vs)

theorem close_object_eq_self_iff {r : Role} {ms : List (String × Json)} :
    close r (.object ms) = .object ms ↔
      added ms r = [] ∧ ∀ m ∈ ms, close (memberRole m.1 r) m.2 = m.2 := by
  rw [close_object, Json.object.injEq]
  constructor
  · intro h
    have hAdded : added ms r = [] := by
      have hLength := congrArg List.length h
      simpa using hLength
    rw [hAdded, List.append_nil] at h
    refine ⟨hAdded, fun m hm => ?_⟩
    exact congrArg Prod.snd (List.map_eq_map_iff.mp (h.trans (List.map_id ms).symm) m hm)
  · rintro ⟨hAdded, hEach⟩
    rw [hAdded, List.append_nil]
    refine (List.map_congr_left fun m hm => ?_).trans (List.map_id ms)
    rw [hEach m hm]
    rfl

/-! ## What is closed already -/

mutual

/-- Whether closing leaves a value in a role as it is. -/
def isClosed (role : Role) : Json → Bool
  | .object ms =>
    match role with
    | .schema | .schemaOrList => keywordsAreClosed ms && (closing ms).isEmpty
    | .map => valuesAreClosed ms
    | .list | .other => true
  | .array vs =>
    match role with
    | .schema | .schemaOrList | .list => itemsAreClosed vs
    | .map | .other => true
  | _ => true

def keywordsAreClosed : List (String × Json) → Bool
  | [] => true
  | (k, v) :: ms => isClosed (role k) v && keywordsAreClosed ms

def valuesAreClosed : List (String × Json) → Bool
  | [] => true
  | (_, v) :: ms => isClosed .schemaOrList v && valuesAreClosed ms

def itemsAreClosed : List Json → Bool
  | [] => true
  | v :: vs => isClosed .schemaOrList v && itemsAreClosed vs

end

theorem isClosed_other (v : Json) : isClosed .other v = true := by
  cases v <;> rfl

theorem isClosed_array_iff {r : Role} {vs : List Json} :
    isClosed r (.array vs) = true ↔ ∀ v ∈ vs, isClosed (itemRole r) v = true := by
  have hEach : itemsAreClosed vs = true ↔ ∀ v ∈ vs, isClosed .schemaOrList v = true := by
    induction vs with
    | nil => simp [itemsAreClosed]
    | cons v vs ih => simp [itemsAreClosed, ih]
  cases r with
  | map => simp [isClosed, itemRole, isClosed_other]
  | other => simp [isClosed, itemRole, isClosed_other]
  | _ => exact hEach

theorem keywordsAreClosed_iff {ms : List (String × Json)} :
    keywordsAreClosed ms = true ↔ ∀ m ∈ ms, isClosed (role m.1) m.2 = true := by
  induction ms with
  | nil => simp [keywordsAreClosed]
  | cons m ms ih => simp [keywordsAreClosed, ih]

theorem valuesAreClosed_iff {ms : List (String × Json)} :
    valuesAreClosed ms = true ↔ ∀ m ∈ ms, isClosed .schemaOrList m.2 = true := by
  induction ms with
  | nil => simp [valuesAreClosed]
  | cons m ms ih => simp [valuesAreClosed, ih]

theorem isClosed_object_iff {r : Role} {ms : List (String × Json)} :
    isClosed r (.object ms) = true ↔
      added ms r = [] ∧ ∀ m ∈ ms, isClosed (memberRole m.1 r) m.2 = true := by
  cases r with
  | list => simp [isClosed, added, memberRole, isClosed_other]
  | other => simp [isClosed, added, memberRole, isClosed_other]
  | map => simp [isClosed, added, memberRole, valuesAreClosed_iff]
  | _ => simp [isClosed, added, memberRole, keywordsAreClosed_iff, and_comm]

theorem close_of_isClosed {r : Role} {v : Json} (h : isClosed r v = true) : close r v = v := by
  induction v using Json.inductionOn generalizing r with
  | scalar v hItems hMembers => exact close_scalar r hItems hMembers
  | array vs ih =>
    have hItems := isClosed_array_iff.mp h
    exact close_array_eq_self_iff.mpr fun v hv => ih v hv (hItems v hv)
  | object ms ih =>
    obtain ⟨hAdded, hMembers⟩ := isClosed_object_iff.mp h
    exact close_object_eq_self_iff.mpr ⟨hAdded, fun m hm => ih m hm (hMembers m hm)⟩

/-! ## Texts -/

theorem textsMembers_eq (ms : List (String × Json)) :
    Json.textsMembers ms = (ms.map fun m => m.2.texts).sum := by
  induction ms with
  | nil => rfl
  | cons m ms ih => rw [Json.textsMembers, ih, List.map_cons, List.sum_cons]

theorem textsItems_eq (vs : List Json) : Json.textsItems vs = (vs.map Json.texts).sum := by
  induction vs with
  | nil => rfl
  | cons v vs ih => rw [Json.textsItems, ih, List.map_cons, List.sum_cons]

theorem texts_close (r : Role) (v : Json) : (close r v).texts = v.texts := by
  induction v using Json.inductionOn generalizing r with
  | scalar v hItems hMembers => rw [close_scalar r hItems hMembers]
  | array vs ih =>
    rw [close_array, Json.texts, Json.texts, textsItems_eq, textsItems_eq, List.map_map]
    exact congrArg List.sum (List.map_congr_left fun v hv => ih v hv _)
  | object ms ih =>
    have hNone : ((added ms r).map fun m => m.2.texts).sum = 0 := by
      rcases added_eq ms r with h | ⟨h, -⟩ <;> rw [h] <;> rfl
    rw [close_object, Json.texts, Json.texts, textsMembers_eq, textsMembers_eq, List.map_append,
      List.sum_append, hNone, Nat.add_zero, List.map_map]
    exact congrArg List.sum (List.map_congr_left fun m hm => ih m hm _)

end SchemaContract.Closing
