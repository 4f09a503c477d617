import SchemaContract.Compiled
import SchemaContract.Proofs.Positions

/-!
# Closed forms

A closed form has the values of the schema at the ends of the same ways, and besides them only the
members that close the open object schemas in schema positions. No open object schema is left in a
schema position, so that a closed form is its own closed form.
-/

namespace SchemaContract

namespace Closing

open Json (Leads)

/-! ## What stays in place -/

/-- What closing may make of a value at the end of a way. -/
inductive Grows (way : List Step) : Json → Json → Prop where
  | scalar {v : Json} (hItems : v.items? = none) (hMembers : v.members? = none) : Grows way v v
  | array {vs vs' : List Json} (hLength : vs'.length = vs.length) :
      Grows way (.array vs) (.array vs')
  | kept {ms ms' : List (String × Json)} (hNames : ms'.map (·.1) = ms.map (·.1))
      (hKept : ¬ (IsPosition way ∧ IsOpen ms)) : Grows way (.object ms) (.object ms')
  | closed {ms ms' : List (String × Json)} (hNames : ms'.map (·.1) = ms.map (·.1))
      (hPosition : IsPosition way) (hOpen : IsOpen ms) :
      Grows way (.object ms) (.object (ms' ++ [("additionalProperties", .bool false)]))

/-- The ways that lead into the value of a keyword that holds no schemas. -/
inductive LeavesSchemas : List Step → Prop where
  | keyword {before : List Step} {k : String} (after : List Step) (hBefore : IsPosition before)
      (hMap : k ∉ mapKeywords) (hSingle : k ∉ singleKeywords) (hList : k ∉ listKeywords) :
      LeavesSchemas (before ++ .member k :: after)

theorem LeavesSchemas.role_eq {way : List Step} (h : LeavesSchemas way) :
    way.foldl roleInside .schemaOrList = .other := by
  cases h with
  | keyword after hBefore hMap hSingle hList =>
    exact foldl_keyword_other hBefore (role_of_not_mem hMap hSingle hList) after

theorem grows_close (way : List Step) (v : Json) :
    Grows way v (close (way.foldl roleInside .schemaOrList) v) := by
  cases v with
  | array vs =>
    rw [close_array]
    exact .array (List.length_map _)
  | object ms =>
    rw [close_object]
    by_cases hPosition : IsPosition way
    · rw [added_of_isPosition hPosition]
      by_cases hOpen : IsOpen ms
      · rw [closing_of_isOpen hOpen]
        exact .closed (names_map_close ms _) hPosition hOpen
      · rw [closing_eq_nil_iff.mpr hOpen, List.append_nil]
        exact .kept (names_map_close ms _) fun h => hOpen h.2
    · rw [added_of_not_isPosition hPosition, List.append_nil]
      exact .kept (names_map_close ms _) fun h => hPosition h.1
  | _ =>
    rw [close_scalar _ rfl rfl]
    exact .scalar rfl rfl

theorem hasDistinctNames_close {r : Role} {v : Json} (h : v.hasDistinctNames = true) :
    (close r v).hasDistinctNames = true := by
  induction v using Json.inductionOn generalizing r with
  | scalar v hItems hMembers => rwa [close_scalar r hItems hMembers]
  | array vs ih =>
    rw [close_array, Json.hasDistinctNames_array_iff]
    intro w hw
    obtain ⟨v, hv, rfl⟩ := List.mem_map.mp hw
    exact ih v hv (Json.hasDistinctNames_array_iff.mp h v hv)
  | object ms ih =>
    obtain ⟨hNames, hInner⟩ := Json.hasDistinctNames_object_iff.mp h
    rw [close_object, Json.hasDistinctNames_object_iff]
    constructor
    · rw [List.map_append, names_map_close]
      -- The member that closes is only added where no member has its name.
      rcases added_eq ms r with hNone | ⟨hOne, -, hAbsent⟩
      · rwa [hNone, List.map_nil, List.append_nil]
      · rw [hOne]
        rw [← Bool.not_eq_true, Json.hasMember_iff_mem] at hAbsent
        exact hNames.append (List.nodup_singleton _) (by simpa using hAbsent)
    · intro m hm
      rcases List.mem_append.mp hm with hm | hAdded
      · obtain ⟨n, hn, rfl⟩ := List.mem_map.mp hm
        exact ih n hn (hInner n hn)
      · rcases added_eq ms r with hNone | ⟨hOne, -⟩
        · rw [hNone] at hAdded
          cases hAdded
        · rw [hOne, List.mem_singleton] at hAdded
          subst hAdded
          rfl

end Closing

open Closing

/-- Whatever a way leads to in a schema, it leads to a value of the same kind in the closed form. -/
theorem Json.exists_leads_closed {s v : Json} {way : List Step} (h : s.Leads way v) :
    ∃ w, s.closed.Leads way w ∧ Grows way v w ∧ (LeavesSchemas way → w = v) ∧
      (s.hasDistinctNames = true → ∀ u, s.closed.Leads way u → u = w) := by
  refine ⟨close (way.foldl roleInside .schemaOrList) v, leads_close h, grows_close way v, ?_, ?_⟩
  · intro hLeaves
    rw [hLeaves.role_eq, close_other]
  · intro hDistinct u hu
    exact hu.unique (hasDistinctNames_close hDistinct) (leads_close h)

/-- A schema with a member that has the name of a keyword. -/
def keywordNames : Json :=
  .object [("properties", .object [("enum", .object [("required", .array []),
    ("enum", .array [.object [("type", .string "object"), ("properties", .null)]])])])]

theorem Json.exists_leads_closed_keywordNames :
    keywordNames.Leads [.member "properties", .member "enum", .member "enum", .index 0]
      (.object [("type", .string "object"), ("properties", .null)]) ∧
    keywordNames.closed.Leads [.member "properties", .member "enum", .member "enum", .index 0]
      (.object [("type", .string "object"), ("properties", .null)]) := by
  have hLeads : keywordNames.Leads
      [.member "properties", .member "enum", .member "enum", .index 0]
      (.object [("type", .string "object"), ("properties", .null)]) :=
    .member List.mem_cons_self (.member List.mem_cons_self
      (.member (List.mem_cons_of_mem _ List.mem_cons_self) (.item rfl (.here _))))
  have hLeaves : LeavesSchemas
      [.member "properties", .member "enum", .member "enum", .index 0] :=
    .keyword [.index 0] (IsPosition.root.named (by decide) "enum") (by decide) (by decide)
      (by decide)
  obtain ⟨w, hClosed, -, hSame, -⟩ := Json.exists_leads_closed hLeads
  rw [hSame hLeaves] at hClosed
  exact ⟨hLeads, hClosed⟩

namespace Closing

/-! ## What is closed -/

theorem IsOpen.congr {ms ms' : List (String × Json)} (hNames : ms'.map (·.1) = ms.map (·.1))
    (hType : Json.lookup "type" ms' = Json.lookup "type" ms) (h : IsOpen ms') : IsOpen ms := by
  obtain ⟨hObject, hNone⟩ := h
  rw [hNames] at hNone
  refine ⟨?_, hNone⟩
  cases hObject with
  | type h => exact .type (hType ▸ h)
  | types h hText => exact .types (hType ▸ h) hText
  | keyword hNoType hk h => exact .keyword (hType ▸ hNoType) hk (hNames ▸ h)

theorem lookup_map_close {name : String} (hName : role name = .other) (ms : List (String × Json)) :
    Json.lookup name (ms.map fun m => (m.1, close (role m.1) m.2)) = Json.lookup name ms := by
  induction ms with
  | nil => rfl
  | cons m ms ih =>
    obtain ⟨k, v⟩ := m
    cases hk : k == name with
    | true =>
      obtain rfl := eq_of_beq hk
      simp [Json.lookup, hName]
    | false => simpa [Json.lookup, hk] using ih

theorem not_isOpen_close (ms : List (String × Json)) :
    ¬ IsOpen (ms.map (fun m => (m.1, close (role m.1) m.2)) ++ closing ms) := by
  intro h
  by_cases hOpen : IsOpen ms
  · -- The added member is itself a keyword about objects, but it also ends the openness.
    rw [closing_of_isOpen hOpen] at h
    exact h.2 (by simp)
  · rw [closing_eq_nil_iff.mpr hOpen, List.append_nil] at h
    exact hOpen (h.congr (names_map_close ms .schemaOrList) (lookup_map_close rfl ms))

end Closing

open Closing

/-- No object schema in a schema position is open. -/
def Json.IsClosed (s : Json) : Prop :=
  ∀ way ms, IsPosition way → s.Leads way (.object ms) → ¬ IsOpen ms

theorem Json.isClosed_closed (s : Json) : s.closed.IsClosed := by
  intro way ms hPosition hLeads
  rcases leads_of_close hLeads with ⟨v, -, hEq⟩ | hFalse
  · rw [isPosition_iff.mp hPosition] at hEq
    cases v with
    | array vs => cases hEq
    | object ms' =>
      rw [close_object] at hEq
      cases hEq
      exact not_isOpen_close ms'
    | _ => cases hEq
  · cases hFalse

namespace Closing

theorem close_eq_self_of_leads {r : Role} {v w : Json} {way : List Step} (hw : v.Leads way w)
    (h : close r v = v) : close (way.foldl roleInside r) w = w := by
  induction hw generalizing r with
  | here v => exact h
  | item hItem _ ih => exact ih (close_array_eq_self_iff.mp h _ (List.mem_of_getElem? hItem))
  | member hMember _ ih => exact ih ((close_object_eq_self_iff.mp h).2 _ hMember)

theorem close_eq_self_iff {r : Role} {v : Json} :
    close r v = v ↔
      ∀ way ms, v.Leads way (.object ms) → added ms (way.foldl roleInside r) = [] := by
  constructor
  · intro h way ms hLeads
    exact (close_object_eq_self_iff.mp (close_eq_self_of_leads hLeads h)).1
  · intro h
    induction v using Json.inductionOn generalizing r with
    | scalar v hItems hMembers => exact close_scalar r hItems hMembers
    | array vs ih =>
      refine close_array_eq_self_iff.mpr fun v hv => ih v hv fun way ms hLeads => ?_
      obtain ⟨i, hItem⟩ := List.getElem?_of_mem hv
      exact h (.index i :: way) ms (.item hItem hLeads)
    | object ms ih =>
      refine close_object_eq_self_iff.mpr ⟨h [] ms (.here _), fun m hm => ?_⟩
      refine ih m hm fun way ms' hLeads => ?_
      exact h (.member m.1 :: way) ms' (.member hm hLeads)

end Closing

theorem Json.closed_eq_self_iff {s : Json} : s.closed = s ↔ s.IsClosed := by
  rw [closed, close_eq_self_iff]
  constructor
  · intro h way ms hPosition hLeads
    have hAdded := h way ms hLeads
    rw [added_of_isPosition hPosition] at hAdded
    exact closing_eq_nil_iff.mp hAdded
  · intro h way ms hLeads
    by_cases hPosition : IsPosition way
    · rw [added_of_isPosition hPosition, closing_eq_nil_iff]
      exact h way ms hPosition hLeads
    · exact added_of_not_isPosition hPosition ms

/-- A closed form is its own closed form, and the schemas that are their own closed forms are the
closed ones. So compiling the source of a compiled schema gives the compiled schema again. -/
theorem Json.closed_closed_and_closed_eq_self_iff (s : Json) :
    s.closed.closed = s.closed ∧ (s.closed = s ↔ s.IsClosed) ∧
      ∀ config label label',
        (Compiled.compile config label s >>= fun c => Compiled.compile config label' c.source) =
          Compiled.compile config label s := by
  have hClosed : s.closed.closed = s.closed := closed_eq_self_iff.mpr s.isClosed_closed
  refine ⟨hClosed, closed_eq_self_iff, ?_⟩
  intro config label label'
  have hSource : Compiled.sourceOf config (Compiled.sourceOf config s) =
      Compiled.sourceOf config s := by
    unfold Compiled.sourceOf
    split
    · exact hClosed
    · rfl
  cases hProgram : Validation.compile config.formats (Compiled.sourceOf config s) with
  | ok program =>
    rw [Compiled.compile, hProgram]
    change Compiled.compile config label' (Compiled.sourceOf config s) = _
    rw [Compiled.compile, hSource, hProgram]
  | error failure =>
    rw [Compiled.compile, hProgram]
    rfl

end SchemaContract
