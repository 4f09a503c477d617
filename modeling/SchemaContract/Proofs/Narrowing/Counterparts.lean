import SchemaContract.Proofs.Narrowing.Forward

/-!
# A schema and its closed form side by side

The counterpart of a value in the closed document is the value itself or its closed form. Items and
members have counterparts again; only the member that closes an object schema stands alone.
-/

namespace SchemaContract

/-- Values of one kind: arrays of one length with the same texts, objects, or equal others. -/
inductive Json.Kindred : Json → Json → Prop where
  | scalar {v : Json} (noItems : v.items? = none) (noMembers : v.members? = none) : Kindred v v
  | array {vs vs' : List Json} (length : vs.length = vs'.length)
      (texts : vs.filterMap string? = vs'.filterMap string?) : Kindred (.array vs) (.array vs')
  | object (ms ms' : List (String × Json)) : Kindred (.object ms) (.object ms')

namespace Json.Kindred

variable {v v' : Json}

theorem isObject_eq (h : v.Kindred v') : v'.members?.isSome = v.members?.isSome := by
  cases h <;> rfl

theorem string?_eq (h : v.Kindred v') : v'.string? = v.string? := by
  cases h <;> rfl

theorem object_left {ms : List (String × Json)} (h : Kindred (.object ms) v') :
    ∃ ms', v' = .object ms' := by
  cases h with
  | scalar noItems noMembers => cases noMembers
  | object ms ms' => exact ⟨ms', rfl⟩

end Json.Kindred

namespace Closing

/-- The second value stands in the closed document where the first stands in the document; all
references inside are of the given kind. -/
structure Counterpart (stable : List (String × String)) (ok : String × String → Prop)
    (closed map : Bool) (v v' : Json) : Prop where
  closes : v' = v ∨ closed = true ∧ v' = close (if map then .map else .schemaOrList) v
  forward : isForward stable closed map v = true
  distinct : v.hasDistinctNames = true
  references : ∀ e ∈ v.references, ok e

/-- Counterparts where a schema is expected. -/
def Schemas (stable : List (String × String)) (ok : String × String → Prop) (v v' : Json) : Prop :=
  ∃ closed, Counterpart stable ok closed false v v'

def Places (stable : List (String × String)) (ok : String × String → Prop) (v v' : Json) : Prop :=
  ∃ closed map, Counterpart stable ok closed map v v'

/-- Two keywords with counterparts as values, which are equal where they have to be. -/
structure KeywordCounterpart (stable : List (String × String)) (ok : String × String → Prop)
    (closed : Bool) (siblings : List (String × Json)) (m m' : String × Json) : Prop where
  name : m.1 = m'.1
  value : Counterpart stable ok (reaches closed m.1) (holdsMap m.1) m.2 m'.2
  settled : inverts siblings m.1 = true → m'.2 = m.2 ∧ ∀ e ∈ m.2.references, e ∈ stable
  reference : ∀ e, Json.reference? m.1 m.2 = some e → ok e

/-- The members of a schema and of its counterpart: related one by one, and then at most the one
that closes the schema. -/
structure KeywordPairs (R : String × Json → String × Json → Prop)
    (ms core extra : List (String × Json)) : Prop where
  each : List.Forall₂ R ms core
  named : ∀ m m', R m m' → m.1 = m'.1
  distinct : (ms.map (·.1)).Nodup
  closing : extra = [] ∨ extra = [("additionalProperties", .bool false)] ∧
    describesObject ms = true ∧ Json.hasMember "additionalProperties" ms = false

namespace Counterpart

variable {stable : List (String × String)} {ok : String × String → Prop} {closed map : Bool}
  {v v' : Json}

theorem refl (hForward : isForward stable closed map v = true)
    (hDistinct : v.hasDistinctNames = true)
    (hReferences : ∀ e ∈ v.references, ok e) : Counterpart stable ok closed map v v :=
  ⟨.inl rfl, hForward, hDistinct, hReferences⟩

theorem holdsMap_eq_false {k : String} (hMap : role k ≠ .map) (hOther : role k ≠ .other) :
    holdsMap k = false := by
  rw [holdsMap, Bool.or_eq_false_iff]
  refine ⟨?_, ?_⟩
  · rwa [← Bool.not_eq_true, ← role_eq_map_iff]
  · rw [List.contains_eq_mem, decide_eq_false_iff_not, List.mem_pair]
    rintro (rfl | rfl) <;> exact hOther rfl

theorem close_role (k : String) (v : Json) (hClosed : closed = true) :
    close (role k) v = v ∨ reaches closed k = true ∧
      close (role k) v = close (if holdsMap k then .map else .schemaOrList) v := by
  cases hRole : role k with
  | schema => exact absurd hRole (role_ne_schema k)
  | other => exact .inl (close_other v)
  | map =>
    have hMap : holdsMap k = true := by rw [holdsMap, role_eq_map_iff.mp hRole, Bool.true_or]
    exact .inr ⟨by simp [reaches, hClosed, hRole], by rw [if_pos hMap]⟩
  | list =>
    rcases close_list v with h | h
    · exact .inl h
    · have hMap := holdsMap_eq_false (k := k) (by simp [hRole]) (by simp [hRole])
      exact .inr ⟨by simp [reaches, hClosed, hRole], by rw [hMap]; exact h⟩
  | schemaOrList =>
    have hMap := holdsMap_eq_false (k := k) (by simp [hRole]) (by simp [hRole])
    exact .inr ⟨by simp [reaches, hClosed, hRole], by rw [hMap]; rfl⟩

theorem array {vs : List Json} (h : Counterpart stable ok closed map (.array vs) v') :
    ∃ vs', v' = .array vs' ∧ List.Forall₂ (Counterpart stable ok closed false) vs vs' := by
  have hForward := isForward_array_iff.mp h.forward
  have hDistinct := Json.hasDistinctNames_array_iff.mp h.distinct
  have hReferences : ∀ v ∈ vs, ∀ e ∈ v.references, ok e := fun v hv e he =>
    h.references e (Json.mem_references_array.mpr ⟨v, hv, he⟩)
  rcases h.closes with rfl | ⟨hClosed, rfl⟩
  · refine ⟨vs, rfl, List.forall₂_same.mpr fun v hv => ?_⟩
    exact .refl (hForward v hv) (hDistinct v hv) (hReferences v hv)
  · cases map with
    | true =>
      refine ⟨vs, rfl, List.forall₂_same.mpr fun v hv => ?_⟩
      exact .refl (hForward v hv) (hDistinct v hv) (hReferences v hv)
    | false =>
      refine ⟨_, rfl, ?_⟩
      rw [closeItems_eq_map, List.forall₂_map_right_iff]
      refine List.forall₂_same.mpr fun v hv => ?_
      exact ⟨.inr ⟨hClosed, rfl⟩, hForward v hv, hDistinct v hv, hReferences v hv⟩

theorem values {ms : List (String × Json)}
    (h : Counterpart stable ok closed true (.object ms) v') :
    ∃ ms', v' = .object ms' ∧ List.Forall₂
      (fun m m' => m.1 = m'.1 ∧ Counterpart stable ok closed false m.2 m'.2) ms ms' := by
  have hForward := isForward_map_iff.mp h.forward
  have hDistinct := (Json.hasDistinctNames_object_iff.mp h.distinct).2
  have hReferences : ∀ m ∈ ms, ∀ e ∈ m.2.references, ok e := fun m hm e he =>
    h.references e (Json.mem_references_object.mpr ⟨m, hm, .inr he⟩)
  rcases h.closes with rfl | ⟨hClosed, rfl⟩
  · refine ⟨ms, rfl, List.forall₂_same.mpr fun m hm => ⟨rfl, ?_⟩⟩
    exact .refl (hForward m hm) (hDistinct m hm) (hReferences m hm)
  · refine ⟨_, rfl, ?_⟩
    rw [closeValues_eq_map, List.forall₂_map_right_iff]
    refine List.forall₂_same.mpr fun m hm => ⟨rfl, ?_⟩
    exact ⟨.inr ⟨hClosed, rfl⟩, hForward m hm, hDistinct m hm, hReferences m hm⟩

theorem keywords {ms : List (String × Json)}
    (h : Counterpart stable ok closed false (.object ms) v') :
    ∃ core extra, v' = .object (core ++ extra) ∧
      KeywordPairs (KeywordCounterpart stable ok closed ms) ms core extra := by
  have hForward := isForward_object_iff.mp h.forward
  obtain ⟨hNames, hDistinct⟩ := Json.hasDistinctNames_object_iff.mp h.distinct
  have hReference : ∀ m ∈ ms, ∀ e, Json.reference? m.1 m.2 = some e → ok e := fun m hm e he =>
    h.references e (Json.mem_references_object.mpr ⟨m, hm, .inl he⟩)
  have hReferences : ∀ m ∈ ms, ∀ e ∈ m.2.references, ok e := fun m hm e he =>
    h.references e (Json.mem_references_object.mpr ⟨m, hm, .inr he⟩)
  rcases h.closes with rfl | ⟨hClosed, rfl⟩
  · refine ⟨ms, [], by simp, ?_, fun _ _ hm => hm.name, hNames, .inl rfl⟩
    refine List.forall₂_same.mpr fun m hm => ⟨rfl, ?_, ?_, hReference m hm⟩
    · exact .refl (hForward m hm).2 (hDistinct m hm) (hReferences m hm)
    · exact fun hInverts => ⟨rfl, (isSettled_iff.mp ((hForward m hm).1 hInverts)).2⟩
  · refine ⟨closeKeywords ms, closing ms, rfl, ?_, fun _ _ hm => hm.name, hNames,
      closing_eq ms⟩
    rw [closeKeywords_eq_map, List.forall₂_map_right_iff]
    refine List.forall₂_same.mpr fun m hm => ⟨rfl, ?_, ?_, hReference m hm⟩
    · exact ⟨close_role m.1 m.2 hClosed, (hForward m hm).2, hDistinct m hm, hReferences m hm⟩
    · intro hInverts
      obtain ⟨hSame, hNone⟩ := isSettled_iff.mp ((hForward m hm).1 hInverts)
      exact ⟨close_of_isClosed (hSame hClosed), hNone⟩

theorem open_self (other : String × String → Prop) (h : Counterpart stable ok closed map v v')
    (hReferences : ∀ e ∈ v.references, ok e → other e) : Counterpart stable other false map v v :=
  ⟨.inl rfl, isForward_open (fun _ he => he) h.forward, h.distinct, fun e he =>
    hReferences e he (h.references e he)⟩

theorem scalar (h : Counterpart stable ok closed map v v') (hArray : v.items? = none)
    (hObject : v.members? = none) : v' = v := by
  rcases h.closes with rfl | ⟨-, rfl⟩
  · rfl
  · exact close_scalar _ hArray hObject

theorem eq_of_open (h : Counterpart stable ok false map v v') : v' = v := by
  rcases h.closes with rfl | ⟨hClosed, -⟩
  · rfl
  · cases hClosed

theorem of_not_object (h : Counterpart stable ok closed map v v')
    (hObject : (map && v.members?.isSome) = false) : Counterpart stable ok closed false v v' := by
  cases map with
  | false => exact h
  | true =>
    cases v with
    | object ms => cases hObject
    | array vs =>
      refine ⟨.inl ?_, h.forward, h.distinct, h.references⟩
      rcases h.closes with rfl | ⟨-, rfl⟩ <;> rfl
    | _ => exact ⟨.inl (h.scalar rfl rfl), h.forward, h.distinct, h.references⟩

theorem texts_eq (h : Counterpart stable ok closed map v v') : v'.texts = v.texts := by
  rcases h.closes with rfl | ⟨-, rfl⟩
  · rfl
  · exact texts_close _ v

theorem kindred (h : Counterpart stable ok closed map v v') : v.Kindred v' := by
  cases v with
  | array vs =>
    obtain ⟨vs', rfl, hEach⟩ := h.array
    refine .array hEach.length_eq ?_
    clear h
    induction hEach with
    | nil => rfl
    | cons hItem _ ih =>
      rw [List.filterMap_cons, List.filterMap_cons, ih]
      rcases hItem.closes with rfl | ⟨-, rfl⟩
      · rfl
      · rw [string?_close]
  | object ms =>
    cases map with
    | true =>
      obtain ⟨ms', rfl, -⟩ := h.values
      exact .object ms ms'
    | false =>
      obtain ⟨core, extra, rfl, -⟩ := h.keywords
      exact .object ms (core ++ extra)
  | _ =>
    rw [h.scalar rfl rfl]
    exact .scalar rfl rfl

end Counterpart

/-! ## Looking a member up -/

theorem lookup_of_forall₂ {R : String × Json → String × Json → Prop}
    (hName : ∀ m m', R m m' → m.1 = m'.1) {ms ms' : List (String × Json)}
    (h : List.Forall₂ R ms ms') (k : String) :
    Option.Rel (fun v v' => R (k, v) (k, v')) (Json.lookup k ms) (Json.lookup k ms') := by
  induction h with
  | nil => exact .none
  | @cons m m' ms ms' hm _ ih =>
    obtain ⟨l, v⟩ := m
    obtain ⟨l', v'⟩ := m'
    cases hName _ _ hm
    cases hk : l == k with
    | true =>
      cases eq_of_beq hk
      simpa [Json.lookup] using hm
    | false => simpa [Json.lookup, hk] using ih

namespace KeywordPairs

variable {R : String × Json → String × Json → Prop} {ms core extra : List (String × Json)}

theorem imp {S : String × Json → String × Json → Prop} (hNamed : ∀ m m', S m m' → m.1 = m'.1)
    (hImp : ∀ m ∈ ms, ∀ m', R m m' → S m m') (h : KeywordPairs R ms core extra) :
    KeywordPairs S ms core extra := by
  refine ⟨?_, hNamed, h.distinct, h.closing⟩
  have hEach := (List.forall₂_and_left _ _).mpr ⟨fun m hm => hm, h.each⟩
  exact hEach.imp fun m m' hm => hImp m hm.1 m' hm.2

theorem lookup_core (h : KeywordPairs R ms core extra) (k : String) :
    Option.Rel (fun v v' => R (k, v) (k, v')) (Json.lookup k ms) (Json.lookup k core) :=
  lookup_of_forall₂ h.named h.each k

theorem lookup (h : KeywordPairs R ms core extra) {k : String}
    (hk : k ≠ "additionalProperties" ∨ extra = []) :
    Option.Rel (fun v v' => R (k, v) (k, v')) (Json.lookup k ms)
      (Json.lookup k (core ++ extra)) := by
  have hAppend : Json.lookup k (core ++ extra) = Json.lookup k core := by
    rcases h.closing with rfl | ⟨rfl, -⟩
    · rw [List.append_nil]
    · have hNe : ("additionalProperties" == k) = false := by
        rw [beq_eq_false_iff_ne]
        rcases hk with hk | hk
        · exact Ne.symm hk
        · cases hk
      simp [Json.lookup, List.find?_append, hNe]
  rw [hAppend]
  exact h.lookup_core k

theorem hasMember_eq (h : KeywordPairs R ms core extra) {k : String}
    (hk : k ≠ "additionalProperties" ∨ extra = []) :
    Json.hasMember k (core ++ extra) = Json.hasMember k ms := by
  have hRel := h.lookup hk
  rw [Bool.eq_iff_iff, ← Json.lookup_isSome_iff, ← Json.lookup_isSome_iff]
  generalize Json.lookup k (core ++ extra) = found' at hRel ⊢
  generalize Json.lookup k ms = found at hRel ⊢
  cases hRel <;> simp

theorem lookup_closing (h : KeywordPairs R ms core extra) (hExtra : extra ≠ []) :
    Json.lookup "additionalProperties" ms = none ∧
      Json.lookup "additionalProperties" (core ++ extra) = some (.bool false) := by
  rcases h.closing with rfl | ⟨rfl, -, hNone⟩
  · exact absurd rfl hExtra
  · have hPlain : Json.lookup "additionalProperties" ms = none := by
      rw [← Option.not_isSome_iff_eq_none, Json.lookup_isSome_iff, hNone]
      simp
    have hRel := h.lookup_core "additionalProperties"
    rw [hPlain] at hRel
    have hCore : Json.lookup "additionalProperties" core = none := by
      generalize Json.lookup "additionalProperties" core = found at hRel ⊢
      cases hRel
      rfl
    refine ⟨hPlain, ?_⟩
    rw [Json.lookup, List.find?_append, Option.map_or, ← Json.lookup, hCore]
    rfl

theorem lookup_other (h : KeywordPairs R ms core extra)
    (hOther : ∀ m m', R m m' → role m.1 = .other → m'.2 = m.2) {k : String}
    (hk : role k = .other) : Json.lookup k (core ++ extra) = Json.lookup k ms := by
  have hRel := h.lookup (k := k) (.inl (by rintro rfl; cases hk))
  generalize Json.lookup k (core ++ extra) = found' at hRel ⊢
  generalize Json.lookup k ms = found at hRel ⊢
  cases hRel with
  | none => rfl
  | some hm => exact congrArg some (hOther _ _ hm hk)

end KeywordPairs

theorem KeywordCounterpart.eq_of_other {stable : List (String × String)}
    {ok : String × String → Prop} {closed : Bool} {siblings : List (String × Json)}
    {m m' : String × Json} (h : KeywordCounterpart stable ok closed siblings m m')
    (hRole : role m.1 = .other) : m'.2 = m.2 := by
  have hOpen : reaches closed m.1 = false := by simp [reaches, hRole]
  have hValue := h.value
  rw [hOpen] at hValue
  exact hValue.eq_of_open

theorem Counterpart.member {stable : List (String × String)} {ok : String × String → Prop}
    {closed map : Bool} {ms : List (String × Json)} {v' : Json}
    (h : Counterpart stable ok closed map (.object ms) v') {k : String} {w : Json}
    (hw : Json.lookup k ms = some w) :
    ∃ ms' w', v' = .object ms' ∧ Json.lookup k ms' = some w' ∧
      Counterpart stable ok (if map then closed else reaches closed k)
        (if map then false else holdsMap k) w w' := by
  cases map with
  | true =>
    obtain ⟨ms', rfl, hEach⟩ := h.values
    have hRel := lookup_of_forall₂ (fun _ _ hm => hm.1) hEach k
    rw [hw] at hRel
    generalize hFound : Json.lookup k ms' = found' at hRel
    cases hRel with
    | @some _ w' hm => exact ⟨ms', w', rfl, hFound, hm.2⟩
  | false =>
    obtain ⟨core, extra, rfl, hKeywords⟩ := h.keywords
    have hPresent : k ≠ "additionalProperties" ∨ extra = [] := by
      by_cases hExtra : extra = []
      · exact .inr hExtra
      · refine .inl ?_
        rintro rfl
        rw [(hKeywords.lookup_closing hExtra).1] at hw
        cases hw
    have hRel := hKeywords.lookup hPresent
    rw [hw] at hRel
    generalize hFound : Json.lookup k (core ++ extra) = found' at hRel
    cases hRel with
    | @some _ w' hm => exact ⟨core ++ extra, w', rfl, hFound, hm.value⟩

end Closing

end SchemaContract
