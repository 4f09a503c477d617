import SchemaContract.Proofs.Narrowing.Counterparts
import SchemaContract.Validation.Library

/-!
# What counterparts say of themselves

A schema names its dialect, its URI and its anchors by texts, and refers to others by texts. Closing
changes no text, so a schema and its counterpart say the same.
-/

namespace SchemaContract.Closing.Counterpart

variable {stable : List (String × String)} {ok : String × String → Prop} {closed map : Bool}

section Objects

variable {ms ms' : List (String × Json)}

theorem text_eq (h : Counterpart stable ok closed map (.object ms) (.object ms')) (k : String) :
    (Json.lookup k ms').bind Json.string? = (Json.lookup k ms).bind Json.string? := by
  cases map with
  | true =>
    obtain ⟨values, hEq, hEach⟩ := h.values
    cases hEq
    have hRel := lookup_of_forall₂ (fun _ _ hm => hm.1) hEach k
    generalize Json.lookup k ms' = found' at hRel ⊢
    generalize Json.lookup k ms = found at hRel ⊢
    cases hRel with
    | none => rfl
    | some hm => exact hm.2.kindred.string?_eq
  | false =>
    obtain ⟨core, extra, hEq, hPairs⟩ := h.keywords
    cases hEq
    by_cases hk : k ≠ "additionalProperties" ∨ extra = []
    · have hRel := hPairs.lookup hk
      generalize Json.lookup k (core ++ extra) = found' at hRel ⊢
      generalize Json.lookup k ms = found at hRel ⊢
      cases hRel with
      | none => rfl
      | some hm => exact hm.value.kindred.string?_eq
    · obtain ⟨hk, hExtra⟩ := not_or.mp hk
      obtain rfl := not_not.mp hk
      obtain ⟨hPlain, hClosed⟩ := hPairs.lookup_closing hExtra
      rw [hPlain, hClosed]
      rfl

theorem hasMember_eq (h : Counterpart stable ok closed map (.object ms) (.object ms')) {k : String}
    (hk : k ≠ "additionalProperties") : Json.hasMember k ms' = Json.hasMember k ms := by
  cases map with
  | true =>
    obtain ⟨values, hEq, hEach⟩ := h.values
    cases hEq
    have hRel := lookup_of_forall₂ (fun _ _ hm => hm.1) hEach k
    rw [Bool.eq_iff_iff, ← Json.lookup_isSome_iff, ← Json.lookup_isSome_iff]
    generalize Json.lookup k ms' = found' at hRel ⊢
    generalize Json.lookup k ms = found at hRel ⊢
    cases hRel <;> simp
  | false =>
    obtain ⟨core, extra, hEq, hPairs⟩ := h.keywords
    cases hEq
    exact hPairs.hasMember_eq (.inl hk)

theorem inside_eq (h : Counterpart stable ok closed map (.object ms) (.object ms')) (d : Dialect) :
    d.inside ms' = d.inside ms := by
  have hText := h.text_eq "$schema"
  have hInside : ∀ members, d.inside members =
      ((Json.lookup "$schema" members).bind Json.string?).elim d fun s =>
        (Dialect.ofUri? s).getD .draft2020 := by
    intro members
    unfold Dialect.inside
    cases Json.lookup "$schema" members with
    | none => rfl
    | some v => cases v <;> rfl
  rw [hInside, hInside, hText]

theorem id?_eq (h : Counterpart stable ok closed map (.object ms) (.object ms')) (d : Dialect) :
    d.id? ms' = d.id? ms := by
  have hId : ∀ members, d.id? members =
      ((Json.lookup d.idKeyword members).bind Json.string?).bind fun s =>
        if d.isUpTo .draft7 ∧ (Json.hasMember "$ref" members ∨ s.toList.head? = some '#') then none
        else some (Dialect.trimSigns s.toList) := by
    intro members
    unfold Dialect.id?
    cases Json.lookup d.idKeyword members with
    | none => rfl
    | some v => cases v <;> rfl
  rw [hId, hId, h.text_eq, h.hasMember_eq (by decide)]

theorem anchors_eq (h : Counterpart stable ok closed map (.object ms) (.object ms')) (d : Dialect) :
    d.anchors ms' = d.anchors ms := by
  unfold Dialect.anchors
  simp only [h.text_eq]

end Objects

variable {v v' : Json}

theorem enter_eq (h : Counterpart stable ok closed map v v') (base : Uri) (d : Dialect) :
    base.enter d v' = base.enter d v := by
  cases hKindred : h.kindred with
  | scalar => rfl
  | array => rfl
  | object ms ms' => rw [Uri.enter, Uri.enter, h.id?_eq]

theorem get?_text_eq (h : Counterpart stable ok closed map v v') (k : String) :
    (v'.get? k).bind Json.string? = (v.get? k).bind Json.string? := by
  cases hKindred : h.kindred with
  | scalar => rfl
  | array => rfl
  | object ms ms' => exact h.text_eq k

theorem get?_eq (h : Counterpart stable ok closed false v v') {k : String} (hk : role k = .other) :
    v'.get? k = v.get? k := by
  cases v with
  | object ms =>
    obtain ⟨core, extra, rfl, hPairs⟩ := h.keywords
    exact hPairs.lookup_other (fun _ _ hm => hm.eq_of_other) hk
  | array vs =>
    obtain ⟨vs', rfl, -⟩ := h.array
    rfl
  | _ => rw [h.scalar rfl rfl]

end SchemaContract.Closing.Counterpart
