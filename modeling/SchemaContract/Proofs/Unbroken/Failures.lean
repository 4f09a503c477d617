import SchemaContract.Message
import SchemaContract.Proofs.Unbroken.Faults
import SchemaContract.Validation.Rule

/-!
# Failures in one line

The line of a failure shows the way into the value, and in its reason what the rule asked for. Where
the names in the value and the texts in the rule break no line, neither does the line of a failure.
-/

namespace SchemaContract

open Text

/-! ## Reasons -/

/-- What a reason shows of a schema or a reference breaks no line. -/
def Reason.Plain : Reason → Prop
  | .format name => Unbroken name.toList
  | .pattern text => Unbroken text.toList
  | .required name => Unbroken name.toList
  | .contentEncoding _ encoding => Unbroken encoding.toList
  | .contentMediaType _ mediaType => Unbroken mediaType.toList
  | .reference fault => fault.Plain
  | _ => True

theorem TypeName.unbroken_text (t : TypeName) : Unbroken t.text.toList := by
  cases t <;> exact unbroken_literal rfl

theorem Format.unbroken_name (f : Format) : Unbroken f.name.toList := by
  cases f <;> exact unbroken_literal rfl

theorem Text.Utf8.Fault.unbroken_message (fault : Utf8.Fault) :
    Unbroken fault.message.toList := by
  unfold message
  split
  next n _ =>
    simp only [unbroken_toList_append]
    exact ⟨⟨⟨unbroken_literal rfl, unbroken_toString_nat n⟩, unbroken_literal rfl⟩,
      unbroken_toString_nat _⟩
  next =>
    rw [unbroken_toList_append]
    exact ⟨unbroken_literal rfl, unbroken_toString_nat _⟩

namespace Reason

theorem unbroken_ofTypes {names : List String} (h : ∀ name ∈ names, Unbroken name.toList) :
    Unbroken (ofTypes names).toList := by
  rw [ofTypes, unbroken_toList_append]
  exact ⟨unbroken_literal rfl, unbroken_intercalate (by decide) h⟩

theorem unbroken_ofTypeKeyword {v : Json} (h : v.isPlain = true) :
    Unbroken (ofTypeKeyword v).toList := by
  cases v with
  | string s =>
    exact unbroken_ofTypes (List.forall_mem_singleton.mpr (Json.isPlain_string_iff.mp h))
  | array vs =>
    refine unbroken_ofTypes fun name hName => ?_
    obtain ⟨v, hv, hText⟩ := List.mem_filterMap.mp hName
    have hPlain := Json.isPlain_array_iff.mp h v hv
    cases v with
    | string s =>
      cases hText
      exact Json.isPlain_string_iff.mp hPlain
    | _ => cases hText
  | _ => exact (unbroken_literal rfl : Unbroken ofAnyType.toList)

theorem unbroken_ofUnevaluatedItems (items : List Json) :
    Unbroken (ofUnevaluatedItems items).toList := by
  have hListed : Unbroken (String.intercalate ", "
      (items.map fun v => "'" ++ v.render ++ "'")).toList := by
    refine unbroken_intercalate (by decide) (List.forall_mem_map.mpr fun v _ => ?_)
    simp only [unbroken_toList_append]
    exact ⟨⟨by decide, v.unbroken_render⟩, by decide⟩
  unfold ofUnevaluatedItems
  dsimp only
  simp only [unbroken_toList_append]
  refine ⟨⟨⟨⟨unbroken_literal rfl, hListed⟩, unbroken_literal rfl⟩, ?_⟩, unbroken_literal rfl⟩
  split_ifs <;> exact unbroken_literal rfl

theorem unbroken_around {before text after : String} (hBefore : Unbroken before.toList)
    (hText : Unbroken text.toList) (hAfter : Unbroken after.toList) :
    Unbroken (before ++ text ++ after).toList := by
  simp only [unbroken_toList_append]
  exact ⟨⟨hBefore, hText⟩, hAfter⟩

theorem unbroken_content {value : Json} {name kind : String} (hName : Unbroken name.toList)
    (hKind : Unbroken kind.toList) :
    Unbroken (value.render ++ " is not compliant with " ++ inQuotes name ++ kind).toList := by
  simp only [unbroken_toList_append]
  exact ⟨⟨⟨value.unbroken_render, unbroken_literal rfl⟩, unbroken_inQuotes.mpr hName⟩, hKind⟩

theorem unbroken_text {keywordValue : Option Json} (hValue : ∀ v ∈ keywordValue, v.isPlain = true)
    {r : Reason} (h : r.Plain) : Unbroken (r.text keywordValue).toList := by
  cases r with
  | type name => exact unbroken_ofTypes (List.forall_mem_singleton.mpr name.unbroken_text)
  | types =>
    have hAnyType : Unbroken ofAnyType.toList := unbroken_literal rfl
    rcases keywordValue with - | ⟨- | - | - | - | names | -⟩
    case some.array => exact unbroken_ofTypeKeyword (hValue (.array names) rfl)
    all_goals exact hAnyType
  | format name | pattern name =>
    exact unbroken_toList_append.mpr ⟨unbroken_literal rfl, unbroken_inQuotes.mpr h⟩
  | minLength n | maxLength n | minItems n | maxItems n | minProperties n | maxProperties n =>
    exact unbroken_around (unbroken_literal rfl) (unbroken_toString_nat n) (unbroken_literal rfl)
  | minimum n | maximum n | exclusiveMinimum n | exclusiveMaximum n =>
    exact unbroken_toList_append.mpr ⟨unbroken_literal rfl, n.unbroken_render⟩
  | multipleOf =>
    cases keywordValue with
    | none => exact (unbroken_literal rfl : Unbroken (text none .multipleOf).toList)
    | some divisor =>
      exact unbroken_toList_append.mpr ⟨unbroken_literal rfl, divisor.unbroken_render⟩
  | required name => exact unbroken_around (unbroken_literal rfl) h (unbroken_literal rfl)
  | unevaluatedItems items => exact unbroken_ofUnevaluatedItems items
  | contentEncoding value encoding => exact unbroken_content h (unbroken_literal rfl)
  | contentMediaType value mediaType => exact unbroken_content h (unbroken_literal rfl)
  | notUnicode fault => exact fault.unbroken_message
  | reference fault => exact h
  | _ =>
    delta text
    dsimp only
    exact unbroken_literal rfl

end Reason

/-! ## Failures -/

/-- The failure is told by names and texts that break no line, and so are those of its branches. -/
inductive Failure.Plain : Failure → Prop where
  | plain {site : Site} {reason : Reason} (hSite : ∀ s ∈ site.value, s.Unbroken)
      (hReason : reason.Plain) : Plain (.plain site reason)
  | choice {site : Site} {kind : Choice} {branches : List (List Failure)}
      (hSite : ∀ s ∈ site.value, s.Unbroken)
      (hBranches : ∀ branch ∈ branches, ∀ f ∈ branch, Plain f) :
      Plain (.choice site kind branches)

namespace Failure

theorem Plain.site {f : Failure} (h : f.Plain) : ∀ s ∈ f.site.value, s.Unbroken := by
  cases h with
  | plain hSite hReason => exact hSite
  | choice hSite hBranches => exact hSite

theorem Plain.of_reportedBranch? {branches : List (List Failure)}
    (h : ∀ branch ∈ branches, ∀ f ∈ branch, f.reported.Plain) {g : Failure}
    (hg : reportedBranch? branches = some g) : g.Plain := by
  induction branches with
  | nil => cases hg
  | cons branch branches ih =>
    obtain ⟨hBranch, hRest⟩ := List.forall_mem_cons.mp h
    cases branch with
    | nil => exact ih hRest hg
    | cons f fs =>
      rw [reportedBranch?] at hg
      split_ifs at hg
      · exact ih hRest hg
      · cases hg
        exact hBranch f List.mem_cons_self

theorem Plain.reported {f : Failure} (h : f.Plain) : f.reported.Plain := by
  induction h with
  | plain hSite hReason => exact .plain hSite hReason
  | @choice site kind branches hSite hBranches ih =>
    rw [Failure.reported]
    cases hReported : reportedBranch? branches with
    | none => exact .choice hSite hBranches
    | some g => exact of_reportedBranch? ih hReported

theorem Plain.unbroken_reason {source : Json} (hSource : source.isPlain = true) {f : Failure}
    (h : f.Plain) : Unbroken (f.reason source).toList := by
  cases h with
  | plain hSite hReason =>
    exact Reason.unbroken_text (fun v hv => Json.isPlain_of_descend? hSource hv) hReason
  | @choice site kind =>
    have hText : ∀ kind : Choice, Unbroken kind.text.toList := by
      intro kind
      cases kind <;> exact unbroken_literal rfl
    exact hText kind

theorem Plain.unbroken_line {source : Json} (hSource : source.isPlain = true) {label : String}
    (hLabel : Unbroken label.toList) {f : Failure} (h : f.Plain) :
    Unbroken (f.line source label).toList := by
  unfold line text path
  simp only [unbroken_toList_append]
  exact ⟨hLabel, ⟨Pointer.unbroken_way h.reported.site, by decide⟩,
    h.reported.unbroken_reason hSource⟩

end Failure

theorem Json.unbroken_absence? {schema : Json} (h : schema.isPlain = true) {reason : String}
    (hReason : schema.absence? = some reason) : Unbroken reason.toList := by
  unfold absence? at hReason
  split at hReason
  next =>
    cases hReason
    exact unbroken_literal rfl
  next ms =>
    split at hReason
    next kinds hKinds =>
      cases hReason
      exact Reason.unbroken_ofTypeKeyword (isPlain_of_lookup h hKinds)
    next =>
      split_ifs at hReason
      · cases hReason
        exact unbroken_literal rfl
      · cases hReason
        exact unbroken_literal rfl
  next => cases hReason

end SchemaContract
