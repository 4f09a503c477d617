import SchemaContract.Proofs.Unbroken.Schemas
import SchemaContract.Proofs.Unbroken.Uris
import SchemaContract.Validation.Role

/-!
# Faults of references in one line

What is wrong with a reference is told with the texts of the reference and of the base it is read
at. References of plain schemas lead to URIs without escapes, or to faults without line breaks.
-/

namespace SchemaContract

open Text

/-! ## Runs with two ends -/

/-- What holds of the fault or of the result that a run ends with. -/
def Ends {ε α : Type} (E : ε → Prop) (P : α → Prop) : Except ε α → Prop
  | .ok a => P a
  | .error e => E e

namespace Ends

variable {ε α β : Type} {E : ε → Prop} {P : α → Prop} {Q : β → Prop} {x : Except ε α}

theorem of_ok (h : Ends E P x) {a : α} (hx : x = .ok a) : P a := by
  rw [hx] at h
  exact h

theorem of_error (h : Ends E P x) {e : ε} (hx : x = .error e) : E e := by
  rw [hx] at h
  exact h

theorem bind (h : Ends E P x) {f : α → Except ε β} (hf : ∀ a, P a → Ends E Q (f a)) :
    Ends E Q (x >>= f) := by
  cases x with
  | ok a => exact hf a h
  | error e => exact h

theorem map (h : Ends E P x) {f : α → β} (hf : ∀ a, P a → Q (f a)) : Ends E Q (x.map f) := by
  cases x with
  | ok a => exact hf a h
  | error e => exact h

end Ends

/-! ## Messages -/

/-- The fault is told in one line. -/
def ReferenceFault.Plain (fault : ReferenceFault) : Prop := Unbroken fault.message.toList

theorem Uri.Fault.unbroken_message (fault : Uri.Fault) : Unbroken fault.message.toList := by
  unfold message
  cases fault <;> rw [unbroken_toList_append] <;>
    exact ⟨unbroken_literal rfl, unbroken_toString_nat _⟩

theorem Uri.BaseFault.unbroken_message (fault : Uri.BaseFault) :
    Unbroken fault.message.toList := by
  unfold message
  cases fault with
  | fragment => exact unbroken_literal rfl
  | rootless =>
    rw [unbroken_toList_append]
    exact ⟨unbroken_literal rfl, unbroken_literal rfl⟩

namespace ReferenceFault

theorem unbroken_unavailable {uri cause : String} (hUri : Unbroken uri.toList)
    (hCause : Unbroken cause.toList) : Unbroken (unavailable uri cause).toList := by
  unfold unavailable
  simp only [unbroken_toList_append]
  exact ⟨⟨⟨unbroken_literal rfl, hUri⟩, unbroken_literal rfl⟩, hCause⟩

theorem plain_unknownDialect {uri : String} (h : Unbroken uri.toList) :
    (unknownDialect uri).Plain := by
  unfold Plain message
  simp only [unbroken_toList_append]
  exact ⟨unbroken_literal rfl, h⟩

theorem plain_noBase {reference : String} (h : Unbroken reference.toList) :
    (noBase reference).Plain :=
  unbroken_unavailable h (unbroken_literal rfl)

theorem plain_unknownScheme {uri scheme : String} (hUri : Unbroken uri.toList)
    (hScheme : Unbroken scheme.toList) : (unknownScheme uri scheme).Plain := by
  refine unbroken_unavailable hUri ?_
  simp only [unbroken_toList_append]
  exact ⟨unbroken_literal rfl, hScheme⟩

theorem plain_notLoaded {uri : String} (h : Unbroken uri.toList) : (notLoaded uri).Plain :=
  unbroken_unavailable h (unbroken_literal rfl)

theorem plain_noPointer {pointer : String} (h : Unbroken pointer.toList) :
    (noPointer pointer).Plain := by
  unfold Plain message
  simp only [unbroken_toList_append]
  exact ⟨⟨unbroken_literal rfl, h⟩, unbroken_literal rfl⟩

theorem plain_badIndex {pointer index : String} (h : Unbroken pointer.toList)
    (hIndex : Unbroken index.toList) : (badIndex pointer index).Plain := by
  unfold Plain message
  simp only [unbroken_toList_append]
  exact ⟨⟨⟨⟨unbroken_literal rfl, hIndex⟩, unbroken_literal rfl⟩, h⟩, unbroken_literal rfl⟩

theorem plain_noAnchor {anchor : String} (h : Unbroken anchor.toList) :
    (noAnchor anchor).Plain := by
  unfold Plain message
  simp only [unbroken_toList_append]
  exact ⟨⟨unbroken_literal rfl, h⟩, unbroken_literal rfl⟩

theorem plain_badAnchor {anchor : String} (h : Unbroken anchor.toList) :
    (badAnchor anchor).Plain := by
  unfold Plain message
  simp only [unbroken_toList_append]
  exact ⟨⟨unbroken_literal rfl, h⟩, unbroken_literal rfl⟩

theorem plain_malformed {reference : String} (h : Unbroken reference.toList) (fault : Uri.Fault) :
    (malformed reference fault).Plain := by
  unfold Plain message
  simp only [unbroken_toList_append]
  exact ⟨⟨⟨unbroken_literal rfl, h⟩, unbroken_literal rfl⟩, fault.unbroken_message⟩

theorem plain_unresolvable {reference base : String} (h : Unbroken reference.toList)
    (hBase : Unbroken base.toList) (fault : Uri.BaseFault) :
    (unresolvable reference base fault).Plain := by
  unfold Plain message
  simp only [unbroken_toList_append]
  exact ⟨⟨⟨⟨⟨unbroken_literal rfl, h⟩, unbroken_literal rfl⟩, hBase⟩, unbroken_literal rfl⟩,
    fault.unbroken_message⟩

end ReferenceFault

/-! ## Bases -/

theorem Dialect.trimSigns_subset (cs : List Char) : trimSigns cs ⊆ cs := by
  intro c hc
  exact List.mem_reverse.mp (List.dropWhile_subset _ (List.mem_reverse.mp hc))

namespace Uri

theorem target_ends {base : Uri} (hBase : base.Verbatim) {reference : List Char}
    (h : Text.Verbatim reference) :
    Ends ReferenceFault.Plain Verbatim (base.target reference) := by
  have hText : Unbroken (String.ofList reference).toList := by
    rw [String.toList_ofList]
    exact h.1
  unfold target
  split
  next u hFollow => exact follow_verbatim hBase h hFollow
  next fault _ => exact ReferenceFault.plain_malformed hText fault
  next fault _ => exact ReferenceFault.plain_unresolvable hText hBase.unbroken_text fault

theorem enter_ends {base : Uri} (hBase : base.Verbatim) (d : Dialect) {schema : Json}
    (h : schema.isPlain = true) : Ends ReferenceFault.Plain Verbatim (base.enter d schema) := by
  unfold enter
  split
  next ms =>
    split
    next id hId =>
      refine target_ends hBase ?_
      unfold Dialect.id? at hId
      split at hId
      next s hLookup =>
        split_ifs at hId
        cases hId
        have hKeyword : d.idKeyword ∈ Json.uriKeywords := by
          cases d <;> decide
        have hText : Text.Verbatim s.toList := Json.percent_not_mem_of_lookup h hKeyword hLookup
        exact hText.subset (Dialect.trimSigns_subset _)
      next => cases hId
    next => exact hBase
  next => exact hBase

end Uri

end SchemaContract
