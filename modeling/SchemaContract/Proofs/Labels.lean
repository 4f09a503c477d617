import SchemaContract.Compiled
import SchemaContract.Proofs.Lines

/-!
# Labels

A failure line begins with the label of the value and goes on with a text that no label has any
influence on: the way into the value, a blank and a reason. So whatever two labels are, and whatever
they look like, what is told under the one is told under the other.
-/

namespace SchemaContract

open Text

/-- What stands behind the label in a line. -/
inductive LineRest : String → Prop where
  | mk (way : List Step) (reason : String) (hReason : reason ≠ "") :
      LineRest (Pointer.render (Pointer.encode (way.map Step.segment)) ++ " " ++ reason)

/-- A verdict under every label: there is no line at all, or each label stands in front of the same
text. -/
inductive Labelled : (String → Option String) → Prop where
  | silent : Labelled fun _ => none
  | told {rest : String} (h : LineRest rest) : Labelled fun label => some (label ++ rest)

theorem Labelled.cases {f : String → Option String} (h : Labelled f) :
    (∀ label, f label = none) ∨ ∃ rest, ∀ label, f label = some (label ++ rest) := by
  cases h with
  | silent => exact .inl fun _ => rfl
  | told _ => exact .inr ⟨_, fun _ => rfl⟩

/-- A result under every label, which is the same or fails with lines that differ in the label. -/
inductive LabelledFailure {α : Type} : (String → Except String α) → Prop where
  | done (a : α) : LabelledFailure fun _ => .ok a
  | told {rest : String} (h : LineRest rest) : LabelledFailure fun label => .error (label ++ rest)

/-! ## Reasons -/

theorem Text.Utf8.Fault.message_ne_empty (fault : Utf8.Fault) : fault.message ≠ "" := by
  unfold message
  split
  · exact ne_empty_of_append (.inl (ne_empty_of_append (.inr (by decide))))
  · exact ne_empty_of_append (.inl (by decide))

theorem ReferenceFault.unavailable_ne_empty (uri cause : String) : unavailable uri cause ≠ "" :=
  ne_empty_of_append (.inl (ne_empty_of_append (.inr (by decide))))

theorem ReferenceFault.message_ne_empty (fault : ReferenceFault) : fault.message ≠ "" := by
  cases fault with
  | unknownDialect uri => exact ne_empty_of_append (.inl (by decide))
  | noBase | unknownScheme | notLoaded => exact unavailable_ne_empty _ _
  | noPointer | badIndex | badEscape | noAnchor | badAnchor =>
    exact ne_empty_of_append (.inr (by decide))
  | malformed | unresolvable =>
    exact ne_empty_of_append (.inl (ne_empty_of_append (.inr (by decide))))
  | tooDeep => exact (by decide : message tooDeep ≠ "")

namespace Reason

theorem ofTypes_ne_empty (names : List String) : ofTypes names ≠ "" :=
  ne_empty_of_append (.inl (by decide))

theorem ofTypeKeyword_ne_empty (kinds : Json) : ofTypeKeyword kinds ≠ "" := by
  unfold ofTypeKeyword
  split
  · exact ofTypes_ne_empty _
  · exact ofTypes_ne_empty _
  · decide

theorem text_ne_empty (keywordValue : Option Json) (r : Reason) : r.text keywordValue ≠ "" := by
  cases r with
  | type name => exact ofTypes_ne_empty _
  | types =>
    rcases keywordValue with - | ⟨- | - | - | - | names | -⟩
    case some.array => exact ofTypes_ne_empty _
    all_goals exact (by decide : ofAnyType ≠ "")
  | format name | pattern name => exact ne_empty_of_append (.inl (by decide))
  | minLength n | maxLength n | minItems n | maxItems n | minProperties n | maxProperties n =>
    exact ne_empty_of_append (.inr (by decide))
  | minimum n | maximum n | exclusiveMinimum n | exclusiveMaximum n =>
    exact ne_empty_of_append (.inl (by decide))
  | multipleOf =>
    cases keywordValue with
    | none => exact (by decide : text none .multipleOf ≠ "")
    | some divisor => exact ne_empty_of_append (.inl (by decide))
  | required name => exact ne_empty_of_append (.inr (by decide))
  | unevaluatedItems items => exact ne_empty_of_append (.inr (by decide))
  | contentEncoding value name | contentMediaType value name =>
    exact ne_empty_of_append (.inr (by decide))
  | notUnicode fault => exact fault.message_ne_empty
  | reference fault => exact fault.message_ne_empty
  | _ =>
    delta text
    dsimp only
    decide

end Reason

theorem Choice.text_ne_empty (kind : Choice) : kind.text ≠ "" := by
  cases kind <;> decide

theorem Failure.reason_ne_empty (source : Json) (f : Failure) : f.reason source ≠ "" := by
  cases f with
  | plain site reason => exact reason.text_ne_empty _
  | choice site kind branches => exact kind.text_ne_empty

theorem Json.absence?_ne_empty {schema : Json} {reason : String}
    (h : schema.absence? = some reason) : reason ≠ "" := by
  unfold absence? at h
  split at h
  · cases h
    decide
  · split at h
    · cases h
      exact Reason.ofTypeKeyword_ne_empty _
    · split at h
      · cases h
        decide
      · split at h
        · cases h
          decide
        · cases h
  · cases h

/-! ## Lines -/

theorem Failure.lineRest_text (source : Json) (f : Failure) : LineRest (f.text source) :=
  .mk _ _ (f.reported.reason_ne_empty source)

theorem lineRest_root {reason : String} (h : reason ≠ "") : LineRest (" " ++ reason) := by
  have hRest := LineRest.mk [] reason h
  have hRoot : Pointer.render (Pointer.encode ([].map Step.segment)) = "" := by decide
  rwa [hRoot, String.empty_append] at hRest

namespace Compiled

theorem labelledFailure_compile (config : Config) (schema : Json) :
    LabelledFailure fun label => compile config label schema := by
  unfold compile
  cases Validation.compile config.formats (sourceOf config schema) with
  | ok program => exact .done _
  | error failure => exact .told (failure.lineRest_text _)

theorem labelled_check (c : Compiled) (v : Json) : Labelled fun label => c.check label v := by
  unfold check
  cases (c.program.failures v).head? with
  | none => exact .silent
  | some f => exact .told (f.lineRest_text c.source)

theorem labelled_checkAbsent (c : Compiled) : Labelled fun label => c.checkAbsent label := by
  unfold checkAbsent
  cases hReason : c.source.absence? with
  | none => exact .silent
  | some reason =>
    simp only [Option.map_some, String.append_assoc]
    exact .told (lineRest_root (Json.absence?_ne_empty hReason))

end Compiled

namespace Resolved

theorem labelled_falseLine : Labelled fun label => some (falseLine label) := by
  simp only [falseLine, String.append_assoc]
  exact .told (lineRest_root (by decide))

theorem labelled_check (m : Resolved) (v : Json) : Labelled fun label => m.check label v := by
  cases m with
  | accept => exact .silent
  | reject => exact labelled_falseLine
  | compiled c => exact c.labelled_check v

theorem labelled_checkAbsent (m : Resolved) : Labelled fun label => m.checkAbsent label := by
  cases m with
  | accept => exact .silent
  | reject => exact labelled_falseLine
  | compiled c => exact c.labelled_checkAbsent

end Resolved

/-- What compiles under one label compiles under all of them to the same, what is accepted under one
is accepted under all of them, and the lines of everything else differ in the label alone. -/
theorem Compiled.labels_stand_in_front (config : Config) (schema v : Json) :
    (LabelledFailure fun label => compile config label schema) ∧
      (∀ c : Compiled, (Labelled fun label => c.check label v) ∧
        Labelled fun label => c.checkAbsent label) ∧
      ∀ m : Resolved, (Labelled fun label => m.check label v) ∧
        Labelled fun label => m.checkAbsent label := by
  refine ⟨labelledFailure_compile config schema, ?_, ?_⟩
  · intro c
    exact ⟨c.labelled_check v, c.labelled_checkAbsent⟩
  · intro m
    exact ⟨m.labelled_check v, m.labelled_checkAbsent⟩

end SchemaContract
