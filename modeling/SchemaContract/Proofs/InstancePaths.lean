import SchemaContract.Proofs.Accessors
import SchemaContract.Proofs.Branches.Meant

/-!
# Members and elements in accessor form

A pointer keeps the segments of a way and forgets which of them name members and which number
elements. In accessor form a segment of digits is shown as the number of an element, whatever it
was. Members are told from elements on exactly those ways on which no member is named by digits.
-/

namespace SchemaContract

open Pointer (IsNumeral IsName ShownAs escaping accessor encode render)

/-! ## Numerals -/

theorem Pointer.isNumeral_toString (i : Nat) : IsNumeral (toString i) := by
  rw [Nat.toString_eq_repr]
  constructor
  · intro hEmpty
    have hNil := congrArg String.toList hEmpty
    rw [Nat.toList_repr] at hNil
    exact Nat.toDigits_ne_nil hNil
  · intro c hc
    rw [Nat.toList_repr] at hc
    exact (isDigit_iff c).mp (Nat.isDigit_of_mem_toDigits (by omega) (by omega) hc)

theorem toString_nat_injective {i j : Nat} (h : toString i = toString j) : i = j := by
  have hDigits := congrArg String.toList h
  rw [Nat.toString_eq_repr, Nat.toString_eq_repr, Nat.toList_repr, Nat.toList_repr] at hDigits
  calc
    i = Nat.ofDigitChars 10 (Nat.toDigits 10 i) 0 := Nat.ofDigitChars_ten_toDigits.symm
    _ = Nat.ofDigitChars 10 (Nat.toDigits 10 j) 0 := by rw [hDigits]
    _ = j := Nat.ofDigitChars_ten_toDigits

theorem Pointer.IsName.not_isNumeral {s : String} (h : IsName s) : ¬ IsNumeral s := by
  obtain ⟨c, cs, hChars, hStart, -⟩ := h
  intro hNumeral
  obtain ⟨hLow, hHigh⟩ := hNumeral.2 c (hChars ▸ List.mem_cons_self)
  rcases hStart with ⟨hc, -⟩ | ⟨hc, -⟩ | rfl | rfl
  · exact absurd (Char.le_trans hc hHigh) (by decide)
  · exact absurd (Char.le_trans hc hHigh) (by decide)
  · exact absurd hHigh (by decide)
  · exact absurd hLow (by decide)

namespace Step

/-- How a step is shown where members are told from elements: an element by its number in brackets,
a member by its name, in brackets and quotes unless the name is an identifier. -/
inductive ToldAs : Step → String → Prop where
  | index (i : Nat) : ToldAs (.index i) ("[" ++ toString i ++ "]")
  | name {s : String} (h : IsName s) : ToldAs (.member s) ("." ++ s)
  | quoted {s : String} (h : ¬ IsName s) :
      ToldAs (.member s) ("['" ++ String.ofList (escaping '\'' (escaping '\\' s.toList)) ++ "']")

/-- Whether a step is to a member that is named by digits alone. -/
def IsNumeric (a : Step) : Prop := ∃ s, a = .member s ∧ IsNumeral s

/-- How a step is shown: a member that is named by digits like an element, others as they are
told. -/
def Shows (a : Step) (text : String) : Prop :=
  (a.IsNumeric ∧ text = "[" ++ a.segment ++ "]") ∨ (¬ a.IsNumeric ∧ ToldAs a text)

/-- Steps that are the same, or to an element and to the member that is named by its number. -/
inductive Alike : Step → Step → Prop where
  | same (a : Step) : Alike a a
  | element (i : Nat) : Alike (.member (toString i)) (.index i)
  | member (i : Nat) : Alike (.index i) (.member (toString i))

theorem alike_iff (a b : Step) : Alike a b ↔ a.segment = b.segment := by
  constructor
  · intro h
    cases h <;> rfl
  · intro h
    cases a with
    | member s =>
      cases b with
      | member t =>
        cases h
        exact .same _
      | index j =>
        cases h
        exact .element j
    | index i =>
      cases b with
      | member t =>
        cases h
        exact .member i
      | index j =>
        cases toString_nat_injective h
        exact .same _

/-! ## One step -/

theorem not_isNumeric_index (i : Nat) : ¬ (Step.index i).IsNumeric := by
  rintro ⟨s, hMember, -⟩
  cases hMember

theorem isNumeric_member_iff (s : String) : (Step.member s).IsNumeric ↔ IsNumeral s := by
  constructor
  · rintro ⟨t, hMember, ht⟩
    cases hMember
    exact ht
  · exact fun h => ⟨s, rfl, h⟩

theorem shows_of_shownAs {a : Step} {text : String} (h : ShownAs a.segment text) :
    a.Shows text := by
  cases a with
  | index i =>
    have hIndex := Pointer.isNumeral_toString i
    change ShownAs (toString i) text at h
    cases h with
    | index => exact .inr ⟨not_isNumeric_index i, .index i⟩
    | name hName => exact absurd hIndex hName.not_isNumeral
    | quoted hNumeral => exact absurd hIndex hNumeral
  | member s =>
    change ShownAs s text at h
    cases h with
    | index hNumeral => exact .inl ⟨⟨s, rfl, hNumeral⟩, rfl⟩
    | name hName =>
      exact .inr ⟨mt (isNumeric_member_iff s).mp hName.not_isNumeral, .name hName⟩
    | quoted hNumeral hName =>
      exact .inr ⟨mt (isNumeric_member_iff s).mp hNumeral, .quoted hName⟩

theorem ToldAs.unique {a : Step} {text other : String} (h : ToldAs a text) (h' : ToldAs a other) :
    text = other := by
  cases h with
  | index i =>
    cases h'
    rfl
  | name hName =>
    cases h' with
    | name => rfl
    | quoted hOther => exact absurd hName hOther
  | quoted hQuoted =>
    cases h' with
    | name hName => exact absurd hName hQuoted
    | quoted => rfl

theorem shows_iff (a : Step) (text : String) :
    a.Shows text ↔ text = String.ofList (accessor a.segment) := by
  have hShown := shows_of_shownAs (Pointer.shownAs_accessor a.segment)
  constructor
  · rintro (⟨hNumeric, rfl⟩ | ⟨hPlain, hTold⟩)
    · rcases hShown with ⟨-, hText⟩ | ⟨hOther, -⟩
      · exact hText.symm
      · exact absurd hNumeric hOther
    · rcases hShown with ⟨hNumeric, -⟩ | ⟨-, hOther⟩
      · exact absurd hNumeric hPlain
      · exact hTold.unique hOther
  · rintro rfl
    exact hShown

theorem IsNumeric.accessor_append_ne {a : Step} (h : a.IsNumeric) {text : String}
    (hTold : ToldAs a text) (rest others : List Char) :
    accessor a.segment ++ rest ≠ text.toList ++ others := by
  obtain ⟨s, rfl, hNumeral⟩ := h
  have hAccessor := (shows_iff (.member s) _).mp (.inl ⟨⟨s, rfl, hNumeral⟩, rfl⟩)
  have hForm : accessor (Step.member s).segment = '[' :: (s.toList ++ [']']) := by
    have hChars := congrArg String.toList hAccessor
    rw [String.toList_ofList] at hChars
    rw [← hChars]
    simp [segment]
  cases hTold with
  | name hName => exact absurd hNumeral hName.not_isNumeral
  | quoted hName =>
    intro hSame
    rw [hForm] at hSame
    simp only [String.toList_append, List.cons_append, List.append_assoc] at hSame
    exact hNumeral.toList_append_ne _ _ (List.cons.inj hSame).2

/-! ## Ways -/

theorem not_isNumeric_of_told {way : List Step} {shown : List String}
    (h : List.Forall₂ ToldAs way shown)
    (hText : way.flatMap (fun a => accessor a.segment) = shown.flatMap String.toList) :
    ∀ a ∈ way, ¬ a.IsNumeric := by
  induction h with
  | nil => exact fun a ha => absurd ha List.not_mem_nil
  | @cons a text way shown hTold _ ih =>
    rw [List.flatMap_cons, List.flatMap_cons] at hText
    -- The first step is told as it is shown, so both texts go on alike behind it.
    have ha : ¬ a.IsNumeric := fun hNumeric => hNumeric.accessor_append_ne hTold _ _ hText
    have hForm := (shows_iff a text).mp (.inr ⟨ha, hTold⟩)
    rw [hForm, String.toList_ofList] at hText
    exact List.forall_mem_cons.mpr ⟨ha, ih (List.append_cancel_left hText)⟩

theorem map_segment_eq_iff (way other : List Step) :
    way.map segment = other.map segment ↔ List.Forall₂ Alike way other := by
  have hAlike : Alike = fun a b => a.segment = b.segment :=
    funext₂ fun a b => propext (alike_iff a b)
  rw [hAlike, ← List.forall₂_eq_eq_eq, List.forall₂_map_left_iff, List.forall₂_map_right_iff]

end Step

namespace Pointer

theorem toList_render_way (way : List Step) :
    (render (encode (way.map Step.segment))).toList =
      way.flatMap fun a => accessor a.segment := by
  rw [render_encode, String.toList_ofList, List.flatMap_map]

theorem exists_shown (way : List Step) : ∃ shown, List.Forall₂ Step.Shows way shown ∧
    render (encode (way.map Step.segment)) = String.join shown := by
  refine ⟨way.map fun a => String.ofList (accessor a.segment), ?_, ?_⟩
  · rw [List.forall₂_map_right_iff, List.forall₂_same]
    exact fun a _ => (a.shows_iff _).mpr rfl
  · rw [← String.toList_inj, toList_render_way, String.toList_join, List.flatMap_map]
    simp only [String.toList_ofList]

/-- Each step is told by its kind, but for a member that is named by digits, which is shown like an
element. So a way is told as it should be exactly when it has no such member, and two ways look the
same exactly when they differ at most between elements and the members that their numbers name. -/
theorem render_tells_kinds_iff (way other : List Step) :
    (∃ shown, List.Forall₂ Step.Shows way shown ∧
      render (encode (way.map Step.segment)) = String.join shown) ∧
    ((∃ shown, List.Forall₂ Step.ToldAs way shown ∧
        render (encode (way.map Step.segment)) = String.join shown) ↔
      ∀ a ∈ way, ¬ a.IsNumeric) ∧
    (render (encode (way.map Step.segment)) = render (encode (other.map Step.segment)) ↔
      List.Forall₂ Step.Alike way other) := by
  refine ⟨exists_shown way, ⟨?_, ?_⟩, ?_⟩
  · rintro ⟨shown, hTold, hText⟩
    rw [← String.toList_inj, toList_render_way, String.toList_join] at hText
    exact Step.not_isNumeric_of_told hTold hText
  · intro hPlain
    obtain ⟨shown, hShown, hText⟩ := exists_shown way
    refine ⟨shown, ?_, hText⟩
    rw [List.forall₂_iff_zip] at hShown ⊢
    refine ⟨hShown.1, fun {a text} hMem => ?_⟩
    rcases hShown.2 hMem with ⟨hNumeric, -⟩ | ⟨-, hTold⟩
    · exact absurd hNumeric (hPlain a (List.of_mem_zip hMem).1)
    · exact hTold
  · rw [render_encode, render_encode, ← Step.map_segment_eq_iff]
    constructor
    · exact fun h => flatMap_accessor_injective (String.ofList_injective h)
    · exact fun h => by rw [h]

/-- A string is asked for below the member that is named by the zero, and in every element. -/
def zeroAndItems : Json :=
  .object [("$schema", .string "http://json-schema.org/draft-04/schema#"),
    ("properties", .object [("0", .object [("type", .string "string")])]),
    ("items", .object [("type", .string "string")])]

theorem zeroAndItems_evaluated :
    ((Compiled.compile Config.standard "x" zeroAndItems).toOption.any fun c =>
      c.check "x" (.object [("0", .nat 1)]) == some "x[0] should be string" &&
        c.check "x" (.array [.nat 1]) == some "x[0] should be string") = true := by
  decide +kernel

/-- The member that is named by the zero is shown as the first element of an array is. -/
theorem member_shown_as_element :
    (∃ c, Compiled.compile Config.standard "x" zeroAndItems = .ok c ∧
      c.check "x" (.object [("0", .nat 1)]) = some "x[0] should be string" ∧
      c.check "x" (.array [.nat 1]) = some "x[0] should be string") ∧
    (¬ ∃ shown, List.Forall₂ Step.ToldAs [.member "0"] shown ∧
      render (encode ([Step.member "0"].map Step.segment)) = String.join shown) ∧
    render (encode ([Step.member "0"].map Step.segment)) =
      render (encode ([Step.index 0].map Step.segment)) := by
  refine ⟨?_, ?_, rfl⟩
  · obtain ⟨c, hc, h⟩ := Compiled.exists_compiled zeroAndItems_evaluated
    rw [Bool.and_eq_true, beq_iff_eq, beq_iff_eq] at h
    exact ⟨c, hc, h⟩
  · rintro ⟨shown, hTold, hText⟩
    rw [← String.toList_inj, toList_render_way, String.toList_join] at hText
    have hPlain := Step.not_isNumeric_of_told hTold hText _ List.mem_cons_self
    exact hPlain ⟨"0", rfl, Pointer.isNumeral_toString 0⟩

end Pointer

end SchemaContract
