import Mathlib.Tactic.SplitIfs
import SchemaContract.Json.Pointer
import SchemaContract.Json.Printer
import SchemaContract.Proofs.Values

/-!
# Texts without line breaks

Joining, cutting and quoting texts breaks no line. Values are written without line breaks whatever
texts they hold, since these are escaped; a way into a value shows the names of members as they are.
-/

namespace SchemaContract

namespace Text

/-- No character ends a line. -/
def Unbroken (cs : List Char) : Prop := ∀ c ∈ cs, c ≠ '\n' ∧ c ≠ '\r'

instance (cs : List Char) : Decidable (Unbroken cs) :=
  List.decidableBAll (fun c => c ≠ '\n' ∧ c ≠ '\r') cs

@[simp] theorem unbroken_nil : Unbroken [] := fun _ h => absurd h List.not_mem_nil

@[simp] theorem unbroken_cons {c : Char} {cs : List Char} :
    Unbroken (c :: cs) ↔ (c ≠ '\n' ∧ c ≠ '\r') ∧ Unbroken cs :=
  List.forall_mem_cons

@[simp] theorem unbroken_append {as bs : List Char} :
    Unbroken (as ++ bs) ↔ Unbroken as ∧ Unbroken bs :=
  List.forall_mem_append

theorem unbroken_toList_append {a b : String} :
    Unbroken (a ++ b).toList ↔ Unbroken a.toList ∧ Unbroken b.toList := by
  rw [String.toList_append, unbroken_append]

@[simp] theorem unbroken_reverse {cs : List Char} : Unbroken cs.reverse ↔ Unbroken cs := by
  simp [Unbroken]

theorem Unbroken.subset {as bs : List Char} (h : Unbroken bs) (hSub : as ⊆ bs) : Unbroken as :=
  fun c hc => h c (hSub hc)

theorem unbroken_flatMap {α : Type} {as : List α} {f : α → List Char}
    (h : ∀ a ∈ as, Unbroken (f a)) : Unbroken (as.flatMap f) := by
  intro c hc
  obtain ⟨a, ha, hc⟩ := List.mem_flatMap.mp hc
  exact h a ha c hc

theorem unbroken_replicate {n : Nat} {c : Char} (h : c ≠ '\n' ∧ c ≠ '\r') :
    Unbroken (List.replicate n c) :=
  fun _ hd => (List.eq_of_mem_replicate hd) ▸ h

theorem forall_mem_intercalate {P : Char → Prop} {sep : String} {texts : List String}
    (hSep : ∀ c ∈ sep.toList, P c) (h : ∀ s ∈ texts, ∀ c ∈ s.toList, P c) :
    ∀ c ∈ (String.intercalate sep texts).toList, P c := by
  induction texts with
  | nil => simp
  | cons s texts ih =>
    obtain ⟨hs, hRest⟩ := List.forall_mem_cons.mp h
    cases texts with
    | nil => simpa using hs
    | cons t texts =>
      rw [String.intercalate_cons_cons, String.toList_append, String.toList_append,
        List.forall_mem_append, List.forall_mem_append]
      exact ⟨⟨hs, hSep⟩, ih hRest⟩

theorem unbroken_intercalate {sep : String} {texts : List String} (hSep : Unbroken sep.toList)
    (h : ∀ s ∈ texts, Unbroken s.toList) : Unbroken (String.intercalate sep texts).toList :=
  forall_mem_intercalate hSep h

theorem unbroken_of_isDigit {cs : List Char} (h : ∀ c ∈ cs, c.isDigit = true) : Unbroken cs := by
  intro c hc
  constructor
  · rintro rfl
    exact absurd (h '\n' hc) (by decide)
  · rintro rfl
    exact absurd (h '\r' hc) (by decide)

theorem unbroken_toString_nat (n : Nat) : Unbroken (toString n).toList := by
  refine unbroken_of_isDigit fun c hc => ?_
  rw [Nat.toString_eq_repr, Nat.toList_repr] at hc
  exact Nat.isDigit_of_mem_toDigits (by omega) (by omega) hc

theorem unbroken_toString_int (i : Int) : Unbroken (toString i).toList := by
  cases i with
  | ofNat n => exact unbroken_toString_nat n
  | negSucc n =>
    change Unbroken ("-" ++ toString (n + 1)).toList
    rw [unbroken_toList_append]
    exact ⟨by decide, unbroken_toString_nat (n + 1)⟩

theorem subset_of_mem_pieces {sep : Char} {cs piece : List Char} (h : piece ∈ pieces sep cs) :
    piece ⊆ cs := by
  induction cs generalizing piece with
  | nil =>
    rw [List.mem_singleton.mp h]
    exact List.Subset.refl _
  | cons c cs ih =>
    rw [pieces] at h
    split at h
    next hNone => exact absurd hNone (pieces_ne_nil sep cs)
    next first rest hPieces =>
      have hFirst : first ⊆ cs := ih (hPieces ▸ List.mem_cons_self)
      have hRest : ∀ p ∈ rest, p ⊆ c :: cs := fun p hp =>
        List.subset_cons_of_subset c (ih (hPieces ▸ List.mem_cons_of_mem first hp))
      split_ifs at h
      · rcases List.mem_cons.mp h with rfl | h
        · exact List.nil_subset _
        · rcases List.mem_cons.mp h with rfl | h
          · exact List.subset_cons_of_subset c hFirst
          · exact hRest piece h
      · rcases List.mem_cons.mp h with rfl | h
        · exact List.cons_subset_cons c hFirst
        · exact hRest piece h

theorem unbroken_inQuotes {s : String} :
    Unbroken (inQuotes s).toList ↔ Unbroken s.toList := by
  simp [inQuotes]

/-! ## Literal texts -/

/-- A literal is a list of characters, which can be looked through one by one. -/
theorem unbroken_literal {cs : List Char} (h : (cs.all fun c => c != '\n' && c != '\r') = true) :
    Unbroken (String.ofList cs).toList := by
  rw [String.toList_ofList]
  intro c hc
  simpa using List.all_eq_true.mp h c hc

/-! ## Texts by their bytes -/

/-- Whether a byte does not occur in a text. A literal gives its bytes sooner than its characters.
-/
def lacksByte (byte : UInt8) (s : String) : Bool := !s.toByteArray.data.toList.contains byte

theorem not_mem_of_lacksByte {c : Char} {byte : UInt8} (hc : String.utf8EncodeChar c = [byte])
    {s : String} (h : lacksByte byte s = true) : c ∉ s.toList := by
  intro hMem
  have hBytes : s.toByteArray.data.toList = s.toList.flatMap String.utf8EncodeChar := by
    rw [← String.utf8Encode_toList, List.utf8Encode, List.data_toByteArray]
  have hByte : byte ∈ s.toByteArray.data.toList := by
    rw [hBytes]
    exact List.mem_flatMap.mpr ⟨c, hMem, hc ▸ List.mem_singleton_self byte⟩
  rw [lacksByte, Bool.not_eq_true', List.contains_eq_mem, decide_eq_false_iff_not] at h
  exact h hByte

theorem unbroken_of_lacksByte {s : String} (h : (lacksByte 10 s && lacksByte 13 s) = true) :
    Unbroken s.toList := by
  obtain ⟨hNewline, hReturn⟩ := Bool.and_eq_true_iff.mp h
  intro c hc
  constructor
  · rintro rfl
    exact not_mem_of_lacksByte (by decide) hNewline hc
  · rintro rfl
    exact not_mem_of_lacksByte (by decide) hReturn hc

instance (s : String) : Decidable (Unbroken s.toList) :=
  if h : lacksByte 10 s && lacksByte 13 s then isTrue (unbroken_of_lacksByte h)
  else List.decidableBAll (fun c => c ≠ '\n' ∧ c ≠ '\r') s.toList

instance decidablePercentNotMem (s : String) : Decidable ('%' ∉ s.toList) :=
  if h : lacksByte 37 s then isTrue (not_mem_of_lacksByte (by decide) h)
  else inferInstanceAs (Decidable (¬ '%' ∈ s.toList))

end Text

open Text

/-! ## Numbers -/

theorem Number.unbroken_layout (d : Decimal) : Unbroken (layout d).toList := by
  have hDigits := unbroken_toString_nat d.digits
  have hZeros : ∀ n, Unbroken (List.replicate n '0') := fun n => unbroken_replicate (by decide)
  unfold layout
  generalize (toString d.digits).toList = digits at hDigits ⊢
  have hTake : ∀ n, Unbroken (digits.take n) := fun n => hDigits.subset (List.take_subset n _)
  have hDrop : ∀ n, Unbroken (digits.drop n) := fun n => hDigits.subset (List.drop_subset n _)
  dsimp only
  split_ifs
  case pos => decide
  all_goals
    simp only [String.toList_ofList, unbroken_append, unbroken_cons, unbroken_nil, hDigits, hTake,
      hDrop, hZeros, unbroken_toString_nat]
    decide

theorem Number.unbroken_render (n : Number) : Unbroken n.render.toList := by
  cases n with
  | int i => exact unbroken_toString_int i
  | double x =>
    rw [render, unbroken_toList_append]
    refine ⟨?_, unbroken_layout _⟩
    split_ifs <;> decide

/-! ## Values -/

namespace Json

theorem unbroken_escapeChar (c : Char) : Unbroken (escapeChar c) := by
  have hHex : ∀ n < 16, hexDigit n ≠ '\n' ∧ hexDigit n ≠ '\r' := by decide
  unfold escapeChar
  split
  case h_8 hNewline hReturn _ _ _ =>
    split_ifs with hControl
    · have hHigh := hHex (c.toNat / 16) (by omega)
      have hLow := hHex (c.toNat % 16) (by omega)
      simp [hHigh, hLow]
    · exact unbroken_cons.mpr ⟨⟨hNewline, hReturn⟩, unbroken_nil⟩
  all_goals decide

theorem unbroken_renderString (s : String) : Unbroken (renderString s).toList := by
  rw [renderString, String.toList_ofList, unbroken_append, unbroken_append]
  exact ⟨⟨by decide, unbroken_flatMap fun c _ => unbroken_escapeChar c⟩, by decide⟩

theorem renderItems_eq_map (vs : List Json) : renderItems vs = vs.map render := by
  induction vs with
  | nil => rfl
  | cons v vs ih => rw [renderItems, ih, List.map_cons]

theorem renderMembers_eq_map (ms : List (String × Json)) :
    renderMembers ms = ms.map fun m => renderString m.1 ++ ":" ++ render m.2 := by
  induction ms with
  | nil => rfl
  | cons m ms ih => rw [renderMembers, ih, List.map_cons]

theorem unbroken_render (v : Json) : Unbroken v.render.toList := by
  induction v using inductionOn with
  | scalar v hItems hMembers =>
    cases v with
    | null => decide
    | bool b => cases b <;> decide
    | number n => exact n.unbroken_render
    | string s => exact unbroken_renderString s
    | array vs => cases hItems
    | object ms => cases hMembers
  | array vs ih =>
    rw [render, renderItems_eq_map, unbroken_toList_append, unbroken_toList_append]
    exact ⟨⟨by decide, unbroken_intercalate (by decide) (List.forall_mem_map.mpr ih)⟩, by decide⟩
  | object ms ih =>
    rw [render, renderMembers_eq_map, unbroken_toList_append, unbroken_toList_append]
    refine ⟨⟨by decide, unbroken_intercalate (by decide) (List.forall_mem_map.mpr ?_)⟩, by decide⟩
    intro m hm
    rw [unbroken_toList_append, unbroken_toList_append]
    exact ⟨⟨unbroken_renderString m.1, by decide⟩, ih m hm⟩

end Json

/-! ## Ways into values -/

/-- The step shows no line break: it is a position, or to a member with such a name. -/
def Step.Unbroken (s : Step) : Prop := Text.Unbroken s.segment.toList

theorem Step.unbroken_index (i : Nat) : (Step.index i).Unbroken := unbroken_toString_nat i

namespace Pointer

theorem unbroken_decodeChars {cs : List Char} (h : Unbroken cs) : Unbroken (decodeChars cs) := by
  fun_induction decodeChars cs with
  | case1 => exact unbroken_nil
  | case2 cs ih =>
    simp only [unbroken_cons] at h ⊢
    exact ⟨by decide, ih h.2.2⟩
  | case3 cs ih =>
    simp only [unbroken_cons] at h ⊢
    exact ⟨by decide, ih h.2.2⟩
  | case4 c cs _ _ ih =>
    simp only [unbroken_cons] at h ⊢
    exact ⟨h.1, ih h.2⟩

theorem unbroken_encodeChars {segments : List String}
    (h : ∀ s ∈ segments, Unbroken s.toList) : Unbroken (encodeChars segments) := by
  refine unbroken_flatMap fun s hs => unbroken_cons.mpr ⟨by decide, unbroken_flatMap fun c hc => ?_⟩
  unfold encodeChar
  split_ifs
  · decide
  · decide
  · exact unbroken_cons.mpr ⟨h s hs c hc, unbroken_nil⟩

theorem unbroken_accessor {segment : String} (h : Unbroken segment.toList) :
    Unbroken (accessor segment) := by
  have hQuoted : Unbroken (segment.toList.flatMap quoteChar) := by
    refine unbroken_flatMap fun c hc => ?_
    unfold quoteChar
    split_ifs
    · exact unbroken_cons.mpr ⟨by decide, unbroken_cons.mpr ⟨h c hc, unbroken_nil⟩⟩
    · exact unbroken_cons.mpr ⟨h c hc, unbroken_nil⟩
  unfold accessor
  dsimp only
  split_ifs <;> simp [h, hQuoted]

theorem unbroken_render {pointer : String} (h : Unbroken pointer.toList) :
    Unbroken (render pointer).toList := by
  rw [render, String.toList_ofList]
  refine unbroken_flatMap fun segment hSegment => unbroken_accessor ?_
  obtain ⟨piece, hPiece, rfl⟩ := List.mem_map.mp hSegment
  rw [String.toList_ofList]
  exact unbroken_decodeChars (h.subset (subset_of_mem_pieces (List.mem_of_mem_tail hPiece)))

theorem unbroken_way {way : List Step} (h : ∀ s ∈ way, s.Unbroken) :
    Unbroken (render (encode (way.map Step.segment))).toList := by
  refine unbroken_render ?_
  rw [encode, String.toList_ofList]
  exact unbroken_encodeChars (List.forall_mem_map.mpr h)

end Pointer

end SchemaContract
