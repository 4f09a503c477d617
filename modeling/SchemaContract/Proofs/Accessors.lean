import Mathlib.Data.List.Forall2
import Mathlib.Logic.Function.Defs
import SchemaContract.Json.Pointer

/-!
# Ways in accessor form

A pointer in accessor form shows its segments one behind the other. No two lists of segments look
the same: an accessor tells by its first characters which form it has, and by the others where it
ends, whatever the segment holds.
-/

namespace SchemaContract

/-! ## Pieces -/

namespace Text

theorem pieces_separator (sep : Char) (cs : List Char) :
    pieces sep (sep :: cs) = [] :: pieces sep cs := by
  rw [pieces]
  cases h : pieces sep cs with
  | nil => exact absurd h (pieces_ne_nil sep cs)
  | cons p ps => exact if_pos rfl

theorem pieces_append {sep : Char} {as bs p : List Char} {ps : List (List Char)} (h : sep ∉ as)
    (hPieces : pieces sep bs = p :: ps) : pieces sep (as ++ bs) = (as ++ p) :: ps := by
  induction as with
  | nil => exact hPieces
  | cons a as ih =>
    have ha : a ≠ sep := fun e => h (e ▸ List.mem_cons_self)
    have hRest := ih fun m => h (List.mem_cons_of_mem a m)
    rw [List.cons_append, pieces, hRest]
    exact if_neg ha

end Text

namespace Pointer

/-! ## Segments -/

theorem decodeChars_encodeChar (c : Char) (cs : List Char) :
    decodeChars (encodeChar c ++ cs) = c :: decodeChars cs := by
  unfold encodeChar
  split
  next hTilde => exact hTilde ▸ decodeChars.eq_3 cs
  next hTilde =>
    split
    next hSlash => exact hSlash ▸ decodeChars.eq_2 cs
    next =>
      refine decodeChars.eq_4 c cs ?_ ?_
      · exact fun _ e => absurd e hTilde
      · exact fun _ e => absurd e hTilde

theorem decodeChars_encoded (cs : List Char) : decodeChars (cs.flatMap encodeChar) = cs := by
  induction cs with
  | nil => rfl
  | cons c cs ih => rw [List.flatMap_cons, decodeChars_encodeChar, ih]

theorem slash_not_mem_encoded (cs : List Char) : '/' ∉ cs.flatMap encodeChar := by
  intro hMem
  obtain ⟨c, -, hc⟩ := List.mem_flatMap.mp hMem
  unfold encodeChar at hc
  split at hc
  · exact absurd hc (by decide)
  · split at hc
    · exact absurd hc (by decide)
    next hSlash => exact hSlash (List.mem_singleton.mp hc).symm

theorem pieces_encodeChars (segments : List String) :
    Text.pieces '/' (encodeChars segments) =
      [] :: segments.map fun s => s.toList.flatMap encodeChar := by
  induction segments with
  | nil => rfl
  | cons s segments ih =>
    have hFirst := Text.pieces_append (slash_not_mem_encoded s.toList) ih
    rw [List.append_nil] at hFirst
    rw [encodeChars, List.flatMap_cons, List.cons_append, Text.pieces_separator, List.map_cons]
    exact congrArg ([] :: ·) hFirst

theorem segments_encode (ss : List String) : segments (encode ss) = ss := by
  rw [segments, encode, String.toList_ofList, pieces_encodeChars, List.tail_cons, List.map_map]
  calc
    ss.map _ = ss.map id := List.map_congr_left fun s _ => by
      simp only [Function.comp_apply, decodeChars_encoded, String.ofList_toList, id_eq]
    _ = ss := List.map_id ss

theorem render_encode (ss : List String) :
    render (encode ss) = String.ofList (ss.flatMap accessor) := by
  rw [render, segments_encode]

/-! ## Accessors -/

/-- Digits only, and at least one. -/
def IsNumeral (s : String) : Prop := s ≠ "" ∧ ∀ c ∈ s.toList, '0' ≤ c ∧ c ≤ '9'

/-- A letter, a low line or a dollar sign. -/
def IsNameStart (c : Char) : Prop :=
  ('a' ≤ c ∧ c ≤ 'z') ∨ ('A' ≤ c ∧ c ≤ 'Z') ∨ c = '_' ∨ c = '$'

/-- A text that reads as an identifier. -/
def IsName (s : String) : Prop :=
  ∃ c cs, s.toList = c :: cs ∧ IsNameStart c ∧
    ∀ d ∈ cs, IsNameStart d ∨ ('0' ≤ d ∧ d ≤ '9')

/-- A backslash in front of each occurrence of the character. -/
def escaping (special : Char) (cs : List Char) : List Char :=
  cs.flatMap fun c => if c = special then ['\\', c] else [c]

/-- How a segment is shown. In quotes, backslashes are escaped first and single quotes next. -/
inductive ShownAs : String → String → Prop where
  | index {s : String} (h : IsNumeral s) : ShownAs s ("[" ++ s ++ "]")
  | name {s : String} (h : IsName s) : ShownAs s ("." ++ s)
  | quoted {s : String} (hNumeral : ¬ IsNumeral s) (hName : ¬ IsName s) :
      ShownAs s ("['" ++ String.ofList (escaping '\'' (escaping '\\' s.toList)) ++ "']")

theorem isDigit_iff (c : Char) : c.isDigit = true ↔ '0' ≤ c ∧ c ≤ '9' := by
  simp [Char.isDigit, Char.le_def]

theorem isAlpha_iff (c : Char) :
    c.isAlpha = true ↔ ('a' ≤ c ∧ c ≤ 'z') ∨ ('A' ≤ c ∧ c ≤ 'Z') := by
  have hUpper : c.isUpper = true ↔ 'A' ≤ c ∧ c ≤ 'Z' := decide_eq_true_iff
  have hLower : c.isLower = true ↔ 'a' ≤ c ∧ c ≤ 'z' :=
    Bool.and_eq_true_iff.trans (and_congr decide_eq_true_iff decide_eq_true_iff)
  rw [← hUpper, ← hLower, or_comm]
  exact Bool.or_eq_true_iff

theorem isIdentifierStart_iff (c : Char) : isIdentifierStart c = true ↔ IsNameStart c := by
  simp [isIdentifierStart, IsNameStart, isAlpha_iff, or_assoc]

theorem isNumeral_iff (s : String) :
    (!s.toList.isEmpty && s.toList.all Char.isDigit) = true ↔ IsNumeral s := by
  simp [IsNumeral, isDigit_iff]

theorem isIdentifier_iff (s : String) : isIdentifier s.toList = true ↔ IsName s := by
  unfold IsName isIdentifier
  cases s.toList with
  | nil => simp
  | cons c cs => simp [isIdentifierStart_iff, isDigit_iff, and_assoc]

theorem flatMap_quoteChar (cs : List Char) :
    cs.flatMap quoteChar = escaping '\'' (escaping '\\' cs) := by
  rw [escaping, escaping, List.flatMap_assoc]
  refine congrArg (List.flatMap · cs) (funext fun c => ?_)
  unfold quoteChar
  by_cases hBackslash : c = '\\'
  · simp [hBackslash]
  · by_cases hQuote : c = '\'' <;> simp [hBackslash, hQuote]

theorem accessor_cases (s : String) :
    (IsNumeral s ∧ accessor s = '[' :: (s.toList ++ [']'])) ∨
      (IsName s ∧ accessor s = '.' :: s.toList) ∨
      ((¬ IsNumeral s ∧ ¬ IsName s) ∧
        accessor s = '[' :: '\'' :: (s.toList.flatMap quoteChar ++ ['\'', ']'])) := by
  by_cases hNumeral : IsNumeral s
  · exact .inl ⟨hNumeral, if_pos ((isNumeral_iff s).mpr hNumeral)⟩
  · have hNotIndex := mt (isNumeral_iff s).mp hNumeral
    by_cases hName : IsName s
    · have hIdentifier := (isIdentifier_iff s).mpr hName
      exact .inr (.inl ⟨hName, (if_neg hNotIndex).trans (if_pos hIdentifier)⟩)
    · have hNotIdentifier := mt (isIdentifier_iff s).mp hName
      exact .inr (.inr ⟨⟨hNumeral, hName⟩, (if_neg hNotIndex).trans (if_neg hNotIdentifier)⟩)

theorem shownAs_accessor (s : String) : ShownAs s (String.ofList (accessor s)) := by
  rcases accessor_cases s with ⟨hNumeral, hForm⟩ | ⟨hName, hForm⟩ | ⟨⟨hNumeral, hName⟩, hForm⟩
  · have hShown : String.ofList (accessor s) = "[" ++ s ++ "]" := by
      rw [← String.toList_inj, hForm]
      simp
    exact hShown ▸ .index hNumeral
  · have hShown : String.ofList (accessor s) = "." ++ s := by
      rw [← String.toList_inj, hForm]
      simp
    exact hShown ▸ .name hName
  · have hShown : String.ofList (accessor s) =
        "['" ++ String.ofList (escaping '\'' (escaping '\\' s.toList)) ++ "']" := by
      rw [← String.toList_inj, hForm, flatMap_quoteChar]
      simp
    exact hShown ▸ .quoted hNumeral hName

/-! ## Reading accessors -/

/-- Reads a quoted segment, up to the quote and the bracket that end it. -/
def readQuoted : List Char → Option (List Char × List Char)
  | '\\' :: c :: cs => (readQuoted cs).map fun (segment, rest) => (c :: segment, rest)
  | '\'' :: ']' :: rest => some ([], rest)
  | c :: cs => (readQuoted cs).map fun (segment, rest) => (c :: segment, rest)
  | [] => none

/-- Reads one accessor and gives its segment and what follows. -/
def readAccessor : List Char → Option (String × List Char)
  | '.' :: cs =>
    let inName := fun c => isIdentifierStart c || c.isDigit
    some (String.ofList (cs.takeWhile inName), cs.dropWhile inName)
  | '[' :: '\'' :: cs => (readQuoted cs).map fun (segment, rest) => (String.ofList segment, rest)
  | '[' :: cs =>
    some (String.ofList (cs.takeWhile Char.isDigit), (cs.dropWhile Char.isDigit).tail)
  | _ => none

theorem readQuoted_quoted (cs rest : List Char) :
    readQuoted (cs.flatMap quoteChar ++ '\'' :: ']' :: rest) = some (cs, rest) := by
  induction cs with
  | nil => rfl
  | cons c cs ih =>
    rw [List.flatMap_cons, List.append_assoc]
    by_cases hSpecial : c = '\\' ∨ c = '\''
    · rw [quoteChar, if_pos hSpecial, List.cons_append, List.cons_append, List.nil_append,
        readQuoted.eq_1, ih]
      rfl
    · rw [not_or] at hSpecial
      -- A character that is not escaped is neither a backslash nor the quote that ends the segment.
      rw [quoteChar, if_neg (not_or.mpr hSpecial), List.cons_append, List.nil_append,
        readQuoted.eq_3, ih]
      · rfl
      · exact fun _ _ e => absurd e hSpecial.1
      · exact fun _ e => absurd e hSpecial.2

/-- What may stand behind an accessor: nothing, or the next one. -/
def Continues (cs : List Char) : Prop := ∀ c ∈ cs.head?, c = '.' ∨ c = '['

theorem continues_flatMap_accessor (ss : List String) : Continues (ss.flatMap accessor) := by
  intro c hc
  cases ss with
  | nil => cases hc
  | cons s ss =>
    rw [List.flatMap_cons] at hc
    rcases accessor_cases s with ⟨-, hForm⟩ | ⟨-, hForm⟩ | ⟨-, hForm⟩
    · rw [hForm] at hc
      cases hc
      exact .inr rfl
    · rw [hForm] at hc
      cases hc
      exact .inl rfl
    · rw [hForm] at hc
      cases hc
      exact .inr rfl

theorem span_append {p : Char → Bool} {cs rest : List Char} (hFits : ∀ c ∈ cs, p c = true)
    (hRest : ∀ c ∈ rest.head?, p c = false) :
    (cs ++ rest).takeWhile p = cs ∧ (cs ++ rest).dropWhile p = rest := by
  rw [List.takeWhile_append_of_pos hFits, List.dropWhile_append_of_pos hFits]
  cases rest with
  | nil => exact ⟨List.append_nil cs, rfl⟩
  | cons c rest =>
    have hc := hRest c rfl
    rw [List.takeWhile_cons_of_neg (by simp [hc]), List.dropWhile_cons_of_neg (by simp [hc])]
    exact ⟨List.append_nil cs, rfl⟩

theorem IsNumeral.isDigit {s : String} (h : IsNumeral s) : ∀ c ∈ s.toList, c.isDigit = true :=
  fun c hc => (isDigit_iff c).mpr (h.2 c hc)

/-- The bracket in front of digits is not one in front of a quote. -/
theorem IsNumeral.toList_append_ne {s : String} (h : IsNumeral s) (rest cs : List Char) :
    s.toList ++ rest ≠ '\'' :: cs := by
  intro hQuote
  cases hChars : s.toList with
  | nil => exact h.1 (String.toList_eq_nil_iff.mp hChars)
  | cons c ds =>
    rw [hChars, List.cons_append] at hQuote
    have hc := h.isDigit c (hChars ▸ List.mem_cons_self)
    rw [(List.cons.inj hQuote).1] at hc
    exact absurd hc (by decide)

theorem IsName.inName {s : String} (h : IsName s) :
    ∀ c ∈ s.toList, (isIdentifierStart c || c.isDigit) = true := by
  obtain ⟨first, others, hChars, hFirst, hOthers⟩ := h
  intro c hc
  rw [Bool.or_eq_true, isIdentifierStart_iff, isDigit_iff]
  rw [hChars] at hc
  rcases List.mem_cons.mp hc with rfl | hc
  · exact .inl hFirst
  · exact hOthers c hc

theorem readAccessor_accessor (s : String) {rest : List Char} (hRest : Continues rest) :
    readAccessor (accessor s ++ rest) = some (s, rest) := by
  rcases accessor_cases s with ⟨hNumeral, hForm⟩ | ⟨hName, hForm⟩ | ⟨-, hForm⟩
  · have hBracket : ∀ c ∈ (']' :: rest).head?, c.isDigit = false := by
      intro c hc
      cases hc
      decide
    obtain ⟨hTaken, hLeft⟩ := span_append hNumeral.isDigit hBracket
    rw [hForm, List.cons_append, List.append_assoc, List.cons_append, List.nil_append,
      readAccessor.eq_3 _ (hNumeral.toList_append_ne _), hTaken, hLeft, String.ofList_toList,
      List.tail_cons]
  · have hOutside : ∀ c ∈ rest.head?, (isIdentifierStart c || c.isDigit) = false := by
      intro c hc
      rcases hRest c hc with rfl | rfl <;> decide
    obtain ⟨hTaken, hLeft⟩ := span_append hName.inName hOutside
    rw [hForm, List.cons_append, readAccessor.eq_1, hTaken, hLeft, String.ofList_toList]
  · rw [hForm, List.cons_append, List.cons_append, List.append_assoc, List.cons_append,
      List.cons_append, List.nil_append, readAccessor.eq_2, readQuoted_quoted, Option.map_some]
    exact congrArg (fun t => some (t, rest)) String.ofList_toList

theorem flatMap_accessor_injective {ss ts : List String}
    (h : ss.flatMap accessor = ts.flatMap accessor) : ss = ts := by
  -- Reading the first accessor gives its segment back and leaves the accessors of the others.
  have hFirst : ∀ (s : String) (ss : List String),
      readAccessor ((s :: ss).flatMap accessor) = some (s, ss.flatMap accessor) := fun s ss =>
    readAccessor_accessor s (continues_flatMap_accessor ss)
  induction ss generalizing ts with
  | nil =>
    cases ts with
    | nil => rfl
    | cons t ts =>
      have hRead := hFirst t ts
      rw [← h] at hRead
      cases hRead
  | cons s ss ih =>
    cases ts with
    | nil =>
      have hRead := hFirst s ss
      rw [h] at hRead
      cases hRead
    | cons t ts =>
      have hRead := hFirst s ss
      rw [h, hFirst t ts] at hRead
      obtain ⟨hSegment, hRest⟩ := Prod.mk.inj (Option.some.inj hRead)
      rw [hSegment, ih hRest.symm]

/-- A pointer in accessor form shows each of its segments, in their order and nothing else, and
different segments make different texts. -/
theorem render_encode_shows_and_injective :
    (∀ ss : List String, ∃ shown : List String,
      List.Forall₂ ShownAs ss shown ∧ render (encode ss) = String.join shown) ∧
      Function.Injective fun ss : List String => render (encode ss) := by
  constructor
  · intro ss
    refine ⟨ss.map fun s => String.ofList (accessor s), ?_, ?_⟩
    · rw [List.forall₂_map_right_iff, List.forall₂_same]
      exact fun s _ => shownAs_accessor s
    · rw [render_encode, ← String.toList_inj, String.toList_join, List.flatMap_map]
      simp only [String.toList_ofList]
  · intro ss ts h
    dsimp only at h
    rw [render_encode, render_encode] at h
    exact flatMap_accessor_injective (String.ofList_injective h)

example : render (encode ["lists", "0", "a/b~1", "it's", ""]) =
    ".lists[0]['a/b~1']['it\\'s']['']" := by
  decide

end Pointer

end SchemaContract
