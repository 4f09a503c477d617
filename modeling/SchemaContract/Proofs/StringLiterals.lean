import Mathlib.Data.List.TakeWhile
import SchemaContract.Json.Printer
import SchemaContract.Json.Reader

/-!
# String literals

A string is written between quotes, character by character: as the character itself, by a letter
behind a backslash, or by one or two units of four hexadecimal digits. A text is read as a string
exactly when it is such a literal of it, with no more than blanks around.
-/

namespace SchemaContract.Json

/-! ## Ways to write a string -/

/-- A digit of either case and its value. -/
def IsHexDigit (c : Char) (v : Nat) : Prop :=
  ('0' ≤ c ∧ c ≤ '9' ∧ v + '0'.toNat = c.toNat) ∨
    ('a' ≤ c ∧ c ≤ 'f' ∧ v + 'a'.toNat = c.toNat + 10) ∨
    ('A' ≤ c ∧ c ≤ 'F' ∧ v + 'A'.toNat = c.toNat + 10)

inductive IsUnit : List Char → Nat → Prop where
  | digits {a b c d : Char} {i j k l : Nat} (ha : IsHexDigit a i) (hb : IsHexDigit b j)
      (hc : IsHexDigit c k) (hd : IsHexDigit d l) :
      IsUnit [a, b, c, d] (16 * (16 * (16 * i + j) + k) + l)

/-- The letters that may stand behind a backslash, with the characters they stand for. -/
def letters : List (Char × Char) :=
  [('"', '"'), ('\\', '\\'), ('/', '/'), ('b', '\x08'), ('f', '\x0c'), ('n', '\n'), ('r', '\r'),
    ('t', '\t')]

/-- How one character may be written. A unit never is half of a pair, for that is no character. -/
inductive Spells : List Char → Char → Prop where
  | itself {c : Char} (hQuote : c ≠ '"') (hBackslash : c ≠ '\\') (hControl : 0x20 ≤ c.toNat) :
      Spells [c] c
  | letter {l c : Char} (h : (l, c) ∈ letters) : Spells ['\\', l] c
  | unit {ds : List Char} {c : Char} (h : IsUnit ds c.toNat) : Spells ('\\' :: 'u' :: ds) c
  | pair {ds es : List Char} {lead trail : Nat} {c : Char} (hLead : IsUnit ds lead)
      (hTrail : IsUnit es trail) (hLeads : 0xD800 ≤ lead ∧ lead < 0xDC00)
      (hTrails : 0xDC00 ≤ trail ∧ trail < 0xE000)
      (hc : c.toNat = 0x10000 + (lead - 0xD800) * 0x400 + (trail - 0xDC00)) :
      Spells ('\\' :: 'u' :: (ds ++ '\\' :: 'u' :: es)) c

/-- How the characters between the quotes may be written. -/
inductive Spelled : List Char → List Char → Prop where
  | nil : Spelled [] []
  | cons {piece text cs : List Char} {c : Char} (hFirst : Spells piece c)
      (hRest : Spelled text cs) : Spelled (piece ++ text) (c :: cs)

/-- A blank between the parts of a text. -/
def IsSpace (c : Char) : Prop := c = ' ' ∨ c = '\n' ∨ c = '\t' ∨ c = '\r'

/-- A text that is a literal of a string, with blanks around it at most. -/
def IsLiteral (text name : String) : Prop :=
  ∃ before inner after, text.toList = before ++ '"' :: (inner ++ '"' :: after) ∧
    (∀ c ∈ before, IsSpace c) ∧ (∀ c ∈ after, IsSpace c) ∧ Spelled inner name.toList

theorem Spells.length_pos {piece : List Char} {c : Char} (h : Spells piece c) :
    0 < piece.length := by
  cases h <;> simp

theorem Spelled.length_le {text cs : List Char} (h : Spelled text cs) :
    cs.length ≤ text.length := by
  induction h with
  | nil => exact Nat.le_refl 0
  | cons hFirst _ ih =>
    have hPiece := hFirst.length_pos
    rw [List.length_cons, List.length_append]
    omega

theorem IsLiteral.ne {text name : String} (h : IsLiteral text name) : text ≠ name := by
  obtain ⟨before, inner, after, hText, -, -, hInner⟩ := h
  rintro rfl
  have hLength := hInner.length_le
  rw [hText] at hLength
  simp only [List.length_append, List.length_cons] at hLength
  omega

/-! ## Hexadecimal digits -/

theorem le_iff_toNat_le (c d : Char) : c ≤ d ↔ c.toNat ≤ d.toNat := by
  rw [Char.le_def, UInt32.le_iff_toNat_le]
  rfl

theorem isDigit_iff_toNat (c : Char) :
    c.isDigit = true ↔ '0'.toNat ≤ c.toNat ∧ c.toNat ≤ '9'.toNat := by
  simp [Char.isDigit, UInt32.le_iff_toNat_le]

theorem hexValue?_eq_some_iff (c : Char) (v : Nat) :
    Text.hexValue? c = some v ↔ IsHexDigit c v := by
  have h0 : '0'.toNat = 48 := rfl
  have h9 : '9'.toNat = 57 := rfl
  have ha : 'a'.toNat = 97 := rfl
  have hf : 'f'.toNat = 102 := rfl
  have hA : 'A'.toNat = 65 := rfl
  have hF : 'F'.toNat = 70 := rfl
  simp only [Text.hexValue?, IsHexDigit, le_iff_toNat_le, isDigit_iff_toNat]
  split
  next hDigit =>
    rw [Option.some.injEq]
    omega
  next hDigit =>
    split
    next hLower =>
      rw [Option.some.injEq]
      omega
    next hLower =>
      split
      next hUpper =>
        rw [Option.some.injEq]
        omega
      next hUpper =>
        constructor
        · intro h
          cases h
        · omega

theorem IsHexDigit.lt {c : Char} {v : Nat} (h : IsHexDigit c v) : v < 16 := by
  simp only [IsHexDigit, le_iff_toNat_le] at h
  have h9 : '9'.toNat = 57 := rfl
  have hf : 'f'.toNat = 102 := rfl
  have hF : 'F'.toNat = 70 := rfl
  have h0 : '0'.toNat = 48 := rfl
  have ha : 'a'.toNat = 97 := rfl
  have hA : 'A'.toNat = 65 := rfl
  omega

theorem IsUnit.lt {ds : List Char} {n : Nat} (h : IsUnit ds n) : n < 0x10000 := by
  cases h with
  | digits ha hb hc hd =>
    have := ha.lt
    have := hb.lt
    have := hc.lt
    have := hd.lt
    omega

theorem IsUnit.length_eq {ds : List Char} {n : Nat} (h : IsUnit ds n) : ds.length = 4 := by
  cases h
  rfl

namespace Reader

theorem hexNumber?_four (a b c d : Char) :
    Text.hexNumber? [a, b, c, d] =
      (Text.hexValue? a).bind fun i => (Text.hexValue? b).bind fun j =>
        (Text.hexValue? c).bind fun k => (Text.hexValue? d).map fun l =>
          16 * (16 * (16 * i + j) + k) + l := by
  rw [Text.hexNumber?]
  simp only [List.foldl_cons, List.foldl_nil]
  cases Text.hexValue? a <;> cases Text.hexValue? b <;> cases Text.hexValue? c <;>
    cases Text.hexValue? d <;> simp

theorem hexFour?_eq_some_iff (ds : List Char) (n : Nat) :
    hexFour? ds = some n ↔ IsUnit ds n := by
  constructor
  · intro h
    rw [hexFour?] at h
    split at h
    next hLength =>
      match ds, hLength with
      | [a, b, c, d], _ =>
        rw [hexNumber?_four] at h
        obtain ⟨i, hi, h⟩ := Option.bind_eq_some_iff.mp h
        obtain ⟨j, hj, h⟩ := Option.bind_eq_some_iff.mp h
        obtain ⟨k, hk, h⟩ := Option.bind_eq_some_iff.mp h
        obtain ⟨l, hl, rfl⟩ := Option.map_eq_some_iff.mp h
        rw [hexValue?_eq_some_iff] at hi hj hk hl
        exact .digits hi hj hk hl
    next => cases h
  · intro h
    cases h with
    | digits ha hb hc hd =>
      rw [← hexValue?_eq_some_iff] at ha hb hc hd
      rw [hexFour?, if_pos (by rfl), hexNumber?_four, ha, hb, hc, hd]
      rfl

/-! ## Reading -/

/-- What a reader gives and what it leaves of the text, wherever that stands. -/
def Reads {α : Type} (result : Result α) (a : α) (rest : List Char) : Prop :=
  ∃ line column, result = .ok (a, ⟨rest, line, column⟩)

variable {α : Type} {cur : Cursor} {rest : List Char}

theorem reads_ok_iff {a b : α} : Reads (.ok (a, cur)) b rest ↔ a = b ∧ cur.rest = rest := by
  obtain ⟨left, line, column⟩ := cur
  constructor
  · rintro ⟨_, _, h⟩
    cases h
    exact ⟨rfl, rfl⟩
  · rintro ⟨rfl, rfl⟩
    exact ⟨line, column, rfl⟩

theorem not_reads_error {e : ReadError} {a : α} : ¬ Reads (.error e) a rest := by
  rintro ⟨_, _, h⟩
  cases h

theorem rest_past (cur : Cursor) (c : Char) (rest : List Char) : (cur.past c rest).rest = rest := by
  rw [Cursor.past]
  split <;> rfl

theorem reads_hexUnit_iff {n : Nat} :
    Reads (hexUnit cur) n rest ↔ ∃ ds, IsUnit ds n ∧ cur.rest = ds ++ rest := by
  have hTake : ∀ {ds : List Char} {m : Nat}, IsUnit ds m → cur.rest = ds ++ rest →
      cur.rest.take 4 = ds ∧ cur.rest.drop 4 = rest := by
    intro ds m hUnit hRest
    rw [hRest]
    exact ⟨List.take_left' hUnit.length_eq, List.drop_left' hUnit.length_eq⟩
  rw [hexUnit]
  cases h : hexFour? (cur.rest.take 4) with
  | some m =>
    rw [reads_ok_iff]
    constructor
    · rintro ⟨rfl, rfl⟩
      exact ⟨_, (hexFour?_eq_some_iff _ _).mp h, (List.take_append_drop 4 cur.rest).symm⟩
    · rintro ⟨ds, hUnit, hRest⟩
      obtain ⟨hFirst, hLast⟩ := hTake hUnit hRest
      rw [hFirst, (hexFour?_eq_some_iff ds n).mpr hUnit] at h
      exact ⟨(Option.some.inj h).symm, hLast⟩
  | none =>
    constructor
    · intro hReads
      dsimp only at hReads
      split at hReads
      · exact absurd hReads not_reads_error
      · exact absurd hReads not_reads_error
    · rintro ⟨ds, hUnit, hRest⟩
      rw [(hTake hUnit hRest).1, (hexFour?_eq_some_iff ds n).mpr hUnit] at h
      cases h

theorem reads_pairMark_iff {mark : Char} :
    Reads (pairMark mark cur) () rest ↔ cur.rest = mark :: rest := by
  rw [pairMark]
  cases h : cur.rest with
  | nil => simp [not_reads_error]
  | cons c left =>
    dsimp only
    split
    next hMark =>
      rw [reads_ok_iff, rest_past, hMark]
      simp
    next hMark =>
      constructor
      · exact fun hReads => absurd hReads not_reads_error
      · intro hSame
        exact absurd (List.cons.inj hSame).1 hMark

theorem reads_trailingUnit_iff {n : Nat} :
    Reads (trailingUnit cur) n rest ↔
      ∃ ds, IsUnit ds n ∧ cur.rest = '\\' :: 'u' :: (ds ++ rest) := by
  rw [trailingUnit]
  constructor
  · intro h
    cases hSlash : pairMark '\\' cur with
    | error e =>
      rw [hSlash] at h
      exact absurd h not_reads_error
    | ok first =>
      obtain ⟨⟨⟩, left, line, column⟩ := first
      have hFirst := reads_pairMark_iff.mp ⟨line, column, hSlash⟩
      rw [hSlash] at h
      dsimp only at h
      cases hMark : pairMark 'u' ⟨left, line, column⟩ with
      | error e =>
        rw [hMark] at h
        exact absurd h not_reads_error
      | ok second =>
        obtain ⟨⟨⟩, left', line', column'⟩ := second
        have hSecond := reads_pairMark_iff.mp ⟨line', column', hMark⟩
        rw [hMark] at h
        obtain ⟨ds, hUnit, hRest⟩ := reads_hexUnit_iff.mp h
        dsimp only at hSecond hRest
        exact ⟨ds, hUnit, by rw [hFirst, hSecond, hRest]⟩
  · rintro ⟨ds, hUnit, hRest⟩
    obtain ⟨line, column, hSlash⟩ := reads_pairMark_iff.mpr hRest
    rw [hSlash]
    dsimp only
    have hReads : Reads (pairMark 'u' ⟨'u' :: (ds ++ rest), line, column⟩) () (ds ++ rest) :=
      reads_pairMark_iff.mpr rfl
    obtain ⟨line', column', hMark⟩ := hReads
    rw [hMark]
    exact reads_hexUnit_iff.mpr ⟨ds, hUnit, rfl⟩

/-! ## Characters -/

theorem spells_unicode_iff {piece : List Char} {c : Char} :
    Spells ('\\' :: 'u' :: piece) c ↔ IsUnit piece c.toNat ∨
      ∃ ds es lead trail, piece = ds ++ '\\' :: 'u' :: es ∧ IsUnit ds lead ∧ IsUnit es trail ∧
        (0xD800 ≤ lead ∧ lead < 0xDC00) ∧ (0xDC00 ≤ trail ∧ trail < 0xE000) ∧
        c.toNat = 0x10000 + (lead - 0xD800) * 0x400 + (trail - 0xDC00) := by
  constructor
  · generalize hText : '\\' :: 'u' :: piece = text
    intro h
    cases h with
    | itself => cases hText
    | letter hLetter =>
      cases hText
      simp [letters] at hLetter
    | unit hUnit =>
      cases hText
      exact .inl hUnit
    | pair hLead hTrail hLeads hTrails hc =>
      cases hText
      exact .inr ⟨_, _, _, _, rfl, hLead, hTrail, hLeads, hTrails, hc⟩
  · rintro (hUnit | ⟨ds, es, lead, trail, rfl, hLead, hTrail, hLeads, hTrails, hc⟩)
    · exact .unit hUnit
    · exact .pair hLead hTrail hLeads hTrails hc

theorem isLeading_iff (n : Nat) : isLeading n = true ↔ 0xD800 ≤ n ∧ n < 0xDC00 := by
  simp [isLeading]
  omega

theorem isTrailing_iff (n : Nat) : isTrailing n = true ↔ 0xDC00 ≤ n ∧ n < 0xE000 := by
  simp [isTrailing]
  omega

theorem not_surrogate (c : Char) : isLeading c.toNat = false ∧ isTrailing c.toNat = false := by
  have hValid : c.toNat < 0xD800 ∨ 0xDFFF < c.toNat ∧ c.toNat < 0x110000 := c.valid
  rw [← Bool.not_eq_true, ← Bool.not_eq_true, isLeading_iff, isTrailing_iff]
  omega

theorem toNat_ofNat_of_isValidChar {n : Nat} (h : n.isValidChar) : (Char.ofNat n).toNat = n := by
  rw [Char.ofNat, dif_pos h]
  rfl

theorem toNat_ofNat_of_not_surrogate {n : Nat} (hLeading : ¬ isLeading n = true)
    (hTrailing : ¬ isTrailing n = true) (hn : n < 0x10000) : (Char.ofNat n).toNat = n := by
  rw [isLeading_iff] at hLeading
  rw [isTrailing_iff] at hTrailing
  have hValid : n.isValidChar := by
    unfold Nat.isValidChar
    omega
  exact toNat_ofNat_of_isValidChar hValid

theorem toNat_surrogatePair {lead trail : Nat} (hLead : isLeading lead = true)
    (hTrail : isTrailing trail = true) : (surrogatePair lead trail).toNat =
      0x10000 + (lead - 0xD800) * 0x400 + (trail - 0xDC00) := by
  rw [isLeading_iff] at hLead
  rw [isTrailing_iff] at hTrail
  have hValid : (0x10000 + (lead - 0xD800) * 0x400 + (trail - 0xDC00)).isValidChar := by
    unfold Nat.isValidChar
    omega
  exact toNat_ofNat_of_isValidChar hValid

theorem reads_unicodeEscape_unit {ds : List Char} {c : Char} (hUnit : IsUnit ds c.toNat)
    (hText : cur.rest = ds ++ rest) : Reads (unicodeEscape cur) c rest := by
  obtain ⟨line, column, hFirst⟩ := reads_hexUnit_iff.mpr ⟨ds, hUnit, hText⟩
  obtain ⟨hLeading, hTrailing⟩ := not_surrogate c
  rw [unicodeEscape, hFirst]
  simp only [hLeading, hTrailing]
  exact reads_ok_iff.mpr ⟨Char.ofNat_toNat c, rfl⟩

theorem reads_unicodeEscape_pair {ds es : List Char} {lead trail : Nat} (hLead : IsUnit ds lead)
    (hTrail : IsUnit es trail) (hLeading : isLeading lead = true)
    (hTrailing : isTrailing trail = true)
    (hText : cur.rest = ds ++ '\\' :: 'u' :: (es ++ rest)) :
    Reads (unicodeEscape cur) (surrogatePair lead trail) rest := by
  obtain ⟨line, column, hFirst⟩ := reads_hexUnit_iff.mpr ⟨ds, hLead, hText⟩
  have hReads : Reads (trailingUnit ⟨'\\' :: 'u' :: (es ++ rest), line, column⟩) trail rest :=
    reads_trailingUnit_iff.mpr ⟨es, hTrail, rfl⟩
  obtain ⟨line', column', hSecond⟩ := hReads
  have hNotTrailing : isTrailing lead = false := by
    rw [isLeading_iff] at hLeading
    rw [← Bool.not_eq_true, isTrailing_iff]
    omega
  rw [unicodeEscape, hFirst]
  simp only [hLeading, hNotTrailing, hSecond, hTrailing]
  exact reads_ok_iff.mpr ⟨rfl, rfl⟩

theorem exists_units_of_reads_unicodeEscape {c : Char} (h : Reads (unicodeEscape cur) c rest) :
    (∃ ds, IsUnit ds c.toNat ∧ cur.rest = ds ++ rest) ∨
      ∃ ds es lead trail, IsUnit ds lead ∧ IsUnit es trail ∧ isLeading lead = true ∧
        isTrailing trail = true ∧ surrogatePair lead trail = c ∧
        cur.rest = ds ++ '\\' :: 'u' :: (es ++ rest) := by
  rw [unicodeEscape] at h
  cases hFirst : hexUnit cur with
  | error e =>
    rw [hFirst] at h
    exact absurd h not_reads_error
  | ok first =>
    obtain ⟨unit, left, line, column⟩ := first
    obtain ⟨ds, hUnit, hText⟩ := reads_hexUnit_iff.mp ⟨line, column, hFirst⟩
    rw [hFirst] at h
    dsimp only at h
    split at h
    next => exact absurd h not_reads_error
    next hTrailing =>
      split at h
      next hLeading =>
        obtain ⟨rfl, rfl⟩ := reads_ok_iff.mp h
        refine .inl ⟨ds, ?_, hText⟩
        rwa [toNat_ofNat_of_not_surrogate (by simpa using hLeading) hTrailing hUnit.lt]
      next hLeading =>
        cases hSecond : trailingUnit ⟨left, line, column⟩ with
        | error e =>
          rw [hSecond] at h
          exact absurd h not_reads_error
        | ok second =>
          obtain ⟨trail, left', line', column'⟩ := second
          obtain ⟨es, hOther, hLeft⟩ := reads_trailingUnit_iff.mp ⟨line', column', hSecond⟩
          rw [hSecond] at h
          dsimp only at h hLeft
          split at h
          next hTrail =>
            obtain ⟨hPair, rfl⟩ := reads_ok_iff.mp h
            have hLead : isLeading unit = true := by simpa using hLeading
            exact .inr ⟨ds, es, unit, trail, hUnit, hOther, hLead, hTrail, hPair,
              by rw [hText, hLeft]⟩
          next => exact absurd h not_reads_error

theorem reads_unicodeEscape_iff {c : Char} :
    Reads (unicodeEscape cur) c rest ↔
      ∃ piece, Spells ('\\' :: 'u' :: piece) c ∧ cur.rest = piece ++ rest := by
  constructor
  · intro h
    rcases exists_units_of_reads_unicodeEscape h with
      ⟨ds, hUnit, hText⟩ | ⟨ds, es, lead, trail, hLead, hTrail, hLeading, hTrailing, rfl, hText⟩
    · exact ⟨ds, .unit hUnit, hText⟩
    · refine ⟨ds ++ '\\' :: 'u' :: es, .pair hLead hTrail ((isLeading_iff lead).mp hLeading)
        ((isTrailing_iff trail).mp hTrailing) (toNat_surrogatePair hLeading hTrailing), ?_⟩
      rw [hText, List.append_assoc, List.cons_append, List.cons_append]
  · rintro ⟨piece, hSpells, hText⟩
    rcases spells_unicode_iff.mp hSpells with
      hUnit | ⟨ds, es, lead, trail, rfl, hLead, hTrail, hLeads, hTrails, hc⟩
    · exact reads_unicodeEscape_unit hUnit hText
    · rw [List.append_assoc, List.cons_append, List.cons_append] at hText
      have hReads := reads_unicodeEscape_pair hLead hTrail ((isLeading_iff lead).mpr hLeads)
        ((isTrailing_iff trail).mpr hTrails) hText
      rwa [surrogatePair, ← hc, Char.ofNat_toNat] at hReads

theorem letterEscape?_eq_some_iff (l c : Char) : letterEscape? l = some c ↔ (l, c) ∈ letters := by
  simp only [letters, List.mem_cons, List.not_mem_nil, or_false, Prod.mk.injEq]
  rw [letterEscape?.eq_def]
  split <;> simp_all [eq_comm]

theorem spells_backslash_iff {piece : List Char} {c : Char} :
    Spells ('\\' :: piece) c ↔ (∃ l, piece = [l] ∧ (l, c) ∈ letters) ∨
      ∃ digits, piece = 'u' :: digits ∧ Spells ('\\' :: 'u' :: digits) c := by
  constructor
  · generalize hText : '\\' :: piece = text
    intro h
    cases h with
    | itself _ hBackslash =>
      cases hText
      exact absurd rfl hBackslash
    | letter hLetter =>
      cases hText
      exact .inl ⟨_, rfl, hLetter⟩
    | unit hUnit =>
      cases hText
      exact .inr ⟨_, rfl, .unit hUnit⟩
    | pair hLead hTrail hLeads hTrails hc =>
      cases hText
      exact .inr ⟨_, rfl, .pair hLead hTrail hLeads hTrails hc⟩
  · rintro (⟨l, rfl, hLetter⟩ | ⟨digits, rfl, h⟩)
    · exact .letter hLetter
    · exact h

theorem reads_escape_iff {c : Char} :
    Reads (escape cur) c rest ↔ ∃ piece, Spells ('\\' :: piece) c ∧ cur.rest = piece ++ rest := by
  rw [escape.eq_def]
  split
  next hNil =>
    constructor
    · exact fun h => absurd h not_reads_error
    · rintro ⟨piece, hSpells, hText⟩
      rcases spells_backslash_iff.mp hSpells with ⟨l, rfl, -⟩ | ⟨digits, rfl, -⟩
      · cases hNil.symm.trans hText
      · cases hNil.symm.trans hText
  next left hUnicode =>
    rw [reads_unicodeEscape_iff, rest_past]
    constructor
    · rintro ⟨digits, hSpells, rfl⟩
      exact ⟨'u' :: digits, hSpells, hUnicode⟩
    · rintro ⟨piece, hSpells, hText⟩
      have hSame := hUnicode.symm.trans hText
      rcases spells_backslash_iff.mp hSpells with ⟨l, rfl, hLetter⟩ | ⟨digits, rfl, hDigits⟩
      · cases hSame
        simp [letters] at hLetter
      · exact ⟨digits, hDigits, (List.cons.inj hSame).2⟩
  next l left hOther hText =>
    -- Behind the backslash stands no `u`, so only the escapes by a letter are left.
    have hLetters : ∀ {piece : List Char}, Spells ('\\' :: piece) c →
        cur.rest = piece ++ rest → letterEscape? l = some c ∧ left = rest := by
      intro piece hSpells hPiece
      rcases spells_backslash_iff.mp hSpells with ⟨l', rfl, hLetter⟩ | ⟨digits, rfl, -⟩
      · obtain ⟨rfl, rfl⟩ := List.cons.inj (hText.symm.trans hPiece)
        exact ⟨(letterEscape?_eq_some_iff l c).mpr hLetter, rfl⟩
      · exact absurd (List.cons.inj (hText.symm.trans hPiece)).1 hOther
    cases hLetter : letterEscape? l with
    | some d =>
      dsimp only
      rw [reads_ok_iff, rest_past]
      constructor
      · rintro ⟨rfl, rfl⟩
        exact ⟨[l], .letter ((letterEscape?_eq_some_iff l d).mp hLetter), hText⟩
      · rintro ⟨piece, hSpells, hPiece⟩
        obtain ⟨hSame, hLeft⟩ := hLetters hSpells hPiece
        exact ⟨Option.some.inj (hLetter.symm.trans hSame), hLeft⟩
    | none =>
      constructor
      · exact fun h => absurd h not_reads_error
      · rintro ⟨piece, hSpells, hPiece⟩
        cases hLetter.symm.trans (hLetters hSpells hPiece).1

/-! ## Strings -/

theorem spells_head {piece : List Char} {c d : Char} (h : Spells (d :: piece) c) :
    d = '\\' ∨ ((d ≠ '"' ∧ d ≠ '\\' ∧ 0x20 ≤ d.toNat) ∧ piece = [] ∧ c = d) := by
  cases h with
  | itself hQuote hBackslash hControl => exact .inr ⟨⟨hQuote, hBackslash, hControl⟩, rfl, rfl⟩
  | letter => exact .inl rfl
  | unit => exact .inl rfl
  | pair => exact .inl rfl

theorem exists_spelled_of_reads {budget : Nat} {read : List Char} {s : String}
    (h : Reads (stringChars budget cur read) s rest) :
    ∃ text cs, Spelled text cs ∧ cur.rest = text ++ '"' :: rest ∧
      s = String.ofList (read.reverse ++ cs) := by
  induction budget generalizing cur read with
  | zero => exact absurd h not_reads_error
  | succ budget ih =>
    -- One character is read, by itself or by an escape, and the rest of the string behind it.
    have hStep : ∀ {piece : List Char} {c : Char} {next : Cursor}, Spells piece c →
        cur.rest = piece ++ next.rest → Reads (stringChars budget next (c :: read)) s rest →
        ∃ text cs, Spelled text cs ∧ cur.rest = text ++ '"' :: rest ∧
          s = String.ofList (read.reverse ++ cs) := by
      intro piece c next hSpells hText hReads
      obtain ⟨text, cs, hSpelled, hNext, rfl⟩ := ih hReads
      refine ⟨piece ++ text, c :: cs, .cons hSpells hSpelled, ?_, ?_⟩
      · rw [hText, hNext, List.append_assoc]
      · rw [List.reverse_cons, List.append_assoc, List.singleton_append]
    rw [stringChars.eq_def] at h
    dsimp only at h
    split at h
    next => exact absurd h not_reads_error
    next left hQuote =>
      obtain ⟨rfl, hRest⟩ := reads_ok_iff.mp h
      rw [rest_past] at hRest
      exact ⟨[], [], .nil, by rw [hQuote, hRest, List.nil_append], by rw [List.append_nil]⟩
    next left hBackslash =>
      cases hEscape : escape (cur.past '\\' left) with
      | error e =>
        rw [hEscape] at h
        exact absurd h not_reads_error
      | ok first =>
        obtain ⟨c, left', line, column⟩ := first
        obtain ⟨piece, hSpells, hLeft⟩ := reads_escape_iff.mp ⟨line, column, hEscape⟩
        rw [hEscape] at h
        rw [rest_past] at hLeft
        exact hStep hSpells (by rw [hBackslash, hLeft, List.cons_append]) h
    next c left hQuote hBackslash hText =>
      split at h
      next => exact absurd h not_reads_error
      next hControl =>
        have hSpells : Spells [c] c := .itself hQuote hBackslash (by omega)
        exact hStep hSpells (by rw [hText, rest_past, List.singleton_append]) h

theorem reads_stringChars {text cs : List Char} (h : Spelled text cs) {budget : Nat}
    (read : List Char) (hBudget : cs.length < budget) (hText : cur.rest = text ++ '"' :: rest) :
    Reads (stringChars budget cur read) (String.ofList (read.reverse ++ cs)) rest := by
  induction h generalizing cur budget read with
  | nil =>
    cases budget with
    | zero => exact absurd hBudget (Nat.not_lt_zero _)
    | succ budget =>
      rw [stringChars, hText, List.nil_append]
      exact reads_ok_iff.mpr ⟨by rw [List.append_nil], rest_past cur '"' rest⟩
  | @cons piece text cs c hFirst _ ih =>
    cases budget with
    | zero => exact absurd hBudget (Nat.not_lt_zero _)
    | succ budget =>
      rw [List.length_cons, Nat.succ_lt_succ_iff] at hBudget
      rw [List.append_assoc] at hText
      have hMore : List.reverse read ++ c :: cs = (c :: read).reverse ++ cs := by
        rw [List.reverse_cons, List.append_assoc, List.singleton_append]
      rw [hMore]
      cases piece with
      | nil => exact absurd hFirst.length_pos (Nat.lt_irrefl 0)
      | cons d piece =>
        rw [List.cons_append] at hText
        rcases spells_head hFirst with rfl | ⟨⟨hQuote, hBackslash, hControl⟩, rfl, rfl⟩
        · obtain ⟨line, column, hEscape⟩ := reads_escape_iff.mpr
            ⟨piece, hFirst, rest_past cur '\\' (piece ++ (text ++ '"' :: rest))⟩
          rw [stringChars, hText]
          simp only [hEscape]
          exact ih _ hBudget rfl
        · rw [stringChars.eq_def]
          dsimp only
          split
          next hNil => cases hNil.symm.trans hText
          next hOther => exact absurd (List.cons.inj (hText.symm.trans hOther)).1 hQuote
          next hOther => exact absurd (List.cons.inj (hText.symm.trans hOther)).1 hBackslash
          next hOther =>
            obtain ⟨rfl, rfl⟩ := List.cons.inj (hText.symm.trans hOther)
            rw [if_neg (Nat.not_lt.mpr hControl)]
            exact ih _ hBudget (rest_past cur c _)

/-! ## Blanks -/

theorem isSpace_iff (c : Char) : isSpace c = true ↔ IsSpace c := by
  simp [isSpace, IsSpace, or_assoc]

theorem rest_skipSpace (cs : List Char) (line column : Nat) :
    (skipSpace cs line column).rest = cs.dropWhile isSpace := by
  induction cs generalizing line column with
  | nil => rfl
  | cons c cs ih =>
    rw [skipSpace]
    split
    next hNewline =>
      have hc : isSpace c = true := by simp [isSpace, hNewline]
      rw [ih, List.dropWhile_cons_of_pos hc]
    next =>
      split
      next hc => rw [ih, List.dropWhile_cons_of_pos hc]
      next hc => rw [List.dropWhile_cons_of_neg hc]

theorem rest_skip (cur : Cursor) : cur.skip.rest = cur.rest.dropWhile isSpace :=
  rest_skipSpace cur.rest cur.line cur.column

theorem rest_skip_append (cur : Cursor) {before after : List Char} {c : Char}
    (hBefore : ∀ d ∈ before, IsSpace d) (hc : ¬ IsSpace c)
    (hText : cur.rest = before ++ c :: after) :
    cur.skip.rest = c :: after := by
  have hAll : ∀ d ∈ before, isSpace d = true := fun d hd => (isSpace_iff d).mpr (hBefore d hd)
  rw [rest_skip, hText, List.dropWhile_append_of_pos hAll,
    List.dropWhile_cons_of_neg (mt (isSpace_iff c).mp hc)]

/-! ## Texts -/

theorem reads_map_iff {β : Type} (f : α → β) {result : Result α} {b : β} :
    Reads (result.map fun p => (f p.1, p.2)) b rest ↔ ∃ a, Reads result a rest ∧ f a = b := by
  constructor
  · rintro ⟨line, column, h⟩
    cases result with
    | error e => cases h
    | ok first =>
      obtain ⟨a, cur⟩ := first
      cases h
      exact ⟨a, ⟨line, column, rfl⟩, rfl⟩
  · rintro ⟨a, ⟨line, column, rfl⟩, rfl⟩
    exact ⟨line, column, rfl⟩

theorem reads_value_string_iff {budget depth : Nat} {s : String} :
    Reads (value budget (depth + 1) cur) (.string s) rest ↔
      ∃ inner, cur.skip.rest = '"' :: inner ∧
        Reads (stringChars budget (cur.skip.past '"' inner) []) s rest := by
  rw [value]
  constructor
  · intro h
    dsimp only at h
    split at h
    next => exact absurd h not_reads_error
    next c left hText =>
      split at h
      · obtain ⟨_, -, hString⟩ := (reads_map_iff fun _ => Json.null).mp h
        cases hString
      · obtain ⟨_, -, hString⟩ := (reads_map_iff fun _ => Json.bool true).mp h
        cases hString
      · obtain ⟨_, -, hString⟩ := (reads_map_iff fun _ => Json.bool false).mp h
        cases hString
      · obtain ⟨t, hReads, hString⟩ := (reads_map_iff Json.string).mp h
        cases hString
        exact ⟨left, hText, hReads⟩
      · obtain ⟨_, -, hString⟩ := (reads_map_iff Json.number).mp h
        cases hString
      · split at h
        · exact absurd h not_reads_error
        · obtain ⟨_, -, hString⟩ := (reads_map_iff Json.array).mp h
          cases hString
      · split at h
        · exact absurd h not_reads_error
        · obtain ⟨_, -, hString⟩ := (reads_map_iff Json.object).mp h
          cases hString
      · split at h
        · obtain ⟨_, -, hString⟩ := (reads_map_iff Json.number).mp h
          cases hString
        · exact absurd h not_reads_error
  · rintro ⟨inner, hQuote, hReads⟩
    dsimp only
    rw [hQuote]
    exact (reads_map_iff Json.string).mpr ⟨s, hReads, rfl⟩

end Reader

open Reader

theorem parse_eq_ok_iff (text : String) (v : Json) :
    parse text = .ok v ↔ ∃ rest,
      Reads (value (text.toList.length + 1) maxDepth ⟨text.toList, 1, 0⟩) v rest ∧
        ∀ c ∈ rest, IsSpace c := by
  have hBlank : ∀ left : Cursor, left.skip.rest = [] ↔ ∀ c ∈ left.rest, IsSpace c := by
    intro left
    rw [rest_skip, List.dropWhile_eq_nil_iff]
    simp only [isSpace_iff]
  rw [parse]
  cases h : value (text.toList.length + 1) maxDepth ⟨text.toList, 1, 0⟩ with
  | error e =>
    constructor
    · intro hError
      cases hError
    · rintro ⟨rest, hReads, -⟩
      exact absurd hReads not_reads_error
  | ok first =>
    obtain ⟨w, left⟩ := first
    simp only [reads_ok_iff]
    split
    next hEnd =>
      constructor
      · intro hParse
        cases hParse
        exact ⟨_, ⟨rfl, rfl⟩, (hBlank left).mp hEnd⟩
      · rintro ⟨rest, ⟨rfl, -⟩, -⟩
        rfl
    next hMore =>
      constructor
      · intro hParse
        cases hParse
      · rintro ⟨rest, ⟨-, rfl⟩, hRest⟩
        exact absurd ((hBlank left).mpr hRest) hMore

theorem not_isSpace_quote : ¬ IsSpace '"' := by
  rw [← isSpace_iff]
  decide

theorem parse_eq_string_iff (text name : String) :
    parse text = .ok (.string name) ↔ IsLiteral text name := by
  have hDepth : maxDepth = 127 + 1 := rfl
  rw [parse_eq_ok_iff, hDepth]
  constructor
  · rintro ⟨after, hReads, hAfter⟩
    obtain ⟨inner, hQuote, hString⟩ := reads_value_string_iff.mp hReads
    obtain ⟨spelling, cs, hSpelled, hInner, hName⟩ := exists_spelled_of_reads hString
    rw [rest_past] at hInner
    rw [rest_skip] at hQuote
    refine ⟨text.toList.takeWhile isSpace, spelling, after, ?_, ?_, hAfter, ?_⟩
    · rw [← hInner, ← hQuote]
      exact List.takeWhile_append_dropWhile.symm
    · exact fun c hc => (isSpace_iff c).mp (List.mem_takeWhile_imp hc)
    · rwa [hName, List.reverse_nil, List.nil_append, String.toList_ofList]
  · rintro ⟨before, spelling, after, hText, hBefore, hAfter, hSpelled⟩
    have hSkip := rest_skip_append ⟨text.toList, 1, 0⟩ hBefore not_isSpace_quote hText
    have hLength := hSpelled.length_le
    -- No character is written shorter than by itself, so the length of the text is budget enough.
    have hBudget : name.toList.length < text.toList.length + 1 := by
      rw [hText, List.length_append, List.length_cons, List.length_append]
      omega
    have hString := reads_stringChars hSpelled [] hBudget
      (rest_past (Cursor.skip ⟨text.toList, 1, 0⟩) '"' (spelling ++ '"' :: after))
    rw [List.reverse_nil, List.nil_append, String.ofList_toList] at hString
    exact ⟨after, reads_value_string_iff.mpr ⟨_, hSkip, hString⟩, hAfter⟩

/-! ## Printing -/

theorem isHexDigit_hexDigit {n : Nat} (hn : n < 16) : IsHexDigit (Text.hexDigit n) n := by
  have hAll : ∀ m < 16, Text.hexValue? (Text.hexDigit m) = some m := by decide
  exact (hexValue?_eq_some_iff _ n).mp (hAll n hn)

theorem spells_escapeChar (c : Char) : Spells (escapeChar c) c := by
  rw [escapeChar.eq_def]
  split
  · exact .letter (by decide)
  · exact .letter (by decide)
  · exact .letter (by decide)
  · exact .letter (by decide)
  · exact .letter (by decide)
  · exact .letter (by decide)
  · exact .letter (by decide)
  next hQuote hBackslash _ _ _ _ _ =>
    split
    next hControl =>
      have hZero : IsHexDigit '0' 0 := .inl (by decide)
      have hUnit := IsUnit.digits hZero hZero
        (isHexDigit_hexDigit (n := c.toNat / 16) (by omega))
        (isHexDigit_hexDigit (n := c.toNat % 16) (by omega))
      have hValue : 16 * (16 * (16 * 0 + 0) + c.toNat / 16) + c.toNat % 16 = c.toNat := by omega
      rw [hValue] at hUnit
      exact .unit hUnit
    next hControl => exact .itself hQuote hBackslash (by omega)

theorem spelled_flatMap_escapeChar (cs : List Char) : Spelled (cs.flatMap escapeChar) cs := by
  induction cs with
  | nil => exact .nil
  | cons c cs ih => exact .cons (spells_escapeChar c) ih

theorem isLiteral_renderString (name : String) : IsLiteral (renderString name) name := by
  refine ⟨[], name.toList.flatMap escapeChar, [], ?_, ?_, ?_, spelled_flatMap_escapeChar _⟩
  · rw [renderString, String.toList_ofList]
    simp
  · exact fun c hc => absurd hc List.not_mem_nil
  · exact fun c hc => absurd hc List.not_mem_nil

end SchemaContract.Json
