import SchemaContract.Registry.Directory

/-!
# Files are read whole or not at all

A schema file is read up to one byte past the limit. How much came then shows whether it was all
that there was: more than the limit cannot pass for less, whatever length was told before, and
wherever in a character the cut would fall.
-/

namespace SchemaContract.Opened

/-! ## The limit -/

/-- One more than the limit is asked for, unless it is the largest count already. -/
theorem readLimit_cases {limit : Nat} (h : limit ≤ maxCount) :
    readLimit limit = limit + 1 ∨ limit = maxCount ∧ readLimit limit = limit := by
  rw [readLimit]
  omega

theorem readLimit_le (limit : Nat) : readLimit limit ≤ maxCount := Nat.min_le_right ..

/-! ## The bytes -/

def taken (limit : Nat) (f : Opened) : ByteArray := f.content.extract 0 (readLimit limit)

variable {limit : Nat} {path : String} {f : Opened} {text : String}

theorem size_taken_le_iff (h : limit < maxCount ∨ f.content.size ≤ maxCount) :
    (f.taken limit).size ≤ limit ↔ f.content.size ≤ limit := by
  rw [taken, ByteArray.size_extract, readLimit]
  omega

theorem taken_eq_of_le (h : limit < maxCount ∨ f.content.size ≤ maxCount)
    (hSize : f.content.size ≤ limit) : f.taken limit = f.content := by
  have hAll : f.content.size ≤ readLimit limit := by
    rw [readLimit]
    omega
  refine ByteArray.ext_getElem ?_ fun i hi hi' => ?_
  · rw [taken, ByteArray.size_extract, Nat.min_eq_right hAll, Nat.sub_zero]
  · simp only [taken, ByteArray.getElem_extract, Nat.zero_add]

theorem fromUTF8?_eq_some_iff {bytes : ByteArray} {text : String} :
    String.fromUTF8? bytes = some text ↔ text.toUTF8 = bytes := by
  constructor
  · intro h
    unfold String.fromUTF8? at h
    split at h
    next hValid =>
      cases h
      rfl
    next => cases h
  · rintro rfl
    exact dif_pos text.isValidUTF8

theorem fromUTF8?_eq_none_iff {bytes : ByteArray} :
    String.fromUTF8? bytes = none ↔ ¬ bytes.IsValidUTF8 := by
  unfold String.fromUTF8?
  split
  next hValid => exact iff_of_false nofun fun h => h hValid
  next hInvalid => exact iff_of_true rfl hInvalid

theorem exists_toUTF8_eq_iff {bytes : ByteArray} :
    (∃ text : String, text.toUTF8 = bytes) ↔ bytes.IsValidUTF8 := by
  constructor
  · rintro ⟨text, rfl⟩
    exact text.isValidUTF8
  · intro h
    exact ⟨String.fromUTF8 bytes h, rfl⟩

/-! ## Reading -/

theorem read_of_same (hSame : f.inspected = f.opened) (hLength : f.length ≤ limit) :
    f.read limit path =
      match String.fromUTF8? (f.taken limit) with
      | none => .error (.unread path .notUnicode)
      | some text => if (f.taken limit).size > limit then .error (.grown path) else .ok text := by
  rw [read, if_neg (fun h => h hSame), if_neg (Nat.not_lt.mpr hLength)]
  rfl

theorem read_eq_ok_iff (h : limit < maxCount ∨ f.content.size ≤ maxCount) :
    f.read limit path = .ok text ↔ f.inspected = f.opened ∧ f.length ≤ limit ∧
      f.content.size ≤ limit ∧ text.toUTF8 = f.content := by
  by_cases hSame : f.inspected = f.opened
  · by_cases hLength : f.length ≤ limit
    · rw [read_of_same hSame hLength]
      simp only [gt_iff_lt, ← Nat.not_le, size_taken_le_iff h]
      by_cases hSize : f.content.size ≤ limit
      · rw [taken_eq_of_le h hSize, ← fromUTF8?_eq_some_iff]
        cases String.fromUTF8? f.content <;> simp [hSame, hLength, hSize]
      · cases String.fromUTF8? (f.taken limit) <;> simp [hSize]
    · rw [read, if_neg (fun h => h hSame), if_pos (Nat.not_le.mp hLength)]
      exact iff_of_false nofun fun hRead => hLength hRead.2.1
  · rw [read, if_pos hSame]
    exact iff_of_false nofun fun hRead => hSame hRead.1

theorem read_still_of_lt {content : ByteArray} (h : limit < content.size) :
    (still content).read limit path = .error (.tooLarge content.size path) := by
  rw [read, if_neg fun hChanged => hChanged rfl]
  exact if_pos h

theorem read_still_of_le {content : ByteArray} (h : content.size ≤ limit)
    (hLimit : limit ≤ maxCount) : (still content).read limit path =
      match String.fromUTF8? content with
      | none => .error (.unread path .notUnicode)
      | some text => .ok text := by
  have hWhole : (still content).taken limit = content :=
    taken_eq_of_le (.inr (Nat.le_trans h hLimit)) h
  have hFits : ¬ content.size > limit := Nat.not_lt.mpr h
  rw [read_of_same rfl h, hWhole]
  simp only [hFits, if_false]

/-- A schema file is read whole or not at all. No file has more bytes than can be counted; below the
largest limit nothing is taken for granted. -/
theorem read_whole_or_refused (limit : Nat) (path : String) (f : Opened)
    (h : limit < maxCount ∨ f.content.size ≤ maxCount) :
    (limit ≤ maxCount → readLimit limit ≤ maxCount ∧
      (readLimit limit = limit + 1 ∨ limit = maxCount ∧ readLimit limit = limit)) ∧
    (∀ text, f.read limit path = .ok text ↔ f.inspected = f.opened ∧ f.length ≤ limit ∧
      f.content.size ≤ limit ∧ text.toUTF8 = f.content) ∧
    (f.inspected = f.opened → f.length = f.content.size →
      ((∃ text, f.read limit path = .ok text) ↔
        f.content.size ≤ limit ∧ f.content.IsValidUTF8)) := by
  refine ⟨fun hLimit => ⟨readLimit_le limit, readLimit_cases hLimit⟩,
    fun text => read_eq_ok_iff h, fun hSame hLength => ?_⟩
  rw [← exists_toUTF8_eq_iff, ← exists_and_left]
  refine exists_congr fun text => ?_
  rw [read_eq_ok_iff h, hLength]
  simp only [hSame, true_and, and_self_left]

/-- A file that has grown since its length was told, its last character by three bytes. -/
def grown : Opened := ⟨⟨1, 2⟩, ⟨1, 2⟩, 3, "né€".toUTF8⟩

theorem read_whole_or_refused_grown :
    grown.content.size ≤ maxCount ∧ (∀ limit text, limit < 6 → grown.read limit "a" ≠ .ok text) ∧
      grown.read 6 "a" = .ok "né€" ∧ grown.read maxCount "a" = .ok "né€" := by
  have hSize : grown.content.size = 6 := by decide
  have hCount : grown.content.size ≤ maxCount := by
    rw [hSize]
    decide
  have hRead : ∀ limit, 6 ≤ limit → grown.read limit "a" = .ok "né€" := fun limit hLimit =>
    ((read_whole_or_refused limit "a" grown (.inr hCount)).2.1 "né€").mpr
      ⟨rfl, Nat.le_trans (by decide) hLimit, hSize ▸ hLimit, rfl⟩
  refine ⟨hCount, fun limit text hLimit hRead => ?_, hRead 6 (Nat.le_refl 6), hRead _ (by decide)⟩
  have hFits := ((read_whole_or_refused limit "a" grown (.inr hCount)).2.1 text).mp hRead
  rw [hSize] at hFits
  omega

end SchemaContract.Opened
