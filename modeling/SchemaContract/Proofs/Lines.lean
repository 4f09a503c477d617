import SchemaContract.Text.Lines

/-!
# Lines of joined texts

Texts that are joined with newlines split back into themselves unless one of them holds a newline,
or one that others follow ends in a carriage return.
-/

namespace SchemaContract.Text

theorem ne_empty_of_append {a b : String} (h : a ≠ "" ∨ b ≠ "") : a ++ b ≠ "" := by
  intro hEmpty
  obtain ⟨ha, hb⟩ := String.append_eq_empty_iff.mp hEmpty
  exact h.elim (absurd ha) (absurd hb)

/-- Texts that can be joined with newlines and told apart again. -/
structure AreLines (ls : List String) : Prop where
  newlines : ∀ l ∈ ls, '\n' ∉ l.toList
  returns : ∀ l ∈ ls.dropLast, l.toList.getLast? ≠ some '\r'

theorem areLines_singleton_iff {l : String} : AreLines [l] ↔ '\n' ∉ l.toList := by
  refine ⟨fun h => h.newlines l (List.mem_singleton.mpr rfl), fun h => ⟨?_, ?_⟩⟩
  · exact List.forall_mem_singleton.mpr h
  · exact fun k hk => absurd hk List.not_mem_nil

theorem areLines_cons_cons_iff {l k : String} {ls : List String} :
    AreLines (l :: k :: ls) ↔
      ('\n' ∉ l.toList ∧ l.toList.getLast? ≠ some '\r') ∧ AreLines (k :: ls) := by
  constructor
  · rintro ⟨hNewlines, hReturns⟩
    rw [List.dropLast_cons_cons] at hReturns
    obtain ⟨hl, hls⟩ := List.forall_mem_cons.mp hNewlines
    obtain ⟨hr, hrs⟩ := List.forall_mem_cons.mp hReturns
    exact ⟨⟨hl, hr⟩, hls, hrs⟩
  · rintro ⟨⟨hl, hr⟩, hls, hrs⟩
    refine ⟨List.forall_mem_cons.mpr ⟨hl, hls⟩, ?_⟩
    rw [List.dropLast_cons_cons]
    exact List.forall_mem_cons.mpr ⟨hr, hrs⟩

/-! ## Splitting -/

/-- An open line, last character first, without a carriage return at its end. -/
def dropReturn : List Char → List Char
  | '\r' :: before => before
  | before => before

theorem dropReturn_subset (cs : List Char) : dropReturn cs ⊆ cs := by
  unfold dropReturn
  split
  next before => exact List.subset_cons_self _ before
  next => exact List.Subset.refl _

theorem dropReturn_eq_self_iff (cs : List Char) : dropReturn cs = cs ↔ cs.head? ≠ some '\r' := by
  unfold dropReturn
  split
  next before => simp
  next hNone =>
    cases cs with
    | nil => simp
    | cons c cs =>
      have hc : c ≠ '\r' := fun h => hNone cs (h ▸ rfl)
      simp [hc]

theorem lineChars_newline (rest before : List Char) :
    lineChars ('\n' :: rest) before = (dropReturn before).reverse :: lineChars rest [] := by
  unfold dropReturn
  split
  next before => rw [lineChars.eq_3]
  next hNone => rw [lineChars.eq_4 _ _ hNone]

theorem lineChars_append {cs : List Char} (h : '\n' ∉ cs) (rest before : List Char) :
    lineChars (cs ++ rest) before = lineChars rest (cs.reverse ++ before) := by
  induction cs generalizing before with
  | nil => rfl
  | cons c cs ih =>
    have hc : c ≠ '\n' := fun e => h (e ▸ List.mem_cons_self)
    rw [List.cons_append, lineChars.eq_5 _ _ _ hc, ih fun m => h (List.mem_cons_of_mem c m)]
    simp

theorem newline_not_mem_lineChars {cs before line : List Char} (hBefore : '\n' ∉ before)
    (h : line ∈ lineChars cs before) : '\n' ∉ line := by
  induction cs generalizing before with
  | nil =>
    cases before with
    | nil => exact absurd h List.not_mem_nil
    | cons b before =>
      rw [List.mem_singleton.mp h, List.mem_reverse]
      exact hBefore
  | cons c cs ih =>
    by_cases hc : c = '\n'
    · rw [hc, lineChars_newline] at h
      rcases List.mem_cons.mp h with rfl | h
      · rw [List.mem_reverse]
        exact fun m => hBefore (dropReturn_subset before m)
      · exact ih List.not_mem_nil h
    · rw [lineChars.eq_5 _ _ _ hc] at h
      refine ih (fun m => ?_) h
      rcases List.mem_cons.mp m with e | m
      · exact hc e.symm
      · exact hBefore m

theorem newline_not_mem_lines {s l : String} (h : l ∈ lines s) : '\n' ∉ l.toList := by
  obtain ⟨line, hLine, rfl⟩ := List.mem_map.mp h
  rw [String.toList_ofList]
  exact newline_not_mem_lineChars List.not_mem_nil hLine

theorem unlines_singleton (l : String) : unlines [l] = l := by
  rw [unlines, String.intercalate_singleton]

theorem toList_unlines_cons_cons (l k : String) (ls : List String) :
    (unlines (l :: k :: ls)).toList = l.toList ++ '\n' :: (unlines (k :: ls)).toList := by
  rw [unlines, String.intercalate_cons_cons, String.toList_append, String.toList_append,
    List.append_assoc]
  rfl

theorem lines_of_newline_not_mem {l : String} (hEmpty : l ≠ "") (h : '\n' ∉ l.toList) :
    lines l = [l] := by
  have hChars : lineChars l.toList [] = [l.toList] := by
    have hAppend := lineChars_append h [] []
    rw [List.append_nil, List.append_nil] at hAppend
    rw [hAppend, lineChars.eq_2 _ (by simpa using hEmpty), List.reverse_reverse]
  rw [lines, hChars, List.map_singleton, String.ofList_toList]

theorem lineChars_eq_nil_iff {cs before : List Char} :
    lineChars cs before = [] ↔ cs = [] ∧ before = [] := by
  induction cs generalizing before with
  | nil => cases before <;> simp [lineChars]
  | cons c cs ih =>
    by_cases hc : c = '\n'
    · simp [hc, lineChars_newline]
    · simp [lineChars.eq_5 _ _ _ hc, ih]

theorem lines_eq_nil_iff {s : String} : lines s = [] ↔ s = "" := by
  rw [lines, List.map_eq_nil_iff, lineChars_eq_nil_iff, and_iff_left rfl, String.toList_eq_nil_iff]

/-- The lines of a text hold no newline, so neither do texts that are the lines of some text. -/
theorem newline_not_mem_of_lines_eq {s : String} {ls : List String} (h : lines s = ls) :
    ∀ l ∈ ls, '\n' ∉ l.toList :=
  fun _ hl => newline_not_mem_lines (h ▸ hl)

theorem lines_unlines_cons_cons_eq_iff {l k : String} {ls : List String} (h : '\n' ∉ l.toList) :
    lines (unlines (l :: k :: ls)) = l :: k :: ls ↔
      l.toList.getLast? ≠ some '\r' ∧ lines (unlines (k :: ls)) = k :: ls := by
  rw [lines, toList_unlines_cons_cons, lineChars_append h, List.append_nil, lineChars_newline,
    List.map_cons, List.cons.injEq]
  refine and_congr ?_ Iff.rfl
  rw [← List.head?_reverse, ← dropReturn_eq_self_iff, ← String.toList_inj, String.toList_ofList]
  exact List.reverse_eq_iff

theorem lines_unlines_eq_iff {ls : List String} (hEmpty : ∀ l ∈ ls, l ≠ "") :
    lines (unlines ls) = ls ↔ AreLines ls := by
  induction ls with
  | nil => exact ⟨fun _ => ⟨nofun, nofun⟩, fun _ => rfl⟩
  | cons l ls ih =>
    obtain ⟨hl, hls⟩ := List.forall_mem_cons.mp hEmpty
    have hRest := ih hls
    cases ls with
    | nil =>
      rw [areLines_singleton_iff]
      constructor
      · exact fun h => newline_not_mem_of_lines_eq h l (List.mem_singleton.mpr rfl)
      · intro h
        rw [unlines_singleton, lines_of_newline_not_mem hl h]
    | cons k ls =>
      rw [areLines_cons_cons_iff, ← hRest]
      constructor
      · intro h
        have hNewline := newline_not_mem_of_lines_eq h l List.mem_cons_self
        obtain ⟨hReturn, hOthers⟩ := (lines_unlines_cons_cons_eq_iff hNewline).mp h
        exact ⟨⟨hNewline, hReturn⟩, hOthers⟩
      · rintro ⟨⟨hNewline, hReturn⟩, hOthers⟩
        exact (lines_unlines_cons_cons_eq_iff hNewline).mpr ⟨hReturn, hOthers⟩

end SchemaContract.Text
