import SchemaContract.Proofs.DirectoryLoad

/-!
# The order of the entries of a directory

A system tells the entries of a directory in no particular order. Two trees that differ in such
orders alone load to one registry or both fail, and unless something stops the walk they come to the
same fault: the files are read in the order of their names, whatever order they were found in.
-/

namespace SchemaContract

namespace Entry

/-- Directories that differ in the order of entries alone, in their own or in that of a directory
somewhere below. -/
inductive Reordered : Directory → Directory → Prop where
  | nil : Reordered [] []
  | cons (e : String × Entry) {entries entries' : Directory} (h : Reordered entries entries') :
      Reordered (e :: entries) (e :: entries')
  | swap (e d : String × Entry) (entries : Directory) :
      Reordered (e :: d :: entries) (d :: e :: entries)
  | inside (name : String) {inner inner' : Directory} (h : Reordered inner inner')
      (entries : Directory) :
      Reordered ((name, .directory inner) :: entries) ((name, .directory inner') :: entries)
  | trans {entries₁ entries₂ entries₃ : Directory} (h : Reordered entries₁ entries₂)
      (h' : Reordered entries₂ entries₃) : Reordered entries₁ entries₃

namespace Reordered

variable {entries entries' : Directory}

theorem symm (h : Reordered entries entries') : Reordered entries' entries := by
  induction h with
  | nil => exact .nil
  | cons e _ ih => exact .cons e ih
  | swap e d entries => exact .swap d e entries
  | inside name _ entries ih => exact .inside name ih entries
  | trans _ _ ih ih' => exact .trans ih' ih

theorem names_perm (h : Reordered entries entries') :
    (entries.map (·.1)).Perm (entries'.map (·.1)) := by
  induction h with
  | nil => exact .nil
  | cons e _ ih => exact ih.cons e.1
  | swap e d entries => exact .swap d.1 e.1 _
  | inside name _ entries _ => exact .refl _
  | trans _ _ ih ih' => exact ih.trans ih'

theorem leads (h : Reordered entries entries') {way : List String} {name : String} {entry : Entry}
    (hLeads : Leads entries way name entry) (hLeaf : entry.directory? = none) :
    Leads entries' way name entry := by
  induction h generalizing way with
  | nil => exact hLeads
  | cons e _ ih =>
    rw [leads_cons_iff] at hLeads ⊢
    exact hLeads.imp_right fun hRest => ih hRest
  | swap e d entries =>
    obtain ⟨x, hx, hInner⟩ := leads_iff.mp hLeads
    exact leads_iff.mpr ⟨x, (List.Perm.swap d e entries).mem_iff.mp hx, hInner⟩
  | inside first h entries ih =>
    rw [leads_cons_iff, leads_directory_iff] at hLeads ⊢
    refine hLeads.imp_left ?_
    rintro (⟨-, -, rfl⟩ | ⟨rest, hWay, hInner⟩)
    · cases hLeaf
    · exact .inr ⟨rest, hWay, ih hInner⟩
  | trans _ _ ih ih' => exact ih' (ih hLeads)

theorem isTree (h : Reordered entries entries') (hTree : isTree (.directory entries) = true) :
    Entry.isTree (.directory entries') = true := by
  induction h with
  | nil => exact hTree
  | cons e h ih =>
    rw [isTree_cons_iff] at hTree ⊢
    obtain ⟨hNew, hSlash, hFirst, hRest⟩ := hTree
    exact ⟨mt h.names_perm.mem_iff.mpr hNew, hSlash, hFirst, ih hRest⟩
  | swap e d entries =>
    simp only [isTree_cons_iff, List.map_cons, List.mem_cons, not_or] at hTree ⊢
    obtain ⟨⟨hOther, hNew⟩, hSlash, hFirst, hNew', hSlash', hSecond, hRest⟩ := hTree
    exact ⟨⟨Ne.symm hOther, hNew'⟩, hSlash', hSecond, hNew, hSlash, hFirst, hRest⟩
  | inside name _ entries ih =>
    rw [isTree_cons_iff] at hTree ⊢
    exact ⟨hTree.1, hTree.2.1, ih hTree.2.2.1, hTree.2.2.2⟩
  | trans _ _ ih ih' => exact ih' (ih hTree)

end Reordered

end Entry

namespace SchemaFile

open Entry (Reordered)

variable {directory start : String} {entries entries' : Entry.Directory}
  {found found' : List SchemaFile}

theorem Stops.directory?_eq {fileName : String} {entry : Entry} (h : Stops fileName entry) :
    entry.directory? = none := by
  cases h <;> rfl

theorem directory?_of_isRegular {entry : Entry} (h : entry.isRegular = true) :
    entry.directory? = none := by
  cases entry <;> first | rfl | cases h

theorem Unstopped.reordered (h : Unstopped entries) (hOrder : Reordered entries entries') :
    Unstopped entries' := by
  intro way fileName entry hLeads hStops
  exact h way fileName entry (hOrder.symm.leads hLeads hStops.directory?_eq) hStops

theorem LiesBelow.reordered {f : SchemaFile} (h : LiesBelow directory start entries f)
    (hOrder : Reordered entries entries') : LiesBelow directory start entries' f := by
  obtain ⟨hLeads, hRegular, hStem⟩ := h
  exact .intro (hOrder.leads hLeads (directory?_of_isRegular hRegular)) hRegular hStem

theorem perm_of_reordered (hOrder : Reordered entries entries')
    (hTree : Entry.isTree (.directory entries) = true)
    (h : ofEntries directory start entries = .ok found)
    (h' : ofEntries directory start entries' = .ok found') : found.Perm found' := by
  have hDistinct := (nodup_names entries hTree h).of_map
  have hDistinct' := (nodup_names entries' (hOrder.isTree hTree) h').of_map
  refine (List.perm_ext_iff_of_nodup hDistinct hDistinct').mpr fun f => ?_
  rw [mem_ofEntries_iff entries h, mem_ofEntries_iff entries' h']
  exact ⟨fun hf => hf.reordered hOrder, fun hf => hf.reordered hOrder.symm⟩

theorem mergeSort_eq_of_perm (hDistinct : (found.map (·.name)).Nodup) (h : found.Perm found') :
    found.mergeSort comesBefore = found'.mergeSort comesBefore := by
  have hAscend := List.pairwise_map.mp (names_ascend_mergeSort hDistinct)
  have hAscend' := List.pairwise_map.mp
    (names_ascend_mergeSort ((h.map (·.name)).nodup_iff.mp hDistinct))
  refine List.Perm.eq_of_pairwise (fun f g _ _ hLt hGt => absurd hGt (Std.not_gt_of_lt hLt))
    hAscend hAscend' ?_
  exact (List.mergeSort_perm found _).trans (h.trans (List.mergeSort_perm found' _).symm)

end SchemaFile

theorem Files.exists_eq_ok (path : String) (entry : Entry) : ∃ files : Files,
    files path = .ok entry :=
  ⟨fun _ => .ok entry, rfl⟩

namespace Registry

variable (config : Config) {files files' : Files} {path : String}
  {entries entries' : Entry.Directory}

theorem ofDirectory_of_stopped (hPath : files path = .ok (.directory entries))
    (h : ¬ SchemaFile.Unstopped entries) : ∃ fault,
      SchemaFile.ofEntries path "" entries = .error fault ∧
        ofDirectory config files path = .error (.load fault) := by
  cases hWalk : SchemaFile.ofEntries path "" entries with
  | ok found => exact absurd ((SchemaFile.exists_ofEntries_iff entries path "").mp ⟨found, hWalk⟩) h
  | error fault =>
    refine ⟨fault, rfl, ?_⟩
    rw [ofDirectory, hPath, SchemaFile.below, hWalk]

theorem ofDirectory_eq_of_perm {found found' : List SchemaFile}
    (hBelow : SchemaFile.below path (files path) = .ok found)
    (hBelow' : SchemaFile.below path (files' path) = .ok found')
    (hDistinct : (found.map (·.name)).Nodup) (h : found.Perm found') :
    ofDirectory config files path = ofDirectory config files' path := by
  rw [ofDirectory, ofDirectory, hBelow, hBelow']
  dsimp only
  rw [h.length_eq, SchemaFile.mergeSort_eq_of_perm hDistinct h]

theorem ofDirectory_eq_of_reordered (hPath : files path = .ok (.directory entries))
    (hPath' : files' path = .ok (.directory entries'))
    (hTree : Entry.isTree (.directory entries) = true) (hOrder : Entry.Reordered entries entries')
    (h : SchemaFile.Unstopped entries) :
    ofDirectory config files path = ofDirectory config files' path := by
  obtain ⟨found, hWalk⟩ := (SchemaFile.exists_ofEntries_iff entries path "").mpr h
  obtain ⟨found', hWalk'⟩ :=
    (SchemaFile.exists_ofEntries_iff entries' path "").mpr (h.reordered hOrder)
  refine ofDirectory_eq_of_perm config ?_ ?_ (SchemaFile.nodup_names entries hTree hWalk)
    (SchemaFile.perm_of_reordered hOrder hTree hWalk hWalk')
  · rwa [hPath]
  · rwa [hPath']

/-- Two trees that differ in the order of entries alone load to one registry, or both fail. Unless a
link that is named as a schema file or a directory that may not be read stops the walk, they fail
with one fault. -/
theorem ofDirectory_of_reordered (hPath : files path = .ok (.directory entries))
    (hPath' : files' path = .ok (.directory entries'))
    (hTree : Entry.isTree (.directory entries) = true)
    (hOrder : Entry.Reordered entries entries') :
    ((∃ r, ofDirectory config files path = .ok r ∧ ofDirectory config files' path = .ok r) ∨
      ∃ fault fault', ofDirectory config files path = .error fault ∧
        ofDirectory config files' path = .error fault') ∧
    (SchemaFile.Unstopped entries →
      ofDirectory config files path = ofDirectory config files' path) := by
  refine ⟨?_, ofDirectory_eq_of_reordered config hPath hPath' hTree hOrder⟩
  by_cases h : SchemaFile.Unstopped entries
  · rw [← ofDirectory_eq_of_reordered config hPath hPath' hTree hOrder h]
    cases ofDirectory config files path with
    | ok r => exact .inl ⟨r, rfl, rfl⟩
    | error fault => exact .inr ⟨fault, fault, rfl, rfl⟩
  · have h' : ¬ SchemaFile.Unstopped entries' := mt (·.reordered hOrder.symm) h
    obtain ⟨fault, -, hFault⟩ := ofDirectory_of_stopped config hPath h
    obtain ⟨fault', -, hFault'⟩ := ofDirectory_of_stopped config hPath' h'
    exact .inr ⟨_, _, hFault, hFault'⟩

/-- The entries of a directory, and of one in it, the other way round. -/
def titleBeforeNever : Entry.Directory :=
  [("todo", .directory [("title.schema.json", .file "true".toUTF8),
      ("draft", .link "title.schema.json")]),
    ("never.schema.json", .directory [("at all.schema.json", .file "false".toUTF8)])]

theorem ofDirectory_of_reordered_titleBeforeNever :
    Entry.isTree (.directory neverAndTitle) = true ∧
      Entry.Reordered neverAndTitle titleBeforeNever ∧ SchemaFile.Unstopped neverAndTitle ∧
      ∃ files others : Files, files "schemas" = .ok (.directory neverAndTitle) ∧
        others "schemas" = .ok (.directory titleBeforeNever) ∧ ∃ found found',
        SchemaFile.below "schemas" (files "schemas") = .ok found ∧
        SchemaFile.below "schemas" (others "schemas") = .ok found' ∧
        found.map (·.name) = ["never.schema.json/at all", "todo/title"] ∧
        found'.map (·.name) = ["todo/title", "never.schema.json/at all"] ∧
        ofDirectory Config.standard files "schemas" =
          ofDirectory Config.standard others "schemas" := by
  have hTree : Entry.isTree (.directory neverAndTitle) = true := by decide
  have hOrder : Entry.Reordered neverAndTitle titleBeforeNever :=
    .trans (.swap _ _ _) (.inside _ (.swap _ _ _) _)
  have hUnstopped : SchemaFile.Unstopped neverAndTitle :=
    (SchemaFile.exists_ofEntries_iff neverAndTitle "schemas" "").mp ⟨_, rfl⟩
  obtain ⟨files, hPath⟩ := Files.exists_eq_ok "schemas" (.directory neverAndTitle)
  obtain ⟨others, hPath'⟩ := Files.exists_eq_ok "schemas" (.directory titleBeforeNever)
  have hLoad := (ofDirectory_of_reordered Config.standard hPath hPath' hTree hOrder).2 hUnstopped
  refine ⟨hTree, hOrder, hUnstopped, files, others, hPath, hPath', ?_⟩
  rw [hPath, hPath']
  exact ⟨_, _, rfl, rfl, rfl, rfl, hLoad⟩

end Registry

end SchemaContract
