import Mathlib.Data.List.Nodup
import SchemaContract.Proofs.Lists
import SchemaContract.Registry.Directory

/-!
# Schema files below a directory

The walk of a directory finds the regular files that real directories lead to and that are named as
schema files, each of them once and under the path to it, without the ending, as its name. It comes
to its end unless such a way leads to a link that is named as a schema file, or to a directory that
may not be read.
-/

namespace SchemaContract

namespace Entry

/-! ## Trees -/

theorem inductionOn {motive : Directory → Prop} (entries : Directory)
    (h : ∀ entries : Directory, (∀ e ∈ entries, ∀ inner, e.2 = .directory inner → motive inner) →
      motive entries) : motive entries := by
  refine h entries fun e he inner hInner => ?_
  exact inductionOn inner h
termination_by sizeOf entries
decreasing_by
  have hEntry := List.sizeOf_lt_of_mem he
  obtain ⟨name, entry⟩ := e
  cases hInner
  simp only [Prod.mk.sizeOf_spec, directory.sizeOf_spec] at hEntry
  omega

/-- The way from a directory to an entry: the real directories on it, and the name of the entry in
the last of them. -/
inductive Leads : Directory → List String → String → Entry → Prop where
  | here {entries : Directory} {name : String} {entry : Entry} (h : (name, entry) ∈ entries) :
      Leads entries [] name entry
  | inside {entries inner : Directory} {first name : String} {way : List String} {entry : Entry}
      (h : (first, .directory inner) ∈ entries) (hInner : Leads inner way name entry) :
      Leads entries (first :: way) name entry

mutual

/-- Whether no directory has two entries of one name, and no name holds a slash. -/
def isTree : Entry → Bool
  | .directory entries => decide (entries.map (·.1)).Nodup && areTrees entries
  | _ => true

def areTrees : List (String × Entry) → Bool
  | [] => true
  | (name, entry) :: entries => !name.toList.contains '/' && isTree entry && areTrees entries

end

theorem isTree_directory_iff {entries : Directory} :
    isTree (.directory entries) = true ↔ (entries.map (·.1)).Nodup ∧
      ∀ e ∈ entries, '/' ∉ e.1.toList ∧ isTree e.2 = true := by
  have hEach : areTrees entries = true ↔ ∀ e ∈ entries, '/' ∉ e.1.toList ∧ isTree e.2 = true := by
    induction entries with
    | nil => simp [areTrees]
    | cons e entries ih => simp [areTrees, ih]
  rw [isTree, Bool.and_eq_true, decide_eq_true_eq, hEach]

theorem isTree_cons_iff {e : String × Entry} {entries : Directory} :
    isTree (.directory (e :: entries)) = true ↔ e.1 ∉ entries.map (·.1) ∧ '/' ∉ e.1.toList ∧
      isTree e.2 = true ∧ isTree (.directory entries) = true := by
  simp only [isTree_directory_iff, List.map_cons, List.nodup_cons, List.forall_mem_cons]
  tauto

def isRegular : Entry → Bool
  | .file _ | .lockedFile => true
  | _ => false

theorem leads_iff {entries : Directory} {way : List String} {name : String} {entry : Entry} :
    Leads entries way name entry ↔ ∃ e ∈ entries, Leads [e] way name entry := by
  constructor
  · rintro (h | ⟨h, hInner⟩)
    · exact ⟨_, h, .here List.mem_cons_self⟩
    · exact ⟨_, h, .inside List.mem_cons_self hInner⟩
  · rintro ⟨e, he, h | ⟨h, hInner⟩⟩
    · obtain rfl := List.mem_singleton.mp h
      exact .here he
    · obtain rfl := List.mem_singleton.mp h
      exact .inside he hInner

theorem leads_cons_iff {e : String × Entry} {entries : Directory} {way : List String}
    {name : String} {entry : Entry} : Leads (e :: entries) way name entry ↔
      Leads [e] way name entry ∨ Leads entries way name entry := by
  rw [leads_iff, List.exists_mem_cons_iff, ← leads_iff]

theorem directory_or_leaf (entry : Entry) :
    (∃ inner, entry = .directory inner) ∨ entry.directory? = none := by
  cases entry with
  | directory inner => exact .inl ⟨inner, rfl⟩
  | _ => exact .inr rfl

theorem leads_directory_iff {first : String} {inner : Directory} {way : List String} {name : String}
    {entry : Entry} : Leads [(first, .directory inner)] way name entry ↔
      (way = [] ∧ name = first ∧ entry = .directory inner) ∨
        ∃ rest, way = first :: rest ∧ Leads inner rest name entry := by
  constructor
  · rintro (h | ⟨h, hInner⟩)
    · cases List.mem_singleton.mp h
      exact .inl ⟨rfl, rfl, rfl⟩
    · cases List.mem_singleton.mp h
      exact .inr ⟨_, rfl, hInner⟩
  · rintro (⟨rfl, rfl, rfl⟩ | ⟨rest, rfl, hInner⟩)
    · exact .here List.mem_cons_self
    · exact .inside List.mem_cons_self hInner

theorem leads_leaf_iff {first : String} {e : Entry} (he : e.directory? = none) {way : List String}
    {name : String} {entry : Entry} :
    Leads [(first, e)] way name entry ↔ way = [] ∧ name = first ∧ entry = e := by
  constructor
  · rintro (h | ⟨h, -⟩)
    · cases List.mem_singleton.mp h
      exact ⟨rfl, rfl, rfl⟩
    · cases List.mem_singleton.mp h
      cases he
  · rintro ⟨rfl, rfl, rfl⟩
    exact .here List.mem_cons_self

namespace Leads

variable {entries : Directory} {way : List String} {name : String} {entry : Entry}

theorem slash_not_mem (h : Leads entries way name entry)
    (hTree : isTree (.directory entries) = true) : ∀ part ∈ way ++ [name], '/' ∉ part.toList := by
  induction h with
  | here h =>
    rw [isTree_directory_iff] at hTree
    exact List.forall_mem_singleton.mpr (hTree.2 _ h).1
  | inside h _ ih =>
    rw [isTree_directory_iff] at hTree
    exact List.forall_mem_cons.mpr ⟨(hTree.2 _ h).1, ih (hTree.2 _ h).2⟩

theorem head?_eq {e : String × Entry} (h : Leads [e] way name entry) :
    (way ++ [name]).head? = some e.1 := by
  rcases h with h | ⟨h, -⟩
  · cases List.mem_singleton.mp h
    rfl
  · cases List.mem_singleton.mp h
    rfl

theorem eq_of_tree {entry' : Entry} (h : Leads entries way name entry)
    (h' : Leads entries way name entry') (hTree : isTree (.directory entries) = true) :
    entry = entry' := by
  induction h with
  | here h =>
    cases h' with
    | here h' =>
      rw [isTree_directory_iff] at hTree
      cases List.inj_on_of_nodup_map hTree.1 h h' rfl
      rfl
  | inside h _ ih =>
    cases h' with
    | inside h' hInner' =>
      rw [isTree_directory_iff] at hTree
      cases List.inj_on_of_nodup_map hTree.1 h h' rfl
      exact ih hInner' (hTree.2 _ h).2

end Leads

end Entry

namespace SchemaFile

open Entry (Leads)

/-! ## Names -/

theorem stem?_eq_some_iff {fileName stem : String} :
    stem? fileName = some stem ↔ fileName = stem ++ suffix := by
  rw [stem?]
  constructor
  · intro h
    split at h
    next hSuffix =>
      cases h
      have hAppend := List.suffix_iff_eq_append.mp (List.isSuffixOf_iff_suffix.mp hSuffix)
      rw [← String.toList_inj, String.toList_append, String.toList_ofList, hAppend]
    next => cases h
  · rintro rfl
    have hSuffix : suffix.toList.isSuffixOf (stem ++ suffix).toList = true := by
      rw [List.isSuffixOf_iff_suffix, String.toList_append]
      exact List.suffix_append _ _
    rw [if_pos hSuffix, String.toList_append, List.length_append, Nat.add_sub_cancel,
      List.take_left, String.ofList_toList]

theorem mem_ofFile_iff {directory start fileName : String} {entry : Entry} {f : SchemaFile} :
    f ∈ ofFile directory start fileName entry ↔ ∃ stem, fileName = stem ++ suffix ∧ stem ≠ "" ∧
      f = ⟨start ++ stem, join directory fileName, entry⟩ := by
  rw [ofFile]
  simp only [← stem?_eq_some_iff]
  cases stem? fileName with
  | none => simp
  | some stem => by_cases hEmpty : stem = "" <;> simp [hEmpty]

theorem intercalate_inj {names names' : List String} (hNames : names ≠ []) (hNames' : names' ≠ [])
    (h : ∀ name ∈ names, '/' ∉ name.toList) (h' : ∀ name ∈ names', '/' ∉ name.toList)
    (hEq : "/".intercalate names = "/".intercalate names') : names = names' := by
  have hSplit : ∀ {parts : List String}, parts ≠ [] → (∀ name ∈ parts, '/' ∉ name.toList) →
      ("/".intercalate parts).toList.splitOn '/' = parts.map String.toList := by
    intro parts hParts hEach
    rw [String.toList_intercalate]
    refine List.splitOn_intercalate '/' ?_ (by simpa using hParts)
    exact List.forall_mem_map.mpr hEach
  have hMap := (hSplit hNames h).symm.trans ((congrArg (·.toList.splitOn '/') hEq).trans
    (hSplit hNames' h'))
  exact List.map_injective_iff.mpr (fun _ _ => String.toList_inj.mp) hMap

/-! ## The files -/

/-- The schema files below a directory are the regular files that real directories lead to, if their
names have the ending of schema files and more. What stands before it, after the names on the way to
the file, is the name of the schema. -/
inductive LiesBelow (directory start : String) (entries : Entry.Directory) : SchemaFile → Prop where
  | intro {way : List String} {stem : String} {entry : Entry}
      (h : Leads entries way (stem ++ ".schema.json") entry) (hRegular : entry.isRegular = true)
      (hStem : stem ≠ "") :
      LiesBelow directory start entries ⟨start ++ "/".intercalate (way ++ [stem]),
        join (way.foldl join directory) (stem ++ ".schema.json"), entry⟩

/-- What the walk does not pass. -/
inductive Stops (fileName : String) : Entry → Prop where
  | link {stem target : String} (h : fileName = stem ++ ".schema.json") :
      Stops fileName (.link target)
  | locked : Stops fileName .lockedDirectory

theorem stops_link_iff {fileName target : String} :
    Stops fileName (.link target) ↔ ∃ stem, fileName = stem ++ suffix := by
  constructor
  · rintro (h | -)
    exact ⟨_, h⟩
  · rintro ⟨stem, h⟩
    exact .link h

/-- Nothing below a directory stops the walk. -/
def Unstopped (entries : Entry.Directory) : Prop :=
  ∀ way fileName entry, Leads entries way fileName entry → ¬ Stops fileName entry

theorem unstopped_iff {entries : Entry.Directory} :
    Unstopped entries ↔ ∀ e ∈ entries, Unstopped [e] := by
  constructor
  · intro h e he way fileName entry hLeads
    exact h way fileName entry (Entry.leads_iff.mpr ⟨e, he, hLeads⟩)
  · intro h way fileName entry hLeads
    obtain ⟨e, he, hInner⟩ := Entry.leads_iff.mp hLeads
    exact h e he way fileName entry hInner

theorem unstopped_directory_iff {fileName : String} {inner : Entry.Directory} :
    Unstopped [(fileName, .directory inner)] ↔ Unstopped inner := by
  constructor
  · intro h way name entry hLeads
    exact h _ name entry (.inside List.mem_cons_self hLeads)
  · intro h way name entry hLeads
    rcases Entry.leads_directory_iff.mp hLeads with ⟨-, -, rfl⟩ | ⟨rest, -, hInner⟩
    · nofun
    · exact h rest name entry hInner

theorem unstopped_leaf_iff {fileName : String} {entry : Entry} (hLeaf : entry.directory? = none) :
    Unstopped [(fileName, entry)] ↔ ¬ Stops fileName entry := by
  constructor
  · intro h
    exact h [] fileName entry (.here List.mem_cons_self)
  · intro h way name e hLeads
    obtain ⟨-, rfl, rfl⟩ := (Entry.leads_leaf_iff hLeaf).mp hLeads
    exact h

variable {directory start : String} {entries : Entry.Directory} {found : List SchemaFile}
  {f : SchemaFile}

theorem liesBelow_iff :
    LiesBelow directory start entries f ↔ ∃ e ∈ entries, LiesBelow directory start [e] f := by
  constructor
  · rintro ⟨h, hRegular, hStem⟩
    obtain ⟨e, he, hLeads⟩ := Entry.leads_iff.mp h
    exact ⟨e, he, hLeads, hRegular, hStem⟩
  · rintro ⟨e, he, h, hRegular, hStem⟩
    exact ⟨Entry.leads_iff.mpr ⟨e, he, h⟩, hRegular, hStem⟩

theorem intercalate_cons (first : String) (way : List String) (stem : String) :
    "/".intercalate (first :: way ++ [stem]) =
      first ++ ("/" ++ "/".intercalate (way ++ [stem])) := by
  rw [List.cons_append, String.intercalate_cons_of_ne_nil (by simp), String.append_assoc]

theorem liesBelow_directory_iff {fileName : String} {inner : Entry.Directory} :
    LiesBelow directory start [(fileName, .directory inner)] f ↔
      LiesBelow (join directory fileName) (start ++ fileName ++ "/") inner f := by
  constructor
  · rintro ⟨h, hRegular, hStem⟩
    rcases Entry.leads_directory_iff.mp h with ⟨-, -, rfl⟩ | ⟨rest, rfl, hInner⟩
    · cases hRegular
    · rw [intercalate_cons, ← String.append_assoc, ← String.append_assoc]
      exact ⟨hInner, hRegular, hStem⟩
  · rintro ⟨h, hRegular, hStem⟩
    rw [String.append_assoc, String.append_assoc, ← intercalate_cons]
    exact ⟨Entry.leads_directory_iff.mpr (.inr ⟨_, rfl, h⟩), hRegular, hStem⟩

theorem liesBelow_leaf_iff {fileName : String} {entry : Entry} (hLeaf : entry.directory? = none) :
    LiesBelow directory start [(fileName, entry)] f ↔
      entry.isRegular = true ∧ f ∈ ofFile directory start fileName entry := by
  rw [mem_ofFile_iff]
  constructor
  · rintro ⟨h, hRegular, hStem⟩
    obtain ⟨rfl, rfl, rfl⟩ := (Entry.leads_leaf_iff hLeaf).mp h
    exact ⟨hRegular, _, rfl, hStem, rfl⟩
  · rintro ⟨hRegular, stem, rfl, hStem, rfl⟩
    exact ⟨(Entry.leads_leaf_iff hLeaf).mpr ⟨rfl, rfl, rfl⟩, hRegular, hStem⟩

/-! ## The walk -/

theorem ofEntry_leaf_eq_ok_iff {fileName : String} {entry : Entry}
    (hLeaf : entry.directory? = none) :
    ofEntry directory start fileName entry = .ok found ↔ ¬ Stops fileName entry ∧
      found = if entry.isRegular then ofFile directory start fileName entry else [] := by
  cases entry with
  | directory inner => cases hLeaf
  | link target =>
    have hStops : Stops fileName (.link target) ↔ (stem? fileName).isSome = true := by
      simp only [stops_link_iff, Option.isSome_iff_exists, stem?_eq_some_iff]
    rw [hStops, ofEntry]
    cases (stem? fileName).isSome <;> simp [Entry.isRegular, eq_comm]
  | lockedDirectory => exact iff_of_false nofun fun h => h.1 .locked
  | file content =>
    rw [ofEntry, Except.ok.injEq, eq_comm]
    exact (and_iff_right nofun).symm
  | lockedFile =>
    rw [ofEntry, Except.ok.injEq, eq_comm]
    exact (and_iff_right nofun).symm

theorem ofEntries_cons_eq_ok_iff {e : String × Entry} {rest : Entry.Directory} :
    ofEntries directory start (e :: rest) = .ok found ↔ ∃ first others,
      ofEntry directory start e.1 e.2 = .ok first ∧ ofEntries directory start rest = .ok others ∧
        found = first ++ others := by
  rw [ofEntries]
  cases ofEntry directory start e.1 e.2 with
  | error fault => simp
  | ok first =>
    cases ofEntries directory start rest with
    | error fault => simp
    | ok others => simp [eq_comm]

theorem exists_ofEntries_iff_forall :
    (∃ found, ofEntries directory start entries = .ok found) ↔
      ∀ e ∈ entries, ∃ found, ofEntry directory start e.1 e.2 = .ok found := by
  induction entries with
  | nil => simp [ofEntries]
  | cons e rest ih =>
    rw [List.forall_mem_cons, ← ih]
    simp only [ofEntries_cons_eq_ok_iff]
    constructor
    · rintro ⟨found, first, others, hFirst, hOthers, -⟩
      exact ⟨⟨first, hFirst⟩, others, hOthers⟩
    · rintro ⟨⟨first, hFirst⟩, others, hOthers⟩
      exact ⟨_, first, others, hFirst, hOthers, rfl⟩

theorem exists_ofEntries_iff (entries : Entry.Directory) : ∀ directory start : String,
    (∃ found, ofEntries directory start entries = .ok found) ↔ Unstopped entries := by
  induction entries using Entry.inductionOn with
  | h entries ih =>
    intro directory start
    rw [exists_ofEntries_iff_forall, unstopped_iff]
    refine forall_congr' fun e => forall_congr' fun he => ?_
    obtain ⟨fileName, entry⟩ := e
    rcases entry.directory_or_leaf with ⟨inner, rfl⟩ | hLeaf
    -- The walk goes on with another path and another start of the names, so the claim is for all.
    · rw [unstopped_directory_iff]
      exact ih _ he inner rfl _ _
    · simp [unstopped_leaf_iff hLeaf, ofEntry_leaf_eq_ok_iff hLeaf]

theorem mem_ofEntries_iff_of_forall
    (hEach : ∀ e ∈ entries, ∀ first, ofEntry directory start e.1 e.2 = .ok first →
      (f ∈ first ↔ LiesBelow directory start [e] f))
    (h : ofEntries directory start entries = .ok found) :
    f ∈ found ↔ LiesBelow directory start entries f := by
  rw [liesBelow_iff]
  induction entries generalizing found with
  | nil =>
    cases h
    simp
  | cons e rest ih =>
    obtain ⟨first, others, hFirst, hOthers, rfl⟩ := ofEntries_cons_eq_ok_iff.mp h
    obtain ⟨hOne, hRest⟩ := List.forall_mem_cons.mp hEach
    rw [List.mem_append, hOne first hFirst, ih hRest hOthers, List.exists_mem_cons_iff]

theorem mem_ofEntries_iff (entries : Entry.Directory) : ∀ {directory start : String}
    {found : List SchemaFile}, ofEntries directory start entries = .ok found →
      ∀ f, f ∈ found ↔ LiesBelow directory start entries f := by
  induction entries using Entry.inductionOn with
  | h entries ih =>
    intro directory start found h f
    refine mem_ofEntries_iff_of_forall (fun e he first hFirst => ?_) h
    obtain ⟨fileName, entry⟩ := e
    rcases entry.directory_or_leaf with ⟨inner, rfl⟩ | hLeaf
    · rw [liesBelow_directory_iff]
      exact ih _ he inner rfl hFirst f
    · obtain ⟨-, rfl⟩ := (ofEntry_leaf_eq_ok_iff hLeaf).mp hFirst
      rw [liesBelow_leaf_iff hLeaf]
      cases entry.isRegular <;> simp

/-! ## Distinct names -/

theorem slash_not_mem_of_leads {way : List String} {stem : String} {entry : Entry}
    (h : Leads entries way (stem ++ suffix) entry)
    (hTree : Entry.isTree (.directory entries) = true) :
    ∀ part ∈ way ++ [stem], '/' ∉ part.toList := by
  have hWhole := h.slash_not_mem hTree
  rw [List.forall_mem_append, List.forall_mem_singleton] at hWhole ⊢
  rw [String.toList_append] at hWhole
  exact ⟨hWhole.1, fun hMem => hWhole.2 (List.mem_append_left _ hMem)⟩

/-- The name of a schema tells the way to its file. -/
theorem way_inj {entries' : Entry.Directory} {way way' : List String} {stem stem' : String}
    {entry entry' : Entry} (h : Leads entries way (stem ++ suffix) entry)
    (h' : Leads entries' way' (stem' ++ suffix) entry')
    (hTree : Entry.isTree (.directory entries) = true)
    (hTree' : Entry.isTree (.directory entries') = true)
    (hEq : "/".intercalate (way ++ [stem]) = "/".intercalate (way' ++ [stem'])) :
    way = way' ∧ stem = stem' := by
  have hNames := intercalate_inj (by simp) (by simp) (slash_not_mem_of_leads h hTree)
    (slash_not_mem_of_leads h' hTree') hEq
  simpa using List.append_inj' hNames rfl

theorem file_inj (hTree : Entry.isTree (.directory entries) = true) (way way' : List String)
    (stem stem' : String) (entry entry' : Entry)
    (h : Leads entries way (stem ++ ".schema.json") entry)
    (h' : Leads entries way' (stem' ++ ".schema.json") entry')
    (hEq : "/".intercalate (way ++ [stem]) = "/".intercalate (way' ++ [stem'])) :
    way = way' ∧ stem = stem' ∧ entry = entry' := by
  obtain ⟨rfl, rfl⟩ := way_inj h h' hTree hTree hEq
  exact ⟨rfl, rfl, h.eq_of_tree h' hTree⟩

theorem name_ne_of_isTree {e : String × Entry} {rest : Entry.Directory} {g : SchemaFile}
    (hTree : Entry.isTree (.directory (e :: rest)) = true)
    (hf : LiesBelow directory start [e] f) (hg : LiesBelow directory start rest g) :
    f.name ≠ g.name := by
  obtain ⟨hLeads, -, -⟩ := hf
  obtain ⟨hLeads', -, -⟩ := hg
  obtain ⟨hFresh, hSlash, hFirst, hRest⟩ := Entry.isTree_cons_iff.mp hTree
  -- Of two files with one name the ways are the same, and a way begins with the name of its entry.
  intro hEq
  obtain ⟨rfl, rfl⟩ := way_inj hLeads hLeads'
    (Entry.isTree_cons_iff.mpr ⟨List.not_mem_nil, hSlash, hFirst, rfl⟩) hRest
    ((String.append_right_inj start).mp hEq)
  obtain ⟨e', he', hInner⟩ := Entry.leads_iff.mp hLeads'
  have hSame : e.1 = e'.1 := Option.some.inj (hLeads.head?_eq.symm.trans hInner.head?_eq)
  exact hFresh (hSame ▸ List.mem_map_of_mem he')

theorem ofEntries_singleton {e : String × Entry} {first : List SchemaFile}
    (h : ofEntry directory start e.1 e.2 = .ok first) :
    ofEntries directory start [e] = .ok first :=
  ofEntries_cons_eq_ok_iff.mpr ⟨first, [], h, rfl, (List.append_nil first).symm⟩

theorem nodup_names_of_forall (hTree : Entry.isTree (.directory entries) = true)
    (hEach : ∀ e ∈ entries, ∀ first, ofEntry directory start e.1 e.2 = .ok first →
      (first.map (·.name)).Nodup)
    (h : ofEntries directory start entries = .ok found) : (found.map (·.name)).Nodup := by
  induction entries generalizing found with
  | nil =>
    cases h
    exact List.nodup_nil
  | cons e rest ih =>
    obtain ⟨first, others, hFirst, hOthers, rfl⟩ := ofEntries_cons_eq_ok_iff.mp h
    obtain ⟨hOne, hMore⟩ := List.forall_mem_cons.mp hEach
    obtain ⟨-, -, -, hRest⟩ := Entry.isTree_cons_iff.mp hTree
    rw [List.map_append, List.nodup_append]
    refine ⟨hOne first hFirst, ih hRest hMore hOthers, ?_⟩
    refine List.forall_mem_map.mpr fun f hf => List.forall_mem_map.mpr fun g hg => ?_
    exact name_ne_of_isTree hTree ((mem_ofEntries_iff _ (ofEntries_singleton hFirst) f).mp hf)
      ((mem_ofEntries_iff _ hOthers g).mp hg)

theorem nodup_names_ofFile {fileName : String} {entry : Entry} :
    ((ofFile directory start fileName entry).map (·.name)).Nodup := by
  rw [ofFile]
  cases stem? fileName with
  | none => exact List.nodup_nil
  | some stem => by_cases hEmpty : stem = "" <;> simp [hEmpty]

theorem nodup_names (entries : Entry.Directory) : ∀ {directory start : String}
    {found : List SchemaFile}, Entry.isTree (.directory entries) = true →
      ofEntries directory start entries = .ok found → (found.map (·.name)).Nodup := by
  induction entries using Entry.inductionOn with
  | h entries ih =>
    intro directory start found hTree h
    refine nodup_names_of_forall hTree (fun e he first hFirst => ?_) h
    obtain ⟨fileName, entry⟩ := e
    rcases entry.directory_or_leaf with ⟨inner, rfl⟩ | hLeaf
    · exact ih _ he inner rfl ((Entry.isTree_directory_iff.mp hTree).2 _ he).2 hFirst
    · obtain ⟨-, rfl⟩ := (ofEntry_leaf_eq_ok_iff hLeaf).mp hFirst
      split
      · exact nodup_names_ofFile
      · exact List.nodup_nil

end SchemaFile

end SchemaContract
