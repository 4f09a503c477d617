import SchemaContract.Proofs.EntryOrder

/-!
# Symbolic links below a directory

The walk of a directory looks at the names of the links in it and nowhere else: one that is named as
a schema file stops the load before a file is opened, and all others are as good as absent, whatever
they lead to.
-/

namespace SchemaContract

namespace Entry

/-- Real directories lead to a link that is named as a schema file. -/
def LeadsToSchemaLink (entries : Directory) : Prop :=
  ∃ way stem target, Leads entries way (stem ++ ".schema.json") (.link target)

def isLink : Entry → Bool
  | .link _ => true
  | _ => false

mutual

/-- An entry without the symbolic links below it. -/
def withoutLinks : Entry → Entry
  | .directory entries => .directory (allWithoutLinks entries)
  | .file content => .file content
  | .link target => .link target
  | .lockedFile => .lockedFile
  | .lockedDirectory => .lockedDirectory

def allWithoutLinks : List (String × Entry) → List (String × Entry)
  | [] => []
  | (name, entry) :: entries =>
    if entry.isLink then allWithoutLinks entries
    else (name, withoutLinks entry) :: allWithoutLinks entries

end

mutual

/-- An entry in which no file may be opened. -/
def withFilesLocked : Entry → Entry
  | .directory entries => .directory (allWithFilesLocked entries)
  | .file _ => .lockedFile
  | .link target => .link target
  | .lockedFile => .lockedFile
  | .lockedDirectory => .lockedDirectory

def allWithFilesLocked : List (String × Entry) → List (String × Entry)
  | [] => []
  | (name, entry) :: entries => (name, withFilesLocked entry) :: allWithFilesLocked entries

end

variable {name : String} {inner entries : Directory}

theorem leadsToSchemaLink_cons_iff {e : String × Entry} :
    LeadsToSchemaLink (e :: entries) ↔ LeadsToSchemaLink [e] ∨ LeadsToSchemaLink entries := by
  simp only [LeadsToSchemaLink, ← exists_or]
  refine exists_congr fun way => exists_congr fun stem => exists_congr fun target => ?_
  exact leads_cons_iff

theorem leadsToSchemaLink_inside (h : LeadsToSchemaLink inner) :
    LeadsToSchemaLink [(name, .directory inner)] := by
  obtain ⟨way, stem, target, hLeads⟩ := h
  exact ⟨name :: way, stem, target, .inside List.mem_cons_self hLeads⟩

theorem leadsToSchemaLink_link (stem target : String) :
    LeadsToSchemaLink [(stem ++ ".schema.json", .link target)] :=
  ⟨[], stem, target, .here List.mem_cons_self⟩

end Entry

namespace SchemaFile

open Entry (LeadsToSchemaLink allWithoutLinks withoutLinks allWithFilesLocked withFilesLocked)

variable {directory start fileName : String} {entries : Entry.Directory}

/-! ## Links that stop the walk -/

theorem not_unstopped_of_leadsToSchemaLink (h : LeadsToSchemaLink entries) :
    ¬ Unstopped entries := by
  obtain ⟨way, stem, target, hLeads⟩ := h
  exact fun hUnstopped => hUnstopped way _ _ hLeads (.link rfl)

/-- A schema file that may not be opened any more. -/
def locked (f : SchemaFile) : SchemaFile := { f with entry := .lockedFile }

theorem map_locked_ofFile (entry : Entry) :
    (ofFile directory start fileName entry).map locked =
      ofFile directory start fileName .lockedFile := by
  rw [ofFile, ofFile]
  cases stem? fileName with
  | none => rfl
  | some stem => by_cases hEmpty : stem = "" <;> simp [hEmpty, locked]

mutual

theorem ofEntry_withFilesLocked (directory start fileName : String) : ∀ entry : Entry,
    ofEntry directory start fileName entry.withFilesLocked =
      (ofEntry directory start fileName entry).map (List.map locked)
  | .directory entries => ofEntries_allWithFilesLocked _ _ entries
  | .file content => congrArg Except.ok (map_locked_ofFile (.file content)).symm
  | .link target => by
    rw [withFilesLocked, ofEntry]
    cases (stem? fileName).isSome <;> rfl
  | .lockedFile => congrArg Except.ok (map_locked_ofFile .lockedFile).symm
  | .lockedDirectory => rfl

theorem ofEntries_allWithFilesLocked (directory start : String) :
    ∀ entries : List (String × Entry), ofEntries directory start (allWithFilesLocked entries) =
      (ofEntries directory start entries).map (List.map locked)
  | [] => rfl
  | (fileName, entry) :: entries => by
    rw [allWithFilesLocked, ofEntries, ofEntries, ofEntry_withFilesLocked,
      ofEntries_allWithFilesLocked]
    cases ofEntry directory start fileName entry with
    | error fault => rfl
    | ok found =>
      cases ofEntries directory start entries with
      | error fault => rfl
      | ok others => exact congrArg Except.ok List.map_append.symm

end

/-! ## Links that do not -/

theorem ofEntry_of_isLink {entry : Entry} (hLink : entry.isLink = true)
    (h : ¬ LeadsToSchemaLink [(fileName, entry)]) :
    ofEntry directory start fileName entry = .ok [] := by
  cases entry with
  | link target =>
    rw [ofEntry]
    cases hStem : stem? fileName with
    | none => rfl
    | some stem =>
      obtain rfl := stem?_eq_some_iff.mp hStem
      exact absurd (Entry.leadsToSchemaLink_link stem target) h
  | _ => cases hLink

mutual

theorem ofEntry_withoutLinks (directory start fileName : String) : ∀ entry : Entry,
    ¬ LeadsToSchemaLink [(fileName, entry)] →
      ofEntry directory start fileName entry.withoutLinks = ofEntry directory start fileName entry
  | .directory inner, h =>
    ofEntries_allWithoutLinks _ _ inner (mt Entry.leadsToSchemaLink_inside h)
  | .file _, _ | .link _, _ | .lockedFile, _ | .lockedDirectory, _ => rfl

theorem ofEntries_allWithoutLinks (directory start : String) :
    ∀ entries : List (String × Entry), ¬ LeadsToSchemaLink entries →
      ofEntries directory start (allWithoutLinks entries) = ofEntries directory start entries
  | [], _ => rfl
  | (fileName, entry) :: entries, h => by
    rw [Entry.leadsToSchemaLink_cons_iff, not_or] at h
    have hRest := ofEntries_allWithoutLinks directory start entries h.2
    rw [allWithoutLinks]
    split
    next hLink =>
      rw [hRest, ofEntries, ofEntry_of_isLink hLink h.1]
      cases ofEntries directory start entries <;> rfl
    next => rw [ofEntries, ofEntries, ofEntry_withoutLinks _ _ _ entry h.1, hRest]

end

end SchemaFile

namespace Registry

open Entry (LeadsToSchemaLink allWithoutLinks allWithFilesLocked)

variable {files : Files} {path : String} {entries : Entry.Directory}

/-- A link that is named as a schema file, wherever real directories lead to it, fails the load, and
no file has been opened by then: the fault is the same where none may be. Without such a link the
load comes to what it comes to on the tree without any links. -/
theorem ofDirectory_of_links (config : Config) (hPath : files path = .ok (.directory entries)) :
    (LeadsToSchemaLink entries → ∃ fault,
      SchemaFile.below path (files path) = .error fault ∧
      ofDirectory config files path = .error (.load fault) ∧
      ∀ files' : Files, files' path = .ok (.directory (allWithFilesLocked entries)) →
        ofDirectory config files' path = .error (.load fault)) ∧
    (¬ LeadsToSchemaLink entries → ∀ files' : Files,
      files' path = .ok (.directory (allWithoutLinks entries)) →
        ofDirectory config files path = ofDirectory config files' path) := by
  constructor
  · intro hLink
    have hStopped := SchemaFile.not_unstopped_of_leadsToSchemaLink hLink
    obtain ⟨fault, hWalk, hFault⟩ := ofDirectory_of_stopped config hPath hStopped
    refine ⟨fault, by rwa [hPath], hFault, fun files' hPath' => ?_⟩
    rw [ofDirectory, hPath', SchemaFile.below, SchemaFile.ofEntries_allWithFilesLocked, hWalk]
    rfl
  · intro hLink files' hPath'
    rw [ofDirectory, ofDirectory, hPath, hPath', SchemaFile.below, SchemaFile.below,
      SchemaFile.ofEntries_allWithoutLinks path "" entries hLink]

/-- A file that holds no JSON, and further down a link of the bare ending that leads back up. -/
def linkOfEnding : Entry.Directory :=
  [("open.schema.json", .file "[".toUTF8),
    ("todo", .directory [("steps", .directory [(".schema.json", .link "..")])])]

/-- Links that lead around in circles, next to a schema. -/
def linksAround : Entry.Directory :=
  [("here", .link "."),
    ("todo", .directory [("up", .link ".."), ("title.schema.json", .file "true".toUTF8)])]

theorem ofDirectory_of_links_around :
    (∃ files : Files, files "schemas" = .ok (.directory linkOfEnding) ∧
      LeadsToSchemaLink linkOfEnding ∧
      ofDirectory Config.standard files "schemas" = .error (.load (.link ".schema.json"))) ∧
    ∃ files others : Files, files "schemas" = .ok (.directory linksAround) ∧
      ¬ LeadsToSchemaLink linksAround ∧
      others "schemas" =
        .ok (.directory [("todo", .directory [("title.schema.json", .file "true".toUTF8)])]) ∧
      ofDirectory Config.standard files "schemas" =
        ofDirectory Config.standard others "schemas" := by
  constructor
  · obtain ⟨files, hPath⟩ := Files.exists_eq_ok "schemas" (.directory linkOfEnding)
    have hLink : LeadsToSchemaLink linkOfEnding :=
      ⟨["todo", "steps"], "", "..", .inside (List.mem_cons_of_mem _ List.mem_cons_self)
        (.inside List.mem_cons_self (.here List.mem_cons_self))⟩
    obtain ⟨fault, hWalk, hFault, -⟩ := (ofDirectory_of_links Config.standard hPath).1 hLink
    rw [hPath] at hWalk
    cases hWalk
    exact ⟨files, hPath, hLink, hFault⟩
  · obtain ⟨files, hPath⟩ := Files.exists_eq_ok "schemas" (.directory linksAround)
    obtain ⟨others, hPath'⟩ :=
      Files.exists_eq_ok "schemas" (.directory (allWithoutLinks linksAround))
    have hLink : ¬ LeadsToSchemaLink linksAround := fun h =>
      SchemaFile.not_unstopped_of_leadsToSchemaLink h
        ((SchemaFile.exists_ofEntries_iff linksAround "schemas" "").mp ⟨_, rfl⟩)
    exact ⟨files, others, hPath, hLink, hPath',
      (ofDirectory_of_links Config.standard hPath).2 hLink others hPath'⟩

end Registry

end SchemaContract
