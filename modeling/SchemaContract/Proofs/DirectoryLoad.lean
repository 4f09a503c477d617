import SchemaContract.Proofs.Construction
import SchemaContract.Proofs.SchemaFiles
import SchemaContract.Proofs.WholeFiles

/-!
# Loading a directory

A directory loads as the object of its schemas builds: every schema file is read, in the order of
their names, and gives one entry. What stops the load before that is their number, or the first file
among them that cannot be read.
-/

namespace SchemaContract

theorem Json.putMember_of_not_mem {name : String} {v : Json} {members : List (String × Json)}
    (h : name ∉ members.map (·.1)) : putMember name v members = members ++ [(name, v)] := by
  induction members with
  | nil => rfl
  | cons m rest ih =>
    rw [List.map_cons, List.mem_cons, not_or] at h
    rw [putMember, if_neg (by simpa using Ne.symm h.1), ih h.2, List.cons_append]

namespace SchemaFile

/-! ## Reading -/

/-- The bytes of a file, no more than the limit, are a text, and the text is the value. -/
def Contains (limit : Nat) (f : SchemaFile) (v : Json) : Prop :=
  ∃ text : String, f.entry = .file text.toUTF8 ∧ text.toUTF8.size ≤ limit ∧
    Json.parse text = .ok v

/-- Why a file is not read as a schema, with the fault that tells it. -/
inductive Unread (limit : Nat) (f : SchemaFile) : BuildFault → Prop where
  | locked (h : f.entry = .lockedFile) : Unread limit f (.load (.unopened f.path .denied))
  | tooLarge {content : ByteArray} (h : f.entry = .file content) (hSize : limit < content.size) :
      Unread limit f (.load (.tooLarge content.size f.path))
  | notText {content : ByteArray} (h : f.entry = .file content) (hSize : content.size ≤ limit)
      (hText : ¬ content.IsValidUTF8) : Unread limit f (.load (.unread f.path .notUnicode))
  | notJson {text : String} {error : ReadError} (h : f.entry = .file text.toUTF8)
      (hSize : text.toUTF8.size ≤ limit) (hParse : Json.parse text = .error error) :
      Unread limit f (.notJson error)

/-- A member is what a schema file holds, under the name of the schema. -/
def Carries (limit : Nat) (f : SchemaFile) (m : String × Json) : Prop :=
  m.1 = f.name ∧ f.Contains limit m.2

/-- The first file that cannot be read as a schema, and why. -/
def FirstUnread (limit : Nat) (files : List SchemaFile) (fault : BuildFault) : Prop :=
  ∃ before f after, files = before ++ f :: after ∧
    (∀ g ∈ before, ∃ v, g.Contains limit v) ∧ f.Unread limit fault

variable {limit : Nat} {f : SchemaFile}

theorem readText_file {content : ByteArray} (h : f.entry = .file content) :
    f.readText limit = (Opened.still content).read limit f.path := by
  rw [readText, h]

theorem readText_of_fits {text : String} (h : f.entry = .file text.toUTF8)
    (hSize : text.toUTF8.size ≤ limit) (hLimit : limit ≤ Opened.maxCount) :
    f.readText limit = .ok text := by
  rw [readText_file h, Opened.read_still_of_le hSize hLimit,
    Opened.fromUTF8?_eq_some_iff.mpr rfl]

theorem Contains.readSchema_eq {v : Json} (h : f.Contains limit v)
    (hLimit : limit ≤ Opened.maxCount) : f.readSchema limit = .ok v := by
  obtain ⟨text, hEntry, hSize, hParse⟩ := h
  simp only [readSchema, readText_of_fits hEntry hSize hLimit, hParse]

theorem Unread.readSchema_eq {fault : BuildFault} (h : f.Unread limit fault)
    (hLimit : limit ≤ Opened.maxCount) : f.readSchema limit = .error fault := by
  cases h with
  | locked h => simp only [readSchema, readText, h]
  | tooLarge h hSize => simp only [readSchema, readText_file h, Opened.read_still_of_lt hSize]
  | notText h hSize hText =>
    simp only [readSchema, readText_file h, Opened.read_still_of_le hSize hLimit,
      Opened.fromUTF8?_eq_none_iff.mpr hText]
  | notJson h hSize hParse =>
    simp only [readSchema, readText_of_fits h hSize hLimit, hParse]

theorem contains_or_unread (limit : Nat) (h : f.entry.isRegular = true) :
    (∃ v, f.Contains limit v) ∨ ∃ fault, f.Unread limit fault := by
  cases hEntry : f.entry with
  | file content =>
    by_cases hSize : content.size ≤ limit
    · by_cases hText : content.IsValidUTF8
      · obtain ⟨text, rfl⟩ := Opened.exists_toUTF8_eq_iff.mpr hText
        cases hParse : Json.parse text with
        | ok v => exact .inl ⟨v, text, hEntry, hSize, hParse⟩
        | error error => exact .inr ⟨_, .notJson hEntry hSize hParse⟩
      · exact .inr ⟨_, .notText hEntry hSize hText⟩
    · exact .inr ⟨_, .tooLarge hEntry (Nat.not_le.mp hSize)⟩
  | lockedFile => exact .inr ⟨_, .locked hEntry⟩
  | directory _ | link _ | lockedDirectory =>
    rw [hEntry] at h
    cases h

theorem readSchema_eq_ok_iff (hLimit : limit ≤ Opened.maxCount) (h : f.entry.isRegular = true)
    {v : Json} : f.readSchema limit = .ok v ↔ f.Contains limit v := by
  refine ⟨fun hRead => ?_, fun hContains => hContains.readSchema_eq hLimit⟩
  obtain ⟨w, hContains⟩ | ⟨fault, hUnread⟩ := contains_or_unread limit h
  · cases hRead.symm.trans (hContains.readSchema_eq hLimit)
    exact hContains
  · cases hRead.symm.trans (hUnread.readSchema_eq hLimit)

theorem readSchema_eq_error_iff (hLimit : limit ≤ Opened.maxCount) (h : f.entry.isRegular = true)
    {fault : BuildFault} : f.readSchema limit = .error fault ↔ f.Unread limit fault := by
  refine ⟨fun hRead => ?_, fun hUnread => hUnread.readSchema_eq hLimit⟩
  obtain ⟨v, hContains⟩ | ⟨other, hUnread⟩ := contains_or_unread limit h
  · cases hRead.symm.trans (hContains.readSchema_eq hLimit)
  · cases hRead.symm.trans (hUnread.readSchema_eq hLimit)
    exact hUnread

/-! ## Reading one file after the other -/

variable {files : List SchemaFile} {members : List (String × Json)}

theorem readSchemas_eq_error_iff (hLimit : limit ≤ Opened.maxCount)
    (hRegular : ∀ f ∈ files, f.entry.isRegular = true) {fault : BuildFault} :
    readSchemas limit files members = .error fault ↔ FirstUnread limit files fault := by
  rw [FirstUnread]
  induction files generalizing members with
  | nil => simp [readSchemas]
  | cons f files ih =>
    obtain ⟨hf, hFiles⟩ := List.forall_mem_cons.mp hRegular
    rw [readSchemas, exists_first_cons_iff, ← readSchema_eq_error_iff hLimit hf]
    simp only [← readSchema_eq_ok_iff hLimit hf]
    cases f.readSchema limit with
    | error other => simp
    | ok v => simp [ih hFiles]

theorem readSchemas_eq_ok_iff (hLimit : limit ≤ Opened.maxCount)
    (hRegular : ∀ f ∈ files, f.entry.isRegular = true) {out : List (String × Json)}
    (hDistinct : (members.map (·.1) ++ files.map (·.name)).Nodup) :
    readSchemas limit files members = .ok out ↔
      ∃ own, List.Forall₂ (Carries limit) files own ∧ out = members ++ own := by
  induction files generalizing members with
  | nil => simp [readSchemas, eq_comm]
  | cons f files ih =>
    obtain ⟨hf, hFiles⟩ := List.forall_mem_cons.mp hRegular
    -- No earlier file has this name, so the member is added at the end and replaces none.
    have hFresh : f.name ∉ members.map (·.1) := fun hMem =>
      (List.nodup_append.mp hDistinct).2.2 _ hMem _ List.mem_cons_self rfl
    rw [readSchemas]
    cases hRead : f.readSchema limit with
    | error fault =>
      refine iff_of_false nofun ?_
      rintro ⟨own, hOwn, -⟩
      cases hOwn with
      | cons hm _ => cases hRead.symm.trans (hm.2.readSchema_eq hLimit)
    | ok v =>
      have hNext : ((members ++ [(f.name, v)]).map (·.1) ++ files.map (·.name)).Nodup := by
        simpa using hDistinct
      simp only [Json.putMember_of_not_mem hFresh, ih hFiles hNext]
      constructor
      · rintro ⟨own, hOwn, rfl⟩
        have hHeld := (readSchema_eq_ok_iff hLimit hf).mp hRead
        exact ⟨(f.name, v) :: own, .cons ⟨rfl, hHeld⟩ hOwn, by simp⟩
      · rintro ⟨own, hOwn, rfl⟩
        cases hOwn with
        | @cons _ m _ own hFirst hOwn =>
          have hSame := (hFirst.2.readSchema_eq hLimit).symm.trans hRead
          have hm : m = (f.name, v) := Prod.ext hFirst.1 (Except.ok.inj hSame)
          exact ⟨own, hOwn, by simp [hm]⟩

theorem names_ascend_mergeSort {found : List SchemaFile} (h : (found.map (·.name)).Nodup) :
    ((found.mergeSort comesBefore).map (·.name)).Pairwise (· < ·) := by
  -- Files are compared by their names alone, so sorting files sorts the names.
  have hMap : (found.mergeSort comesBefore).map (·.name) =
      (found.map (·.name)).mergeSort fun a b => decide (a ≤ b) :=
    List.map_mergeSort fun _ _ _ _ => rfl
  rw [hMap]
  exact ascend_mergeSort h

end SchemaFile

namespace Registry

/-- What the load of schema files in the order of their names comes to: too many of them are refused
before any is read, else the first that cannot be read is told, else the registry is built from what
they hold. -/
inductive Loads (config : Config) (files : List SchemaFile) :
    Except BuildFault Registry → Prop where
  | tooMany (h : config.maxFiles < files.length) :
      Loads config files (.error (.load (.tooMany config.maxFiles files.length)))
  | unread {fault : BuildFault} (hCount : files.length ≤ config.maxFiles)
      (h : SchemaFile.FirstUnread config.maxFileBytes files fault) :
      Loads config files (.error fault)
  | built {members : List (String × Json)} (hCount : files.length ≤ config.maxFiles)
      (h : List.Forall₂ (SchemaFile.Carries config.maxFileBytes) files members) :
      Loads config files (build config (.object members))

variable {config : Config} {files : Files} {path : String} {found : List SchemaFile}

theorem ofDirectory_eq_iff_loads {result : Except BuildFault Registry}
    (hLimit : config.maxFileBytes ≤ Opened.maxCount)
    (hBelow : SchemaFile.below path (files path) = .ok found)
    (hRegular : ∀ f ∈ found, f.entry.isRegular = true)
    (hDistinct : (found.map (·.name)).Nodup) :
    ofDirectory config files path = result ↔
      Loads config (found.mergeSort SchemaFile.comesBefore) result := by
  have hNames : (([] : List (String × Json)).map (·.1) ++
      (found.mergeSort SchemaFile.comesBefore).map (·.name)).Nodup :=
    (SchemaFile.names_ascend_mergeSort hDistinct).imp Std.ne_of_lt
  have hLength : (found.mergeSort SchemaFile.comesBefore).length = found.length :=
    List.length_mergeSort found
  have hSorted : ∀ f ∈ found.mergeSort SchemaFile.comesBefore, f.entry.isRegular = true :=
    fun f hf => hRegular f (List.mem_mergeSort.mp hf)
  have hError := @SchemaFile.readSchemas_eq_error_iff _ _ [] hLimit hSorted
  have hOk := @SchemaFile.readSchemas_eq_ok_iff _ _ [] hLimit hSorted
  rw [ofDirectory, hBelow]
  dsimp only
  rw [← hLength]
  constructor
  · rintro rfl
    split
    next hCount => exact .tooMany hCount
    next hCount =>
      rw [Nat.not_lt] at hCount
      split
      next fault hRead => exact .unread hCount (hError.mp hRead)
      next members hRead =>
        obtain ⟨own, hOwn, rfl⟩ := (hOk hNames).mp hRead
        exact .built hCount hOwn
  · intro h
    cases h with
    | tooMany h => rw [if_pos h]
    | unread hCount h => rw [if_neg (Nat.not_lt.mpr hCount), hError.mpr h]
    | @built members hCount h =>
      rw [if_neg (Nat.not_lt.mpr hCount), (hOk hNames).mpr ⟨members, h, rfl⟩]
      rfl

theorem Loads.holds {sorted : List SchemaFile} {r : Registry}
    (h : Loads config sorted (.ok r)) (hDistinct : (sorted.map (·.name)).Nodup) :
    ∃ members, List.Forall₂ (SchemaFile.Carries config.maxFileBytes) sorted members ∧
      r.Holds config members := by
  generalize hResult : (Except.ok r : Except BuildFault Registry) = result at h
  cases h with
  | tooMany => cases hResult
  | unread => cases hResult
  | @built members _ h =>
    refine ⟨members, h, holds_of_build hResult.symm ?_⟩
    rwa [map_eq_of_forall₂ (fun _ _ hm => hm.1) h]

/-- Where nothing stops the walk of a directory, the schema files are those that lie below it, no
two under one name. In the order of their names they load as the object of their schemas builds, and
a registry that is built so holds the schemas of all of them and the primitive types. A limit is a
count of bytes, and none is larger than `Opened.maxCount`. -/
theorem ofDirectory_of_tree {config : Config} (hLimit : config.maxFileBytes ≤ Opened.maxCount)
    {files : Files} {path : String} {entries : Entry.Directory}
    (hPath : files path = .ok (.directory entries))
    (hTree : Entry.isTree (.directory entries) = true) :
    ((∃ found, SchemaFile.below path (files path) = .ok found) ↔ SchemaFile.Unstopped entries) ∧
    (∀ way way' stem stem' entry entry',
      Entry.Leads entries way (stem ++ ".schema.json") entry →
      Entry.Leads entries way' (stem' ++ ".schema.json") entry' →
      "/".intercalate (way ++ [stem]) = "/".intercalate (way' ++ [stem']) →
        way = way' ∧ stem = stem' ∧ entry = entry') ∧
    ∀ found, SchemaFile.below path (files path) = .ok found →
      (∀ f, f ∈ found ↔ SchemaFile.LiesBelow path "" entries f) ∧
      (found.map (·.name)).Nodup ∧
      (∃ sorted, sorted.Perm found ∧ (sorted.map (·.name)).Pairwise (· < ·) ∧
        ∀ result, ofDirectory config files path = result ↔ Loads config sorted result) ∧
      ∀ r, ofDirectory config files path = .ok r → r.size = found.length + 7 ∧
        ∀ f ∈ found, ∃ v c, f.Contains config.maxFileBytes v ∧
          r.get? f.name = some c ∧ Compiled.compile config (Text.inQuotes f.name) v = .ok c := by
  refine ⟨?_, SchemaFile.file_inj hTree, fun found hBelow => ?_⟩
  · rw [hPath]
    exact SchemaFile.exists_ofEntries_iff entries path ""
  · have hWalk : SchemaFile.ofEntries path "" entries = .ok found := by rwa [hPath] at hBelow
    have hFound := SchemaFile.mem_ofEntries_iff entries hWalk
    have hRegular : ∀ f ∈ found, f.entry.isRegular = true := by
      intro f hf
      obtain ⟨-, hRegular, -⟩ := (hFound f).mp hf
      exact hRegular
    have hDistinct := SchemaFile.nodup_names entries hTree hWalk
    have hAscend := SchemaFile.names_ascend_mergeSort hDistinct
    have hPerm := List.mergeSort_perm found SchemaFile.comesBefore
    refine ⟨hFound, hDistinct, ⟨_, hPerm, hAscend, fun result => ?_⟩, fun r hr => ?_⟩
    · exact ofDirectory_eq_iff_loads hLimit hBelow hRegular hDistinct
    · have hLoads := (ofDirectory_eq_iff_loads hLimit hBelow hRegular hDistinct).mp hr
      obtain ⟨members, hMembers, hHolds⟩ := hLoads.holds (hAscend.imp Std.ne_of_lt)
      refine ⟨?_, fun f hf => ?_⟩
      · rw [hHolds.size, ← hMembers.length_eq, hPerm.length_eq]
      · obtain ⟨m, hm, hName, hRead⟩ := exists_of_forall₂ hMembers f (hPerm.mem_iff.mpr hf)
        obtain ⟨c, hGet, hCompile⟩ := hHolds.get?_eq m (List.mem_append_left _ hm)
        rw [hName] at hGet hCompile
        exact ⟨m.2, c, hRead, hGet, hCompile⟩

/-- A directory in which a directory has the ending of schema files itself, next to a link that has
not. -/
def neverAndTitle : Entry.Directory :=
  [("never.schema.json", .directory [("at all.schema.json", .file "false".toUTF8)]),
    ("todo", .directory [("draft", .link "title.schema.json"),
      ("title.schema.json", .file "true".toUTF8)])]

def neverAndTitleMembers : List (String × Json) :=
  [("never.schema.json/at all", .bool false), ("todo/title", .bool true)]

theorem ofDirectory_of_tree_neverAndTitle :
    Config.standard.maxFileBytes ≤ Opened.maxCount ∧
      Entry.isTree (.directory neverAndTitle) = true ∧
      ∃ files : Files, files "schemas" = .ok (.directory neverAndTitle) ∧ ∃ found r,
        SchemaFile.below "schemas" (files "schemas") = .ok found ∧
        found.map (·.name) = ["never.schema.json/at all", "todo/title"] ∧
        ofDirectory Config.standard files "schemas" = .ok r ∧ r.size = 9 := by
  have hLimit : Config.standard.maxFileBytes ≤ Opened.maxCount := by decide
  have hTree : Entry.isTree (.directory neverAndTitle) = true := by decide
  obtain ⟨files, hPath⟩ : ∃ files : Files, files "schemas" = .ok (.directory neverAndTitle) :=
    ⟨fun _ => .ok (.directory neverAndTitle), rfl⟩
  obtain ⟨found, hWalk, hNames, hRead⟩ : ∃ found,
      SchemaFile.below "schemas" (.ok (.directory neverAndTitle)) = .ok found ∧
      found.map (·.name) = ["never.schema.json/at all", "todo/title"] ∧
      SchemaFile.readSchemas Config.standard.maxFileBytes found [] = .ok neverAndTitleMembers :=
    ⟨_, rfl, rfl, rfl⟩
  have hLength : found.length = 2 := by simpa using congrArg List.length hNames
  have hSorted : found.mergeSort SchemaFile.comesBefore = found := by
    have hAscend : (found.map (·.name)).Pairwise fun a b => decide (a ≤ b) = true := by
      rw [hNames]
      decide
    exact List.mergeSort_of_pairwise (List.pairwise_map.mp hAscend)
  have hCompiles : ∀ e ∈ neverAndTitleMembers, Compiles Config.standard e := by
    rintro e (_ | ⟨_, _ | ⟨_, ⟨⟩⟩⟩)
    · exact exists_compile_elementary _ _ (List.mem_cons_of_mem _ List.mem_cons_self)
    · exact exists_compile_elementary _ _ List.mem_cons_self
  have hAdmissible : Admissible (.object neverAndTitleMembers) neverAndTitleMembers :=
    ⟨rfl, by decide, by decide⟩
  obtain ⟨r, hBuild⟩ := exists_build hAdmissible hCompiles
  have hLoad : ofDirectory Config.standard files "schemas" = .ok r := by
    rw [ofDirectory, hPath, hWalk]
    dsimp only
    rw [if_neg (by rw [hLength]; decide), hSorted, hRead]
    exact hBuild
  obtain ⟨-, -, hFound⟩ := ofDirectory_of_tree hLimit hPath hTree
  obtain ⟨-, -, -, hSize⟩ := hFound found (hPath ▸ hWalk)
  refine ⟨hLimit, hTree, files, hPath, found, r, hPath ▸ hWalk, hNames, hLoad, ?_⟩
  rw [(hSize r hLoad).1, hLength]

end Registry

end SchemaContract
