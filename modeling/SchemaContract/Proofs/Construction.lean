import SchemaContract.CommandLine
import SchemaContract.Proofs.Lists
import SchemaContract.Proofs.Resolution
import SchemaContract.Proofs.Values

/-!
# Building a registry

Building looks for faults of four kinds, one after the other, and tells the first kind it finds.
Where there is none it gives a registry that holds every supplied schema and every primitive type
under its own name, and nothing else; the primitive types never stand in the way.
-/

namespace SchemaContract

theorem TypeName.mem_all (t : TypeName) : t ∈ all := by
  cases t <;> decide

namespace Registry

/-! ## Entries -/

/-- An entry of a registry is the compilation of a supplied one, under its own name. -/
def CompilesTo (config : Config) (e : String × Json) (x : String × Compiled) : Prop :=
  x.1 = e.1 ∧ Compiled.compile config (Text.inQuotes e.1) e.2 = .ok x.2

def Compiles (config : Config) (e : String × Json) : Prop :=
  ∃ c, Compiled.compile config (Text.inQuotes e.1) e.2 = .ok c

variable {config : Config} {es : List (String × Json)} {fault : BuildFault}

theorem compileEntry_eq_ok_iff {e : String × Json} {x : String × Compiled} :
    compileEntry config e = .ok x ↔ CompilesTo config e x := by
  rw [compileEntry, CompilesTo]
  cases Compiled.compile config (Text.inQuotes e.1) e.2 with
  | ok c => simp [Prod.ext_iff, eq_comm]
  | error message => simp

theorem compileEntry_eq_error_iff {e : String × Json} :
    compileEntry config e = .error fault ↔
      ∃ message, Compiled.compile config (Text.inQuotes e.1) e.2 = .error message ∧
        fault = .definition e.1 message := by
  rw [compileEntry]
  cases Compiled.compile config (Text.inQuotes e.1) e.2 <;> simp [eq_comm]

theorem compileEntries_eq_ok_iff {xs : List (String × Compiled)} :
    compileEntries config es = .ok xs ↔ List.Forall₂ (CompilesTo config) es xs := by
  induction es generalizing xs with
  | nil => simp [compileEntries, eq_comm]
  | cons e es ih =>
    rw [compileEntries]
    constructor
    · intro h
      split at h
      next => cases h
      next x hx =>
        split at h
        next => cases h
        next ys hys =>
          cases h
          exact .cons (compileEntry_eq_ok_iff.mp hx) (ih.mp hys)
    · rintro (_ | ⟨hx, hxs⟩)
      rw [compileEntry_eq_ok_iff.mpr hx, ih.mpr hxs]

theorem exists_compileEntries (h : ∀ e ∈ es, Compiles config e) :
    ∃ xs, compileEntries config es = .ok xs := by
  induction es with
  | nil => exact ⟨[], rfl⟩
  | cons e es ih =>
    obtain ⟨c, hc⟩ := h e List.mem_cons_self
    obtain ⟨xs, hxs⟩ := ih fun d hd => h d (List.mem_cons_of_mem e hd)
    refine ⟨(e.1, c) :: xs, compileEntries_eq_ok_iff.mpr (.cons ⟨rfl, hc⟩ ?_)⟩
    exact compileEntries_eq_ok_iff.mp hxs

theorem compileEntries_cons_eq_error_iff {e : String × Json} :
    compileEntries config (e :: es) = .error fault ↔
      compileEntry config e = .error fault ∨
        Compiles config e ∧ compileEntries config es = .error fault := by
  rw [compileEntries]
  cases he : compileEntry config e with
  | error other =>
    have hNot : ¬ Compiles config e := fun ⟨c, hc⟩ => by
      cases he.symm.trans (compileEntry_eq_ok_iff (x := (e.1, c)).mpr ⟨rfl, hc⟩)
    simp [hNot]
  | ok x =>
    have hCompiles : Compiles config e := ⟨x.2, (compileEntry_eq_ok_iff.mp he).2⟩
    cases compileEntries config es <;> simp [hCompiles]

/-- What follows the entries does not show in their first fault, if all of it compiles. -/
theorem compileEntries_append_eq_error_iff {more : List (String × Json)}
    (hMore : ∀ e ∈ more, Compiles config e) :
    compileEntries config (es ++ more) = .error fault ↔
      ∃ before e after, es = before ++ e :: after ∧ (∀ d ∈ before, Compiles config d) ∧
        compileEntry config e = .error fault := by
  induction es with
  | nil =>
    obtain ⟨xs, hxs⟩ := exists_compileEntries hMore
    simp [hxs]
  | cons e es ih =>
    rw [List.cons_append, compileEntries_cons_eq_error_iff, ih, exists_first_cons_iff]

/-! ## The primitive types -/

/-- The boolean schemas and those of the primitive types. -/
def elementary : List Json := .bool true :: .bool false :: TypeName.all.map fun t => (aliasOf t).2

theorem isOk_compile_elementary : ∀ formats strict : Bool, ∀ s ∈ elementary,
    (Validation.compile formats (if strict then s.closed else s)).isOk = true := by
  decide +kernel

theorem exists_compile_elementary (config : Config) (label : String) {s : Json}
    (hs : s ∈ elementary) : ∃ c, Compiled.compile config label s = .ok c := by
  have hOk := isOk_compile_elementary config.formats config.strict s hs
  cases hProgram : Validation.compile config.formats (if config.strict then s.closed else s) with
  | ok program => exact ⟨⟨_, program⟩, Compiled.compile_eq_ok_iff.mpr ⟨rfl, hProgram⟩⟩
  | error failure => simp [hProgram, Except.isOk, Except.toBool] at hOk

theorem compile_aliasOf (config : Config) (label : String) (t : TypeName) :
    ∃ c, Compiled.compile config label (aliasOf t).2 = .ok c := by
  refine exists_compile_elementary config label ?_
  exact List.mem_cons_of_mem _ (List.mem_cons_of_mem _ (List.mem_map_of_mem t.mem_all))

theorem compiles_primitives (config : Config) : ∀ e ∈ primitives, Compiles config e := by
  intro e he
  obtain ⟨t, -, rfl⟩ := List.mem_map.mp he
  exact compile_aliasOf config _ t

theorem nodup_primitives : (primitives.map (·.1)).Nodup := by
  decide

theorem isReserved_of_mem_primitives {name : String} (h : name ∈ primitives.map (·.1)) :
    isReserved name = true := by
  have hEach : ∀ name ∈ primitives.map (·.1), isReserved name = true := by decide
  exact hEach name h

/-! ## Faults -/

/-- The names that may not be supplied, in their order. -/
def reservedNames (entries : List (String × Json)) : List String :=
  (entries.map (·.1)).filter fun name => decide ("jss/".toList <+: name.toList)

/-- The names of what is neither a boolean nor an object, in their order. -/
def wrongKinds (entries : List (String × Json)) : List String :=
  (entries.filter fun e => decide (e.2.kind ≠ .bool ∧ e.2.kind ≠ .object)).map (·.1)

/-- What a value has to be for a registry to be built from it, up to the schemas that compile. -/
structure Admissible (supplied : Json) (entries : List (String × Json)) : Prop where
  object : supplied = .object entries
  unreserved : reservedNames entries = []
  schemas : wrongKinds entries = []

/-- The first fault that there is in a value: of each kind all offenders are told, and of the
schemas that do not compile the first one. -/
inductive FirstFault (config : Config) (supplied : Json) : BuildFault → Prop where
  | notAMap (h : ∀ entries, supplied ≠ .object entries) : FirstFault config supplied .notAMap
  | reserved {entries : List (String × Json)} (hObject : supplied = .object entries)
      (h : reservedNames entries ≠ []) :
      FirstFault config supplied (.reservedNames (reservedNames entries))
  | wrongKinds {entries : List (String × Json)} (hObject : supplied = .object entries)
      (hNames : reservedNames entries = []) (h : wrongKinds entries ≠ []) :
      FirstFault config supplied (.wrongKinds (wrongKinds entries))
  | definition {before after : List (String × Json)} {name message : String} {schema : Json}
      (hAdmissible : Admissible supplied (before ++ (name, schema) :: after))
      (hBefore : ∀ e ∈ before, Compiles config e)
      (h : Compiled.compile config (Text.inQuotes name) schema = .error message) :
      FirstFault config supplied (.definition name message)

theorem isReserved_eq (name : String) :
    isReserved name = decide ("jss/".toList <+: name.toList) := by
  rw [Bool.eq_iff_iff, decide_eq_true_eq]
  exact List.isPrefixOf_iff_prefix

theorem reservedNames_eq (entries : List (String × Json)) :
    (entries.map (·.1)).filter isReserved = reservedNames entries := by
  rw [reservedNames]
  exact congrArg (List.filter · _) (funext isReserved_eq)

theorem wrongKinds_eq (entries : List (String × Json)) :
    (entries.filter fun e => !isSchemaKind e.2).map (·.1) = wrongKinds entries := by
  rw [wrongKinds]
  refine congrArg (fun p => (entries.filter p).map (·.1)) (funext fun e => ?_)
  obtain ⟨name, v⟩ := e
  cases v <;> rfl

theorem build_object (entries : List (String × Json)) :
    build config (.object entries) =
      if reservedNames entries ≠ [] then .error (.reservedNames (reservedNames entries))
      else if wrongKinds entries ≠ [] then .error (.wrongKinds (wrongKinds entries))
      else (compileEntries config (entries ++ primitives)).map (Registry.mk config) := by
  rw [build, reservedNames_eq, wrongKinds_eq]
  by_cases hr : reservedNames entries = []
  · by_cases hw : wrongKinds entries = []
    · simp only [hr, hw]
      cases compileEntries config (entries ++ primitives) <;> rfl
    · simp [hr, hw]
  · simp [hr]

theorem build_of_admissible {supplied : Json} (h : Admissible supplied es) :
    build config supplied =
      (compileEntries config (es ++ primitives)).map (Registry.mk config) := by
  obtain ⟨rfl, hr, hw⟩ := h
  rw [build_object, if_neg (not_not.mpr hr), if_neg (not_not.mpr hw)]

theorem FirstFault.build_eq {supplied : Json} (h : FirstFault config supplied fault) :
    build config supplied = .error fault := by
  cases h with
  | notAMap h =>
    cases supplied with
    | object entries => exact absurd rfl (h entries)
    | _ => rfl
  | reserved hObject h => rw [hObject, build_object, if_pos h]
  | wrongKinds hObject hNames h => rw [hObject, build_object, if_neg (not_not.mpr hNames), if_pos h]
  | @definition before after name message schema hAdmissible hBefore h =>
    have hEntry : compileEntry config (name, schema) = .error (.definition name message) :=
      compileEntry_eq_error_iff.mpr ⟨message, h, rfl⟩
    rw [build_of_admissible hAdmissible, (compileEntries_append_eq_error_iff
      (compiles_primitives config)).mpr ⟨before, _, after, rfl, hBefore, hEntry⟩]
    rfl

theorem firstFault_of_build {supplied : Json} (h : build config supplied = .error fault) :
    FirstFault config supplied fault := by
  by_cases hObject : ∃ entries, supplied = .object entries
  · obtain ⟨entries, rfl⟩ := hObject
    rw [build_object] at h
    split_ifs at h with hr hw
    · cases h
      exact .reserved rfl hr
    · cases h
      exact .wrongKinds rfl (not_not.mp hr) hw
    · cases hCompiled : compileEntries config (entries ++ primitives) with
      | ok xs =>
        rw [hCompiled] at h
        cases h
      | error other =>
        rw [hCompiled] at h
        cases h
        obtain ⟨before, e, after, rfl, hBefore, hEntry⟩ :=
          (compileEntries_append_eq_error_iff (compiles_primitives config)).mp hCompiled
        obtain ⟨message, hMessage, rfl⟩ := compileEntry_eq_error_iff.mp hEntry
        exact .definition ⟨rfl, not_not.mp hr, not_not.mp hw⟩ hBefore hMessage
  · have hFault : build config supplied = .error .notAMap :=
      (FirstFault.notAMap fun entries hEq => hObject ⟨entries, hEq⟩).build_eq
    cases hFault.symm.trans h
    exact .notAMap fun entries hEq => hObject ⟨entries, hEq⟩

/-! ## Contents -/

/-- What a registry holds that was built from some entries. -/
structure Holds (r : Registry) (config : Config) (entries : List (String × Json)) : Prop where
  configured : r.config = config
  size : r.size = entries.length + 7
  /-- Nothing but the supplied names and those of the primitive types is registered. -/
  has_iff : ∀ name, r.has name = true ↔
    name ∈ entries.map (·.1) ∨ name ∈ primitives.map (·.1)
  isSome_get?_iff : ∀ name, (r.get? name).isSome = true ↔ r.has name = true
  mem_names_iff : ∀ name, name ∈ r.names ↔ r.has name = true
  resolves_iff : ∀ name, r.Resolves (.reference name) ↔ r.has name = true
  /-- Every name carries its own schema. -/
  get?_eq : ∀ e ∈ entries ++ primitives, ∃ c, r.get? e.1 = some c ∧
    Compiled.compile config (Text.inQuotes e.1) e.2 = .ok c
  reserved_iff : ∀ name, r.has name = true →
    ("jss/".toList <+: name.toList ↔ name ∈ primitives.map (·.1))
  length_names : r.names.length = r.size
  names_ascend : r.names.Pairwise (· < ·)

theorem has_iff_mem (r : Registry) (name : String) :
    r.has name = true ↔ name ∈ r.schemas.map (·.1) := by
  simp [has]

theorem mem_names_iff_has (r : Registry) (name : String) :
    name ∈ r.names ↔ r.has name = true := by
  rw [has_iff_mem, names, List.mem_mergeSort]

theorem build_eq_ok_iff {supplied : Json} {r : Registry} :
    build config supplied = .ok r ↔ ∃ entries xs, Admissible supplied entries ∧
      List.Forall₂ (CompilesTo config) (entries ++ primitives) xs ∧ r = ⟨config, xs⟩ := by
  constructor
  · intro h
    by_cases hObject : ∃ entries, supplied = .object entries
    · obtain ⟨entries, rfl⟩ := hObject
      rw [build_object] at h
      split_ifs at h with hr hw
      cases hCompiled : compileEntries config (entries ++ primitives) with
      | ok xs =>
        rw [hCompiled] at h
        cases h
        exact ⟨entries, xs, ⟨rfl, not_not.mp hr, not_not.mp hw⟩,
          compileEntries_eq_ok_iff.mp hCompiled, rfl⟩
      | error fault =>
        rw [hCompiled] at h
        cases h
    · have hFault : FirstFault config supplied .notAMap :=
        .notAMap fun entries hEq => hObject ⟨entries, hEq⟩
      cases hFault.build_eq.symm.trans h
  · rintro ⟨entries, xs, hAdmissible, hxs, rfl⟩
    rw [build_of_admissible hAdmissible, compileEntries_eq_ok_iff.mpr hxs]
    rfl

theorem exists_build {supplied : Json} (h : Admissible supplied es)
    (hCompiles : ∀ e ∈ es, Compiles config e) : ∃ r, build config supplied = .ok r := by
  obtain ⟨xs, hxs⟩ := exists_compileEntries
    (List.forall_mem_append.mpr ⟨hCompiles, compiles_primitives config⟩)
  rw [build_of_admissible h, hxs]
  exact ⟨_, rfl⟩

theorem not_firstFault {supplied : Json} (h : Admissible supplied es)
    (hCompiles : ∀ e ∈ es, Compiles config e) : ¬ FirstFault config supplied fault := by
  intro hFault
  obtain ⟨r, hBuild⟩ := exists_build h hCompiles
  cases hFault.build_eq.symm.trans hBuild

variable {entries : List (String × Json)} {xs : List (String × Compiled)}

theorem names_of_compiled (h : List.Forall₂ (CompilesTo config) (entries ++ primitives) xs) :
    xs.map (·.1) = entries.map (·.1) ++ primitives.map (·.1) := by
  rw [← List.map_append]
  exact map_eq_of_forall₂ (fun _ _ hx => hx.1) h

theorem has_iff_of_compiled (h : List.Forall₂ (CompilesTo config) (entries ++ primitives) xs)
    (name : String) : has ⟨config, xs⟩ name = true ↔
      name ∈ entries.map (·.1) ∨ name ∈ primitives.map (·.1) := by
  rw [has_iff_mem, names_of_compiled h, List.mem_append]

theorem reserved_iff_of_compiled (hReserved : reservedNames entries = [])
    (h : List.Forall₂ (CompilesTo config) (entries ++ primitives) xs) {name : String}
    (hName : has ⟨config, xs⟩ name = true) :
    isReserved name = true ↔ name ∈ primitives.map (·.1) := by
  refine ⟨fun hPrefix => ?_, isReserved_of_mem_primitives⟩
  rcases (has_iff_of_compiled h name).mp hName with hOwn | hOwn
  · rw [← reservedNames_eq] at hReserved
    exact absurd hPrefix (List.filter_eq_nil_iff.mp hReserved name hOwn)
  · exact hOwn

theorem nodup_of_compiled (hDistinct : (entries.map (·.1)).Nodup)
    (hReserved : reservedNames entries = [])
    (h : List.Forall₂ (CompilesTo config) (entries ++ primitives) xs) : (xs.map (·.1)).Nodup := by
  rw [names_of_compiled h, List.nodup_append]
  refine ⟨hDistinct, nodup_primitives, fun a ha b hb hEq => ?_⟩
  rw [← reservedNames_eq] at hReserved
  exact List.filter_eq_nil_iff.mp hReserved a ha (hEq ▸ isReserved_of_mem_primitives hb)

theorem holds_of_compiled (hDistinct : (entries.map (·.1)).Nodup)
    (hReserved : reservedNames entries = [])
    (h : List.Forall₂ (CompilesTo config) (entries ++ primitives) xs) :
    Holds ⟨config, xs⟩ config entries := by
  have hNodup := nodup_of_compiled hDistinct hReserved h
  constructor
  case configured => rfl
  case size =>
    rw [size, ← h.length_eq, List.length_append]
    rfl
  case has_iff => exact has_iff_of_compiled h
  case isSome_get?_iff =>
    intro name
    rw [has_eq_isSome]
  case mem_names_iff => exact mem_names_iff_has _
  case resolves_iff => exact resolves_reference_iff _
  case get?_eq =>
    intro e he
    obtain ⟨x, hx, hName, hCompile⟩ := exists_of_forall₂ h e he
    refine ⟨x.2, ?_, hCompile⟩
    rw [get?, ← hName, find?_of_nodup hNodup hx, Option.map_some]
  case reserved_iff =>
    intro name hName
    rw [← reserved_iff_of_compiled hReserved h hName, isReserved_eq, decide_eq_true_eq]
  case length_names => rw [names, List.length_mergeSort, List.length_map, size]
  case names_ascend => exact ascend_mergeSort hNodup

theorem holds_of_build {r : Registry} (h : build config (.object entries) = .ok r)
    (hDistinct : (entries.map (·.1)).Nodup) : r.Holds config entries := by
  obtain ⟨_, xs, hAdmissible, hxs, rfl⟩ := build_eq_ok_iff.mp h
  cases hAdmissible.object
  exact holds_of_compiled hDistinct hAdmissible.unreserved hxs

theorem schema_of_build {r : Registry} (h : build config (.object entries) = .ok r)
    {e : String × Json} (he : e ∈ entries) :
    (∃ b, e.2 = .bool b) ∨ ∃ members, e.2 = .object members := by
  obtain ⟨_, xs, hAdmissible, -, -⟩ := build_eq_ok_iff.mp h
  cases hAdmissible.object
  have hKind := List.filter_eq_nil_iff.mp (List.map_eq_nil_iff.mp hAdmissible.schemas) e he
  revert hKind
  cases e.2 <;> simp [Json.kind]

end Registry

/-! ## Listings -/

namespace CommandLine

theorem RegistryOptions.exists_build {files : Files} {options : RegistryOptions} {r : Registry}
    (h : options.load files = .ok r) :
    ∃ supplied, Registry.build options.config supplied = .ok r := by
  have hOk : ∀ {faultOf : BuildFault → Fault} {built : Except BuildFault Registry},
      built.mapError faultOf = .ok r → built = .ok r := by
    intro faultOf built h
    cases built with
    | ok s => exact congrArg Except.ok (Except.ok.inj h)
    | error fault => cases h
  unfold load at h
  split at h
  next path =>
    have hBuilt := hOk h
    unfold Registry.ofDirectory at hBuilt
    split at hBuilt
    next => cases hBuilt
    next found =>
      split at hBuilt
      next => cases hBuilt
      next =>
        split at hBuilt
        next => cases hBuilt
        next => exact ⟨_, hBuilt⟩
  next => exact ⟨.object [], hOk h⟩

theorem builtin_iff_of_listSchemas {files : Files} {options : RegistryOptions}
    {listing : SchemaListing} (h : listSchemas files options = .ok listing) {e : SchemaEntry}
    (he : e ∈ listing.entries) :
    e.builtin = true ↔ e.name ∈ Registry.primitives.map (·.1) := by
  unfold listSchemas at h
  cases hLoad : options.load files with
  | error fault =>
    rw [hLoad] at h
    cases h
  | ok r =>
    rw [hLoad] at h
    cases h
    obtain ⟨name, hName, rfl⟩ := List.mem_map.mp he
    obtain ⟨supplied, hBuild⟩ := RegistryOptions.exists_build hLoad
    obtain ⟨entries, xs, hAdmissible, hxs, rfl⟩ := Registry.build_eq_ok_iff.mp hBuild
    exact Registry.reserved_iff_of_compiled hAdmissible.unreserved hxs
      ((Registry.mem_names_iff_has _ name).mp hName)

end CommandLine

/-- Building a registry from any value tells the first fault there is, and gives a registry that
holds what was supplied and the primitive types where there is none. A value is one whose objects
are maps: no name occurs twice in one. -/
theorem Registry.firstFault_or_holds (config : Config) (supplied : Json)
    (hDistinct : supplied.hasDistinctNames = true) :
    (∀ fault, build config supplied = .error fault ↔ FirstFault config supplied fault) ∧
    ((∀ fault, ¬ FirstFault config supplied fault) →
      ∃ entries r, supplied = .object entries ∧ build config supplied = .ok r ∧
        r.Holds config entries) ∧
    ∀ files options listing, CommandLine.listSchemas files options = .ok listing →
      ∀ e ∈ listing.entries, e.builtin = true ↔ e.name ∈ primitives.map (·.1) := by
  refine ⟨fun fault => ⟨firstFault_of_build, FirstFault.build_eq⟩, fun hNone => ?_, ?_⟩
  · cases hBuild : build config supplied with
    | error fault => exact absurd (firstFault_of_build hBuild) (hNone fault)
    | ok r =>
      obtain ⟨entries, xs, hAdmissible, hxs, rfl⟩ := build_eq_ok_iff.mp hBuild
      refine ⟨entries, _, hAdmissible.object, rfl, ?_⟩
      rw [hAdmissible.object, Json.hasDistinctNames_object_iff] at hDistinct
      exact holds_of_compiled hDistinct.1 hAdmissible.unreserved hxs
  · intro files options listing h e he
    exact CommandLine.builtin_iff_of_listSchemas h he

def Registry.titleAndCount : List (String × Json) :=
  [("todo/title", .object [("type", .string "string")]),
    ("todo/count", .object [("type", .string "integer")])]

theorem Registry.compiles_titleAndCount (config : Config) :
    ∀ e ∈ titleAndCount, Compiles config e := by
  rintro e (_ | ⟨_, _ | ⟨_, ⟨⟩⟩⟩)
  · exact compile_aliasOf config _ .string
  · exact compile_aliasOf config _ .integer

theorem Registry.holds_titleAndCount :
    (Json.object titleAndCount).hasDistinctNames = true ∧
      ∃ r, build { Config.standard with strict := true } (.object titleAndCount) = .ok r ∧
        r.Holds { Config.standard with strict := true } titleAndCount := by
  have hDistinct : (Json.object titleAndCount).hasDistinctNames = true := by decide
  have hAdmissible : Admissible (.object titleAndCount) titleAndCount :=
    ⟨rfl, by decide, by decide⟩
  have hCompiles := compiles_titleAndCount { Config.standard with strict := true }
  obtain ⟨-, hHolds, -⟩ := firstFault_or_holds { Config.standard with strict := true }
    (.object titleAndCount) hDistinct
  obtain ⟨entries, r, hEq, hBuild, hr⟩ := hHolds fun _ => not_firstFault hAdmissible hCompiles
  cases hEq
  exact ⟨hDistinct, r, hBuild, hr⟩

end SchemaContract
