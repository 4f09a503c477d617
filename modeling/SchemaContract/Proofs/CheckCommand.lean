import SchemaContract.Proofs.PrimitiveTypes
import SchemaContract.Proofs.ProblemLines
import SchemaContract.Proofs.Reports
import SchemaContract.Proofs.SchemaArguments
import SchemaContract.Proofs.WholeFiles

/-!
# The check of one value

The command `check` goes through five stages: it reads the schema argument and the value, loads the
registry, gives the schema its meaning, and checks. The first stage that fails decides the exit code
and the one error that is told; where none does, one report is printed, and its verdict is that of
the registry.
-/

namespace SchemaContract.CommandLine

open Text

/-! ## Stages -/

/-- The schema that an argument gives: what it is in JSON, or else the one that it names. -/
inductive GivesSchema (argument : String) : Schema → Prop where
  | json {s : Schema} (h : Json.parse argument = .ok s.toJson) : GivesSchema argument s
  | name {error : ReadError} (h : Json.parse argument = .error error) :
      GivesSchema argument (.reference (trim argument))

/-- A value that is no schema, with the word for its kind. -/
inductive IsNoSchema : Json → String → Prop where
  | null : IsNoSchema .null "null"
  | number (n : Number) : IsNoSchema (.number n) "number"
  | array (vs : List Json) : IsNoSchema (.array vs) "array"

/-- Why there is no text where a path leads. -/
inductive LacksText : Except SystemFault Entry → SystemFault → Prop where
  | unopened (fault : SystemFault) : LacksText (.error fault) fault
  | lockedFile : LacksText (.ok .lockedFile) .denied
  | lockedDirectory : LacksText (.ok .lockedDirectory) .denied
  | directory (entries : Entry.Directory) : LacksText (.ok (.directory entries)) .isDirectory
  | link (target : String) : LacksText (.ok (.link target)) .notFound
  | notText {content : ByteArray} (h : ¬ content.IsValidUTF8) :
      LacksText (.ok (.file content)) .notUnicode

inductive GivesValue (files : Files) : ValueSource → Json → Prop where
  | inline {text : String} {v : Json} (h : Json.parse text = .ok v) :
      GivesValue files (.inline text) v
  | file {path text : String} {v : Json} (hFile : files path = .ok (.file text.toUTF8))
      (h : Json.parse text = .ok v) : GivesValue files (.file path) v

/-- Why there is no value, with the exit code and the text that tells it. -/
inductive LacksValue (files : Files) : ValueSource → Nat → String → Prop where
  | inline {text : String} {error : ReadError} (h : Json.parse text = .error error) :
      LacksValue files (.inline text) 64 ("--json is not valid JSON: " ++ error.message)
  | missing {path : String} (h : LacksText (files path) .notFound) :
      LacksValue files (.file path) 64
        ("failed reading " ++ path ++ ": " ++ SystemFault.notFound.message)
  | denied {path : String} (h : LacksText (files path) .denied) :
      LacksValue files (.file path) 50
        ("failed reading " ++ path ++ ": " ++ SystemFault.denied.message)
  | unread {path : String} {fault : SystemFault} (h : LacksText (files path) fault)
      (hNotFound : fault ≠ .notFound) (hDenied : fault ≠ .denied) :
      LacksValue files (.file path) 125 ("failed reading " ++ path ++ ": " ++ fault.message)
  | notJson {path text : String} {error : ReadError} (hFile : files path = .ok (.file text.toUTF8))
      (h : Json.parse text = .error error) :
      LacksValue files (.file path) 60 (path ++ " is not valid JSON: " ++ error.message)

/-- The registry that the options ask for: that of a directory, or the one of the primitive types
alone. -/
inductive GivesRegistry (files : Files) (options : RegistryOptions) : Registry → Prop where
  | directory {path : String} {r : Registry} (hDirectory : options.directory = some path)
      (h : Registry.ofDirectory options.config files path = .ok r) : GivesRegistry files options r
  | builtin {r : Registry} (hDirectory : options.directory = none)
      (h : Registry.build options.config (.object []) = .ok r) : GivesRegistry files options r

/-- Why there is no registry, with the exit code and the text that tells it. Without a directory
there is always one. -/
inductive LacksRegistry (files : Files) (options : RegistryOptions) : Nat → String → Prop where
  | load {path : String} {fault : LoadFault} (hDirectory : options.directory = some path)
      (h : Registry.ofDirectory options.config files path = .error (.load fault)) :
      LacksRegistry files options 1
        ("failed loading schemas from " ++ path ++ ": " ++ (BuildFault.load fault).message)
  | build {path : String} {fault : BuildFault} (hDirectory : options.directory = some path)
      (h : Registry.ofDirectory options.config files path = .error fault)
      (hLoad : ∀ f, fault ≠ .load f) :
      LacksRegistry files options 60
        ("failed loading schemas from " ++ path ++ ": " ++ fault.message)

/-- Why a schema has no meaning in a registry. -/
inductive LacksMeaning (r : Registry) (label : String) : Schema → String → Prop where
  | reference {name : String} (h : r.has name = false) :
      LacksMeaning r label (.reference name) ("check failed: " ++
        ("Unknown schema reference \"" ++ name ++ "\" for \"" ++ label ++ "\""))
  | definition {members : List (String × Json)} {message : String}
      (h : Compiled.compile r.config "schema" (.object members) = .error message) :
      LacksMeaning r label (.definition members) ("check failed: " ++
        ("Invalid schema for \"" ++ label ++ "\": " ++ message))

/-- The first stage that fails, with the exit code and the text that tells what it finds. -/
inductive Stops (files : Files) (argument : String) (source : ValueSource) (label : String)
    (options : RegistryOptions) : Nat → String → Prop where
  | schema {v : Json} {word : String} (h : Json.parse argument = .ok v) (hv : IsNoSchema v word) :
      Stops files argument source label options 64 ("invalid schema argument: " ++
        ("schema must be a boolean, an object or a string reference, got " ++ word))
  | value {s : Schema} {code : Nat} {message : String} (hs : GivesSchema argument s)
      (h : LacksValue files source code message) :
      Stops files argument source label options code message
  | registry {s : Schema} {v : Json} {code : Nat} {message : String}
      (hs : GivesSchema argument s) (hv : GivesValue files source v)
      (h : LacksRegistry files options code message) :
      Stops files argument source label options code message
  | meaning {s : Schema} {v : Json} {r : Registry} {message : String}
      (hs : GivesSchema argument s) (hv : GivesValue files source v)
      (hr : GivesRegistry files options r) (h : LacksMeaning r label s message) :
      Stops files argument source label options 64 message

/-- What the stages give when none of them fails. -/
structure Passes (files : Files) (argument : String) (source : ValueSource)
    (options : RegistryOptions) (s : Schema) (v : Json) (r : Registry) : Prop where
  schema : GivesSchema argument s
  value : GivesValue files source v
  registry : GivesRegistry files options r
  meaning : ∃ m, r.Means s m

/-! ## One stage or the other -/

theorem givesSchema_or_isNoSchema (argument : String) :
    (∃ s, GivesSchema argument s) ∨
      ∃ v word, Json.parse argument = .ok v ∧ IsNoSchema v word := by
  cases h : Json.parse argument with
  | error error => exact .inl ⟨_, .name h⟩
  | ok v =>
    cases v with
    | null => exact .inr ⟨_, _, rfl, .null⟩
    | number n => exact .inr ⟨_, _, rfl, .number n⟩
    | array vs => exact .inr ⟨_, _, rfl, .array vs⟩
    | bool b =>
      cases b with
      | true => exact .inl ⟨.accept, .json h⟩
      | false => exact .inl ⟨.reject, .json h⟩
    | string name => exact .inl ⟨.reference name, .json h⟩
    | object ms => exact .inl ⟨.definition ms, .json h⟩

theorem holdsText_or_lacksText (found : Except SystemFault Entry) :
    (∃ text : String, found = .ok (.file text.toUTF8)) ∨ ∃ fault, LacksText found fault := by
  rcases found with fault | content | entries | target | _ | _
  · exact .inr ⟨fault, .unopened fault⟩
  · by_cases h : content.IsValidUTF8
    · obtain ⟨text, rfl⟩ := Opened.exists_toUTF8_eq_iff.mpr h
      exact .inl ⟨text, rfl⟩
    · exact .inr ⟨_, .notText h⟩
  · exact .inr ⟨_, .directory entries⟩
  · exact .inr ⟨_, .link target⟩
  · exact .inr ⟨_, .lockedFile⟩
  · exact .inr ⟨_, .lockedDirectory⟩

theorem givesValue_or_lacksValue (files : Files) (source : ValueSource) :
    (∃ v, GivesValue files source v) ∨ ∃ code message, LacksValue files source code message := by
  cases source with
  | inline text =>
    cases h : Json.parse text with
    | ok v => exact .inl ⟨v, .inline h⟩
    | error error => exact .inr ⟨_, _, .inline h⟩
  | file path =>
    obtain ⟨text, hFile⟩ | ⟨fault, hFault⟩ := holdsText_or_lacksText (files path)
    · cases h : Json.parse text with
      | ok v => exact .inl ⟨v, .file hFile h⟩
      | error error => exact .inr ⟨_, _, .notJson hFile h⟩
    · by_cases hNotFound : fault = .notFound
      · exact .inr ⟨_, _, .missing (hNotFound ▸ hFault)⟩
      · by_cases hDenied : fault = .denied
        · exact .inr ⟨_, _, .denied (hDenied ▸ hFault)⟩
        · exact .inr ⟨_, _, .unread hFault hNotFound hDenied⟩

theorem givesRegistry_or_lacksRegistry (files : Files) (options : RegistryOptions) :
    (∃ r, GivesRegistry files options r) ∨
      ∃ code message, LacksRegistry files options code message := by
  cases hDirectory : options.directory with
  | none =>
    obtain ⟨r, hBuilt⟩ := Registry.exists_build_empty options.config
    exact .inl ⟨r, .builtin hDirectory hBuilt⟩
  | some path =>
    cases h : Registry.ofDirectory options.config files path with
    | ok r => exact .inl ⟨r, .directory hDirectory h⟩
    | error fault =>
      by_cases hLoad : ∃ f, fault = .load f
      · obtain ⟨f, rfl⟩ := hLoad
        exact .inr ⟨_, _, .load hDirectory h⟩
      · exact .inr ⟨_, _, .build hDirectory h fun f hf => hLoad ⟨f, hf⟩⟩

theorem means_or_lacksMeaning (r : Registry) (label : String) (s : Schema) :
    (∃ m, r.Means s m) ∨ ∃ message, LacksMeaning r label s message := by
  cases s with
  | accept => exact .inl ⟨_, .accept⟩
  | reject => exact .inl ⟨_, .reject⟩
  | definition members =>
    cases h : Compiled.compile r.config "schema" (.object members) with
    | ok c => exact .inl ⟨_, .definition h⟩
    | error message => exact .inr ⟨_, .definition h⟩
  | reference name =>
    cases h : r.get? name with
    | some c => exact .inl ⟨_, .reference h⟩
    | none =>
      have hMissing : r.has name = false := by rw [r.has_eq_isSome, h, Option.isSome_none]
      exact .inr ⟨_, .reference hMissing⟩

theorem exists_stops_or_passes (files : Files) (argument : String) (source : ValueSource)
    (label : String) (options : RegistryOptions) :
    (∃ code message, Stops files argument source label options code message) ∨
      ∃ s v r, Passes files argument source options s v r := by
  obtain ⟨s, hs⟩ | ⟨v, word, hParse, hv⟩ := givesSchema_or_isNoSchema argument
  · obtain ⟨v, hv⟩ | ⟨code, message, h⟩ := givesValue_or_lacksValue files source
    · obtain ⟨r, hr⟩ | ⟨code, message, h⟩ := givesRegistry_or_lacksRegistry files options
      · obtain hMeans | ⟨message, h⟩ := means_or_lacksMeaning r label s
        · exact .inr ⟨s, v, r, hs, hv, hr, hMeans⟩
        · exact .inl ⟨64, message, .meaning hs hv hr h⟩
      · exact .inl ⟨code, message, .registry hs hv h⟩
    · exact .inl ⟨code, message, .value hs h⟩
  · exact .inl ⟨64, _, .schema hParse hv⟩

/-! ## What each stage answers -/

/-- A fault is told with this exit code and this text. If it is that of a call, a schema has no
meaning. -/
structure Fault.Says (fault : Fault) (code : Nat) (message : String) : Prop where
  code_eq : fault.exit.code = code
  message_eq : fault.message = message
  call : ∀ e, fault = .call e →
    ∃ lines, e = .problems .referenceResolution lines ∨ e = .problems .invalidSchema lines

variable {files : Files} {argument label : String} {source : ValueSource}
  {options : RegistryOptions}

theorem GivesSchema.eq {s : Schema} (h : GivesSchema argument s) :
    schemaOfArgument argument = .ok s := by
  cases h with
  | json h => exact schemaOfArgument_of_parse h
  | name h => simp only [schemaOfArgument, h]

theorem schemaOfArgument_of_isNoSchema {v : Json} {word : String}
    (hParse : Json.parse argument = .ok v) (hv : IsNoSchema v word) :
    ∃ fault, schemaOfArgument argument = .error fault ∧ fault.Says 64
      ("invalid schema argument: " ++
        ("schema must be a boolean, an object or a string reference, got " ++ word)) := by
  have hFault : schemaOfArgument argument = .error (.schemaArgument ⟨v.kind⟩) := by
    rw [schemaOfArgument, hParse]
    cases hv <;> rfl
  refine ⟨_, hFault, rfl, ?_, by rintro _ ⟨⟩⟩
  cases hv <;> rfl

theorem LacksText.readText_eq {found : Except SystemFault Entry} {fault : SystemFault}
    (h : LacksText found fault) : found.bind Entry.readText = .error fault := by
  cases h with
  | notText h => simp only [Except.bind, Entry.readText, Opened.fromUTF8?_eq_none_iff.mpr h]
  | _ => rfl

theorem readText_file (text : String) : Entry.readText (.file text.toUTF8) = .ok text := by
  rw [Entry.readText, Opened.fromUTF8?_eq_some_iff.mpr rfl]

theorem GivesValue.eq {v : Json} (h : GivesValue files source v) :
    readValue files source = .ok v := by
  cases h with
  | inline h => simp only [readValue, h]
  | file hFile h => simp only [readValue, hFile, Except.bind, readText_file, h]

theorem LacksValue.readValue_eq {code : Nat} {message : String}
    (h : LacksValue files source code message) :
    ∃ fault, readValue files source = .error fault ∧ fault.Says code message := by
  cases h with
  | @inline _ error h =>
    exact ⟨.inlineValue error, by simp only [readValue, h], rfl, rfl, by rintro _ ⟨⟩⟩
  | @missing path h =>
    exact ⟨.file path .notFound, by simp only [readValue, h.readText_eq], rfl, rfl, by rintro _ ⟨⟩⟩
  | @denied path h =>
    exact ⟨.file path .denied, by simp only [readValue, h.readText_eq], rfl, rfl, by rintro _ ⟨⟩⟩
  | @unread path fault h hNotFound hDenied =>
    refine ⟨.file path fault, by simp only [readValue, h.readText_eq], ?_, rfl, by rintro _ ⟨⟩⟩
    cases fault <;> first | rfl | exact absurd rfl hNotFound | exact absurd rfl hDenied
  | @notJson path _ error hFile h =>
    refine ⟨.fileValue path error, ?_, rfl, rfl, by rintro _ ⟨⟩⟩
    simp only [readValue, hFile, Except.bind, readText_file, h]

theorem GivesRegistry.eq {r : Registry} (h : GivesRegistry files options r) :
    options.load files = .ok r := by
  cases h with
  | directory hDirectory h | builtin hDirectory h =>
    rw [RegistryOptions.load, hDirectory]
    exact congrArg (Except.mapError _) h

theorem LacksRegistry.load_eq {code : Nat} {message : String}
    (h : LacksRegistry files options code message) :
    ∃ fault, options.load files = .error fault ∧ fault.Says code message := by
  cases h with
  | @load path fault hDirectory h =>
    rw [RegistryOptions.load, hDirectory]
    exact ⟨.directory path (.load fault), congrArg (Except.mapError _) h, rfl, rfl, by rintro _ ⟨⟩⟩
  | @build path fault hDirectory h hLoad =>
    rw [RegistryOptions.load, hDirectory]
    refine ⟨.directory path fault, congrArg (Except.mapError _) h, ?_, rfl, by rintro _ ⟨⟩⟩
    cases fault with
    | load f => exact absurd rfl (hLoad f)
    | _ => rfl

theorem inOrder_checkedAs (line? : String → Schema → Option String) (label : String) (v : Json)
    (s : Schema) : Contract.inOrder line? (checkedAs label v s) = (line? label s).toList := by
  change [Parameter.withName label v s].filterMap _ ++ [] = _
  rw [List.append_nil, List.filterMap_cons, List.filterMap_nil]
  simp only [Parameter.withName]
  cases line? label s <;> rfl

theorem Fault.says_call {stage : Stage} {line : String}
    (h : stage = .referenceResolution ∨ stage = .invalidSchema) :
    (Fault.call (.problems stage [line])).Says 64 ("check failed: " ++ line) where
  code_eq := by rcases h with rfl | rfl <;> rfl
  message_eq := congrArg ("check failed: " ++ ·) (unlines_singleton line)
  call := by
    rintro _ ⟨⟩
    rcases h with rfl | rfl
    · exact ⟨_, .inl rfl⟩
    · exact ⟨_, .inr rfl⟩

theorem LacksMeaning.checkValue_eq {r : Registry} {s : Schema} {message : String}
    (h : LacksMeaning r label s message) (v : Json) :
    ∃ fault, checkValue r label v s = .error fault ∧ fault.Says 64 message := by
  rw [checkValue, call_checkedAs]
  cases h with
  | @reference name h =>
    have hUnknown : (checkedAs label v (.reference name)).unknownReferences r =
        ["Unknown schema reference \"" ++ name ++ "\" for \"" ++ label ++ "\""] := by
      rw [Contract.unknownReferences, inOrder_checkedAs, Contract.unknownReference?,
        if_neg (by simp [h])]
      rfl
    rw [Contract.outcome_of_error
      (Contract.checkArguments_of_unknownReferences (by simp [hUnknown])), hUnknown]
    exact ⟨_, rfl, Fault.says_call (.inl rfl)⟩
  | @definition members message h =>
    have hUnknown : (checkedAs label v (.definition members)).unknownReferences r = [] :=
      inOrder_checkedAs _ label v _
    have hBad : (checkedAs label v (.definition members)).badDefinitions r =
        ["Invalid schema for \"" ++ label ++ "\": " ++ message] := by
      rw [Contract.badDefinitions, inOrder_checkedAs, Contract.badDefinition?, h]
      rfl
    rw [Contract.outcome_of_error
      (Contract.checkArguments_of_badDefinitions hUnknown (by simp [hBad])), hBad]
    exact ⟨_, rfl, Fault.says_call (.inr rfl)⟩

/-! ## The command -/

theorem Stops.check_eq {code : Nat} {message : String}
    (h : Stops files argument source label options code message) :
    ∃ fault, check files argument source label options = .error fault ∧
      fault.Says code message := by
  rw [check]
  cases h with
  | schema hParse hv =>
    obtain ⟨fault, hSchema, hSays⟩ := schemaOfArgument_of_isNoSchema hParse hv
    exact ⟨fault, by simp only [hSchema, bind, Except.bind], hSays⟩
  | value hs h =>
    obtain ⟨fault, hValue, hSays⟩ := h.readValue_eq
    exact ⟨fault, by simp only [hs.eq, hValue, bind, Except.bind], hSays⟩
  | registry hs hv h =>
    obtain ⟨fault, hLoad, hSays⟩ := h.load_eq
    exact ⟨fault, by simp only [hs.eq, hv.eq, hLoad, bind, Except.bind], hSays⟩
  | @meaning s v r message hs hv hr h =>
    obtain ⟨fault, hCheck, hSays⟩ := h.checkValue_eq v
    exact ⟨fault, by simp only [hs.eq, hv.eq, hr.eq, hCheck, bind, Except.bind], hSays⟩

/-- The lines that a report lists are none exactly where the value is accepted. -/
theorem lines_check_eq_nil_iff (r : Registry) (label : String) (s : Schema) (v : Json) :
    (CallError.problems .parameterValidation (r.check (inQuotes label) s v).toList).lines = [] ↔
      r.check (inQuotes label) s v = none := by
  cases hCheck : r.check (inQuotes label) s v with
  | none => exact iff_of_true rfl rfl
  | some line =>
    have hEmpty : line ≠ "" := Registry.check_ne_empty hCheck
    refine iff_of_false (fun hLines => hEmpty ?_) (Option.some_ne_none line)
    rw [CallError.lines, CallError.message, Option.toList_some, unlines_singleton] at hLines
    exact lines_eq_nil_iff.mp hLines

theorem lines_check_of_some {r : Registry} {s : Schema} {v : Json} {line : String}
    (h : r.check (inQuotes label) s v = some line) :
    (CallError.problems .parameterValidation (r.check (inQuotes label) s v).toList).lines =
      Text.lines line := by
  rw [h, CallError.lines, CallError.message, Option.toList_some, unlines_singleton]

theorem Passes.check_eq {s : Schema} {v : Json} {r : Registry}
    (h : Passes files argument source options s v r) :
    check files argument source label options = .ok ⟨argument,
      (CallError.problems .parameterValidation (r.check (inQuotes label) s v).toList).lines⟩ := by
  have hResolves : r.Resolves s := h.meaning.imp fun _ => Registry.resolve_eq_ok_iff.mpr
  rw [check]
  simp only [h.schema.eq, h.value.eq, h.registry.eq, checkValue_of_resolves hResolves, bind,
    Except.bind]
  rfl

/-! ## Arguments -/

theorem eq_of_ofText_plain {text name : String} (h : Argument.ofText text = .plain name) :
    name = text := by
  unfold Argument.ofText at h
  split at h
  · cases h
  · cases h
  · cases h
  · cases h
    rfl

theorem readProgram_run {arguments : List String} {l : Level} {layout : Layout} {command : Command}
    (h : readProgram arguments l = .run layout command) :
    ∃ name rest outer, name :: rest <:+ arguments ∧
      readCommand name rest outer = .run layout command := by
  -- Only a plain argument begins a command; flags and options with values are passed over.
  fun_induction readProgram arguments l with
  | case3 arg rest l name hText =>
    obtain rfl := eq_of_ofText_plain hText
    exact ⟨name, rest, l, List.suffix_rfl, h⟩
  | case9 =>
    rename_i ih
    obtain ⟨name, rest, outer, hSuffix, hCommand⟩ := ih h
    exact ⟨name, rest, outer, hSuffix.trans (List.suffix_cons ..), hCommand⟩
  | case11 =>
    rename_i ih
    obtain ⟨name, rest, outer, hSuffix, hCommand⟩ := ih h
    refine ⟨name, rest, outer, hSuffix.trans ?_, hCommand⟩
    exact (List.suffix_cons ..).trans (List.suffix_cons ..)
  | _ => cases h

theorem readLevel_ne_run (known : Options) (arguments : List String) (l : Level) (layout : Layout)
    (command : Command) : readLevel known arguments l ≠ .error (.run layout command) := by
  intro h
  fun_induction readLevel known arguments l with
  | case3 | case6 | case8 | case10 =>
    rename_i ih
    exact ih h
  | _ => cases h

/-- The value is given once, inline or by a file. -/
inductive Level.Gives (l : Level) : ValueSource → Prop where
  | inline {text : String} (hInline : l.value? "json" = some text)
      (hFile : l.value? "file" = none) : Gives l (.inline text)
  | file {path : String} (hInline : l.value? "json" = none)
      (hFile : l.value? "file" = some path) : Gives l (.file path)

theorem Level.gives_of_ofLevel? {l : Level} {source : ValueSource}
    (h : ValueSource.ofLevel? l = some source) : l.Gives source := by
  unfold ValueSource.ofLevel? at h
  split at h
  next hInline hFile =>
    cases h
    exact .inline hInline hFile
  next hInline hFile =>
    cases h
    exact .file hInline hFile
  next => cases h

theorem readCommand_run_check {name : String} {rest : List String} {outer : Level} {layout : Layout}
    (h : readCommand name rest outer = .run layout (.check argument source label options)) :
    name = "check" ∧ ∃ known level, Options.ofCommand? "check" = some known ∧
      readLevel known rest .empty = .ok level ∧ level.Gives source := by
  unfold readCommand at h
  split at h
  next => split at h <;> cases h
  next known hKnown =>
    split at h
    next request hRequest =>
      cases h
      exact absurd hRequest (readLevel_ne_run known rest .empty layout _)
    next level hLevel =>
      split at h
      next command hCommand =>
        cases h
        unfold Command.ofLevel? at hCommand
        split at hCommand
        next schema hOperands =>
          obtain ⟨given, hGiven, hCheck⟩ := Option.map_eq_some_iff.mp hCommand
          cases hCheck
          exact ⟨rfl, known, level, hKnown, hLevel, Level.gives_of_ofLevel? hGiven⟩
        next => cases hCommand
        next => cases hCommand
        next => cases hCommand
      next => cases h

/-! ## Outputs -/

/-- The output is one error and no report. -/
structure Output.Tells (o : Output) (code : Nat) (message : String) : Prop where
  exit : o.exit.code = code
  stdout : o.stdout = ""
  stderr : o.stderr = "error: " ++ message ++ "\n"

/-- The output is one report of what a check has told, if anything. What is printed, the verdict,
the errors and the exit code all tell alike whether the value is accepted. -/
structure Output.Reports (o : Output) (layout : Layout) (report : CheckReport)
    (told : Option String) : Prop where
  stdout : report.Shows layout o.stdout
  stderr : o.stderr = ""
  exit_iff : o.exit.code = 0 ↔ told = none
  valid_iff : report.valid = true ↔ told = none
  errors_iff : report.errors = [] ↔ told = none
  exit_of_told : told ≠ none → o.exit.code = 60
  errors_eq : ∀ line, told = some line → report.errors = Text.lines line

theorem Output.tells_ofFault {fault : Fault} {code : Nat} {message : String}
    (h : fault.Says code message) : (Output.ofFault fault).Tells code message :=
  ⟨h.code_eq, rfl, by rw [← h.message_eq]; rfl⟩

theorem Output.reports_ofReport (layout : Layout) {report : CheckReport} {told : Option String}
    (hNone : report.errors = [] ↔ told = none)
    (hLines : ∀ line, told = some line → report.errors = Text.lines line) :
    (Output.ofReport layout report).Reports layout report told := by
  have hValid : report.valid = true ↔ told = none := by
    rw [CheckReport.valid, List.isEmpty_iff, hNone]
  refine ⟨report.shows_render layout, rfl, ?_, hValid, hNone, fun hTold => ?_, hLines⟩
  · rw [Output.ofReport, ← hValid]
    cases report.valid <;> simp [Exit.code]
  · rw [Output.ofReport, if_neg (mt hValid.mp hTold)]
    rfl

theorem run_check {arguments : List String} {layout : Layout}
    (h : Request.ofArguments arguments = .run layout (.check argument source label options)) :
    run files arguments =
      match check files argument source label options with
      | .ok report => .ofReport layout report
      | .error fault => .ofFault fault := by
  rw [run, h]
  rfl

/-- Arguments that ask for a check give the value once. The first stage that fails decides what is
told and the exit code; if none fails, one report is printed, and the exit code, the verdict and the
errors all tell whether the registry accepts the value. A call made for this fails with nothing but
an unknown reference or an invalid schema. -/
theorem check_outcome (files : Files) {arguments : List String} {layout : Layout}
    (h : Request.ofArguments arguments = .run layout (.check argument source label options)) :
    (∃ rest known level, "check" :: rest <:+ arguments ∧ Options.ofCommand? "check" = some known ∧
      readLevel known rest .empty = .ok level ∧ level.Gives source) ∧
    ((∃ code message, Stops files argument source label options code message) ∨
      ∃ s v r, Passes files argument source options s v r) ∧
    (∀ code message, Stops files argument source label options code message →
      (run files arguments).Tells code message) ∧
    (∀ s v r, Passes files argument source options s v r →
      ∃ errors, (run files arguments).Reports layout ⟨argument, errors⟩
        (r.check ("\"" ++ label ++ "\"") s v)) ∧
    ∀ e, check files argument source label options = .error (.call e) →
      ∃ lines, e = .problems .referenceResolution lines ∨ e = .problems .invalidSchema lines := by
  have hCases := exists_stops_or_passes files argument source label options
  refine ⟨?_, hCases, fun code message hStops => ?_, fun s v r hPasses => ?_, fun e he => ?_⟩
  · obtain ⟨name, rest, outer, hSuffix, hCommand⟩ := readProgram_run h
    obtain ⟨rfl, known, level, hKnown, hLevel, hGives⟩ := readCommand_run_check hCommand
    exact ⟨rest, known, level, hSuffix, hKnown, hLevel, hGives⟩
  · obtain ⟨fault, hCheck, hSays⟩ := hStops.check_eq
    rw [run_check h, hCheck]
    exact Output.tells_ofFault hSays
  · rw [run_check h, hPasses.check_eq]
    exact ⟨_, Output.reports_ofReport layout (lines_check_eq_nil_iff r label s v)
      fun line hLine => lines_check_of_some hLine⟩
  -- A report is no fault, so a stage has failed, and only that of the meaning calls anything.
  · obtain ⟨code, message, hStops⟩ | ⟨s, v, r, hPasses⟩ := hCases
    · obtain ⟨fault, hCheck, hSays⟩ := hStops.check_eq
      exact hSays.call e (Except.error.inj (hCheck.symm.trans he))
    · cases he.symm.trans hPasses.check_eq

/-- No path leads to anything. -/
def noFiles : Files := fun _ => .error .notFound

/-- Where the schema is none and the file is missing, only the first of the two is told. Where
nothing is wrong but the value, the report says so. -/
theorem check_outcome_nullAndFalse :
    Request.ofArguments ["check", "null", "--file", "value.json"] =
        .run .json (.check "null" (.file "value.json") "value" ⟨none, false, false⟩) ∧
      (run noFiles ["check", "null", "--file", "value.json"]).Tells 64
        ("invalid schema argument: " ++
          ("schema must be a boolean, an object or a string reference, got " ++ "null")) ∧
      Request.ofArguments ["check", "false", "--json", "1"] =
        .run .json (.check "false" (.inline "1") "value" ⟨none, false, false⟩) ∧
      (∃ errors, (run noFiles ["check", "false", "--json", "1"]).Reports .json ⟨"false", errors⟩
        (some "\"value\" boolean schema is false")) ∧
      (run noFiles ["check", "false", "--json", "1"]).stdout =
        "\x7b\"schema\":\"false\",\"valid\":false,\"errors\":[" ++
          "\"\\\"value\\\" boolean schema is false\"]\x7d\n" := by
  have hNull : Request.ofArguments ["check", "null", "--file", "value.json"] =
      .run .json (.check "null" (.file "value.json") "value" ⟨none, false, false⟩) := by
    decide +kernel
  have hFalse : Request.ofArguments ["check", "false", "--json", "1"] =
      .run .json (.check "false" (.inline "1") "value" ⟨none, false, false⟩) := by
    decide +kernel
  have hParse : Json.parse "null" = .ok .null := by rfl
  obtain ⟨r, hBuild⟩ := Registry.exists_build_empty (RegistryOptions.config ⟨none, false, false⟩)
  have hPasses : Passes noFiles "false" (.inline "1") ⟨none, false, false⟩ .reject (.nat 1) r :=
    ⟨.json rfl, .inline rfl, .builtin rfl hBuild, .reject, .reject⟩
  obtain ⟨-, -, hTells, -, -⟩ := check_outcome noFiles hNull
  obtain ⟨-, -, -, hReports, -⟩ := check_outcome noFiles hFalse
  have hLine : r.check (inQuotes "value") .reject (.nat 1) =
      some "\"value\" boolean schema is false" := rfl
  refine ⟨hNull, hTells 64 _ (.schema hParse .null), hFalse,
    hReports .reject (.nat 1) r hPasses, ?_⟩
  rw [run_check hFalse, hPasses.check_eq, hLine]
  decide +kernel

end SchemaContract.CommandLine
