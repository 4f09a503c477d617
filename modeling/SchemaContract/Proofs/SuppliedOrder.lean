import SchemaContract.Proofs.Extension

/-!
# The order of the supplied schemas

The schemas of a registry are supplied as a map, whose entries come in no order that means anything.
None shows: two orders of the same entries make registries between which nothing that is asked of
them tells apart, or both come to a fault of the same kind, told of the same names where all
offenders are named.
-/

namespace SchemaContract.Registry

/-! ## Faults -/

/-- Faults of one kind: two that name all offenders name the same ones in some order, and two of
schemas that do not compile tell each of one of them. -/
inductive FaultsAlike (config : Config) (entries : List (String × Json)) :
    BuildFault → BuildFault → Prop where
  | reservedNames {names names' : List String} (h : names.Perm names') :
      FaultsAlike config entries (.reservedNames names) (.reservedNames names')
  | wrongKinds {names names' : List String} (h : names.Perm names') :
      FaultsAlike config entries (.wrongKinds names) (.wrongKinds names')
  | definition {e e' : String × Json} {message message' : String} (he : e ∈ entries)
      (he' : e' ∈ entries)
      (h : Compiled.compile config (Text.inQuotes e.1) e.2 = .error message)
      (h' : Compiled.compile config (Text.inQuotes e'.1) e'.2 = .error message') :
      FaultsAlike config entries (.definition e.1 message) (.definition e'.1 message')

variable {config : Config} {entries entries' : List (String × Json)}

theorem reservedNames_perm (h : entries.Perm entries') :
    (reservedNames entries).Perm (reservedNames entries') :=
  (h.map Prod.fst).filter _

theorem wrongKinds_perm (h : entries.Perm entries') :
    (wrongKinds entries).Perm (wrongKinds entries') :=
  (h.filter _).map Prod.fst

theorem Admissible.of_perm (hAdmissible : Admissible (.object entries) entries)
    (h : entries.Perm entries') : Admissible (.object entries') entries' := by
  obtain ⟨-, hReserved, hKinds⟩ := hAdmissible
  refine ⟨rfl, ?_, ?_⟩
  · exact (hReserved ▸ reservedNames_perm h).symm.eq_nil
  · exact (hKinds ▸ wrongKinds_perm h).symm.eq_nil

theorem exists_definition_of_build {fault : BuildFault}
    (hAdmissible : Admissible (.object entries) entries)
    (h : build config (.object entries) = .error fault) : ∃ e ∈ entries, ∃ message,
      Compiled.compile config (Text.inQuotes e.1) e.2 = .error message ∧
        fault = .definition e.1 message := by
  cases firstFault_of_build h with
  | notAMap hObject => exact absurd rfl (hObject entries)
  | reserved hObject hReserved =>
    cases hObject
    exact absurd hAdmissible.unreserved hReserved
  | wrongKinds hObject _ hKinds =>
    cases hObject
    exact absurd hAdmissible.schemas hKinds
  | definition hFirst _ hMessage =>
    cases hFirst.object
    exact ⟨_, List.mem_append_right _ List.mem_cons_self, _, hMessage, rfl⟩

/-! ## Registries -/

/-- Nothing that is asked of two registries tells which of the two it is. -/
structure Interchangeable (r r' : Registry) : Prop where
  has : ∀ name, r.has name = r'.has name
  size : r.size = r'.size
  names : r.names = r'.names
  resolve : ∀ s, r.resolve s = r'.resolve s
  check : ∀ label s v, r.check label s v = r'.check label s v
  call : ∀ ps result, r.CallsAlike r' ps ps result result

variable {r r' : Registry}

theorem Extends.get?_eq (h : r.Extends r') (h' : r'.Extends r) (name : String) :
    r.get? name = r'.get? name :=
  Option.ext fun c => ⟨h.get? name c, h'.get? name c⟩

theorem Extends.has_eq (h : r.Extends r') (h' : r'.Extends r) (name : String) :
    r.has name = r'.has name := by
  rw [has_eq_isSome, has_eq_isSome, h.get?_eq h']

theorem names_eq_of_has_eq (hAscend : r.names.Pairwise (· < ·))
    (hAscend' : r'.names.Pairwise (· < ·)) (h : ∀ name, r.has name = r'.has name) :
    r.names = r'.names := by
  -- Two ascending lists of the same names are one list.
  refine List.Perm.eq_of_pairwise (fun a b _ _ hLt hGt => absurd hGt (Std.not_gt_of_lt hLt))
    hAscend hAscend' ?_
  refine (List.perm_ext_iff_of_nodup (hAscend.imp Std.ne_of_lt) (hAscend'.imp Std.ne_of_lt)).mpr ?_
  intro name
  rw [mem_names_iff_has, mem_names_iff_has, h]

theorem interchangeable_of_build (hBuild : build config (.object entries) = .ok r)
    (hBuild' : build config (.object entries') = .ok r')
    (hDistinct : (entries.map (·.1)).Nodup) (h : entries.Perm entries') :
    r.Interchangeable r' := by
  have hDistinct' : (entries'.map (·.1)).Nodup := (h.map (·.1)).nodup_iff.mp hDistinct
  have hHolds := holds_of_build hBuild hDistinct
  have hHolds' := holds_of_build hBuild' hDistinct'
  have hMore := extends_of_build hBuild hBuild' hDistinct hDistinct' h.subset
  have hMore' := extends_of_build hBuild' hBuild hDistinct' hDistinct h.symm.subset
  have hResolve : ∀ s, r.resolve s = r'.resolve s := fun s =>
    resolve_eq_of_get?_eq hMore.config fun name _ => hMore.get?_eq hMore' name
  have hAlike : ∀ s : Schema, s.MeansAlike r r' s := fun s => .of_resolve_eq (hResolve s)
  constructor
  case has => exact hMore.has_eq hMore'
  case size => rw [hHolds.size, hHolds'.size, h.length_eq]
  case names =>
    exact names_eq_of_has_eq hHolds.names_ascend hHolds'.names_ascend (hMore.has_eq hMore')
  case resolve => exact hResolve
  case check => exact fun label s v => (hAlike s).check_eq label v
  case call =>
    intro ps result
    refine callsAlike_of_meansAlike ?_ ?_
    · exact List.forall₂_same.mpr fun p _ => ⟨rfl, rfl, rfl, hAlike p.schema⟩
    · cases result with
      | none => exact .none
      | some s => exact .some (hAlike s)

/-! ## Building -/

theorem exists_build_of_perm (hBuild : build config (.object entries) = .ok r)
    (h : entries.Perm entries') : ∃ r', build config (.object entries') = .ok r' := by
  obtain ⟨_, xs, hAdmissible, hxs, -⟩ := build_eq_ok_iff.mp hBuild
  cases hAdmissible.object
  refine exists_build (hAdmissible.of_perm h) fun e he => ?_
  obtain ⟨x, -, -, hCompile⟩ := exists_of_forall₂ hxs e (List.mem_append_left _ (h.mem_iff.mpr he))
  exact ⟨x.2, hCompile⟩

theorem faultsAlike_of_build {fault fault' : BuildFault}
    (hBuild : build config (.object entries) = .error fault)
    (hBuild' : build config (.object entries') = .error fault') (h : entries.Perm entries') :
    FaultsAlike config entries fault fault' := by
  have hNames := reservedNames_perm h
  have hKinds := wrongKinds_perm h
  -- Which lists of offenders are empty decides the kind of the fault, in any order of entries.
  by_cases hReserved : reservedNames entries = []
  · by_cases hWrong : wrongKinds entries = []
    · have hAdmissible : Admissible (.object entries) entries := ⟨rfl, hReserved, hWrong⟩
      obtain ⟨e, he, message, hMessage, rfl⟩ := exists_definition_of_build hAdmissible hBuild
      obtain ⟨e', he', message', hMessage', rfl⟩ :=
        exists_definition_of_build (hAdmissible.of_perm h) hBuild'
      exact .definition he (h.mem_iff.mpr he') hMessage hMessage'
    · have hReserved' : reservedNames entries' = [] := (hReserved ▸ hNames).symm.eq_nil
      have hWrong' : wrongKinds entries' ≠ [] := fun hNil => hWrong (hNil ▸ hKinds).eq_nil
      rw [(FirstFault.wrongKinds rfl hReserved hWrong).build_eq] at hBuild
      rw [(FirstFault.wrongKinds rfl hReserved' hWrong').build_eq] at hBuild'
      cases hBuild
      cases hBuild'
      exact .wrongKinds hKinds
  · have hReserved' : reservedNames entries' ≠ [] := fun hNil => hReserved (hNil ▸ hNames).eq_nil
    rw [(FirstFault.reserved rfl hReserved).build_eq] at hBuild
    rw [(FirstFault.reserved rfl hReserved').build_eq] at hBuild'
    cases hBuild
    cases hBuild'
    exact .reservedNames hNames

/-- The entries of a map build registries that nothing tells apart, or come to faults of one kind,
in whatever order they are supplied. -/
theorem build_of_perm (config : Config) (hDistinct : (entries.map (·.1)).Nodup)
    (h : entries.Perm entries') :
    (∃ r r', build config (.object entries) = .ok r ∧
        build config (.object entries') = .ok r' ∧ r.Interchangeable r') ∨
      ∃ fault fault', build config (.object entries) = .error fault ∧
        build config (.object entries') = .error fault' ∧
        FaultsAlike config entries fault fault' := by
  cases hBuild : build config (.object entries) with
  | ok r =>
    obtain ⟨r', hBuild'⟩ := exists_build_of_perm hBuild h
    exact .inl ⟨r, r', rfl, hBuild', interchangeable_of_build hBuild hBuild' hDistinct h⟩
  | error fault =>
    cases hBuild' : build config (.object entries') with
    | ok r' =>
      obtain ⟨r, hOk⟩ := exists_build_of_perm hBuild' h.symm
      cases hBuild.symm.trans hOk
    | error fault' => exact .inr ⟨fault, fault', rfl, rfl, faultsAlike_of_build hBuild hBuild' h⟩

/-- The two registries keep their schemas in different orders. -/
theorem build_of_perm_titleAndCount :
    (titleAndCount.map (·.1)).Nodup ∧ titleAndCount.Perm titleAndCount.reverse ∧
      ∃ r r', build Config.standard (.object titleAndCount) = .ok r ∧
        build Config.standard (.object titleAndCount.reverse) = .ok r' ∧
        r.schemas.map (·.1) ≠ r'.schemas.map (·.1) ∧ r.Interchangeable r' := by
  have hDistinct : (titleAndCount.map (·.1)).Nodup := by decide
  have hPerm : titleAndCount.Perm titleAndCount.reverse := (List.reverse_perm _).symm
  refine ⟨hDistinct, hPerm, ?_⟩
  obtain ⟨r, hBuild⟩ := exists_build ⟨rfl, by decide, by decide⟩
    (compiles_titleAndCount Config.standard)
  obtain ⟨r, r', hOk, hOk', hSame⟩ | ⟨fault, -, hFault, -⟩ :=
    build_of_perm Config.standard hDistinct hPerm
  · refine ⟨r, r', hOk, hOk', ?_, hSame⟩
    obtain ⟨_, xs, hAdmissible, hxs, rfl⟩ := build_eq_ok_iff.mp hOk
    obtain ⟨_, xs', hAdmissible', hxs', rfl⟩ := build_eq_ok_iff.mp hOk'
    cases hAdmissible.object
    cases hAdmissible'.object
    rw [names_of_compiled hxs, names_of_compiled hxs']
    decide
  · cases hBuild.symm.trans hFault

end SchemaContract.Registry
