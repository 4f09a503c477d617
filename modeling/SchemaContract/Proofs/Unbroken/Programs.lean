import SchemaContract.Proofs.Narrowing.Programs
import SchemaContract.Proofs.Unbroken.Gathering
import SchemaContract.Proofs.Unbroken.Keywords
import SchemaContract.Validation

/-!
# Programs of plain schemas

Linking carries the compilation of a plain schema over to all targets of its references, so that a
program is plain as a whole. The meta-schemas are plain, and so is what they find wrong with a plain
schema.
-/

namespace SchemaContract

open Text

/-! ## Targets -/

namespace Target

variable {t : Target}

theorem Plain.context (h : t.Plain) (formats : Bool) {location : List Step}
    (hLocation : ∀ s ∈ location, s.Unbroken) : (t.context formats location).Plain :=
  ⟨h.base, h.scope, hLocation⟩

theorem Plain.rule (h : t.Plain) : t.rule.Ensures Rule.Plain := by
  have hContents := h.contents
  unfold Target.rule
  split
  next ms hMembers =>
    rw [hMembers] at hContents
    refine Part.ensures_body (Part.plainKeyword_of_mem_prepareMembers hContents fun m hm => ?_)
    exact Part.plain_prepare (Json.isPlain_object_iff.mp hContents m hm).2
  next => exact (Part.plain_prepare hContents).schema

theorem Plain.coverage (h : t.Plain) (kind : PartKind) : (t.coverage kind).Sound :=
  (Part.plain_prepare h.contents).coverage kind

end Target

theorem Library.leadsTo_ends {lib : Library} (h : lib.Plain) {request : Request}
    (hRequest : request.Plain) :
    Ends ReferenceFault.Plain (fun found => ∀ t ∈ found, t.Plain) (lib.leadsTo request) := by
  have hContext := hRequest.context
  rcases leadsTo_cases request with hNone | hTarget | hRecursive
  · rw [hNone]
    exact fun t ht => absurd ht (Option.not_mem_none t)
  · rw [hTarget]
    exact (target_ends h hContext.base hContext.scope hRequest.reference).map fun t ht =>
      forall_mem_some ht
  · rw [hRecursive]
    exact (recursiveTarget_ends h hContext.base hContext.scope).map fun t ht => forall_mem_some ht

/-! ## Tables -/

def Table.Plain (table : Table) : Prop := ∀ e ∈ table.rules, e.2.Plain

namespace Table.Plain

variable {table : Table}

theorem empty : Table.empty.Plain := fun _ he => absurd he List.not_mem_nil

theorem addRule (h : table.Plain) (key : TargetKey) (uri : Uri) : (table.addRule key uri).Plain :=
  List.forall_mem_append.mpr ⟨h, List.forall_mem_singleton.mpr .accept⟩

theorem putRule (h : table.Plain) (i : Nat) {rule : Rule} (hRule : rule.Plain) :
    (table.putRule i rule).Plain := by
  intro e he
  obtain ⟨j, hj⟩ := List.mem_iff_getElem?.mp he
  rw [Table.getElem?_putRule] at hj
  obtain ⟨old, hOld, hEntry⟩ := Option.map_eq_some_iff.mp hj
  split_ifs at hEntry
  · rw [← hEntry]
    exact hRule
  · rw [← hEntry]
    exact h old (List.mem_of_getElem? hOld)

theorem addCoverage (h : table.Plain) (key : TargetKey) (kind : PartKind) :
    (table.addCoverage key kind).Plain := h

theorem putCoverage (h : table.Plain) (i : Nat) (coverage : Coverage) :
    (table.putCoverage i coverage).Plain := h

end Table.Plain

/-! ## Linking -/

/-- A step of the linking that leaves a plain table, and a result with the property. -/
def Link.Ensures {α : Type} (P : α → Prop) (link : Link α) : Prop :=
  ∀ table : Table, table.Plain → Ends Failure.Plain (fun e => P e.1 ∧ e.2.Plain) (link table)

namespace Link

variable {α β : Type} {P : α → Prop} {Q : β → Prop}

theorem ensures_orRefuse {found : Except ReferenceFault α} (h : Ends ReferenceFault.Plain P found)
    {next : α → Link β} (hNext : ∀ a, P a → (next a).Ensures Q) :
    (orRefuse found next).Ensures Q := by
  intro table hTable
  cases found with
  | ok a => exact hNext a h table hTable
  | error fault => exact .plain (fun _ hs => absurd hs List.not_mem_nil) h

end Link

/-- The targets of references are plain, and compile to what is plain. -/
structure Following.Plain (following : Following) : Prop where
  library : following.library.Plain
  rule : ∀ (t : Target) (location : List Step), t.Plain → (∀ s ∈ location, s.Unbroken) →
    (following.rule t location).Ensures Rule.Plain
  coverage : ∀ (t : Target) (kind : PartKind) (location : List Step), t.Plain →
    (∀ s ∈ location, s.Unbroken) → (following.coverage t kind location).Ensures fun _ => True

namespace Following.Plain

variable {following : Following}

theorem enterRule (h : following.Plain) {t : Target} (ht : t.Plain) (uri : Uri)
    {location : List Step} (hLocation : ∀ s ∈ location, s.Unbroken) :
    (following.enterRule t uri location).Ensures fun _ => True := by
  intro table hTable
  have hRule := h.rule t location ht hLocation _ (hTable.addRule t.key uri)
  unfold Following.enterRule
  split
  next => exact ⟨trivial, hTable⟩
  next =>
    split
    next rule after hRun =>
      obtain ⟨hRule, hAfter⟩ := hRule.of_ok hRun
      exact ⟨trivial, hAfter.putRule _ hRule⟩
    next failure hRun => exact hRule.of_error hRun

theorem enterCoverage (h : following.Plain) {t : Target} (ht : t.Plain) (kind : PartKind)
    {location : List Step} (hLocation : ∀ s ∈ location, s.Unbroken) :
    (following.enterCoverage t kind location).Ensures fun _ => True := by
  intro table hTable
  have hCoverage := h.coverage t kind location ht hLocation _ (hTable.addCoverage t.key kind)
  unfold Following.enterCoverage
  split
  next => exact ⟨trivial, hTable⟩
  next =>
    split
    next coverage after hRun => exact ⟨trivial, (hCoverage.of_ok hRun).2.putCoverage _ coverage⟩
    next failure hRun => exact hCoverage.of_error hRun

theorem location {request : Request} (h : request.Plain) :
    ∀ s ∈ Step.member request.keyword :: request.context.location, s.Unbroken :=
  List.forall_mem_cons.mpr ⟨h.keyword, h.context.location⟩

theorem ruleNumber (h : following.Plain) {request : Request} (hRequest : request.Plain) :
    (following.ruleNumber request).Ensures fun _ => True := by
  have hUri := Uri.target_ends hRequest.context.base hRequest.reference
  refine Link.ensures_orRefuse hUri fun uri _ => ?_
  refine Link.ensures_orRefuse (Library.leadsTo_ends h.library hRequest) fun found hFound => ?_
  intro table hTable
  cases found with
  | none => exact ⟨trivial, hTable⟩
  | some t =>
    dsimp only
    split_ifs
    · exact ⟨trivial, hTable⟩
    · exact (h.enterRule (hFound t rfl) uri (location hRequest) table hTable).map fun e he => he

theorem coverageNumber (h : following.Plain) {request : Request} (hRequest : request.Plain)
    (kind : PartKind) : (following.coverageNumber request kind).Ensures fun _ => True := by
  refine Link.ensures_orRefuse (Library.leadsTo_ends h.library hRequest) fun found hFound => ?_
  intro table hTable
  cases found with
  | none => exact ⟨trivial, hTable⟩
  | some t =>
    exact (h.enterCoverage (hFound t rfl) kind (location hRequest) table hTable).map fun e he => he

theorem run (h : following.Plain) {α : Type} {P : α → Prop} {p : Plan α} (hp : p.Ensures P) :
    (p.run following).Ensures P := by
  induction p with
  | done a => exact fun table hTable => ⟨hp, hTable⟩
  | failed e => exact fun table hTable => hp
  | rule request next ih =>
    intro table hTable
    have hNumber := h.ruleNumber hp.1 table hTable
    unfold Plan.run
    split
    next answer after hRun => exact ih answer (hp.2 answer) after (hNumber.of_ok hRun).2
    next failure hRun => exact hNumber.of_error hRun
  | coverage request kind next ih =>
    intro table hTable
    have hNumber := h.coverageNumber hp.1 kind table hTable
    unfold Plan.run
    split
    next answer after hRun => exact ih answer (hp.2 answer) after (hNumber.of_ok hRun).2
    next failure hRun => exact hNumber.of_error hRun

theorem upTo {lib : Library} (h : lib.Plain) (formats : Bool) (steps : Nat) :
    (Following.upTo lib formats steps).Plain := by
  have hDeep : Failure.Plain (.plain .root (.reference .tooDeep)) :=
    .plain (fun _ hs => absurd hs List.not_mem_nil)
      (unbroken_literal rfl : Unbroken (ReferenceFault.message .tooDeep).toList)
  induction steps with
  | zero =>
    exact ⟨h, fun _ _ _ _ _ _ => hDeep, fun _ _ _ _ _ _ _ => hDeep⟩
  | succ steps ih =>
    refine ⟨h, fun t location ht hLocation => ?_, fun t kind location ht hLocation => ?_⟩
    · exact ih.run (ht.rule _ (ht.context formats hLocation))
    · exact ih.run (ht.coverage kind _ (ht.context formats hLocation))

end Following.Plain

/-! ## Programs -/

theorem Program.compile_ends {lib : Library} (h : lib.Plain) (formats : Bool) (d : Dialect)
    {base : Uri} (hBase : base.Verbatim) {schema : Json} (hSchema : schema.isPlain = true) :
    Ends Failure.Plain Program.Plain (compile lib formats d base schema) := by
  have hTarget : Target.Plain ⟨base, [], base, .empty, d, schema⟩ :=
    ⟨hBase, Scope.plain_empty, hSchema⟩
  have hRun := (Following.Plain.upTo h formats maxReferences).rule _ [] hTarget
    (fun _ hs => absurd hs List.not_mem_nil) .empty .empty
  unfold compile
  split
  next root table hCompiled =>
    obtain ⟨hRoot, hTable⟩ := hRun.of_ok hCompiled
    exact ⟨hRoot, List.forall_mem_map.mpr hTable⟩
  next failure hFailed => exact hRun.of_error hFailed

namespace MetaSchema

theorem isPlain_documents (d : Dialect) : ∀ document ∈ documents d, document.isPlain = true := by
  cases d <;> decide +kernel

theorem isPlain_root (d : Dialect) : (root d).isPlain = true := by
  refine isPlain_documents d _ ?_
  cases d <;> exact List.mem_cons_self

theorem verbatim_uri (d : Dialect) : (uri d).Verbatim := by
  have hText : Verbatim d.uri.toList := by
    cases d <;> decide +kernel
  unfold uri
  split
  next u hu => exact Uri.follow_verbatim Uri.unnamed_verbatim hText hu
  next => exact Uri.unnamed_verbatim

theorem plain_library (d : Dialect) : (library d).Plain := by
  unfold library
  refine List.foldlRecOn (motive := Library.Plain) _ _ Library.plain_empty ?_
  intro lib hLib document hDocument
  have hPlain := isPlain_documents d document hDocument
  have hEnter := Uri.enter_ends Uri.unnamed_verbatim d hPlain
  split
  next u hu => exact hLib.add d (hEnter.of_ok hu) hPlain
  next => exact hLib

theorem plain_compiled (d : Dialect) : (compiled d).Plain := by
  unfold compiled
  have hCompile := Program.compile_ends (plain_library d) (d.isUpTo .draft7) d (verbatim_uri d)
    (isPlain_root d)
  split
  next p hp => exact hCompile.of_ok hp
  next => exact ⟨.accept, fun _ hr => absurd hr List.not_mem_nil⟩

theorem plain_program (d : Dialect) : (program d).Plain := by
  have h4 : draft4.Plain := plain_compiled .draft4
  have h6 : draft6.Plain := plain_compiled .draft6
  have h7 : draft7.Plain := plain_compiled .draft7
  have h2019 : draft2019.Plain := plain_compiled .draft2019
  have h2020 : draft2020.Plain := plain_compiled .draft2020
  cases d
  · exact h4
  · exact h6
  · exact h7
  · exact h2019
  · exact h2020

end MetaSchema

/-! ## Validation -/

namespace Validation

theorem dialectOf_ends {schema : Json} (h : schema.isPlain = true) :
    Ends ReferenceFault.Plain (fun _ => True) (dialectOf schema) := by
  unfold dialectOf
  split
  next s hText =>
    split
    next => exact trivial
    next =>
      refine ReferenceFault.plain_unknownDialect ?_
      rw [String.toList_ofList]
      exact (Json.isPlain_string_iff.mp (Json.isPlain_of_get? h hText)).subset
        (Dialect.trimSigns_subset _)
  next => exact trivial

theorem libraryOf_ends (d : Dialect) {uri : Uri} (hUri : uri.Verbatim) {schema : Json}
    (h : schema.isPlain = true) :
    Ends ReferenceFault.Plain Library.Plain (libraryOf d uri schema) := by
  refine (Gathering.ofDocument_ends d hUri h).map fun g hg => ?_
  split_ifs
  · exact hg.library.append (MetaSchema.plain_library d)
  · exact hg.library

theorem prepare_ends {schema : Json} (h : schema.isPlain = true) :
    Ends ReferenceFault.Plain (fun e => e.2.1.Verbatim ∧ e.2.2.Plain) (prepare schema) := by
  refine (dialectOf_ends h).bind fun d _ => ?_
  refine (Uri.enter_ends Uri.unnamed_verbatim d h).bind fun uri hUri => ?_
  refine (libraryOf_ends d hUri h).bind fun lib hLib => ?_
  exact (Uri.enter_ends hUri d h).bind fun base hBase => ⟨hBase, hLib⟩

theorem compile_ends (formats : Bool) {schema : Json} (h : schema.isPlain = true) :
    Ends Failure.Plain Program.Plain (compile formats schema) := by
  have hPrepare := prepare_ends h
  unfold compile
  split
  next fault hFault =>
    exact .plain (fun _ hs => absurd hs List.not_mem_nil) (hPrepare.of_error hFault)
  next d base lib hPrepared =>
    obtain ⟨hBase, hLib⟩ := hPrepare.of_ok hPrepared
    split
    next f hf =>
      have hNames := Json.hasPlainNames_of_isPlain h
      exact (MetaSchema.plain_program d).failures hNames f (List.mem_of_head? hf)
    next => exact Program.compile_ends hLib formats d hBase h

end Validation

end SchemaContract
