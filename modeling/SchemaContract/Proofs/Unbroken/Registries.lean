import SchemaContract.Proofs.Construction
import SchemaContract.Proofs.Unbroken.Programs

/-!
# Registries of plain schemas

Every line that a registry of plain schemas gives about values with plain names is one line, whether
it tells what is wrong with a value or why a schema has no meaning.
-/

namespace SchemaContract

open Text

/-! ## Compiled schemas -/

structure Compiled.Plain (c : Compiled) : Prop where
  source : c.source.isPlain = true
  program : c.program.Plain

namespace Compiled

theorem isPlain_sourceOf (config : Config) {schema : Json} (h : schema.isPlain = true) :
    (sourceOf config schema).isPlain = true := by
  unfold sourceOf
  split_ifs
  · exact Closing.isPlain_close .schemaOrList h
  · exact h

theorem compile_ends (config : Config) {label : String} (hLabel : Unbroken label.toList)
    {schema : Json} (h : schema.isPlain = true) :
    Ends (fun message => Unbroken message.toList) Plain (compile config label schema) := by
  have hSource := isPlain_sourceOf config h
  have hCompile := Validation.compile_ends config.formats hSource
  unfold compile
  split
  next program hProgram => exact ⟨hSource, hCompile.of_ok hProgram⟩
  next failure hFailure => exact (hCompile.of_error hFailure).unbroken_line hSource hLabel

namespace Plain

variable {c : Compiled} {label line : String}

theorem unbroken_check (h : c.Plain) (hLabel : Unbroken label.toList) {v : Json}
    (hv : v.hasPlainNames = true) (hLine : c.check label v = some line) :
    Unbroken line.toList := by
  obtain ⟨f, hf, rfl⟩ := Option.map_eq_some_iff.mp hLine
  exact (h.program.failures hv f (List.mem_of_head? hf)).unbroken_line h.source hLabel

theorem unbroken_checkAbsent (h : c.Plain) (hLabel : Unbroken label.toList)
    (hLine : c.checkAbsent label = some line) : Unbroken line.toList := by
  obtain ⟨reason, hReason, rfl⟩ := Option.map_eq_some_iff.mp hLine
  simp only [unbroken_toList_append]
  exact ⟨⟨hLabel, by decide⟩, Json.unbroken_absence? h.source hReason⟩

end Plain

end Compiled

/-! ## Schemas of a contract -/

/-- The schema breaks no line: what it defines is plain, or the name that it refers to has no break.
-/
def Schema.Plain : Schema → Prop
  | .accept | .reject => True
  | .definition members => (Json.object members).isPlain = true
  | .reference name => Unbroken name.toList

def Resolved.Plain : Resolved → Prop
  | .accept | .reject => True
  | .compiled c => c.Plain

namespace Resolved.Plain

variable {m : Resolved} {label line : String}

theorem unbroken_falseLine (hLabel : Unbroken label.toList) :
    Unbroken (falseLine label).toList := by
  unfold falseLine
  simp only [unbroken_toList_append]
  exact ⟨⟨hLabel, by decide⟩, unbroken_literal rfl⟩

theorem unbroken_check (h : m.Plain) (hLabel : Unbroken label.toList) {v : Json}
    (hv : v.hasPlainNames = true) (hLine : m.check label v = some line) :
    Unbroken line.toList := by
  cases m with
  | accept => cases hLine
  | reject =>
    cases hLine
    exact unbroken_falseLine hLabel
  | compiled c => exact Compiled.Plain.unbroken_check h hLabel hv hLine

theorem unbroken_checkAbsent (h : m.Plain) (hLabel : Unbroken label.toList)
    (hLine : m.checkAbsent label = some line) : Unbroken line.toList := by
  cases m with
  | accept => cases hLine
  | reject =>
    cases hLine
    exact unbroken_falseLine hLabel
  | compiled c => exact Compiled.Plain.unbroken_checkAbsent h hLabel hLine

end Resolved.Plain

/-- What is wrong with a schema of a contract is told in one line. -/
def ResolveFault.Plain : ResolveFault → Prop
  | .unknownReference name => Unbroken name.toList
  | .invalidDefinition message => Unbroken message.toList

namespace ResolveFault.Plain

variable {fault : ResolveFault}

theorem unbroken_line (h : fault.Plain) {label : String} (hLabel : Unbroken label.toList) :
    Unbroken (fault.line label).toList := by
  cases fault with
  | unknownReference name =>
    unfold line
    simp only [unbroken_toList_append]
    exact ⟨⟨⟨unbroken_literal rfl, unbroken_inQuotes.mpr h⟩, by decide⟩, hLabel⟩
  | invalidDefinition message =>
    unfold line
    simp only [unbroken_toList_append]
    exact ⟨⟨hLabel, unbroken_literal rfl⟩, h⟩

end ResolveFault.Plain

/-! ## Registries -/

namespace Registry

/-- All schemas of the registry are plain. -/
def Plain (r : Registry) : Prop := ∀ e ∈ r.schemas, e.2.Plain

variable {r : Registry}

theorem isPlain_primitives : (Json.object primitives).isPlain = true := by decide +kernel

theorem plain_of_build {config : Config} {supplied : Json} (h : supplied.isPlain = true)
    (hBuild : build config supplied = .ok r) : r.Plain := by
  obtain ⟨es, xs, hAdmissible, hCompiled, rfl⟩ := build_eq_ok_iff.mp hBuild
  rw [hAdmissible.object] at h
  have hEntries : ∀ e ∈ es ++ primitives, Unbroken e.1.toList ∧ e.2.isPlain = true := by
    have hMembers : ∀ ms, (Json.object ms).isPlain = true →
        ∀ m ∈ ms, Unbroken m.1.toList ∧ m.2.isPlain = true := fun ms hms m hm =>
      (Json.isPlain_object_iff.mp hms m hm).imp_left Json.unbroken_of_isPlainMember
    exact List.forall_mem_append.mpr ⟨hMembers es h, hMembers primitives isPlain_primitives⟩
  intro x hx
  obtain ⟨e, he, -, hCompile⟩ := exists_of_forall₂ hCompiled.flip x hx
  obtain ⟨hName, hSchema⟩ := hEntries e he
  exact (Compiled.compile_ends config (unbroken_inQuotes.mpr hName) hSchema).of_ok hCompile

theorem Plain.resolve_ends (h : r.Plain) {s : Schema} (hs : s.Plain) :
    Ends ResolveFault.Plain Resolved.Plain (r.resolve s) := by
  cases s with
  | accept => exact trivial
  | reject => exact trivial
  | reference name =>
    rw [resolve]
    split
    next c hc =>
      obtain ⟨e, he, rfl⟩ := Option.map_eq_some_iff.mp hc
      exact h e (List.mem_of_find?_eq_some he)
    next => exact hs
  | definition members =>
    have hCompile := Compiled.compile_ends r.config (by decide : Unbroken "schema".toList) hs
    rw [resolve]
    split
    next c hc => exact hCompile.of_ok hc
    next message hMessage => exact hCompile.of_error hMessage

theorem Plain.unbroken_check (h : r.Plain) {label line : String} (hLabel : Unbroken label.toList)
    {s : Schema} (hs : s.Plain) {v : Json} (hv : v.hasPlainNames = true)
    (hLine : r.check label s v = some line) : Unbroken line.toList := by
  have hResolve := h.resolve_ends hs
  unfold check at hLine
  split at hLine
  next m hm => exact (hResolve.of_ok hm).unbroken_check hLabel hv hLine
  next fault hFault =>
    cases hLine
    exact (hResolve.of_error hFault).unbroken_line hLabel

end Registry

end SchemaContract
