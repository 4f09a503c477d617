import SchemaContract.Compiled
import SchemaContract.Proofs.Narrowing.Preparation
import SchemaContract.Proofs.Narrowing.Programs

/-!
# Strict mode

In strict mode the closed form of a schema is compiled in its place. Closing narrows a schema unless
it reaches below a keyword that inverts, by itself or through references: then what strict mode
accepts is accepted without it.
-/

namespace SchemaContract

open Closing

variable {stable : List (String × String)}

/-! ## Compiling -/

/-- The root of a document is a resource, whatever the base is. -/
theorem Library.target_root {lib : Library} {base : Uri} {scope : Scope} {t : Target}
    (h : lib.target base scope ['#'] = .ok t) :
    t.part = [] ∧ ∃ r ∈ lib.resources, t.contents = r.contents := by
  cases hTarget : base.target ['#'] with
  | error fault => simp [target, split, hTarget] at h
  | ok uri =>
    cases hFound : lib.resource? base with
    | none => simp [target, split, hTarget, hFound] at h
    | some r =>
      have hSplit : split base ['#'] = .ok (base, []) := by simp [split, hTarget]
      rw [target, hSplit] at h
      simp only [hFound] at h
      cases h
      exact ⟨rfl, r, List.mem_of_find?_eq_some hFound, rfl⟩

/-- Closing only narrows the schema. What stands below an inverting keyword is left as it is, and so
is whatever the references there lead to; the references of the schema lead to schemas, and to none
that holds the very same reference. -/
structure Json.ClosesForward (stable : List (String × String)) (schema : Json) : Prop where
  distinct : schema.hasDistinctNames = true
  forward : isForward stable true false schema = true
  leads : ∀ {d d' base base' lib lib'}, Validation.prepare schema = .ok (d, base, lib) →
    Validation.prepare schema.closed = .ok (d', base', lib') →
      lib.LeadsAlike lib' stable lib.RefersBy

theorem Validation.exists_linkage {formats : Bool} {schema : Json} {p : Program}
    (h : compile formats schema = .ok p) :
    ∃ d base lib T, prepare schema = .ok (d, base, lib) ∧ p.LinkedBy ⟨lib, T⟩ formats ∧
      Compile.Gives ⟨lib, T⟩ ⟨formats, d, base, .empty, []⟩
        (Target.rule ⟨base, [], base, .empty, d, schema⟩) p.root ∧
      p.limit = (lib.texts + 1) * (lib.resources.length + 2) := by
  unfold compile at h
  split at h
  next => cases h
  next d base lib hPrepare =>
    split at h
    next => cases h
    next =>
      obtain ⟨T, hSound, hRoot, hTargets, hCoverages, hLimit⟩ := Program.exists_linkage h
      exact ⟨d, base, lib, T, hPrepare, ⟨hSound, hTargets, hCoverages⟩, hRoot, hLimit⟩

theorem Validation.failures_eq_nil_of_closed {formats : Bool} {schema : Json} {p p' : Program}
    (h : compile formats schema = .ok p) (h' : compile formats schema.closed = .ok p')
    (hCloses : schema.ClosesForward stable) {v : Json} (hv : p'.failures v = []) :
    p.failures v = [] := by
  obtain ⟨d, base, lib, T, hPrepare, hLinked, hRoot, hLimit⟩ := exists_linkage h
  obtain ⟨d', base', lib', T', hPrepare', hLinked', hRoot', hLimit'⟩ := exists_linkage h'
  have hLeads := hCloses.leads hPrepare hPrepare'
  -- Both are prepared alike: one dialect, one base and libraries beside each other.
  have hSchemas : Schemas stable lib.RefersBy schema schema.closed :=
    ⟨true, .inr ⟨rfl, rfl⟩, hCloses.forward, hCloses.distinct, fun e he =>
      refersBy_of_mem hPrepare he⟩
  obtain ⟨lib'', hOther, hLib⟩ := prepare_rel hPrepare hSchemas fun e he => he
  cases hPrepare'.symm.trans hOther
  have hSteps : p'.steps v = p.steps v := by
    rw [Program.steps, Program.steps, hLimit, hLimit', hLib.texts_eq, hLib.resources.length_eq]
  rw [Program.failures, hSteps] at hv
  rw [Program.failures]
  refine Target.narrows_rule (hLinked.referencesNarrow hLinked' hLib hLeads (p.steps v)) ?_
    hSchemas hRoot hRoot' .root v hv
  exact ⟨rfl, rfl, rfl, rfl⟩

/-- What is accepted in strict mode is accepted without it. -/
theorem Compiled.accepts_of_strict {config : Config} {label : String} {schema : Json}
    {plain strict : Compiled}
    (hPlain : compile { config with strict := false } label schema = .ok plain)
    (hStrict : compile { config with strict := true } label schema = .ok strict)
    (hCloses : schema.ClosesForward stable) {v : Json} (hv : strict.accepts v = true) :
    plain.accepts v = true := by
  rw [accepts, Program.accepts, List.isEmpty_iff] at hv ⊢
  exact Validation.failures_eq_nil_of_closed (compile_eq_ok_iff.mp hPlain).2
    (compile_eq_ok_iff.mp hStrict).2 hCloses hv

/-- What a schema says about a value, if it can be compiled. -/
def Compiled.verdict? (strict : Bool) (schema v : Json) : Option Bool :=
  (compile { Config.standard with strict } "schema" schema).toOption.map (·.accepts v)

theorem Compiled.verdict?_eq_some_iff {strict accepted : Bool} {schema v : Json} :
    verdict? strict schema v = some accepted ↔
      ∃ c, compile { Config.standard with strict } "schema" schema = .ok c ∧
        c.accepts v = accepted := by
  rw [verdict?]
  cases compile { Config.standard with strict } "schema" schema <;> simp [Except.toOption]

/-- A list of objects, which names itself and has a keyword that inverts. -/
def chain : Json :=
  .object [("$schema", .string "http://json-schema.org/draft-04/schema#"),
    ("type", .string "object"),
    ("properties", .object [("next", .object [("$ref", .string "#")]),
      ("kind", .object [("not", .object [("enum", .array [.string "none"])])])])]

theorem chain_closesForward : chain.ClosesForward [] where
  distinct := by decide +kernel
  forward := by decide +kernel
  leads {d d' base base' lib lib'} hPrepare _ := by
    have hResources : ∀ r ∈ lib.resources,
        r.contents.references = [("$ref", "#")] ∧ (r.contents.get? "$ref").isNone = true := by
      have hEach : (Validation.prepare chain).toOption.all fun p => decide (∀ r ∈ p.2.2.resources,
          r.contents.references = [("$ref", "#")] ∧ (r.contents.get? "$ref").isNone = true) := by
        decide +kernel
      rw [hPrepare] at hEach
      exact of_decide_eq_true hEach
    have hRoot : ∀ {e ctx t}, lib.RefersBy e → lib.leadsTo ⟨e.1, e.2, ctx⟩ = .ok (some t) →
        e = ("$ref", "#") ∧ t.part = [] ∧ (t.contents.get? "$ref").isNone = true := by
      rintro e ctx t ⟨r, hr, he⟩ ht
      rw [(hResources r hr).1, List.mem_singleton] at he
      subst he
      change (lib.target ctx.base ctx.scope "#".toList).map some = _ at ht
      rw [show "#".toList = ['#'] by decide, Library.map_some_eq] at ht
      obtain ⟨hPart, root, hMem, hContents⟩ := Library.target_root ht
      exact ⟨rfl, hPart, hContents ▸ (hResources root hMem).2⟩
    refine ⟨fun he ht => ?_, fun he ht => ?_, nofun⟩
    · obtain ⟨-, hPart, -⟩ := hRoot he ht
      rw [hPart]
      rfl
    · obtain ⟨rfl, -, hNone⟩ := hRoot he ht
      rw [Target.repeats, Option.isNone_iff_eq_none.mp hNone]

theorem Compiled.accepts_of_strict_chain : ∃ plain strict,
    compile { Config.standard with strict := false } "schema" chain = .ok plain ∧
      compile { Config.standard with strict := true } "schema" chain = .ok strict ∧
      chain.ClosesForward [] ∧ strict.accepts (.object [("next", .object [])]) = true ∧
      plain.accepts (.object [("next", .object [])]) = true := by
  have hVerdicts : verdict? false chain (.object [("next", .object [])]) = some true ∧
      verdict? true chain (.object [("next", .object [])]) = some true := by decide +kernel
  obtain ⟨plain, hPlain, -⟩ := verdict?_eq_some_iff.mp hVerdicts.1
  obtain ⟨strict, hStrict, hAccepts⟩ := verdict?_eq_some_iff.mp hVerdicts.2
  exact ⟨plain, strict, hPlain, hStrict, chain_closesForward, hAccepts,
    accepts_of_strict hPlain hStrict chain_closesForward hAccepts⟩

/-! ## Schemas that strict mode widens -/

/-- Strict mode accepts a value that is rejected without it. -/
def Json.WidensFor (schema v : Json) : Prop :=
  ∃ plain strict, Compiled.compile { Config.standard with strict := false } "schema" schema =
      .ok plain ∧
    Compiled.compile { Config.standard with strict := true } "schema" schema = .ok strict ∧
      strict.accepts v = true ∧ plain.accepts v = false

theorem Json.widensFor_iff {schema v : Json} :
    schema.WidensFor v ↔ Compiled.verdict? false schema v = some false ∧
      Compiled.verdict? true schema v = some true := by
  rw [Compiled.verdict?_eq_some_iff, Compiled.verdict?_eq_some_iff]
  constructor
  · rintro ⟨plain, strict, hPlain, hStrict, hAccepts, hRejects⟩
    exact ⟨⟨plain, hPlain, hRejects⟩, strict, hStrict, hAccepts⟩
  · rintro ⟨⟨plain, hPlain, hRejects⟩, strict, hStrict, hAccepts⟩
    exact ⟨plain, strict, hPlain, hStrict, hAccepts, hRejects⟩

instance (schema v : Json) : Decidable (schema.WidensFor v) :=
  decidable_of_iff _ Json.widensFor_iff.symm

/-- A keyword that inverts stands over an object schema. -/
def negation : Json :=
  .object [("$schema", .string "http://json-schema.org/draft-04/schema#"),
    ("not", .object [("type", .string "object")])]

/-- A reference takes an object of schemas, in which `not` is a name, for a schema. -/
def mapReference : Json :=
  .object [("$schema", .string "http://json-schema.org/draft-04/schema#"),
    ("allOf", .array [.object [("$ref", .string "#/definitions")]]),
    ("definitions", .object [("not", .object [("type", .string "object")])])]

/-- Only the first of two references counts that lead to a schema with the very same reference; the
member that closes the schema changes which one that is. -/
def selfReference : Json :=
  .object [("properties", .object [("p", .object [("$ref", .string "#/$defs/a")])]),
    ("allOf", .array [.object [("$ref", .string "#/$defs/a")]]),
    ("$defs", .object [("a", .object [("$ref", .string "#/$defs/a"),
      ("enum", .array [.object [("p", .null)]])])])]

/-- None of the conditions can be left out: the first schema has no references, and nothing that is
closed stands below an inverting keyword of the others. -/
theorem Compiled.strict_widens :
    (negation.references = [] ∧ negation.WidensFor (.object [("p", .null)])) ∧
      (isForward [] true false mapReference = true ∧
        mapReference.WidensFor (.object [("p", .null)])) ∧
      isForward [] true false selfReference = true ∧
        selfReference.WidensFor (.object [("p", .null)]) := by
  -- The kernel evaluates one schema at a time, which keeps the memory that it takes small.
  have hNegation : negation.WidensFor (.object [("p", .null)]) := by decide +kernel
  have hMapReference : mapReference.WidensFor (.object [("p", .null)]) := by decide +kernel
  have hSelfReference : selfReference.WidensFor (.object [("p", .null)]) := by decide +kernel
  exact ⟨⟨rfl, hNegation⟩, ⟨by decide +kernel, hMapReference⟩, by decide +kernel, hSelfReference⟩

end SchemaContract
