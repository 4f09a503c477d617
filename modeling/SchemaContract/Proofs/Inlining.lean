import SchemaContract.Proofs.Construction
import SchemaContract.Proofs.Meanings
import SchemaContract.Proofs.StrictMode

/-!
# References and the schemas they name

A reference to a supplied schema and that schema written in its place mean the same: the one was
compiled under its name when the registry was built, the other is compiled when it is met, and a
boolean is not compiled at all there. So a call does not show which of the two stands in a contract.
-/

namespace SchemaContract

namespace Compiled

variable {config : Config} {label : String} {schema : Json} {c : Compiled}

/-- A label only shows in what a schema that does not compile is refused with. -/
theorem compile_relabel (h : compile config label schema = .ok c) (label' : String) :
    compile config label' schema = .ok c := by
  rw [compile_eq_ok_iff] at h ⊢
  exact h

/-! ## Boolean schemas -/

theorem sourceOf_bool (config : Config) (b : Bool) : sourceOf config (.bool b) = .bool b := by
  rw [sourceOf]
  cases config.strict <;> rfl

theorem exists_compile_bool (config : Config) (label : String) (b : Bool) :
    ∃ c, compile config label (.bool b) = .ok c := by
  refine Registry.exists_compile_elementary config label ?_
  cases b with
  | true => exact List.mem_cons_self
  | false => exact List.mem_cons_of_mem _ List.mem_cons_self

theorem failures_bool {formats b : Bool} {p : Program}
    (h : Validation.compile formats (.bool b) = .ok p) (v : Json) :
    p.failures v = if b then [] else [.plain .root .falseSchema] := by
  obtain ⟨d, base, lib, T, -, -, hRoot, -⟩ := Validation.exists_linkage h
  have hRule : (if b then Rule.accept else .reject) = p.root := Compile.gives_pure.mp hRoot
  rw [Program.failures, ← hRule]
  cases b <;> rfl

theorem falseSchema_line (source : Json) (label : String) :
    (Failure.plain .root .falseSchema).line source label = Resolved.falseLine label := by
  have hText : (Failure.plain .root .falseSchema).text source = " " ++ Reason.ofFalseSchema := by
    rw [Failure.text, show (Failure.plain .root .falseSchema).reported.path = "" by decide]
    rfl
  rw [Failure.line, hText, Resolved.falseLine, String.append_assoc]

end Compiled

/-- What a boolean schema means where it is not compiled. -/
def Resolved.ofBool (b : Bool) : Resolved := if b then .accept else .reject

theorem Resolved.alike_ofBool {config : Config} {label : String} {b : Bool} {c : Compiled}
    (h : Compiled.compile config label (.bool b) = .ok c) :
    Resolved.Alike (.compiled c) (.ofBool b) := by
  rw [Compiled.compile_eq_ok_iff, Compiled.sourceOf_bool] at h
  obtain ⟨hSource, hProgram⟩ := h
  constructor
  · intro label v
    rw [check, Compiled.check, Compiled.failures_bool hProgram]
    cases b with
    | true => rfl
    | false => exact congrArg some (Compiled.falseSchema_line c.source label)
  · intro label
    rw [checkAbsent, Compiled.checkAbsent, hSource]
    cases b <;> rfl

/-! ## Supplied schemas -/

/-- The second schema is the first one, or stands inline for the supplied schema that the first one
refers to. -/
inductive Schema.Inlined (entries : List (String × Json)) : Schema → Schema → Prop where
  | kept (s : Schema) : Inlined entries s s
  | inline {e : String × Json} {s : Schema} (he : e ∈ entries) (hs : ofJson e.2 = .ok s) :
      Inlined entries (.reference e.1) s

/-- The parameters are the same but for references that are replaced by what they refer to. -/
def Parameters.Inlined (entries : List (String × Json)) (ps ps' : Parameters) : Prop :=
  List.Forall₂ (fun p p' => ∃ s, p.schema.Inlined entries s ∧ p' = { p with schema := s })
    ps.items ps'.items

namespace Registry

variable {config : Config} {entries : List (String × Json)} {r : Registry}

/-- A supplied schema has a meaning where it stands inline, and it is the one that it has under its
name. -/
theorem resolve_supplied (hBuild : build config (.object entries) = .ok r)
    (hDistinct : (entries.map (·.1)).Nodup) {e : String × Json} (he : e ∈ entries) :
    ∃ s m m', Schema.ofJson e.2 = .ok s ∧ r.resolve s = .ok m ∧
      r.resolve (.reference e.1) = .ok m' ∧ m'.Alike m := by
  have hHolds := holds_of_build hBuild hDistinct
  obtain ⟨c, hGet, hCompile⟩ := hHolds.get?_eq e (List.mem_append_left _ he)
  have hReference : r.resolve (.reference e.1) = .ok (.compiled c) := by rw [resolve, hGet]
  obtain ⟨b, hSchema⟩ | ⟨members, hSchema⟩ := schema_of_build hBuild he
  · rw [hSchema] at hCompile ⊢
    have hAlike := Resolved.alike_ofBool hCompile
    cases b with
    | true => exact ⟨.accept, _, _, rfl, rfl, hReference, hAlike⟩
    | false => exact ⟨.reject, _, _, rfl, rfl, hReference, hAlike⟩
  · rw [hSchema] at hCompile ⊢
    refine ⟨.definition members, .compiled c, _, rfl, ?_, hReference, .refl _⟩
    rw [resolve, hHolds.configured, Compiled.compile_relabel hCompile "schema"]

theorem meansAlike_of_inlined (hBuild : build config (.object entries) = .ok r)
    (hDistinct : (entries.map (·.1)).Nodup) {s s' : Schema} (h : s.Inlined entries s') :
    s.MeansAlike r r s' := by
  cases h with
  | kept => exact .of_resolve_eq rfl
  | inline he hs =>
    obtain ⟨t, m, m', ht, hm, hm', hAlike⟩ := resolve_supplied hBuild hDistinct he
    cases hs.symm.trans ht
    exact .alike hm' hm hAlike

/-- A supplied schema and the reference to it check alike, and no call changes when references to
supplied schemas are replaced by these, in any of its places. -/
theorem call_inlined (hBuild : build config (.object entries) = .ok r)
    (hDistinct : (entries.map (·.1)).Nodup) :
    (∀ e ∈ entries, ∃ s m m', Schema.ofJson e.2 = .ok s ∧ r.resolve s = .ok m ∧
      r.resolve (.reference e.1) = .ok m' ∧
      (∀ label v, m.check label v = m'.check label v) ∧
      ∀ label, m.checkAbsent label = m'.checkAbsent label) ∧
    ∀ ps ps' result result', ps.Inlined entries ps' →
      Option.Rel (Schema.Inlined entries) result result' →
      r.CallsAlike r ps ps' result result' := by
  refine ⟨fun e he => ?_, fun ps ps' result result' hParameters hResult => ?_⟩
  · obtain ⟨s, m, m', hs, hm, hm', hAlike⟩ := resolve_supplied hBuild hDistinct he
    exact ⟨s, m, m', hs, hm, hm', fun label v => (hAlike.check label v).symm,
      fun label => (hAlike.checkAbsent label).symm⟩
  · refine callsAlike_of_meansAlike (hParameters.imp ?_) ?_
    · rintro p _ ⟨s, hs, rfl⟩
      exact ⟨rfl, rfl, rfl, meansAlike_of_inlined hBuild hDistinct hs⟩
    · cases hResult with
      | none => exact .none
      | some hs => exact .some (meansAlike_of_inlined hBuild hDistinct hs)

def titleAndNever : List (String × Json) :=
  [("todo/title", .object [("type", .string "string")]), ("never", .bool false)]

theorem exists_build_titleAndNever (config : Config) :
    ∃ r, build config (.object titleAndNever) = .ok r := by
  refine exists_build ⟨rfl, by decide, by decide⟩ ?_
  rintro e (_ | ⟨_, _ | ⟨_, ⟨⟩⟩⟩)
  · exact compile_aliasOf config _ .string
  · exact Compiled.exists_compile_bool config _ false

theorem call_inlined_titleAndNever :
    (titleAndNever.map (·.1)).Nodup ∧
      ∃ r, build { Config.standard with strict := true } (.object titleAndNever) = .ok r ∧
        r.CallsAlike r
          (.positional [(.string "a", .reference "todo/title"), (.null, .reference "never")])
          (.positional [(.string "a", .reference "todo/title"), (.null, .reject)])
          (some (.reference "todo/title")) (some (.definition [("type", .string "string")])) := by
  have hDistinct : (titleAndNever.map (·.1)).Nodup := by decide
  obtain ⟨r, hBuild⟩ := exists_build_titleAndNever { Config.standard with strict := true }
  refine ⟨hDistinct, r, hBuild, (call_inlined hBuild hDistinct).2 _ _ _ _ ?_ ?_⟩
  · have hNever : Schema.Inlined titleAndNever (.reference "never") .reject :=
      .inline (List.mem_cons_of_mem _ List.mem_cons_self) rfl
    exact .cons ⟨_, .kept _, rfl⟩ (.cons ⟨_, hNever, rfl⟩ .nil)
  · exact .some (.inline List.mem_cons_self rfl)

end Registry

end SchemaContract
