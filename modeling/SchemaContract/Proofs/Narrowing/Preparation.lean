import SchemaContract.Proofs.Narrowing.Gathering
import SchemaContract.Validation

/-!
# Documents that are prepared side by side

A document and its closed form have one dialect and one base, and their libraries stand beside each
other. The meta-schemas that both may refer to are not closed.
-/

namespace SchemaContract

open Closing

variable {stable : List (String × String)} {ok : String × String → Prop}

/-- The references in the documents of a library. -/
def Library.RefersBy (lib : Library) (e : String × String) : Prop :=
  ∃ r ∈ lib.resources, e ∈ r.contents.references

/-! ## Meta-schemas -/

namespace MetaSchema

theorem isForward_documents (d : Dialect) : ∀ document ∈ documents d,
    isForward [] false false document = true ∧ document.hasDistinctNames = true := by
  cases d <;> decide +kernel

/-- A library with documents from a list alone, and with anchors that lie in them. -/
def IsMadeOf (lib : Library) (list : List Json) : Prop :=
  (∀ r ∈ lib.resources, r.contents ∈ list) ∧
    ∀ a ∈ lib.anchors, ∃ r ∈ lib.resources, r.contents = a.contents

theorem isMadeOf_empty (list : List Json) : IsMadeOf .empty list :=
  ⟨fun _ h => absurd h List.not_mem_nil, fun _ h => absurd h List.not_mem_nil⟩

theorem IsMadeOf.add {lib : Library} {list : List Json} (h : IsMadeOf lib list) (d : Dialect)
    (uri : Uri) {document : Json} (hDocument : document ∈ list) :
    IsMadeOf (lib.add d uri document) list := by
  obtain ⟨hResources, hAnchors⟩ := h
  refine ⟨fun r hr => ?_, fun a ha => ?_⟩
  · rcases List.mem_cons.mp hr with rfl | hr
    · exact hDocument
    · exact hResources r hr
  · rcases List.mem_append.mp ha with ha | ha
    · obtain ⟨point, -, rfl⟩ := List.mem_map.mp (List.mem_reverse.mp ha)
      exact ⟨_, List.mem_cons_self, rfl⟩
    · obtain ⟨r, hr, hContents⟩ := hAnchors a ha
      exact ⟨r, List.mem_cons_of_mem _ hr, hContents⟩

theorem library_isMadeOf (d : Dialect) : IsMadeOf (library d) (documents d) := by
  unfold library
  refine List.foldlRecOn (motive := fun lib => IsMadeOf lib (documents d)) _ _ (isMadeOf_empty _)
    fun lib ih document hDocument => ?_
  split
  next uri hUri => exact ih.add d uri hDocument
  next => exact ih

theorem library_beside (d : Dialect) (hOk : ∀ e, (library d).RefersBy e → ok e) :
    (library d).Beside stable ok (library d) := by
  obtain ⟨hResources, hAnchors⟩ := library_isMadeOf d
  have hSchemas : ∀ r ∈ (library d).resources, Schemas stable ok r.contents r.contents := by
    intro r hr
    obtain ⟨hForward, hDistinct⟩ := isForward_documents d r.contents (hResources r hr)
    refine ⟨false, .refl (isForward_open (by simp) hForward) hDistinct fun e he => ?_⟩
    exact hOk e ⟨r, hr, he⟩
  constructor
  · exact List.forall₂_same.mpr fun r hr => ⟨rfl, rfl, hSchemas r hr⟩
  · refine List.forall₂_same.mpr fun a ha => ⟨rfl, rfl, rfl, rfl, ?_⟩
    obtain ⟨r, hr, hContents⟩ := hAnchors a ha
    rw [← hContents]
    exact hSchemas r hr

end MetaSchema

/-! ## Preparing -/

namespace Validation

theorem dialectOf_eq {v v' : Json} (hv : Schemas stable ok v v') : dialectOf v' = dialectOf v := by
  have hText : ∀ w, dialectOf w =
      ((w.get? "$schema").bind Json.string?).elim (.ok .draft2020) fun s =>
        (Dialect.ofUri? s).elim
          (.error (.unknownDialect (String.ofList (Dialect.trimSigns s.toList)))) .ok := by
    intro w
    unfold dialectOf
    cases w.get? "$schema" with
    | none => rfl
    | some u =>
      cases u with
      | string s =>
        dsimp only [Option.bind_some, Json.string?, Option.elim_some]
        cases Dialect.ofUri? s <;> rfl
      | _ => rfl
  obtain ⟨closed, hv⟩ := hv
  rw [hText, hText, hv.get?_text_eq]

theorem prepare_eq_ok_iff {v : Json} {d : Dialect} {base : Uri} {lib : Library} :
    prepare v = .ok (d, base, lib) ↔
      ∃ uri g, dialectOf v = .ok d ∧ Uri.unnamed.enter d v = .ok uri ∧
        Gathering.ofDocument d uri v = .ok g ∧ uri.enter d v = .ok base ∧
          lib = if g.published then g.library.append (MetaSchema.library d) else g.library := by
  unfold prepare
  constructor
  · intro h
    obtain ⟨d, hDialect, h⟩ := exceptBind_eq_ok_iff.mp h
    obtain ⟨uri, hUri, h⟩ := exceptBind_eq_ok_iff.mp h
    obtain ⟨lib, hLibrary, h⟩ := exceptBind_eq_ok_iff.mp h
    obtain ⟨base, hBase, h⟩ := exceptBind_eq_ok_iff.mp h
    cases h
    obtain ⟨g, hGathering, rfl⟩ := exceptMap_eq_ok_iff.mp hLibrary
    exact ⟨uri, g, hDialect, hUri, hGathering, hBase, rfl⟩
  · rintro ⟨uri, g, hDialect, hUri, hGathering, hBase, rfl⟩
    refine exceptBind_eq_ok_iff.mpr ⟨d, hDialect, ?_⟩
    refine exceptBind_eq_ok_iff.mpr ⟨uri, hUri, ?_⟩
    refine exceptBind_eq_ok_iff.mpr ⟨_, exceptMap_eq_ok_iff.mpr ⟨g, hGathering, rfl⟩, ?_⟩
    exact exceptBind_eq_ok_iff.mpr ⟨base, hBase, rfl⟩

theorem refersBy_of_mem {v : Json} {d : Dialect} {base : Uri} {lib : Library}
    (h : prepare v = .ok (d, base, lib)) {e : String × String} (he : e ∈ v.references) :
    lib.RefersBy e := by
  obtain ⟨uri, g, -, -, hGathering, -, rfl⟩ := prepare_eq_ok_iff.mp h
  have hMem := Gathering.document_mem hGathering
  split
  next => exact ⟨_, List.mem_append_left _ hMem, he⟩
  next => exact ⟨_, hMem, he⟩

theorem prepare_rel {v v' : Json} {d : Dialect} {base : Uri} {lib : Library}
    (h : prepare v = .ok (d, base, lib)) (hv : Schemas stable ok v v')
    (hOk : ∀ e, lib.RefersBy e → ok e) :
    ∃ lib', prepare v' = .ok (d, base, lib') ∧ lib.Beside stable ok lib' := by
  obtain ⟨uri, g, hDialect, hUri, hGathering, hBase, rfl⟩ := prepare_eq_ok_iff.mp h
  have hRel := Gathering.ofDocument_rel d uri hv
  rw [hGathering] at hRel
  generalize hOther : Gathering.ofDocument d uri v' = found' at hRel
  cases hRel with
  | @ok _ g' hBeside =>
    refine ⟨if g.published then g'.library.append (MetaSchema.library d) else g'.library, ?_, ?_⟩
    · rw [← hBeside.published]
      refine prepare_eq_ok_iff.mpr ⟨uri, g', (dialectOf_eq hv).trans hDialect, ?_, hOther, ?_, rfl⟩
      · exact (Gathering.enter_eq _ d hv).trans hUri
      · exact (Gathering.enter_eq _ d hv).trans hBase
    · split at hOk
      next hPublished =>
        rw [if_pos hPublished, if_pos hPublished]
        refine hBeside.library.append (MetaSchema.library_beside d fun e he => hOk e ?_)
        obtain ⟨r, hr, hMem⟩ := he
        exact ⟨r, List.mem_append_right _ hr, hMem⟩
      next hPlain =>
        rw [if_neg hPlain, if_neg hPlain]
        exact hBeside.library

end Validation

end SchemaContract
