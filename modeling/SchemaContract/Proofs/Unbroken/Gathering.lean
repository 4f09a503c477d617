import SchemaContract.Proofs.Narrowing.Gathering
import SchemaContract.Proofs.Unbroken.Libraries

/-!
# Gathering plain schemas

The schemas gathered from a plain document make up a plain library, and a reference that leads to no
document is told in one line.
-/

namespace SchemaContract

open Text

theorem Ends.foldlM {ε α β : Type} {E : ε → Prop} {P : β → Prop} {f : β → α → Except ε β}
    {as : List α} (hf : ∀ b, ∀ a ∈ as, P b → Ends E P (f b a)) {b : β} (hb : P b) :
    Ends E P (as.foldlM f b) := by
  induction as generalizing b with
  | nil => exact hb
  | cons a as ih =>
    rw [List.foldlM_cons]
    refine (hf b a List.mem_cons_self hb).bind fun c hc => ?_
    exact ih (fun b a ha => hf b a (List.mem_cons_of_mem _ ha)) hc

namespace Gathering

structure Plain (g : Gathering) : Prop where
  library : g.library.Plain
  outside : ∀ e ∈ g.outside, Unbroken e.1.toList ∧ e.2.Verbatim

/-- A plain value together with references that have no escapes. -/
def Noted (e : Json × List (String × String)) : Prop :=
  e.1.isPlain = true ∧ ∀ reference ∈ e.2, Verbatim reference.2.toList

/-! ## References -/

theorem references_verbatim {schema : Json} (h : schema.isPlain = true) :
    ∀ reference ∈ references schema, Verbatim reference.2.toList := by
  have hFound : ∀ reference ∈ (schema.members?.getD []).filterMap (fun m =>
      if isReferenceKeyword m.1 then m.2.string?.map (m.1, ·) else none),
      Verbatim reference.2.toList := by
    cases schema with
    | object ms =>
      intro reference hMem
      obtain ⟨⟨k, v⟩, hMember, hText⟩ := List.mem_filterMap.mp hMem
      dsimp only at hText
      split_ifs at hText with hKeyword
      cases v with
      | string s =>
        cases hText
        obtain ⟨hPlain, hUnbroken⟩ := Json.isPlain_object_iff.mp h _ hMember
        have hUri : k ∈ Json.uriKeywords := by
          rw [isReferenceKeyword, Bool.or_eq_true, beq_iff_eq, beq_iff_eq] at hKeyword
          rcases hKeyword with rfl | rfl <;> decide
        exact ⟨Json.isPlain_string_iff.mp hUnbroken, (Json.isPlainMember_string hPlain).1 hUri⟩
      | _ => cases hText
    | _ => exact fun reference hMem => absurd hMem List.not_mem_nil
  intro reference hMem
  unfold references at hMem
  dsimp only at hMem
  split_ifs at hMem
  · exact hFound reference hMem
  · rcases List.mem_append.mp hMem with hMem | hMem
    · exact hFound reference (List.mem_filter.mp hMem).1
    · exact hFound reference (List.mem_filter.mp hMem).1

theorem noted {schema : Json} (h : schema.isPlain = true) : Noted (schema, references schema) :=
  ⟨h, references_verbatim h⟩

theorem pointedReferences_noted {holder : Json} (h : holder.isPlain = true)
    (fragment : List Char) : ∀ e ∈ pointedReferences holder fragment, Noted e := by
  intro e he
  obtain ⟨v, hv, rfl⟩ := List.mem_map.mp (List.mem_filter.mp he).1
  refine noted ?_
  have hPointed := Option.mem_toList.mp hv
  unfold pointed? at hPointed
  split at hPointed
  next =>
    cases hPointed
    exact h
  next => exact Json.isPlain_of_descend? h hPointed
  next => cases hPointed

theorem noted_left {holder : Json} {keyword text : String} {more : List (String × String)}
    {rest : List (Json × List (String × String))}
    (h : ∀ e ∈ (holder, (keyword, text) :: more) :: rest, Noted e) :
    (holder.isPlain = true ∧ Verbatim text.toList) ∧ ∀ e ∈ (holder, more) :: rest, Noted e := by
  obtain ⟨⟨hHolder, hReferences⟩, hRest⟩ := List.forall_mem_cons.mp h
  obtain ⟨hText, hMore⟩ := List.forall_mem_cons.mp hReferences
  exact ⟨⟨hHolder, hText⟩, List.forall_mem_cons.mpr ⟨⟨hHolder, hMore⟩, hRest⟩⟩

theorem noteAll_ends {base : Uri} (hBase : base.Verbatim) (budget : Nat) {g : Gathering}
    (hg : g.Plain) {items : List (Json × List (String × String))} (hItems : ∀ e ∈ items, Noted e) :
    Ends ReferenceFault.Plain Plain (noteAll base budget g items) := by
  fun_induction noteAll base budget g items with
  | case1 | case2 => exact hg
  | case3 budget g holder rest ih => exact ih hg (List.forall_mem_cons.mp hItems).2
  | case4 budget g holder keyword text more rest hPublished ih =>
    exact ih ⟨hg.library, hg.outside⟩ (List.forall_mem_cons.mp hItems).2
  | case5 budget g holder keyword text more rest hPublished hMet ih =>
    exact ih hg (noted_left hItems).2
  | case6 budget g holder keyword text more rest hPublished hMet met fragment hFragment ih =>
    obtain ⟨hNoted, hLeft⟩ := noted_left hItems
    refine ih ⟨hg.library, hg.outside⟩ (List.forall_mem_append.mpr ⟨?_, hLeft⟩)
    exact pointedReferences_noted hNoted.1 fragment
  | case7 budget g holder keyword text more rest hPublished hMet f hFault _ =>
    exact (Uri.target_ends hBase.withoutFragment (noted_left hItems).1.2).of_error hFault
  | case8 budget g holder keyword text more rest hPublished hMet met u hTarget _ ih =>
    obtain ⟨⟨hHolder, hText⟩, hLeft⟩ := noted_left hItems
    have hUri := (Uri.target_ends hBase.withoutFragment hText).of_ok hTarget
    refine ih ⟨hg.library, List.forall_mem_append.mpr ⟨hg.outside, ?_⟩⟩ hLeft
    exact List.forall_mem_singleton.mpr ⟨hText.1, hUri⟩

theorem note_ends {base : Uri} (hBase : base.Verbatim) {g : Gathering} (hg : g.Plain)
    {schema : Json} (h : schema.isPlain = true) :
    Ends ReferenceFault.Plain Plain (note g base schema) := by
  unfold note
  split_ifs
  · exact hg
  · exact noteAll_ends hBase maxSteps hg (List.forall_mem_singleton.mpr (noted h))

/-! ## The walk -/

theorem isPlain_of_mem_inside {role : Role} {v w : Json} (h : v.isPlain = true)
    (hw : w ∈ inside role v) : w.isPlain = true := by
  unfold inside at hw
  split at hw
  next => rwa [List.mem_singleton.mp hw]
  next vs => exact Json.isPlain_array_iff.mp h w hw
  next ms =>
    obtain ⟨m, hm, rfl⟩ := List.mem_map.mp hw
    exact (Json.isPlain_object_iff.mp h m hm).2
  next vs => exact Json.isPlain_array_iff.mp h w hw
  next => rwa [List.mem_singleton.mp hw]
  next => exact absurd hw List.not_mem_nil

theorem isPlain_of_mem_children {d : Dialect} {schema w : Json} (h : schema.isPlain = true)
    (hw : w ∈ children d schema) : w.isPlain = true := by
  obtain ⟨⟨k, v⟩, hm, hInside⟩ := List.mem_flatMap.mp (List.mem_filter.mp hw).1
  cases schema with
  | object ms =>
    have hv : v.isPlain = true := (Json.isPlain_object_iff.mp h _ hm).2
    exact isPlain_of_mem_inside hv hInside
  | _ => exact absurd hm List.not_mem_nil

/-- A plain schema to be visited at a base without escapes. -/
def PlainVisit (v : Visit) : Prop := v.1.Verbatim ∧ v.2.isPlain = true

theorem visit_ends (d : Dialect) {g : Gathering} (hg : g.Plain) {v : Visit} (hv : PlainVisit v) :
    Ends ReferenceFault.Plain (fun e => e.1.Plain ∧ ∀ w ∈ e.2, PlainVisit w) (visit d g v) := by
  obtain ⟨outer, schema⟩ := v
  obtain ⟨hOuter, hSchema⟩ := hv
  refine (Uri.enter_ends hOuter d hSchema).bind fun base hBase => ?_
  have hLibrary : (if namesItself d schema then g.library.addResource d base schema
      else g.library).Plain := by
    split_ifs
    · exact hg.library.addResource d hBase hSchema
    · exact hg.library
  have hStart : Plain { g with library :=
      (if namesItself d schema then g.library.addResource d base schema
        else g.library).addAnchors d base schema } :=
    ⟨hLibrary.addAnchors d hBase hSchema, hg.outside⟩
  refine (note_ends hBase hStart hSchema).bind fun noted hNoted => ?_
  refine (Ends.foldlM (fun g w hw hg => ?_) hNoted).bind fun all hAll => ?_
  · have hChild := isPlain_of_mem_children hSchema hw
    exact (Uri.enter_ends hBase d hChild).bind fun inner hInner => note_ends hInner hg hChild
  · refine ⟨hAll, List.forall_mem_map.mpr fun w hw => ?_⟩
    exact ⟨hBase, isPlain_of_mem_children hSchema hw⟩

theorem visitAll_ends (d : Dialect) (left : Nat) {g : Gathering} (hg : g.Plain)
    {visits : List Visit} (hVisits : ∀ v ∈ visits, PlainVisit v) :
    Ends ReferenceFault.Plain Plain (visitAll d left g visits) := by
  fun_induction visitAll d left g visits with
  | case1 | case2 => exact hg
  | case3 left g v rest f hFault =>
    exact (visit_ends d hg (List.forall_mem_cons.mp hVisits).1).of_error hFault
  | case4 left g v rest more inner hMore ih =>
    obtain ⟨hv, hRest⟩ := List.forall_mem_cons.mp hVisits
    obtain ⟨hPlain, hInner⟩ := (visit_ends d hg hv).of_ok hMore
    exact ih hPlain (List.forall_mem_append.mpr ⟨hRest, hInner⟩)

theorem missing?_plain {lib : Library} {reference : String × Uri} {fault : ReferenceFault}
    (hText : Unbroken reference.1.toList) (hUri : reference.2.Verbatim)
    (h : missing? lib reference = some fault) : fault.Plain := by
  unfold missing? at h
  dsimp only at h
  split_ifs at h
  · cases h
    exact ReferenceFault.plain_noBase hText
  · cases h
    refine ReferenceFault.plain_unknownScheme hUri.withoutFragment.unbroken_text ?_
    rw [String.toList_ofList]
    cases hScheme : reference.2.withoutFragment.scheme with
    | none => exact unbroken_nil
    | some scheme => exact (hUri.scheme scheme hScheme).1

theorem ofDocument_ends (d : Dialect) {uri : Uri} (hUri : uri.Verbatim) {document : Json}
    (h : document.isPlain = true) :
    Ends ReferenceFault.Plain Plain (ofDocument d uri document) := by
  have hStart : Plain ⟨Library.empty.addResource d uri document, [], [], false⟩ :=
    ⟨Library.plain_empty.addResource d hUri h, fun e he => absurd he List.not_mem_nil⟩
  have hVisits : ∀ v ∈ [(uri, document)], PlainVisit v := List.forall_mem_singleton.mpr ⟨hUri, h⟩
  have hAll := visitAll_ends d maxSteps hStart hVisits
  unfold ofDocument
  dsimp only
  split
  next f hFault => exact hAll.of_error hFault
  next g hGathered =>
    have hg := hAll.of_ok hGathered
    split
    next f hMissing =>
      obtain ⟨reference, hMem, hFault⟩ := List.exists_of_findSome?_eq_some hMissing
      obtain ⟨hText, hOutside⟩ := hg.outside reference hMem
      exact missing?_plain hText hOutside hFault
    next => exact hg

end Gathering

end SchemaContract
