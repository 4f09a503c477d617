import SchemaContract.Proofs.Unbroken.Faults
import SchemaContract.Validation.Linking

/-!
# Libraries of plain schemas

What a reference of a plain schema leads to in a library of plain schemas is plain again, and so is
the fault where it leads nowhere.
-/

namespace SchemaContract

open Text

structure Resource.Plain (r : Resource) : Prop where
  uri : r.uri.Verbatim
  contents : r.contents.isPlain = true

structure AnchorPoint.Plain (a : AnchorPoint) : Prop where
  uri : a.uri.Verbatim
  contents : a.contents.isPlain = true

structure Library.Plain (lib : Library) : Prop where
  resources : ∀ r ∈ lib.resources, r.Plain
  anchors : ∀ a ∈ lib.anchors, a.Plain

structure Scope.Plain (scope : Scope) : Prop where
  uris : ∀ u ∈ scope.uris, u.Verbatim
  recursive : ∀ u ∈ scope.recursive, u.Verbatim

structure Target.Plain (t : Target) : Prop where
  base : t.base.Verbatim
  scope : t.scope.Plain
  contents : t.contents.isPlain = true

theorem Scope.plain_empty : Scope.empty.Plain := ⟨fun _ h => absurd h List.not_mem_nil, nofun⟩

namespace Library

/-! ## Making libraries -/

theorem plain_empty : empty.Plain :=
  ⟨fun _ h => absurd h List.not_mem_nil, fun _ h => absurd h List.not_mem_nil⟩

namespace Plain

variable {lib : Library}

theorem append {other : Library} (h : lib.Plain) (hOther : other.Plain) :
    (lib.append other).Plain :=
  ⟨List.forall_mem_append.mpr ⟨h.resources, hOther.resources⟩,
    List.forall_mem_append.mpr ⟨h.anchors, hOther.anchors⟩⟩

theorem addResource (h : lib.Plain) (d : Dialect) {uri : Uri} (hUri : uri.Verbatim)
    {contents : Json} (hContents : contents.isPlain = true) :
    (lib.addResource d uri contents).Plain :=
  ⟨List.forall_mem_cons.mpr ⟨⟨hUri, hContents⟩, h.resources⟩, h.anchors⟩

theorem addAnchors (h : lib.Plain) (d : Dialect) {uri : Uri} (hUri : uri.Verbatim)
    {contents : Json} (hContents : contents.isPlain = true) :
    (lib.addAnchors d uri contents).Plain := by
  refine ⟨h.resources, List.forall_mem_append.mpr ⟨?_, h.anchors⟩⟩
  intro a ha
  obtain ⟨point, -, rfl⟩ := List.mem_map.mp (List.mem_reverse.mp ha)
  exact ⟨hUri, hContents⟩

theorem add (h : lib.Plain) (d : Dialect) {uri : Uri} (hUri : uri.Verbatim)
    {contents : Json} (hContents : contents.isPlain = true) : (lib.add d uri contents).Plain :=
  (h.addResource d hUri hContents).addAnchors d hUri hContents

/-! ## Looking into libraries -/

theorem resource? (h : lib.Plain) {uri : Uri} {r : Resource} (hr : lib.resource? uri = some r) :
    r.Plain :=
  h.resources r (List.mem_of_find?_eq_some hr)

theorem anchorAt? (h : lib.Plain) {uri : Uri} {name : String} {a : AnchorPoint}
    (ha : lib.anchorAt? uri name = some a) : a.Plain :=
  h.anchors a (List.mem_of_find?_eq_some ha)

theorem anchor? (h : lib.Plain) {uri : Uri} {name : String} {a : AnchorPoint}
    (ha : lib.anchor? uri name = some a) : a.Plain := by
  unfold Library.anchor? at ha
  split at ha
  next own hOwn =>
    cases ha
    exact h.anchorAt? hOwn
  next =>
    obtain ⟨own, -, ha⟩ := Option.bind_eq_some_iff.mp ha
    exact h.anchorAt? ha

theorem outermost? (h : lib.Plain) {scope : Scope} {name : String} {a : AnchorPoint}
    (ha : lib.outermost? scope name = some a) : a.Plain := by
  obtain ⟨u, -, hu⟩ := List.exists_of_findSome?_eq_some ha
  exact h.anchorAt? (Option.filter_eq_some_iff.mp hu).1

end Plain

theorem scopeInto_plain (lib : Library) {base : Uri} (hBase : base.Verbatim) {scope : Scope}
    (hScope : scope.Plain) (next : Uri) : (lib.scopeInto base scope next).Plain := by
  have hMore : ∀ u ∈ scope.uris ++ [base], u.Verbatim :=
    List.forall_mem_append.mpr ⟨hScope.uris, List.forall_mem_singleton.mpr hBase⟩
  have hOuter : ∀ u ∈ some (scope.recursive.getD base), u.Verbatim := by
    refine forall_mem_some ?_
    cases hRecursive : scope.recursive with
    | none => exact hBase
    | some outer => exact hScope.recursive outer hRecursive
  unfold scopeInto
  split_ifs
  · exact ⟨hScope.uris, hOuter⟩
  · exact ⟨hScope.uris, nofun⟩
  · exact ⟨hMore, hOuter⟩
  · exact ⟨hMore, nofun⟩
  · exact hScope

/-! ## Pointers -/

theorem stepInto_ends {raw : String} (hRaw : Unbroken raw.toList) {v : Json}
    (hv : v.isPlain = true) {segment : List Char} (hSegment : Unbroken segment) :
    Ends ReferenceFault.Plain (fun e => e.2.isPlain = true) (stepInto raw v segment) := by
  have hText : Unbroken (String.ofList segment).toList := by rwa [String.toList_ofList]
  unfold stepInto
  split
  next vs =>
    split
    next => exact ReferenceFault.plain_badIndex hRaw hText
    next i _ =>
      split
      next w hw => exact Json.isPlain_array_iff.mp hv w (List.mem_of_getElem? hw)
      next => exact ReferenceFault.plain_noPointer hRaw
  next ms =>
    dsimp only
    split
    next w hw => exact Json.isPlain_of_lookup hv hw
    next => exact ReferenceFault.plain_noPointer hRaw
  next => exact ReferenceFault.plain_noPointer hRaw

theorem descend_ends {raw : String} (hRaw : Unbroken raw.toList) (d : Dialect) {base : Uri}
    (hBase : base.Verbatim) {way : List Step} {v : Json} (hv : v.isPlain = true)
    {segments : List (List Char)} (hSegments : ∀ s ∈ segments, Unbroken s) :
    Ends ReferenceFault.Plain (fun e => e.1.Verbatim ∧ e.2.isPlain = true)
      (descend raw d base way v segments) := by
  induction segments generalizing base way v with
  | nil => exact ⟨hBase, hv⟩
  | cons segment segments ih =>
    obtain ⟨hSegment, hRest⟩ := List.forall_mem_cons.mp hSegments
    have hStep := stepInto_ends hRaw hv hSegment
    rw [descend]
    split
    next f hFault => exact hStep.of_error hFault
    next step w hw =>
      have hPlain : w.isPlain = true := hStep.of_ok hw
      have hInner : ∀ toSchema : Bool, Ends ReferenceFault.Plain Uri.Verbatim
          (if toSchema then base.enter d w else .ok base) := by
        intro toSchema
        split_ifs
        · exact Uri.enter_ends hBase d hPlain
        · exact hBase
      dsimp only
      split
      next f hFault => exact (hInner _).of_error hFault
      next inner hEnter => exact ih ((hInner _).of_ok hEnter) hPlain hRest

theorem pointerTarget_ends {r : Resource} (hr : r.Plain) {scope : Scope} (hScope : scope.Plain)
    {fragment : List Char} (hFragment : Verbatim fragment) :
    Ends ReferenceFault.Plain Target.Plain (pointerTarget r scope fragment) := by
  have hRaw : Unbroken (String.ofList fragment).toList := by
    rw [String.toList_ofList]
    exact hFragment.1
  have hTail : Verbatim fragment.tail := hFragment.subset fun _ => List.mem_of_mem_tail
  -- There are no escapes, so the pointer stands for itself.
  have hPlain : unescape? fragment.tail = some fragment.tail := by
    rw [unescape?, if_neg (by simpa using hTail.2)]
  unfold pointerTarget
  dsimp only
  rw [hPlain]
  refine (descend_ends hRaw r.dialect hr.uri hr.contents fun s hs => ?_).map fun e he => ?_
  · exact hTail.1.subset (subset_of_mem_pieces hs)
  · exact ⟨he.1, hScope, he.2⟩

theorem anchorTarget_ends {lib : Library} (h : lib.Plain) {uri : Uri} (hUri : uri.Verbatim)
    {scope : Scope} (hScope : scope.Plain) {fragment : List Char} (hFragment : Verbatim fragment) :
    Ends ReferenceFault.Plain Target.Plain (lib.anchorTarget uri scope fragment) := by
  have hName : Unbroken (String.ofList fragment).toList := by
    rw [String.toList_ofList]
    exact hFragment.1
  unfold anchorTarget
  dsimp only
  split
  next =>
    split_ifs
    · exact ReferenceFault.plain_badAnchor hName
    · exact ReferenceFault.plain_noAnchor hName
  next own hOwn =>
    have hPlain := h.anchor? hOwn
    have hOuter : ((lib.outermost? scope (String.ofList fragment)).getD own).Plain := by
      cases hOuter : lib.outermost? scope (String.ofList fragment) with
      | none => exact hPlain
      | some a => exact h.outermost? hOuter
    split_ifs
    · exact ⟨hOuter.uri, hScope, hOuter.contents⟩
    · exact ⟨hUri, hScope, hPlain.contents⟩

/-! ## References -/

theorem cutAt_subset (sep : Char) (cs : List Char) :
    (cutAt sep cs).1 ⊆ cs ∧ ∀ rest ∈ (cutAt sep cs).2, rest ⊆ cs := by
  induction cs with
  | nil => exact ⟨List.Subset.refl _, nofun⟩
  | cons c cs ih =>
    rw [cutAt]
    split_ifs
    · exact ⟨List.nil_subset _, forall_mem_some (List.subset_cons_self c cs)⟩
    · exact ⟨List.cons_subset_cons c ih.1, fun rest hRest =>
        List.subset_cons_of_subset c (ih.2 rest hRest)⟩

theorem cutFragment_verbatim {reference : List Char} (h : Verbatim reference) :
    Verbatim (cutFragment reference).1 ∧ Verbatim (cutFragment reference).2 := by
  obtain ⟨hFirst, hSecond⟩ := cutAt_subset '#' reference.reverse
  have hBack : ∀ cs ⊆ reference.reverse, Verbatim cs.reverse := fun cs hcs =>
    h.subset fun c hc => List.mem_reverse.mp (hcs (List.mem_reverse.mp hc))
  unfold cutFragment
  split
  next fragment head hCut =>
    rw [hCut] at hFirst hSecond
    exact ⟨hBack head (hSecond head rfl), hBack fragment hFirst⟩
  next => exact ⟨h, verbatim_nil⟩

theorem split_ends {base : Uri} (hBase : base.Verbatim) {reference : List Char}
    (h : Verbatim reference) :
    Ends ReferenceFault.Plain (fun e => e.1.Verbatim ∧ Verbatim e.2) (split base reference) := by
  unfold split
  split
  next f hFault => exact (Uri.target_ends hBase h).of_error hFault
  next u fragment _ => exact ⟨hBase, (verbatim_cons.mp h).2⟩
  next =>
    obtain ⟨hHead, hFragment⟩ := cutFragment_verbatim h
    exact (Uri.target_ends hBase hHead).map fun uri hUri => ⟨hUri, hFragment⟩

theorem target_ends {lib : Library} (h : lib.Plain) {base : Uri} (hBase : base.Verbatim)
    {scope : Scope} (hScope : scope.Plain) {reference : List Char}
    (hReference : Verbatim reference) :
    Ends ReferenceFault.Plain Target.Plain (lib.target base scope reference) := by
  have hSplit := split_ends hBase hReference
  unfold target
  split
  next f hFault => exact hSplit.of_error hFault
  next uri fragment hParts =>
    obtain ⟨hUri, hFragment⟩ := hSplit.of_ok hParts
    split
    next => exact ReferenceFault.plain_notLoaded hUri.unbroken_text
    next r hResource =>
      have hr := h.resource? hResource
      have hInto := lib.scopeInto_plain hBase hScope uri
      dsimp only
      split
      next => exact ⟨hUri, hInto, hr.contents⟩
      next => exact pointerTarget_ends hr hInto hFragment
      next => exact anchorTarget_ends h hUri hInto hFragment

theorem recursiveTarget_ends {lib : Library} (h : lib.Plain) {base : Uri} (hBase : base.Verbatim)
    {scope : Scope} (hScope : scope.Plain) :
    Ends ReferenceFault.Plain Target.Plain (lib.recursiveTarget base scope) := by
  unfold recursiveTarget
  split
  next outer hOuter =>
    split_ifs
    · exact target_ends h hBase hScope (hScope.recursive outer hOuter).toChars
    · exact target_ends h hBase hScope (by decide)
  next => exact target_ends h hBase hScope (by decide)

end Library

end SchemaContract
