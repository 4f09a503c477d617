import SchemaContract.Proofs.Lists
import SchemaContract.Proofs.Narrowing.Names
import SchemaContract.Proofs.Plans

/-!
# Libraries side by side

The library of a document and that of its closed form know the same URIs and anchors, and what
stands there are counterparts. A reference leads to counterparts, unless it leads to an object of
schemas.
-/

namespace SchemaContract

open Closing

variable {stable : List (String × String)} {ok : String × String → Prop}

structure Resource.Beside (stable : List (String × String)) (ok : String × String → Prop)
    (r r' : Resource) : Prop where
  uri : r'.uri = r.uri
  dialect : r'.dialect = r.dialect
  contents : Schemas stable ok r.contents r'.contents

structure AnchorPoint.Beside (stable : List (String × String)) (ok : String × String → Prop)
    (a a' : AnchorPoint) : Prop where
  uri : a'.uri = a.uri
  name : a'.name = a.name
  dynamic : a'.dynamic = a.dynamic
  dialect : a'.dialect = a.dialect
  contents : Schemas stable ok a.contents a'.contents

structure Target.Beside (stable : List (String × String)) (ok : String × String → Prop)
    (t t' : Target) : Prop where
  key : t'.key = t.key
  dialect : t'.dialect = t.dialect
  contents : Schemas stable ok t.contents t'.contents

structure Library.Beside (stable : List (String × String)) (ok : String × String → Prop)
    (lib lib' : Library) : Prop where
  resources : List.Forall₂ (Resource.Beside stable ok) lib.resources lib'.resources
  anchors : List.Forall₂ (AnchorPoint.Beside stable ok) lib.anchors lib'.anchors

/-! ## Looking up -/

theorem getElem?_rel {α β : Type} {R : α → β → Prop} {as : List α} {bs : List β}
    (h : List.Forall₂ R as bs) (i : Nat) :
    (as[i]? = none ∧ bs[i]? = none) ∨ ∃ a b, as[i]? = some a ∧ bs[i]? = some b ∧ R a b := by
  induction h generalizing i with
  | nil => exact .inl ⟨rfl, rfl⟩
  | @cons a b as bs hab _ ih =>
    cases i with
    | zero => exact .inr ⟨a, b, rfl, rfl, hab⟩
    | succ i => exact ih i

theorem Resource.Beside.ownUri?_eq {r r' : Resource} (h : r.Beside stable ok r') :
    Library.Resource.ownUri? r' = Library.Resource.ownUri? r := by
  obtain ⟨closed, hContents⟩ := h.contents
  unfold Library.Resource.ownUri?
  rw [h.dialect, hContents.enter_eq]

namespace Library.Beside

variable {lib lib' : Library}

theorem append (h : lib.Beside stable ok lib') {more more' : Library}
    (hMore : more.Beside stable ok more') :
    (lib.append more).Beside stable ok (lib'.append more') :=
  ⟨List.rel_append h.resources hMore.resources, List.rel_append h.anchors hMore.anchors⟩

theorem addResource (h : lib.Beside stable ok lib') (d : Dialect) (uri : Uri) {v v' : Json}
    (hv : Schemas stable ok v v') :
    (lib.addResource d uri v).Beside stable ok (lib'.addResource d uri v') :=
  ⟨.cons ⟨rfl, rfl, hv⟩ h.resources, h.anchors⟩

theorem addAnchors (h : lib.Beside stable ok lib') (d : Dialect) (uri : Uri) {v v' : Json}
    (hv : Schemas stable ok v v') :
    (lib.addAnchors d uri v).Beside stable ok (lib'.addAnchors d uri v') := by
  have hAnchors : d.anchors (v'.members?.getD []) = d.anchors (v.members?.getD []) := by
    obtain ⟨closed, hv⟩ := hv
    cases hv.kindred with
    | scalar => rfl
    | array => rfl
    | object ms ms' => exact hv.anchors_eq d
  refine ⟨h.resources, ?_⟩
  unfold Library.addAnchors
  dsimp only
  rw [hAnchors]
  refine List.rel_append (List.rel_reverse ?_) h.anchors
  rw [List.forall₂_map_left_iff, List.forall₂_map_right_iff]
  exact List.forall₂_same.mpr fun a ha => ⟨rfl, rfl, rfl, rfl, hv⟩

theorem resource?_rel (h : lib.Beside stable ok lib') (uri : Uri) :
    Option.Rel (Resource.Beside stable ok) (lib.resource? uri) (lib'.resource? uri) :=
  find?_rel (fun _ _ hr => by rw [hr.uri]) h.resources

theorem anchorAt?_rel (h : lib.Beside stable ok lib') (uri : Uri) (name : String) :
    Option.Rel (AnchorPoint.Beside stable ok) (lib.anchorAt? uri name) (lib'.anchorAt? uri name) :=
  find?_rel (fun _ _ ha => by rw [ha.uri, ha.name]) h.anchors

theorem anchor?_rel (h : lib.Beside stable ok lib') (uri : Uri) (name : String) :
    Option.Rel (AnchorPoint.Beside stable ok) (lib.anchor? uri name) (lib'.anchor? uri name) := by
  have hAnchor := h.anchorAt?_rel uri name
  have hResource := h.resource?_rel uri
  have hOwn : (lib'.resource? uri).bind Resource.ownUri? =
      (lib.resource? uri).bind Resource.ownUri? := by
    generalize lib'.resource? uri = found' at hResource ⊢
    generalize lib.resource? uri = found at hResource ⊢
    cases hResource with
    | none => rfl
    | some hr => exact hr.ownUri?_eq
  unfold Library.anchor?
  rw [hOwn]
  generalize lib'.anchorAt? uri name = found' at hAnchor ⊢
  generalize lib.anchorAt? uri name = found at hAnchor ⊢
  cases hAnchor with
  | some ha => exact .some ha
  | none =>
    cases (lib.resource? uri).bind Resource.ownUri? with
    | none => exact .none
    | some own => exact h.anchorAt?_rel own name

theorem isRecursive_eq (h : lib.Beside stable ok lib') (uri : Uri) :
    lib'.isRecursive uri = lib.isRecursive uri := by
  have hResource := h.resource?_rel uri
  unfold Library.isRecursive
  generalize lib'.resource? uri = found' at hResource ⊢
  generalize lib.resource? uri = found at hResource ⊢
  cases hResource with
  | none => rfl
  | some hr =>
    obtain ⟨closed, hContents⟩ := hr.contents
    dsimp only [Option.bind_some]
    rw [hContents.get?_eq (by decide)]

theorem scopeInto_eq (h : lib.Beside stable ok lib') (base : Uri) (scope : Scope) (next : Uri) :
    lib'.scopeInto base scope next = lib.scopeInto base scope next := by
  unfold Library.scopeInto
  rw [h.isRecursive_eq]

theorem texts_eq (h : lib.Beside stable ok lib') : lib'.texts = lib.texts := by
  have hTexts : ∀ r r', Resource.Beside stable ok r r' → r'.contents.texts = r.contents.texts := by
    intro r r' hr
    obtain ⟨closed, hContents⟩ := hr.contents
    exact hContents.texts_eq
  rw [texts, texts, Closing.textsItems_eq, Closing.textsItems_eq, List.map_map, List.map_map]
  exact congrArg List.sum (map_eq_of_forall₂ hTexts h.resources)

end Library.Beside

/-! ## Pointers -/

namespace Closing

/-- Whether a step from a place leads to an object of schemas, and not to a schema. -/
def below (map : Bool) : Step → Bool
  | .member k => !map && holdsMap k
  | .index _ => false

/-- Whether the segments of a pointer lead to an object of schemas. -/
def endsInMap (map : Bool) (v : Json) : List (List Char) → Bool
  | [] => map && v.members?.isSome
  | s :: rest =>
    match Library.stepInto "" v s with
    | .ok (step, w) => endsInMap (below map step) w rest
    | .error _ => false

end Closing

/-- The value that the segments of a pointer lead to. -/
def Json.reach? (v : Json) : List (List Char) → Option Json
  | [] => some v
  | s :: rest =>
    match Library.stepInto "" v s with
    | .ok (_, w) => w.reach? rest
    | .error _ => none

namespace Library

theorem stepInto_ok_iff {raw : String} {v : Json} {s : List Char} {e : Step × Json} :
    stepInto raw v s = .ok e ↔ stepInto "" v s = .ok e := by
  unfold stepInto
  split
  · split
    · simp
    · split <;> simp
  · dsimp only
    split <;> simp
  · simp

theorem stepInto_rel {closed map : Bool} {v v' w : Json} {raw : String} {s : List Char}
    {step : Step} (h : Counterpart stable ok closed map v v')
    (hStep : stepInto raw v s = .ok (step, w)) :
    ∃ w' closed', stepInto raw v' s = .ok (step, w') ∧
      Counterpart stable ok closed' (below map step) w w' := by
  unfold stepInto at hStep
  split at hStep
  next vs =>
    obtain ⟨vs', rfl, hEach⟩ := h.array
    split at hStep
    next => cases hStep
    next i hIndex =>
      split at hStep
      next hw =>
        cases hStep
        rcases getElem?_rel hEach i with ⟨hNone, -⟩ | ⟨a, w', ha, hw', hCounterpart⟩
        · rw [hNone] at hw
          cases hw
        · cases ha.symm.trans hw
          exact ⟨w', closed, by simp only [stepInto, hIndex, hw'], hCounterpart⟩
      next => cases hStep
  next ms =>
    dsimp only at hStep
    split at hStep
    next hw =>
      cases hStep
      obtain ⟨ms', w', rfl, hw', hCounterpart⟩ := h.member hw
      have hBelow : ∀ k, below map (.member k) = if map then false else holdsMap k := by
        intro k
        cases map <;> rfl
      rw [← hBelow] at hCounterpart
      exact ⟨w', _, by simp only [stepInto, hw'], hCounterpart⟩
    next => cases hStep
  next => cases hStep

theorem reach?_of_descend {raw : String} {d : Dialect} {base base' : Uri} {way : List Step}
    {v w : Json} {segments : List (List Char)}
    (h : descend raw d base way v segments = .ok (base', w)) : v.reach? segments = some w := by
  induction segments generalizing base way v with
  | nil =>
    cases h
    rfl
  | cons s rest ih =>
    unfold descend at h
    split at h
    next => cases h
    next step x hStep =>
      dsimp only at h
      split at h
      next => cases h
      next inner hInner =>
        rw [Json.reach?, stepInto_ok_iff.mp hStep]
        exact ih h

/-- A pointer that does not end in an object of schemas leads to counterparts with one base. -/
theorem descend_rel {closed map : Bool} {raw : String} {d : Dialect} {base base' : Uri}
    {way : List Step} {v v' w : Json} {segments : List (List Char)}
    (h : Counterpart stable ok closed map v v')
    (hRun : descend raw d base way v segments = .ok (base', w))
    (hMap : endsInMap map v segments = false) :
    ∃ w', descend raw d base way v' segments = .ok (base', w') ∧ Schemas stable ok w w' := by
  induction segments generalizing base way v v' closed map with
  | nil =>
    cases hRun
    exact ⟨v', rfl, closed, h.of_not_object hMap⟩
  | cons s rest ih =>
    unfold descend at hRun
    split at hRun
    next => cases hRun
    next step x hStep =>
      obtain ⟨x', closed', hStep', hCounterpart⟩ := stepInto_rel h hStep
      rw [endsInMap, stepInto_ok_iff.mp hStep] at hMap
      dsimp only at hRun
      split at hRun
      next => cases hRun
      next inner hInner =>
        obtain ⟨w', hw', hSchemas⟩ := ih hCounterpart hRun hMap
        refine ⟨w', ?_, hSchemas⟩
        unfold descend
        rw [hStep']
        dsimp only
        rw [hCounterpart.kindred.isObject_eq, hCounterpart.enter_eq, hInner]
        exact hw'

/-! ## Targets -/

def schemaAt? (lib : Library) (document : Uri) (part : List Char) : Option (Dialect × Json) :=
  match part with
  | [] => (lib.resource? document).map fun r => (r.dialect, r.contents)
  | '/' :: pointer =>
    (lib.resource? document).bind fun r =>
      (r.contents.reach? (Text.pieces '/' pointer)).map (r.dialect, ·)
  | name => (lib.anchorAt? document (String.ofList name)).map fun a => (a.dialect, a.contents)

/-- Whether an object of schemas stands at a part of a document. -/
def isMapAt (lib : Library) (document : Uri) (part : List Char) : Bool :=
  match part with
  | '/' :: pointer =>
    (lib.resource? document).any fun r => endsInMap false r.contents (Text.pieces '/' pointer)
  | _ => false

theorem uri_of_resource? {lib : Library} {uri : Uri} {r : Resource}
    (h : lib.resource? uri = some r) : r.uri = uri := by
  have hFound := List.find?_some h
  exact eq_of_beq hFound

theorem anchorAt?_self {lib : Library} {uri : Uri} {name : String} {a : AnchorPoint}
    (h : lib.anchorAt? uri name = some a) : lib.anchorAt? a.uri name = some a := by
  have hFound := List.find?_some h
  rw [Bool.and_eq_true] at hFound
  rw [eq_of_beq hFound.2, h]

/-- The library has the target at its place. -/
def Holds (lib : Library) (t : Target) : Prop :=
  lib.schemaAt? t.document t.part = some (t.dialect, t.contents)

variable {lib lib' : Library} {base uri : Uri} {scope : Scope} {fragment reference : List Char}
  {t : Target}

theorem pointerTarget_eq_ok {r : Resource} (h : pointerTarget r scope fragment = .ok t) :
    ∃ pointer base v, Text.unescape? fragment.tail = some pointer ∧
      descend (String.ofList fragment) r.dialect r.uri [] r.contents (Text.pieces '/' pointer) =
        .ok (base, v) ∧ t = ⟨r.uri, '/' :: pointer, base, scope, r.dialect, v⟩ := by
  unfold pointerTarget at h
  dsimp only at h
  split at h
  next => cases h
  next pointer hPointer =>
    obtain ⟨⟨base, v⟩, hRun, rfl⟩ := exceptMap_eq_ok_iff.mp h
    exact ⟨pointer, base, v, hPointer, hRun, rfl⟩

theorem holds_pointerTarget {r : Resource} (hr : lib.resource? uri = some r)
    (h : pointerTarget r scope fragment = .ok t) : lib.Holds t := by
  obtain ⟨pointer, base, v, -, hRun, rfl⟩ := pointerTarget_eq_ok h
  rw [Holds, schemaAt?, uri_of_resource? hr, hr, Option.bind_some, reach?_of_descend hRun]
  rfl

theorem pointerTarget_rel {r r' : Resource} (hr : r.Beside stable ok r')
    (hLookup : lib.resource? uri = some r) (h : pointerTarget r scope fragment = .ok t)
    (hMap : lib.isMapAt t.document t.part = false) :
    ∃ t', pointerTarget r' scope fragment = .ok t' ∧ t.Beside stable ok t' := by
  obtain ⟨pointer, base, v, hPointer, hRun, rfl⟩ := pointerTarget_eq_ok h
  have hPlace : endsInMap false r.contents (Text.pieces '/' pointer) = false := by
    rw [isMapAt, uri_of_resource? hLookup, hLookup] at hMap
    exact hMap
  obtain ⟨closed, hContents⟩ := hr.contents
  obtain ⟨v', hRun', hSchemas⟩ := descend_rel hContents hRun hPlace
  refine ⟨⟨r'.uri, '/' :: pointer, base, scope, r'.dialect, v'⟩, ?_, ?_, hr.dialect, hSchemas⟩
  · unfold pointerTarget
    dsimp only
    rw [hPointer]
    dsimp only
    rw [hr.dialect, hr.uri, hRun']
    rfl
  · rw [Target.key, Target.key, hr.uri]

theorem anchorAt?_of_anchor? {name : String} {a : AnchorPoint} (h : lib.anchor? uri name = some a) :
    lib.anchorAt? a.uri name = some a := by
  unfold anchor? at h
  split at h
  next hAt =>
    cases h
    exact anchorAt?_self hAt
  next =>
    obtain ⟨own, -, hAt⟩ := Option.bind_eq_some_iff.mp h
    exact anchorAt?_self hAt

theorem anchorAt?_of_outermost? {name : String} {a : AnchorPoint}
    (h : lib.outermost? scope name = some a) : lib.anchorAt? a.uri name = some a := by
  obtain ⟨u, -, hFilter⟩ := List.exists_of_findSome?_eq_some h
  exact anchorAt?_self (Option.filter_eq_some_iff.mp hFilter).1

theorem anchorTarget_eq_ok (h : lib.anchorTarget uri scope fragment = .ok t) :
    ∃ a, lib.anchorAt? t.document (String.ofList fragment) = some a ∧ t.part = fragment ∧
      t.dialect = a.dialect ∧ t.contents = a.contents := by
  unfold anchorTarget at h
  dsimp only at h
  split at h
  next => cases h
  next own hOwn =>
    cases h
    refine ⟨_, ?_, rfl, rfl, rfl⟩
    split
    next =>
      cases hOuter : lib.outermost? scope (String.ofList fragment) with
      | none => exact anchorAt?_of_anchor? hOwn
      | some a => exact anchorAt?_of_outermost? hOuter
    next => exact anchorAt?_of_anchor? hOwn

theorem holds_anchorTarget (h : lib.anchorTarget uri scope fragment = .ok t)
    (hName : fragment ≠ []) (hPointer : fragment.head? ≠ some '/') : lib.Holds t := by
  obtain ⟨a, hAnchor, hPart, hDialect, hContents⟩ := anchorTarget_eq_ok h
  unfold Holds schemaAt?
  rw [hPart]
  split
  next => exact absurd rfl hName
  next pointer => exact absurd rfl hPointer
  next => rw [hAnchor, hDialect, hContents, Option.map_some]

theorem outermost?_rel (hLib : lib.Beside stable ok lib') (scope : Scope) (name : String) :
    Option.Rel (AnchorPoint.Beside stable ok) (lib.outermost? scope name)
      (lib'.outermost? scope name) := by
  unfold outermost?
  induction scope.uris with
  | nil => exact .none
  | cons u uris ih =>
    have hAnchor := hLib.anchorAt?_rel u name
    rw [List.findSome?_cons, List.findSome?_cons]
    generalize lib'.anchorAt? u name = found' at hAnchor ⊢
    generalize lib.anchorAt? u name = found at hAnchor ⊢
    cases hAnchor with
    | none => exact ih
    | @some a a' ha =>
      rw [Option.filter_some, Option.filter_some, ha.dynamic]
      cases a.dynamic with
      | true => exact .some ha
      | false => exact ih

theorem anchorTarget_rel (hLib : lib.Beside stable ok lib')
    (h : lib.anchorTarget uri scope fragment = .ok t) :
    ∃ t', lib'.anchorTarget uri scope fragment = .ok t' ∧ t.Beside stable ok t' := by
  have hAnchor := hLib.anchor?_rel uri (String.ofList fragment)
  have hOutermost := outermost?_rel hLib scope (String.ofList fragment)
  unfold anchorTarget at h ⊢
  dsimp only at h ⊢
  generalize lib'.anchor? uri (String.ofList fragment) = found' at hAnchor ⊢
  generalize lib.anchor? uri (String.ofList fragment) = found at hAnchor h
  cases hAnchor with
  | none => cases h
  | @some own own' hOwn =>
    cases h
    -- The anchor that counts is the outermost one if the own one is dynamic.
    have hPoint : AnchorPoint.Beside stable ok
        (if own.dynamic then (lib.outermost? scope (String.ofList fragment)).getD own else own)
        (if own'.dynamic then (lib'.outermost? scope (String.ofList fragment)).getD own'
          else own') := by
      rw [hOwn.dynamic]
      split
      next =>
        generalize lib'.outermost? scope (String.ofList fragment) = outer' at hOutermost ⊢
        generalize lib.outermost? scope (String.ofList fragment) = outer at hOutermost ⊢
        cases hOutermost with
        | none => exact hOwn
        | some ha => exact ha
      next => exact hOwn
    refine ⟨_, rfl, ?_, hPoint.dialect, hPoint.contents⟩
    rw [Target.key, Target.key, hPoint.uri, hOwn.dynamic]

theorem holds_target (h : lib.target base scope reference = .ok t) : lib.Holds t := by
  unfold target at h
  split at h
  next => cases h
  next uri fragment hSplit =>
    split at h
    next => cases h
    next r hr =>
      dsimp only at h
      split at h
      next =>
        cases h
        rw [Holds, schemaAt?, hr, Option.map_some]
      next => exact holds_pointerTarget hr h
      next hName hPointer =>
        refine holds_anchorTarget h hName ?_
        cases fragment with
        | nil =>
          intro h
          cases h
        | cons c rest =>
          rintro ⟨⟩
          exact hPointer rest rfl

theorem target_rel (hLib : lib.Beside stable ok lib') (h : lib.target base scope reference = .ok t)
    (hMap : lib.isMapAt t.document t.part = false) :
    ∃ t', lib'.target base scope reference = .ok t' ∧ t.Beside stable ok t' := by
  unfold target at h ⊢
  split at h
  next => cases h
  next uri fragment hSplit =>
    have hResource := hLib.resource?_rel uri
    split at h
    next => cases h
    next r hr =>
      rw [hr] at hResource
      generalize lib'.resource? uri = found' at hResource ⊢
      cases hResource with
      | @some _ r' hBeside =>
        dsimp only at h ⊢
        rw [hLib.scopeInto_eq]
        split at h
        next =>
          cases h
          exact ⟨_, rfl, rfl, hBeside.dialect, hBeside.contents⟩
        next => exact pointerTarget_rel hBeside hr h hMap
        next => exact anchorTarget_rel hLib h

theorem holds_recursiveTarget (h : lib.recursiveTarget base scope = .ok t) : lib.Holds t := by
  unfold recursiveTarget at h
  split at h <;> exact holds_target h

theorem recursiveTarget_rel (hLib : lib.Beside stable ok lib')
    (h : lib.recursiveTarget base scope = .ok t)
    (hMap : lib.isMapAt t.document t.part = false) :
    ∃ t', lib'.recursiveTarget base scope = .ok t' ∧ t.Beside stable ok t' := by
  unfold recursiveTarget at h ⊢
  rw [hLib.isRecursive_eq]
  split at h <;> exact target_rel hLib h hMap

end Library

end SchemaContract
