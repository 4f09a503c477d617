import SchemaContract.Proofs.Narrowing.Libraries
import SchemaContract.Validation.Gathering

/-!
# Gathering side by side

The schemas of a document and of its closed form are gathered in lockstep: the same URIs, anchors
and references are met in the same order, and what is gathered are counterparts.
-/

namespace SchemaContract

namespace Closing

variable {stable : List (String × String)} {ok : String × String → Prop} {closed map : Bool}
  {v v' : Json}

/-! ## References -/

theorem exists_of_describesObject {ms : List (String × Json)} (h : describesObject ms = true) :
    ∃ m ∈ ms, Gathering.isReferenceKeyword m.1 = false := by
  have hKeywords : ∀ k ∈ objectKeywords, Gathering.isReferenceKeyword k = false := by decide
  have hFound : ∃ k, Gathering.isReferenceKeyword k = false ∧ Json.hasMember k ms = true := by
    cases hType : Json.lookup "type" ms with
    | some v => exact ⟨"type", by decide, Json.lookup_isSome_iff.mp (by rw [hType]; rfl)⟩
    | none =>
      rw [describesObject, hType] at h
      obtain ⟨k, hk, hMember⟩ := List.any_eq_true.mp h
      exact ⟨k, hKeywords k hk, hMember⟩
  obtain ⟨k, hk, hMember⟩ := hFound
  obtain ⟨m, hm, rfl⟩ := Json.hasMember_iff.mp hMember
  exact ⟨m, hm, hk⟩

def referencesAmong (ms : List (String × Json)) : List (String × String) :=
  ms.filterMap fun m => if Gathering.isReferenceKeyword m.1 then m.2.string?.map (m.1, ·) else none

theorem referencesAmong_eq {R : String × Json → String × Json → Prop}
    (hR : ∀ m m', R m m' → m.1 = m'.1 ∧ m'.2.string? = m.2.string?)
    {ms ms' : List (String × Json)} (h : List.Forall₂ R ms ms') :
    referencesAmong ms' = referencesAmong ms := by
  unfold referencesAmong
  induction h with
  | nil => rfl
  | cons hm _ ih =>
    obtain ⟨hName, hText⟩ := hR _ _ hm
    rw [List.filterMap_cons, List.filterMap_cons, ih, hName, hText]

theorem references_object (ms : List (String × Json)) :
    Gathering.references (.object ms) = if ms.length ≤ 2 then referencesAmong ms else
      (referencesAmong ms).filter (·.1 == "$ref") ++
        (referencesAmong ms).filter (·.1 != "$ref") := rfl

theorem filter_references_of_short {found : List (String × String)} (h : found.length ≤ 1) :
    found.filter (·.1 == "$ref") ++ found.filter (·.1 != "$ref") = found := by
  match found, h with
  | [], _ => rfl
  | [e], _ => cases hName : e.1 == "$ref" <;> simp [bne, hName]

/-- A schema that is closed has the same references in the same order: one with two members has no
more than one. -/
theorem references_append {ms core extra : List (String × Json)}
    (hLength : ms.length = core.length) (hAmong : referencesAmong core = referencesAmong ms)
    (hExtra : extra = [] ∨ extra = [("additionalProperties", .bool false)] ∧
      describesObject ms = true) :
    Gathering.references (.object (core ++ extra)) = Gathering.references (.object ms) := by
  rcases hExtra with rfl | ⟨rfl, hDescribes⟩
  · rw [List.append_nil, references_object, references_object, hAmong, hLength]
  · have hAppend : referencesAmong (core ++ [("additionalProperties", .bool false)]) =
        referencesAmong ms := by
      rw [referencesAmong, List.filterMap_append, ← referencesAmong, hAmong]
      exact List.append_nil _
    rw [references_object, references_object, hAppend, List.length_append, List.length_singleton,
      ← hLength]
    by_cases hShort : ms.length ≤ 1
    · rw [if_pos (by omega), if_pos (by omega)]
    · rw [if_neg (by omega)]
      split
      next hTwo =>
        refine filter_references_of_short ?_
        obtain ⟨m, hm, hName⟩ := exists_of_describesObject hDescribes
        have hLess : (referencesAmong ms).length ≠ ms.length := by
          rw [referencesAmong, Ne, List.filterMap_length_eq_length]
          intro hAll
          have hSome := hAll m hm
          rw [if_neg (by rw [hName]; simp)] at hSome
          cases hSome
        have hMost : (referencesAmong ms).length ≤ ms.length := List.length_filterMap_le _ ms
        omega
      next => rfl

theorem Counterpart.references_eq (h : Counterpart stable ok closed map v v') :
    Gathering.references v' = Gathering.references v := by
  cases v with
  | object ms =>
    cases map with
    | true =>
      obtain ⟨ms', rfl, hEach⟩ := h.values
      have hAmong := referencesAmong_eq (fun m m' hm => ⟨hm.1, hm.2.kindred.string?_eq⟩) hEach
      rw [references_object, references_object, hAmong, hEach.length_eq]
    | false =>
      obtain ⟨core, extra, rfl, hPairs⟩ := h.keywords
      have hAmong :=
        referencesAmong_eq (fun m m' hm => ⟨hm.name, hm.value.kindred.string?_eq⟩) hPairs.each
      exact references_append hPairs.each.length_eq hAmong
        (hPairs.closing.imp_right fun hClosing => ⟨hClosing.1, hClosing.2.1⟩)
  | array vs =>
    obtain ⟨vs', rfl, -⟩ := h.array
    rfl
  | _ => rw [h.scalar rfl rfl]

/-! ## Schemas inside schemas -/

theorem holdsMap_eq_of_role (d : Dialect) (k : String) (h : d.role k ≠ .other) :
    holdsMap k = (d.role k == .map) := by
  revert h
  unfold Dialect.role
  split <;> first | exact fun h => absurd rfl h | (cases d <;> decide)

theorem holdsMap_eq_of_searchRole (d : Dialect) (k : String) (h : d.searchRole k ≠ .other) :
    holdsMap k = (d.searchRole k == .map) := by
  unfold Dialect.searchRole at h ⊢
  split at h
  next =>
    split at h
    next hDraft =>
      rw [if_pos hDraft]
      exact holdsMap_eq_of_role .draft2020 k h
    next => exact absurd rfl h
  next hRole => exact holdsMap_eq_of_role d k (by simpa using hRole)

theorem Counterpart.items_rel (h : Counterpart stable ok closed map v v') :
    List.Forall₂ (Schemas stable ok) (v.items?.getD []) (v'.items?.getD []) := by
  cases v with
  | array vs =>
    obtain ⟨vs', rfl, hEach⟩ := h.array
    exact hEach.imp fun w w' hw => ⟨closed, hw⟩
  | object ms =>
    obtain ⟨ms', rfl⟩ := h.kindred.object_left
    exact .nil
  | _ =>
    rw [h.scalar rfl rfl]
    exact .nil

theorem Counterpart.inside_rel (h : Counterpart stable ok closed map v v') {r : Role}
    (hMap : r ≠ .other → map = (r == .map)) :
    List.Forall₂ (Schemas stable ok) (Gathering.inside r v) (Gathering.inside r v') := by
  have hItems := h.items_rel
  cases r with
  | other => exact .nil
  | schema =>
    obtain rfl := hMap (by simp)
    exact .cons ⟨closed, h⟩ .nil
  | list => cases h.kindred with
    | scalar noItems noMembers =>
      cases v with
      | array vs => cases noItems
      | _ => exact .nil
    | array => exact hItems
    | object => exact .nil
  | map =>
    obtain rfl := hMap (by simp)
    cases hKindred : h.kindred with
    | scalar noItems noMembers =>
      cases v with
      | object ms => cases noMembers
      | _ => exact .nil
    | array => exact .nil
    | object ms ms' =>
      obtain ⟨values, hEq, hEach⟩ := h.values
      cases hEq
      change List.Forall₂ _ (ms.map (·.2)) (ms'.map (·.2))
      rw [List.forall₂_map_left_iff, List.forall₂_map_right_iff]
      exact hEach.imp fun m m' hm => ⟨closed, hm.2⟩
  | schemaOrList =>
    obtain rfl := hMap (by simp)
    cases hKindred : h.kindred with
    | scalar noItems noMembers =>
      cases v with
      | array vs => cases noItems
      | _ => exact .cons ⟨closed, h⟩ .nil
    | array => exact hItems
    | object => exact .cons ⟨closed, h⟩ .nil

theorem Counterpart.children_rel (h : Counterpart stable ok closed false v v') (d : Dialect) :
    List.Forall₂ (Schemas stable ok) (Gathering.children d v) (Gathering.children d v') := by
  unfold Gathering.children
  cases v with
  | object ms =>
    obtain ⟨core, extra, rfl, hPairs⟩ := h.keywords
    have hNone : (extra.flatMap fun m => Gathering.inside (d.searchRole m.1) m.2).filter
        (fun v => v.members?.isSome) = [] := by
      rcases hPairs.closing with rfl | ⟨rfl, -⟩
      · rfl
      · cases d <;> rfl
    change List.Forall₂ _ ((ms.flatMap _).filter _) (((core ++ extra).flatMap _).filter _)
    rw [List.flatMap_append, List.filter_append, hNone, List.append_nil]
    refine List.rel_filter ?_ (List.rel_flatMap hPairs.each ?_)
    · rintro w w' ⟨inner, hw⟩
      simp [hw.kindred.isObject_eq]
    · rintro ⟨k, w⟩ ⟨k', w'⟩ hm
      cases hm.name
      exact hm.value.inside_rel (holdsMap_eq_of_searchRole d k)
  | array vs =>
    obtain ⟨vs', rfl, -⟩ := h.array
    exact .nil
  | _ =>
    rw [h.scalar rfl rfl]
    exact .nil

/-! ## Pointers -/

theorem Counterpart.lookup_of_none {ms ms' : List (String × Json)}
    (h : Counterpart stable ok closed map (.object ms) (.object ms')) {k : String} {w' : Json}
    (hNone : Json.lookup k ms = none) (hw' : Json.lookup k ms' = some w') : w' = .bool false := by
  cases map with
  | true =>
    obtain ⟨values, hEq, hEach⟩ := h.values
    cases hEq
    have hRel := lookup_of_forall₂ (fun _ _ hm => hm.1) hEach k
    rw [hNone, hw'] at hRel
    cases hRel
  | false =>
    obtain ⟨core, extra, hEq, hPairs⟩ := h.keywords
    cases hEq
    by_cases hk : k ≠ "additionalProperties" ∨ extra = []
    · have hRel := hPairs.lookup hk
      rw [hNone, hw'] at hRel
      cases hRel
    · obtain ⟨hk, hExtra⟩ := not_or.mp hk
      obtain rfl := not_not.mp hk
      rw [(hPairs.lookup_closing hExtra).2] at hw'
      exact (Option.some.inj hw').symm

/-- A step leads to counterparts, or in the closed document alone to the member that closes. -/
theorem Counterpart.child?_rel (h : Counterpart stable ok closed map v v') (segment : String) :
    (∃ w w', v.child? segment = some w ∧ v'.child? segment = some w' ∧ Places stable ok w w') ∨
      v.child? segment = none ∧ ∀ w', v'.child? segment = some w' → w' = .bool false := by
  cases hKindred : h.kindred with
  | scalar noItems noMembers =>
    cases v with
    | array vs => cases noItems
    | object ms => cases noMembers
    | _ => exact .inr ⟨rfl, nofun⟩
  | @array vs vs' hLength =>
    obtain ⟨items, hEq, hEach⟩ := h.array
    cases hEq
    cases hIndex : Json.arrayIndex? segment with
    | none => exact .inr ⟨by simp [Json.child?, hIndex], by simp [Json.child?, hIndex]⟩
    | some i =>
      rcases getElem?_rel hEach i with ⟨hNone, hNone'⟩ | ⟨w, w', hw, hw', hCounterpart⟩
      · exact .inr ⟨by simp [Json.child?, hIndex, hNone], by simp [Json.child?, hIndex, hNone']⟩
      · exact .inl ⟨w, w', by simp [Json.child?, hIndex, hw], by simp [Json.child?, hIndex, hw'],
          _, _, hCounterpart⟩
  | object ms ms' =>
    cases hw : Json.lookup segment ms with
    | none => exact .inr ⟨hw, fun w' hw' => h.lookup_of_none hw hw'⟩
    | some w =>
      obtain ⟨values, w', hEq, hw', hCounterpart⟩ := h.member hw
      cases hEq
      exact .inl ⟨w, w', hw, hw', _, _, hCounterpart⟩

theorem Counterpart.descend?_rel (h : Counterpart stable ok closed map v v')
    (segments : List String) :
    (∃ w w', v.descend? segments = some w ∧ v'.descend? segments = some w' ∧
      Places stable ok w w') ∨
      v.descend? segments = none ∧ ∀ w', v'.descend? segments = some w' → w' = .bool false := by
  induction segments generalizing v v' closed map with
  | nil => exact .inl ⟨v, v', rfl, rfl, closed, map, h⟩
  | cons s rest ih =>
    rcases h.child?_rel s with ⟨w, w', hw, hw', _, _, hPlace⟩ | ⟨hNone, hClosing⟩
    · simp only [Json.descend?, hw, hw', Option.bind_some]
      exact ih hPlace
    · refine .inr ⟨by simp only [Json.descend?, hNone, Option.bind_none], fun x hx => ?_⟩
      obtain ⟨w', hw', hx⟩ := Option.bind_eq_some_iff.mp hx
      obtain rfl := hClosing w' hw'
      cases rest with
      | nil => exact (Option.some.inj hx).symm
      | cons s rest => cases hx

theorem Counterpart.pointed?_rel (h : Counterpart stable ok closed map v v')
    (pointer : List Char) :
    (∃ w w', Gathering.pointed? v pointer = some w ∧ Gathering.pointed? v' pointer = some w' ∧
      Places stable ok w w') ∨ Gathering.pointed? v pointer = none ∧
        ∀ w', Gathering.pointed? v' pointer = some w' → w' = .bool false := by
  unfold Gathering.pointed?
  split
  next => exact .inl ⟨v, v', rfl, rfl, closed, map, h⟩
  next => exact h.descend?_rel _
  next => exact .inr ⟨rfl, nofun⟩

/-- What is left to be taken down: values at the same places with the same references. -/
def SameReferences (stable : List (String × String)) (ok : String × String → Prop)
    (e e' : Json × List (String × String)) : Prop :=
  Places stable ok e.1 e'.1 ∧ e'.2 = e.2

theorem Places.pointedReferences_rel (h : Places stable ok v v') (fragment : List Char) :
    List.Forall₂ (SameReferences stable ok) (Gathering.pointedReferences v fragment)
      (Gathering.pointedReferences v' fragment) := by
  obtain ⟨closed, map, h⟩ := h
  unfold Gathering.pointedReferences
  rcases h.pointed?_rel (fragment.dropWhile (· == '#')) with
    ⟨w, w', hw, hw', hPlace⟩ | ⟨hNone, hClosing⟩
  · rw [hw, hw']
    obtain ⟨_, _, hCounterpart⟩ := hPlace
    refine List.rel_filter (fun e e' he => by simp [he.2]) (.cons ⟨?_, ?_⟩ .nil)
    · exact ⟨_, _, hCounterpart⟩
    · exact hCounterpart.references_eq
  · rw [hNone]
    cases hFound : Gathering.pointed? v' (fragment.dropWhile (· == '#')) with
    | none => exact .nil
    | some w' =>
      rw [hClosing w' hFound]
      exact .nil

end Closing

/-! ## Steps of the walk -/

open Closing

/-- Two computations end in related results, or in one fault. -/
inductive Lockstep {ε α β : Type} (R : α → β → Prop) : Except ε α → Except ε β → Prop where
  | ok {a : α} {b : β} (related : R a b) : Lockstep R (.ok a) (.ok b)
  | error (fault : ε) : Lockstep R (.error fault) (.error fault)

theorem Lockstep.bind {ε α β γ δ : Type} {R : α → β → Prop} {S : γ → δ → Prop} {x : Except ε α}
    {y : Except ε β} {f : α → Except ε γ} {g : β → Except ε δ} (h : Lockstep R x y)
    (hNext : ∀ a b, R a b → Lockstep S (f a) (g b)) : Lockstep S (x >>= f) (y >>= g) := by
  cases h with
  | ok hab => exact hNext _ _ hab
  | error fault => exact .error fault

theorem Lockstep.refl {ε α : Type} (x : Except ε α) : Lockstep Eq x x := by
  cases x with
  | ok a => exact .ok rfl
  | error fault => exact .error fault

theorem Lockstep.foldlM {ε α β γ δ : Type} {R : α → β → Prop} {S : γ → δ → Prop}
    {f : α → γ → Except ε α} {g : β → δ → Except ε β}
    (hStep : ∀ a b c d, R a b → S c d → Lockstep R (f a c) (g b d)) {cs : List γ} {ds : List δ}
    (h : List.Forall₂ S cs ds) {a : α} {b : β} (hab : R a b) :
    Lockstep R (cs.foldlM f a) (ds.foldlM g b) := by
  induction h generalizing a b with
  | nil => exact .ok hab
  | cons hcd _ ih =>
    rw [List.foldlM_cons, List.foldlM_cons]
    exact (hStep _ _ _ _ hab hcd).bind fun _ _ h => ih h

structure Gathering.Beside (stable : List (String × String)) (ok : String × String → Prop)
    (g g' : Gathering) : Prop where
  library : g.library.Beside stable ok g'.library
  outside : g'.outside = g.outside
  met : g'.met = g.met
  published : g'.published = g.published

namespace Gathering

variable {stable : List (String × String)} {ok : String × String → Prop}

theorem noteAll_rel (base : Uri) (budget : Nat) {g g' : Gathering} (h : g.Beside stable ok g')
    {todo todo' : List (Json × List (String × String))}
    (hTodo : List.Forall₂ (SameReferences stable ok) todo todo') :
    Lockstep (Gathering.Beside stable ok) (noteAll base budget g todo)
      (noteAll base budget g' todo') := by
  induction budget generalizing g g' todo todo' with
  | zero => exact .ok h
  | succ budget ih =>
    cases hTodo with
    | nil => exact .ok h
    | @cons e e' rest rest' he hRest =>
      obtain ⟨holder, found⟩ := e
      obtain ⟨holder', found'⟩ := e'
      obtain ⟨hPlace, hFound⟩ := he
      obtain rfl : found' = found := hFound
      cases found' with
      | nil => exact ih h hRest
      | cons reference more =>
        obtain ⟨keyword, text⟩ := reference
        have hMore : List.Forall₂ (SameReferences stable ok) ((holder, more) :: rest)
            ((holder', more) :: rest') := .cons ⟨hPlace, rfl⟩ hRest
        unfold noteAll
        rw [h.met, h.published]
        split
        next =>
          refine ih ?_ hRest
          exact ⟨h.library, h.outside, rfl, rfl⟩
        next =>
          split
          next => exact ih h hMore
          next =>
            dsimp only
            split
            next fragment hFragment =>
              -- A reference into its holder is followed at once, and what it leads to goes first.
              have hInner : List.Forall₂ (SameReferences stable ok)
                  (pointedReferences holder fragment) (pointedReferences holder' fragment) :=
                hPlace.pointedReferences_rel fragment
              refine ih ?_ (List.rel_append hInner hMore)
              exact ⟨h.library, h.outside, rfl, rfl⟩
            next =>
              cases outsideUri base text with
              | error f => exact .error f
              | ok u =>
                refine ih ?_ hMore
                exact ⟨h.library, by rw [h.outside], rfl, rfl⟩

theorem note_rel {g g' : Gathering} (h : g.Beside stable ok g') (base : Uri) {v v' : Json}
    (hv : Schemas stable ok v v') :
    Lockstep (Gathering.Beside stable ok) (note g base v) (note g' base v') := by
  obtain ⟨closed, hv⟩ := hv
  unfold note
  split
  next => exact .ok h
  next => exact noteAll_rel base maxSteps h (.cons ⟨⟨closed, false, hv⟩, hv.references_eq⟩ .nil)

theorem namesItself_eq (d : Dialect) {v v' : Json} (hv : Schemas stable ok v v') :
    namesItself d v' = namesItself d v := by
  obtain ⟨closed, hv⟩ := hv
  cases hKindred : hv.kindred with
  | scalar => rfl
  | array => rfl
  | object ms ms' => exact congrArg Option.isSome (hv.id?_eq d)

/-- A schema to be visited, on both sides. -/
def SameVisit (stable : List (String × String)) (ok : String × String → Prop)
    (v v' : Visit) : Prop :=
  v'.1 = v.1 ∧ Schemas stable ok v.2 v'.2

theorem enter_eq (base : Uri) (d : Dialect) {v v' : Json} (hv : Schemas stable ok v v') :
    base.enter d v' = base.enter d v := by
  obtain ⟨closed, hv⟩ := hv
  exact hv.enter_eq base d

theorem children_rel (d : Dialect) {v v' : Json} (hv : Schemas stable ok v v') :
    List.Forall₂ (Schemas stable ok) (children d v) (children d v') := by
  obtain ⟨closed, hv⟩ := hv
  exact hv.children_rel d

theorem visit_rel (d : Dialect) {g g' : Gathering} (h : g.Beside stable ok g') {v v' : Visit}
    (hv : SameVisit stable ok v v') :
    Lockstep (fun e e' => e.1.Beside stable ok e'.1 ∧ List.Forall₂ (SameVisit stable ok) e.2 e'.2)
      (visit d g v) (visit d g' v') := by
  obtain ⟨outer, schema⟩ := v
  obtain ⟨outer', schema'⟩ := v'
  obtain ⟨hOuter, hSchemas⟩ := hv
  dsimp only at hOuter hSchemas
  subst hOuter
  have hChildren := children_rel d hSchemas
  unfold visit
  dsimp only
  rw [enter_eq outer' d hSchemas, namesItself_eq d hSchemas]
  refine (Lockstep.refl _).bind fun base base' hBase => ?_
  subst hBase
  -- The schema is taken into the library, then come its references and those right inside it.
  have hLibrary : Library.Beside stable ok
      (if namesItself d schema then g.library.addResource d base schema else g.library)
      (if namesItself d schema then g'.library.addResource d base schema' else g'.library) := by
    split
    next => exact h.library.addResource d base hSchemas
    next => exact h.library
  have hAdded : Gathering.Beside stable ok
      ⟨_, g.outside, g.met, g.published⟩ ⟨_, g'.outside, g'.met, g'.published⟩ :=
    ⟨hLibrary.addAnchors d base hSchemas, h.outside, h.met, h.published⟩
  refine (note_rel hAdded base hSchemas).bind fun noted noted' hNoted => ?_
  refine (Lockstep.foldlM ?_ hChildren hNoted).bind fun last last' hLast => .ok ⟨hLast, ?_⟩
  · intro g g' child child' hg hChild
    rw [enter_eq base d hChild]
    refine (Lockstep.refl _).bind fun inner inner' hInner => ?_
    subst hInner
    exact note_rel hg inner hChild
  · dsimp only
    rw [List.forall₂_map_left_iff, List.forall₂_map_right_iff]
    exact hChildren.imp fun child child' hChild => ⟨rfl, hChild⟩

theorem visitAll_rel (d : Dialect) (left : Nat) {g g' : Gathering} (h : g.Beside stable ok g')
    {visits visits' : List Visit} (hVisits : List.Forall₂ (SameVisit stable ok) visits visits') :
    Lockstep (Gathering.Beside stable ok) (visitAll d left g visits)
      (visitAll d left g' visits') := by
  induction left generalizing g g' visits visits' with
  | zero => exact .ok h
  | succ left ih =>
    cases hVisits with
    | nil => exact .ok h
    | @cons v v' rest rest' hv hRest =>
      have hVisit := visit_rel d h hv
      unfold visitAll
      generalize visit d g v = found at hVisit ⊢
      generalize visit d g' v' = found' at hVisit ⊢
      cases hVisit with
      | error f => exact .error f
      | ok hBeside => exact ih hBeside.1 (List.rel_append hRest hBeside.2)

theorem missing?_eq {lib lib' : Library} (h : lib.Beside stable ok lib')
    (reference : String × Uri) : missing? lib' reference = missing? lib reference := by
  obtain ⟨text, uri⟩ := reference
  have hResource := h.resource?_rel uri.withoutFragment
  have hSome : (lib'.resource? uri.withoutFragment).isSome =
      (lib.resource? uri.withoutFragment).isSome := by
    generalize lib'.resource? uri.withoutFragment = found' at hResource ⊢
    generalize lib.resource? uri.withoutFragment = found at hResource ⊢
    cases hResource <;> rfl
  unfold missing?
  dsimp only
  rw [hSome]

theorem ofDocument_rel (d : Dialect) (uri : Uri) {v v' : Json} (hv : Schemas stable ok v v') :
    Lockstep (Gathering.Beside stable ok) (ofDocument d uri v) (ofDocument d uri v') := by
  have hEmpty : Library.empty.Beside stable ok Library.empty := ⟨.nil, .nil⟩
  have hStart : Gathering.Beside stable ok ⟨Library.empty.addResource d uri v, [], [], false⟩
      ⟨Library.empty.addResource d uri v', [], [], false⟩ :=
    ⟨hEmpty.addResource d uri hv, rfl, rfl, rfl⟩
  have hFirst : SameVisit stable ok (uri, v) (uri, v') := ⟨rfl, hv⟩
  have hVisits := visitAll_rel d maxSteps hStart (.cons hFirst .nil)
  unfold ofDocument
  dsimp only
  generalize visitAll d maxSteps ⟨Library.empty.addResource d uri v, [], [], false⟩ [(uri, v)] =
    found at hVisits ⊢
  generalize visitAll d maxSteps ⟨Library.empty.addResource d uri v', [], [], false⟩ [(uri, v')] =
    found' at hVisits ⊢
  cases hVisits with
  | error f => exact .error f
  | @ok g g' hBeside =>
    have hMissing : missing? g'.library = missing? g.library :=
      funext fun reference => missing?_eq hBeside.library reference
    dsimp only
    rw [hBeside.outside, hMissing]
    split
    next => exact .error _
    next => exact .ok hBeside

/-! ## What a library keeps -/

theorem noteAll_library {base : Uri} {budget : Nat} {g after : Gathering}
    {todo : List (Json × List (String × String))} (h : noteAll base budget g todo = .ok after) :
    after.library = g.library := by
  fun_induction noteAll base budget g todo with
  | case1 g todo =>
    cases h
    rfl
  | case2 budget g =>
    cases h
    rfl
  | case3 budget g holder rest ih => exact ih h
  | case4 budget g holder keyword text more rest hPublished ih => exact ih h
  | case5 budget g holder keyword text more rest hPublished hMet ih => exact ih h
  | case6 budget g holder keyword text more rest hPublished hMet g' fragment hText ih => exact ih h
  | case7 => cases h
  | case8 budget g holder keyword text more rest hPublished hMet g' hText u hOutside ih =>
    exact ih h

theorem note_library {g after : Gathering} {base : Uri} {v : Json}
    (h : note g base v = .ok after) : after.library = g.library := by
  unfold note at h
  split at h
  next =>
    cases h
    rfl
  next => exact noteAll_library h

def Keeps (g after : Gathering) : Prop := ∀ r ∈ g.library.resources, r ∈ after.library.resources

theorem noteInside_library {base : Uri} {d : Dialect} {schemas : List Json} {g after : Gathering}
    (h : schemas.foldlM (fun g schema => do note g (← base.enter d schema) schema) g = .ok after) :
    after.library = g.library := by
  induction schemas generalizing g with
  | nil =>
    cases h
    rfl
  | cons v vs ih =>
    obtain ⟨noted, hNoted, hRest⟩ := exceptBind_eq_ok_iff.mp (List.foldlM_cons.symm.trans h)
    obtain ⟨inner, -, hNoted⟩ := exceptBind_eq_ok_iff.mp hNoted
    rw [ih hRest, note_library hNoted]

theorem visit_keeps {d : Dialect} {g : Gathering} {v : Visit} {result : Gathering × List Visit}
    (h : visit d g v = .ok result) : g.Keeps result.1 := by
  unfold visit at h
  obtain ⟨base, -, h⟩ := exceptBind_eq_ok_iff.mp h
  obtain ⟨noted, hNoted, h⟩ := exceptBind_eq_ok_iff.mp h
  obtain ⟨last, hLast, h⟩ := exceptBind_eq_ok_iff.mp h
  cases h
  intro r hr
  rw [noteInside_library hLast, note_library hNoted]
  dsimp only [Library.addAnchors]
  split
  next => exact List.mem_cons_of_mem _ hr
  next => exact hr

theorem visitAll_keeps {d : Dialect} {left : Nat} {g after : Gathering} {visits : List Visit}
    (h : visitAll d left g visits = .ok after) : g.Keeps after := by
  fun_induction visitAll d left g visits with
  | case1 g visits =>
    cases h
    exact fun r hr => hr
  | case2 left g =>
    cases h
    exact fun r hr => hr
  | case3 => cases h
  | case4 left g v rest next inner hVisit ih =>
    exact fun r hr => ih h r (visit_keeps hVisit r hr)

theorem document_mem {d : Dialect} {uri : Uri} {document : Json} {g : Gathering}
    (h : ofDocument d uri document = .ok g) : ⟨uri, document, d⟩ ∈ g.library.resources := by
  unfold ofDocument at h
  dsimp only at h
  split at h
  next => cases h
  next hVisits =>
    split at h
    next => cases h
    next =>
      cases h
      exact visitAll_keeps hVisits _ List.mem_cons_self

end Gathering

end SchemaContract
