import SchemaContract.Proofs.Lists
import SchemaContract.Validation.Rule

/-!
# Narrower rules

One rule narrows another if it accepts no value that the other does not accept. Most keywords carry
this over from the rules inside them to their own. `not`, a condition, `oneOf` and an upper bound of
`contains` do not: they need rules inside them that accept the same values.
-/

namespace SchemaContract

theorem Place.demand_eq_nil_iff {p : Place} {holds : Bool} {reason : Reason} :
    p.demand holds reason = [] ↔ holds = true := by
  cases holds <;> simp [demand, fails]

namespace Rule

/-- The second rule narrows the first, each with its own way to follow references. -/
def Narrows (fo fo' : Follow) (r r' : Rule) : Prop :=
  ∀ p v, failures fo' r' p v = [] → failures fo r p v = []

/-- The rules accept the same values. -/
def Agrees (fo fo' : Follow) (r r' : Rule) : Prop :=
  ∀ p v, failures fo r p v = [] ↔ failures fo' r' p v = []

/-- Rules under the same names or patterns, each of them narrower. -/
def NarrowsEach {κ : Type} (fo fo' : Follow) (ds ds' : List (κ × Rule)) : Prop :=
  List.Forall₂ (fun d d' => d.1 = d'.1 ∧ Narrows fo fo' d.2 d'.2) ds ds'

theorem Agrees.of_narrows {fo fo' : Follow} {r r' : Rule} (h : Narrows fo fo' r r')
    (h' : Narrows fo' fo r' r) : Agrees fo fo' r r' :=
  fun p v => ⟨h' p v, h p v⟩

theorem Agrees.isEmpty_eq {fo fo' : Follow} {r r' : Rule} (h : Agrees fo fo' r r') (p : Place)
    (v : Json) : (failures fo r p v).isEmpty = (failures fo' r' p v).isEmpty := by
  rw [Bool.eq_iff_iff, List.isEmpty_iff, List.isEmpty_iff]
  exact h p v

/-! ## Failures of lists of rules -/

section Lists

variable {fo : Follow}

theorem allFailures_eq_nil_iff {rs : List Rule} {p : Place} {v : Json} :
    allFailures fo rs p v = [] ↔ ∀ r ∈ rs, failures fo r p v = [] := by
  induction rs with
  | nil => simp [allFailures]
  | cons r rs ih => simp [allFailures, ih]

theorem branchFailures_eq_map {rs : List Rule} {p : Place} {v : Json} :
    branchFailures fo rs p v = rs.map fun r => failures fo r p v := by
  induction rs with
  | nil => rfl
  | cons r rs ih => rw [branchFailures, ih, List.map_cons]

theorem failures_anyOf_eq_nil_iff {rs : List Rule} {p : Place} {v : Json} :
    failures fo (.anyOf rs) p v = [] ↔ ∃ r ∈ rs, failures fo r p v = [] := by
  have hAny : (branchFailures fo rs p v).any List.isEmpty = true ↔
      ∃ r ∈ rs, failures fo r p v = [] := by
    simp [branchFailures_eq_map]
  rw [failures, anyOfFailures, ← hAny]
  split
  next h => exact iff_of_true rfl h
  next h => exact iff_of_false (List.cons_ne_nil _ _) h

theorem propertyFailures_eq_nil_iff {ds : List (String × Rule)} {p : Place}
    {ms : List (String × Json)} :
    propertyFailures fo ds p ms = [] ↔
      ∀ d ∈ ds, ∀ x, Json.lookup d.1 ms = some x → failures fo d.2 (p.member d.1) x = [] := by
  induction ds with
  | nil => simp [propertyFailures]
  | cons d ds ih =>
    obtain ⟨k, r⟩ := d
    simp only [propertyFailures, List.append_eq_nil_iff, ih, List.forall_mem_cons]
    cases Json.lookup k ms <;> simp

theorem patternFailures_eq_nil_iff {ps : List (Pattern × Rule)} {p : Place}
    {ms : List (String × Json)} :
    patternFailures fo ps p ms = [] ↔
      ∀ q ∈ ps, ∀ m ∈ ms, q.1.matchesIn m.1 = true → failures fo q.2 (p.member m.1) m.2 = [] := by
  induction ps with
  | nil => simp [patternFailures]
  | cons q ps ih =>
    obtain ⟨pattern, r⟩ := q
    simp [patternFailures, ih]

theorem declaredFailures_eq {ds : List (String × Rule)} {p : Place} {name : String} {x : Json} :
    declaredFailures fo ds p name x =
      ((ds.find? fun d => d.1 == name).map fun d => failures fo d.2 p x).toList := by
  induction ds with
  | nil => simp [declaredFailures]
  | cons d ds ih =>
    obtain ⟨k, r⟩ := d
    cases hk : k == name <;> simp [declaredFailures, hk, ih]

theorem matchingFailures_eq {ps : List (Pattern × Rule)} {p : Place} {name : String} {x : Json} :
    matchingFailures fo ps p name x =
      (ps.filter fun q => q.1.matchesIn name).map fun q => failures fo q.2 p x := by
  induction ps with
  | nil => simp [matchingFailures]
  | cons q ps ih =>
    obtain ⟨pattern, r⟩ := q
    cases hq : pattern.matchesIn name <;> simp [matchingFailures, hq, ih]

theorem dependentFailures_eq_nil_iff {ds : List (String × Rule)} {p : Place} {v : Json} :
    dependentFailures fo ds p v = [] ↔
      ∀ d ∈ ds, Json.hasMember d.1 (membersOf v) = true → failures fo d.2 p v = [] := by
  induction ds with
  | nil => simp [dependentFailures]
  | cons d ds ih =>
    obtain ⟨k, r⟩ := d
    simp [dependentFailures, ih]

end Lists

/-! ## Keywords of every value -/

section Narrower

variable {fo fo' : Follow}

theorem narrows_accept (r' : Rule) : Narrows fo fo' .accept r' := by
  intro p v h
  rfl

theorem narrows_reject (r : Rule) : Narrows fo fo' r .reject := by
  intro p v h
  simp [failures, Place.fails] at h

theorem narrows_assertion (keyword : String) (a : Assertion) :
    Narrows fo fo' (.assertion keyword a) (.assertion keyword a) :=
  fun _ _ h => h

theorem narrows_within {r r' : Rule} (steps : List Step) (h : Narrows fo fo' r r') :
    Narrows fo fo' (.within steps r) (.within steps r') :=
  fun p v => h (p.within steps) v

theorem narrows_all {rs rs' : List Rule} (h : ∀ r ∈ rs, ∃ r' ∈ rs', Narrows fo fo' r r') :
    Narrows fo fo' (.all rs) (.all rs') := by
  intro p v hv
  rw [failures, allFailures_eq_nil_iff] at hv ⊢
  intro r hr
  obtain ⟨r', hr', hNarrows⟩ := h r hr
  exact hNarrows p v (hv r' hr')

theorem narrows_allOf {rs rs' : List Rule} (h : List.Forall₂ (Narrows fo fo') rs rs') :
    Narrows fo fo' (.allOf rs) (.allOf rs') := by
  intro p v hv
  rw [failures] at hv ⊢
  induction h with
  | nil => rfl
  | cons hr _ ih =>
    rw [allFailures, List.append_eq_nil_iff] at hv ⊢
    exact ⟨hr p v hv.1, ih hv.2⟩

theorem narrows_anyOf {rs rs' : List Rule} (h : List.Forall₂ (Narrows fo fo') rs rs') :
    Narrows fo fo' (.anyOf rs) (.anyOf rs') := by
  intro p v hv
  rw [failures_anyOf_eq_nil_iff] at hv ⊢
  obtain ⟨r', hr', hEmpty⟩ := hv
  obtain ⟨r, hr, hNarrows⟩ := exists_of_forall₂ h.flip r' hr'
  exact ⟨r, hr, hNarrows p v hEmpty⟩

theorem narrows_oneOf {rs rs' : List Rule} (h : List.Forall₂ (Agrees fo fo') rs rs') :
    Narrows fo fo' (.oneOf rs) (.oneOf rs') := by
  intro p v hv
  have hCount : ((branchFailures fo rs p v).filter List.isEmpty).length =
      ((branchFailures fo' rs' p v).filter List.isEmpty).length := by
    clear hv
    induction h with
    | nil => rfl
    | cons hr _ ih =>
      rw [branchFailures, branchFailures, List.filter_cons, List.filter_cons, hr.isEmpty_eq p v]
      split <;> simp [ih]
  have hOne : ((branchFailures fo' rs' p v).filter List.isEmpty).length = 1 := by
    rw [failures, oneOfFailures] at hv
    split at hv
    · cases hv
    · assumption
    · simp [Place.fails] at hv
  simp [failures, oneOfFailures, hCount, hOne]

theorem narrows_not {r r' : Rule} (h : Agrees fo fo' r r') :
    Narrows fo fo' (.not r) (.not r') := by
  intro p v hv
  rwa [failures, h.isEmpty_eq p v]

theorem narrows_conditional {c c' t t' e e' : Rule} (hc : Agrees fo fo' c c')
    (ht : Narrows fo fo' t t') (he : Narrows fo fo' e e') :
    Narrows fo fo' (.conditional c t e) (.conditional c' t' e') := by
  intro p v hv
  rw [failures] at hv ⊢
  rw [hc.isEmpty_eq p v]
  split at hv
  next hAccepts =>
    rw [if_pos hAccepts]
    exact ht p v hv
  next hRefuses =>
    rw [if_neg hRefuses]
    exact he p v hv

theorem narrows_reference {i i' : Nat} (keyword : String)
    (h : ∀ p v, fo'.failures i' p v = [] → fo.failures i p v = []) :
    Narrows fo fo' (.reference keyword i) (.reference keyword i') :=
  fun p v => h (p.within [.member keyword]) v

/-! ## Keywords of objects -/

theorem narrows_properties {ds ds' : List (String × Rule)} (h : NarrowsEach fo fo' ds ds') :
    Narrows fo fo' (.properties ds) (.properties ds') := by
  intro p v hv
  rw [failures] at hv ⊢
  induction h with
  | nil => rfl
  | @cons d d' ds ds' hd _ ih =>
    obtain ⟨k, r⟩ := d
    obtain ⟨k', r'⟩ := d'
    obtain ⟨rfl, hr⟩ := hd
    rw [propertyFailures, List.append_eq_nil_iff] at hv ⊢
    refine ⟨?_, ih hv.2⟩
    cases hx : Json.lookup k (membersOf v) with
    | none => rfl
    | some x =>
      rw [hx] at hv
      exact hr (p.member k) x hv.1

theorem narrows_patternProperties {ps ps' : List (Pattern × Rule)}
    (h : NarrowsEach fo fo' ps ps') :
    Narrows fo fo' (.patternProperties ps) (.patternProperties ps') := by
  intro p v hv
  rw [failures, patternFailures_eq_nil_iff] at hv ⊢
  induction h with
  | nil => simp
  | @cons q q' ps ps' hq _ ih =>
    obtain ⟨hPattern, hr⟩ := hq
    rw [List.forall_mem_cons] at hv ⊢
    refine ⟨fun m hm hMatch => ?_, ih hv.2⟩
    exact hr (p.member m.1) m.2 (hv.1 m hm (hPattern ▸ hMatch))

theorem forall₂_found {ds ds' : List (String × Rule)} {ps ps' : List (Pattern × Rule)}
    (hd : NarrowsEach fo fo' ds ds') (hp : NarrowsEach fo fo' ps ps') (p : Place) (name : String)
    (x : Json) :
    List.Forall₂ (fun f f' : List Failure => f' = [] → f = [])
      (declaredFailures fo ds p name x ++ matchingFailures fo ps p name x)
      (declaredFailures fo' ds' p name x ++ matchingFailures fo' ps' p name x) := by
  refine List.rel_append ?_ ?_
  · induction hd with
    | nil => exact .nil
    | @cons d d' ds ds' hd _ ih =>
      obtain ⟨k, r⟩ := d
      obtain ⟨k', r'⟩ := d'
      obtain ⟨rfl, hr⟩ := hd
      rw [declaredFailures, declaredFailures]
      split
      · exact .cons (hr p x) .nil
      · exact ih
  · induction hp with
    | nil => exact .nil
    | @cons q q' ps ps' hq _ ih =>
      obtain ⟨k, r⟩ := q
      obtain ⟨k', r'⟩ := q'
      obtain ⟨rfl, hr⟩ := hq
      rw [matchingFailures, matchingFailures]
      split
      · exact .cons (hr p x) ih
      · exact ih

theorem flatten_eq_nil_of_forall₂ {fs fs' : List (List Failure)}
    (h : List.Forall₂ (fun f f' : List Failure => f' = [] → f = []) fs fs')
    (hNil : fs'.flatten = []) : fs.flatten = [] := by
  induction h with
  | nil => rfl
  | cons hf _ ih =>
    rw [List.flatten_cons, List.append_eq_nil_iff] at hNil ⊢
    exact ⟨hf hNil.1, ih hNil.2⟩

theorem isEmpty_eq_of_forall₂ {α β : Type} {R : α → β → Prop} {as : List α} {bs : List β}
    (h : List.Forall₂ R as bs) : as.isEmpty = bs.isEmpty := by
  cases h <;> rfl

theorem narrows_open {ds ds' : List (String × Rule)} {ps ps' : List (Pattern × Rule)} {r r' : Rule}
    (hd : NarrowsEach fo fo' ds ds') (hp : NarrowsEach fo fo' ps ps') (hr : Narrows fo fo' r r') :
    Narrows fo fo' (.open ds ps r) (.open ds' ps' r') := by
  intro p v hv
  rw [failures, List.flatMap_eq_nil_iff] at hv ⊢
  rintro ⟨k, x⟩ hm
  have hFound := forall₂_found hd hp (p.member k) k x
  have hMember := hv (k, x) hm
  dsimp only at hMember ⊢
  rw [isEmpty_eq_of_forall₂ hFound]
  split at hMember
  next hNone =>
    rw [if_pos hNone]
    exact hr (p.member k) x hMember
  next hSome =>
    rw [if_neg hSome]
    exact flatten_eq_nil_of_forall₂ hFound hMember

theorem closed_eq_nil_iff {ds : List (String × Rule)} {ps : List (Pattern × Rule)} {p : Place}
    {v : Json} :
    failures fo (.closed ds ps) p v = [] ↔ ∀ m ∈ membersOf v,
      (declaredFailures fo ds (p.member m.1) m.1 m.2 ++
        matchingFailures fo ps (p.member m.1) m.1 m.2).flatten = [] ∧
      (declaredFailures fo ds (p.member m.1) m.1 m.2 ++
        matchingFailures fo ps (p.member m.1) m.1 m.2).isEmpty = false := by
  simp only [failures, List.append_eq_nil_iff, Place.demand, Place.fails]
  constructor
  · rintro ⟨hNil, hAll⟩ m hm
    refine ⟨?_, ?_⟩
    · refine List.flatten_eq_nil_iff.mpr fun f hf => ?_
      rw [List.flatten_eq_nil_iff] at hNil
      exact hNil f (List.mem_flatten.mpr ⟨_, List.mem_map.mpr ⟨m, hm, rfl⟩, hf⟩)
    · split at hAll
      next hEach =>
        rw [List.all_eq_true] at hEach
        simpa using hEach _ (List.mem_map.mpr ⟨m, hm, rfl⟩)
      next => cases hAll
  · intro h
    refine ⟨?_, ?_⟩
    · refine List.flatten_eq_nil_iff.mpr fun f hf => ?_
      obtain ⟨fs, hfs, hf⟩ := List.mem_flatten.mp hf
      obtain ⟨m, hm, rfl⟩ := List.mem_map.mp hfs
      exact List.flatten_eq_nil_iff.mp (h m hm).1 f hf
    · rw [if_pos]
      rw [List.all_eq_true]
      intro fs hfs
      obtain ⟨m, hm, rfl⟩ := List.mem_map.mp hfs
      rw [(h m hm).2]
      rfl

theorem narrows_closed {ds ds' : List (String × Rule)} {ps ps' : List (Pattern × Rule)}
    (hd : NarrowsEach fo fo' ds ds') (hp : NarrowsEach fo fo' ps ps') :
    Narrows fo fo' (.closed ds ps) (.closed ds' ps') := by
  intro p v hv
  rw [closed_eq_nil_iff] at hv ⊢
  intro m hm
  have hFound := forall₂_found hd hp (p.member m.1) m.1 m.2
  obtain ⟨hNil, hSome⟩ := hv m hm
  exact ⟨flatten_eq_nil_of_forall₂ hFound hNil, (isEmpty_eq_of_forall₂ hFound).trans hSome⟩

theorem narrows_properties_closed {ds ds' : List (String × Rule)} {ps' : List (Pattern × Rule)}
    (hNames : (ds.map (·.1)).Nodup) (hd : NarrowsEach fo fo' ds ds') :
    Narrows fo fo' (.properties ds) (.closed ds' ps') := by
  intro p v hv
  rw [closed_eq_nil_iff] at hv
  rw [failures, propertyFailures_eq_nil_iff]
  intro d hMem x hx
  obtain ⟨m, hm, rfl⟩ := Option.map_eq_some_iff.mp hx
  have hName : m.1 = d.1 := by simpa using List.find?_some hm
  have hFound := forall₂_found hd (.nil : NarrowsEach fo fo' ([] : List (Pattern × Rule)) [])
    (p.member d.1) d.1 m.2
  have hOwn := (hv m (List.mem_of_find?_eq_some hm)).1
  rw [hName, List.flatten_append, List.append_eq_nil_iff] at hOwn
  simp only [matchingFailures, List.append_nil] at hFound
  have hNil := flatten_eq_nil_of_forall₂ hFound hOwn.1
  rw [declaredFailures_eq, find?_of_nodup hNames hMem] at hNil
  simpa using hNil

theorem narrows_patternProperties_closed {ds' : List (String × Rule)}
    {ps ps' : List (Pattern × Rule)} (hp : NarrowsEach fo fo' ps ps') :
    Narrows fo fo' (.patternProperties ps) (.closed ds' ps') := by
  intro p v hv
  rw [closed_eq_nil_iff] at hv
  rw [failures, patternFailures_eq_nil_iff]
  intro q hq m hm hMatch
  obtain ⟨q', hq', hPattern, hr⟩ := exists_of_forall₂ hp q hq
  have hOwn := (hv m hm).1
  rw [List.flatten_append, List.append_eq_nil_iff, matchingFailures_eq] at hOwn
  refine hr (p.member m.1) m.2 (List.flatten_eq_nil_iff.mp hOwn.2 _ ?_)
  exact List.mem_map.mpr ⟨q', List.mem_filter.mpr ⟨hq', hPattern ▸ hMatch⟩, rfl⟩

theorem narrows_propertyNames {r r' : Rule} (h : Narrows fo fo' r r') :
    Narrows fo fo' (.propertyNames r) (.propertyNames r') := by
  intro p v hv
  simp only [failures, Place.fails, List.flatMap_eq_nil_iff] at hv ⊢
  intro m hm f hf
  have hNil : failures fo' r' (p.member m.1) (.string m.1) = [] := by
    refine List.eq_nil_iff_forall_not_mem.mpr fun g hg => ?_
    cases hv m hm g hg
  rw [h _ _ hNil] at hf
  cases hf

theorem narrows_dependent {ds ds' : List (String × Rule)} (h : NarrowsEach fo fo' ds ds') :
    Narrows fo fo' (.dependent ds) (.dependent ds') := by
  intro p v hv
  rw [failures, dependentFailures_eq_nil_iff] at hv ⊢
  intro d hd hMember
  obtain ⟨d', hd', hName, hr⟩ := exists_of_forall₂ h d hd
  exact hr p v (hv d' hd' (hName ▸ hMember))

/-! ## Keywords of arrays -/

theorem narrows_positions {rs rs' : List Rule} (h : List.Forall₂ (Narrows fo fo') rs rs') :
    Narrows fo fo' (.positions rs) (.positions rs') := by
  intro p v hv
  rw [failures] at hv ⊢
  generalize itemsOf v = xs at hv ⊢
  generalize 0 = i at hv ⊢
  induction h generalizing xs i with
  | nil => cases xs <;> rfl
  | cons hr _ ih =>
    cases xs with
    | nil => rfl
    | cons x xs =>
      rw [positionFailures, List.append_eq_nil_iff] at hv ⊢
      exact ⟨hr _ x hv.1, ih xs (i + 1) hv.2⟩

theorem narrows_itemsFrom {r r' : Rule} (start : Nat) (h : Narrows fo fo' r r') :
    Narrows fo fo' (.itemsFrom start r) (.itemsFrom start r') := by
  intro p v hv
  rw [failures, List.flatMap_eq_nil_iff] at hv ⊢
  intro e he
  have hItem := hv e he
  dsimp only at hItem ⊢
  split at hItem
  next hStart =>
    rw [if_pos hStart]
    exact h _ _ hItem
  next hBefore => rw [if_neg hBefore]

/-- With a lower bound alone, more matches do no harm. -/
theorem narrows_contains {r r' : Rule} (low : Nat) (h : Narrows fo fo' r r') :
    Narrows fo fo' (.contains r low none) (.contains r' low none) := by
  intro p v hv
  cases v with
  | array vs =>
    simp only [failures, containsFailures, Place.demand, Place.fails, Option.all_none,
      Bool.and_true, decide_eq_true_eq] at hv ⊢
    have hCount : (vs.filter fun x => (failures fo' r' p x).isEmpty).length ≤
        (vs.filter fun x => (failures fo r p x).isEmpty).length := by
      refine (List.monotone_filter_right vs fun x hx => ?_).length_le
      rw [List.isEmpty_iff] at hx ⊢
      exact h p x hx
    split at hv
    next hLow => rw [if_pos (Nat.le_trans hLow hCount)]
    next => cases hv
  | _ => rfl

theorem narrows_contains_of_agrees {r r' : Rule} (low : Nat) (high : Option Nat)
    (h : Agrees fo fo' r r') :
    Narrows fo fo' (.contains r low high) (.contains r' low high) := by
  intro p v hv
  cases v with
  | array vs =>
    rw [failures] at hv ⊢
    simpa only [h.isEmpty_eq] using hv
  | _ => rfl

end Narrower

end Rule

end SchemaContract
