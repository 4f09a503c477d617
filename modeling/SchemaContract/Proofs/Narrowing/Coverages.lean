import SchemaContract.Proofs.Narrowing.Rules

/-!
# Narrower coverages

What a narrower schema has looked at, the wider one has looked at, too: a part counts as looked at
where the rules that look at it accept, and the narrower rules accept less. So a value that has
nothing left over under the narrower schema has nothing left over under the wider one.
-/

namespace SchemaContract.Rule

variable {fo fo' : Follow}

/-- The first coverage looks at all that the second looks at. -/
def NarrowsCoverage (fo fo' : Follow) (c c' : Coverage) : Prop :=
  ∀ v s x, covers fo' c' v s x = true → covers fo c v s x = true

def AgreesCoverage (fo fo' : Follow) (c c' : Coverage) : Prop :=
  ∀ v s x, covers fo c v s x = covers fo' c' v s x

theorem AgreesCoverage.of_narrows {c c' : Coverage} (h : NarrowsCoverage fo fo' c c')
    (h' : NarrowsCoverage fo' fo c' c) : AgreesCoverage fo fo' c c' := by
  intro v s x
  rw [Bool.eq_iff_iff]
  exact ⟨h' v s x, h v s x⟩

theorem anyCovers_iff {cs : List Coverage} {v : Json} {s : Step} {x : Json} :
    anyCovers fo cs v s x = true ↔ ∃ c ∈ cs, covers fo c v s x = true := by
  induction cs with
  | nil => simp
  | cons c cs ih => simp [ih]

theorem narrowsCoverage_any {cs cs' : List Coverage}
    (h : ∀ c' ∈ cs', ∀ v s x, covers fo' c' v s x = true → ∃ c ∈ cs, covers fo c v s x = true) :
    NarrowsCoverage fo fo' (.any cs) (.any cs') := by
  intro v s x hx
  rw [covers, anyCovers_iff] at hx ⊢
  obtain ⟨c', hc', hx⟩ := hx
  exact h c' hc' v s x hx

theorem narrowsCoverage_nil (c : Coverage) : NarrowsCoverage fo fo' c (.any []) := by
  intro v s x hx
  simp at hx

theorem narrowsCoverage_singleton {c c' : Coverage} (h : NarrowsCoverage fo fo' c c') :
    NarrowsCoverage fo fo' (.any [c]) (.any [c']) := by
  refine narrowsCoverage_any fun d hd v s x hx => ⟨c, List.mem_singleton_self c, ?_⟩
  rw [List.mem_singleton.mp hd] at hx
  exact h v s x hx

theorem narrowsCoverage_append {as as' bs bs' : List Coverage}
    (ha : NarrowsCoverage fo fo' (.any as) (.any as'))
    (hb : NarrowsCoverage fo fo' (.any bs) (.any bs')) :
    NarrowsCoverage fo fo' (.any (as ++ bs)) (.any (as' ++ bs')) := by
  intro v s x hx
  have hFirst := ha v s x
  have hRest := hb v s x
  simp only [covers, anyCovers_iff] at hFirst hRest
  simp only [covers, anyCovers_iff, List.mem_append, or_and_right, exists_or] at hx ⊢
  exact hx.imp hFirst hRest

theorem narrowsCoverage_flatten {css css' : List (List Coverage)}
    (h : List.Forall₂ (fun cs cs' => NarrowsCoverage fo fo' (.any cs) (.any cs')) css css') :
    NarrowsCoverage fo fo' (.any css.flatten) (.any css'.flatten) := by
  induction h with
  | nil => exact narrowsCoverage_nil _
  | cons hcs _ ih =>
    rw [List.flatten_cons, List.flatten_cons]
    exact narrowsCoverage_append hcs ih

theorem narrowsCoverage_declared {ds ds' : List (String × Rule)} (h : NarrowsEach fo fo' ds ds') :
    NarrowsCoverage fo fo' (.declared ds) (.declared ds') := by
  intro v s x hx
  cases s with
  | index i => simp at hx
  | member k =>
    rw [covers] at hx ⊢
    induction h with
    | nil => exact hx
    | @cons d d' ds ds' hd _ ih =>
      obtain ⟨name, r⟩ := d
      obtain ⟨name', r'⟩ := d'
      obtain ⟨rfl, hr⟩ := hd
      rw [declaredValid, Bool.or_eq_true, Bool.and_eq_true, List.isEmpty_iff] at hx ⊢
      exact hx.imp (fun hOwn => ⟨hOwn.1, hr .root x hOwn.2⟩) ih

theorem narrowsCoverage_matching (ps : List Pattern) :
    NarrowsCoverage fo fo' (.matching ps) (.matching ps) := by
  intro v s x hx
  cases s with
  | index i => simp at hx
  | member k => exact hx

theorem narrowsCoverage_everything (c' : Coverage) : NarrowsCoverage fo fo' .everything c' :=
  fun _ _ _ _ => rfl

theorem narrowsCoverage_upTo (n : Nat) : NarrowsCoverage fo fo' (.upTo n) (.upTo n) := by
  intro v s x hx
  cases s with
  | index i => exact hx
  | member k => simp at hx

theorem narrowsCoverage_valid {r r' : Rule} (h : Narrows fo fo' r r') :
    NarrowsCoverage fo fo' (.valid r) (.valid r') := by
  intro v s x hx
  rw [covers, List.isEmpty_iff] at hx ⊢
  exact h .root x hx

theorem narrowsCoverage_dependent {cs cs' : List (String × Coverage)}
    (h : List.Forall₂ (fun c c' => c.1 = c'.1 ∧ NarrowsCoverage fo fo' c.2 c'.2) cs cs') :
    NarrowsCoverage fo fo' (.dependent cs) (.dependent cs') := by
  intro v s x hx
  rw [covers] at hx ⊢
  induction h with
  | nil => exact hx
  | @cons c c' cs cs' hc _ ih =>
    obtain ⟨k, c⟩ := c
    obtain ⟨k', c'⟩ := c'
    obtain ⟨rfl, hc⟩ := hc
    rw [dependentCovers, Bool.or_eq_true, Bool.and_eq_true] at hx ⊢
    exact hx.imp (fun hOwn => ⟨hOwn.1, hc v s x hOwn.2⟩) ih

theorem narrowsCoverage_conditional {r r' : Rule} {yes yes' no no' : Coverage}
    (hr : Agrees fo fo' r r') (hYes : NarrowsCoverage fo fo' yes yes')
    (hNo : NarrowsCoverage fo fo' no no') :
    NarrowsCoverage fo fo' (.conditional r yes no) (.conditional r' yes' no') := by
  intro v s x hx
  rw [covers] at hx ⊢
  rw [hr.isEmpty_eq .root v]
  split at hx
  next hAccepts =>
    rw [if_pos hAccepts]
    exact hYes v s x hx
  next hRefuses =>
    rw [if_neg hRefuses]
    exact hNo v s x hx

theorem narrowsCoverage_reference {i i' : Nat}
    (h : ∀ v s x, fo'.covers i' v s x = true → fo.covers i v s x = true) :
    NarrowsCoverage fo fo' (.reference i) (.reference i') := by
  intro v s x hx
  rw [covers] at hx ⊢
  exact h v s x hx

/-! ## Branches -/

def NarrowsBranches (fo fo' : Follow) (bs bs' : List (Rule × Coverage)) : Prop :=
  List.Forall₂ (fun b b' => Narrows fo fo' b.1 b'.1 ∧ NarrowsCoverage fo fo' b.2 b'.2) bs bs'

def AgreesBranches (fo fo' : Follow) (bs bs' : List (Rule × Coverage)) : Prop :=
  List.Forall₂ (fun b b' => Agrees fo fo' b.1 b'.1 ∧ AgreesCoverage fo fo' b.2 b'.2) bs bs'

theorem branchCovers_of_narrows {bs bs' : List (Rule × Coverage)}
    (h : NarrowsBranches fo fo' bs bs') (v : Json) (s : Step) (x : Json) :
    List.Forall₂ (fun b b' : Bool × Bool => (b'.1 = true → b.1 = true) ∧ (b'.2 = true → b.2 = true))
      (branchCovers fo bs v s x) (branchCovers fo' bs' v s x) := by
  induction h with
  | nil => exact .nil
  | cons hb _ ih =>
    refine .cons ⟨fun hValid => ?_, hb.2 v s x⟩ ih
    rw [List.isEmpty_iff] at hValid ⊢
    exact hb.1 .root v hValid

theorem branchCovers_of_agrees {bs bs' : List (Rule × Coverage)}
    (h : AgreesBranches fo fo' bs bs') (v : Json) (s : Step) (x : Json) :
    branchCovers fo bs v s x = branchCovers fo' bs' v s x := by
  induction h with
  | nil => rfl
  | cons hb _ ih => rw [branchCovers, branchCovers, hb.1.isEmpty_eq, hb.2 v s x, ih]

theorem any_of_forall₂ {bs bs' : List (Bool × Bool)}
    (h : List.Forall₂ (fun b b' : Bool × Bool => b'.2 = true → b.2 = true) bs bs')
    (hAny : bs'.any (·.2) = true) : bs.any (·.2) = true := by
  induction h with
  | nil => exact hAny
  | cons hb _ ih =>
    rw [List.any_cons, Bool.or_eq_true] at hAny ⊢
    exact hAny.imp hb ih

theorem length_filter_valid_le {bs bs' : List (Bool × Bool)}
    (h : List.Forall₂ (fun b b' : Bool × Bool => b'.1 = true → b.1 = true) bs bs') :
    (bs'.filter (·.1)).length ≤ (bs.filter (·.1)).length := by
  induction h with
  | nil => exact Nat.le_refl _
  | @cons b b' bs bs' hb _ ih =>
    cases hValid : b'.1 with
    | false =>
      rw [List.filter_cons_of_neg (by simp [hValid])]
      exact Nat.le_trans ih (List.Sublist.filter _ (List.sublist_cons_self b bs)).length_le
    | true =>
      rw [List.filter_cons_of_pos hValid, List.filter_cons_of_pos (hb hValid), List.length_cons,
        List.length_cons]
      exact Nat.succ_le_succ ih

/-- All of the branches, or some of them: the branches of the wider schema count wherever those of
the narrower one do. -/
theorem narrowsCoverage_branches {q : Quorum} (hq : q = .all ∨ q = .some)
    {bs bs' : List (Rule × Coverage)} (h : NarrowsBranches fo fo' bs bs') :
    NarrowsCoverage fo fo' (.branches q bs) (.branches q bs') := by
  intro v s x hx
  rw [covers] at hx ⊢
  have hBoth := branchCovers_of_narrows h v s x
  generalize branchCovers fo bs v s x = cs at hBoth ⊢
  generalize branchCovers fo' bs' v s x = cs' at hBoth hx
  have hAny := any_of_forall₂ (hBoth.imp fun _ _ hb => hb.2)
  have hLength := length_filter_valid_le (hBoth.imp fun _ _ hb => hb.1)
  have hEq := hBoth.length_eq
  rcases hq with rfl | rfl
  · simp only [Quorum.covers, Bool.and_eq_true, beq_iff_eq] at hx ⊢
    refine ⟨?_, hAny hx.2⟩
    have hMost := List.length_filter_le (·.1) cs
    omega
  · simp only [Quorum.covers, Bool.and_eq_true, Bool.not_eq_true'] at hx ⊢
    refine ⟨?_, hAny hx.2⟩
    have hSome : 0 < (cs'.filter (·.1)).length := by
      rw [List.length_pos_iff]
      exact fun hNil => by simp [hNil] at hx
    rw [← Bool.not_eq_true, List.isEmpty_iff_length_eq_zero]
    omega

theorem narrowsCoverage_branches_of_agrees (q : Quorum) {bs bs' : List (Rule × Coverage)}
    (h : AgreesBranches fo fo' bs bs') :
    NarrowsCoverage fo fo' (.branches q bs) (.branches q bs') := by
  intro v s x hx
  rw [covers] at hx ⊢
  rwa [branchCovers_of_agrees h v s x]

/-! ## What is left over -/

theorem narrows_unevaluatedProperties {c c' : Coverage} (h : NarrowsCoverage fo fo' c c') :
    Narrows fo fo' (.unevaluatedProperties c) (.unevaluatedProperties c') := by
  intro p v hv
  rw [failures, Place.demand] at hv ⊢
  split at hv
  next hAll =>
    rw [if_pos]
    rw [List.all_eq_true] at hAll ⊢
    exact fun m hm => h v (.member m.1) m.2 (hAll m hm)
  next => cases hv

theorem narrows_unevaluatedItems {c c' : Coverage} (h : NarrowsCoverage fo fo' c c') :
    Narrows fo fo' (.unevaluatedItems c) (.unevaluatedItems c') := by
  intro p v hv
  simp only [failures, Place.demand, Place.fails, List.isEmpty_iff, List.filter_eq_nil_iff] at hv ⊢
  split at hv
  next hAll =>
    rw [if_pos]
    intro e he hLeft
    refine hAll e he ?_
    rw [Bool.not_eq_true'] at hLeft ⊢
    cases hCovers : covers fo' c' v (.index e.2) e.1 with
    | false => rfl
    | true => exact (h v (.index e.2) e.1 hCovers).symm.trans hLeft
  next => cases hv

end SchemaContract.Rule
