import Mathlib.Data.List.Forall2

/-!
# Lists of entries

What two lists that correspond entry by entry have in common, and names that occur once: looking
them up, and their order.
-/

namespace SchemaContract

theorem exists_of_forall₂ {α β : Type} {R : α → β → Prop} {as : List α} {bs : List β}
    (h : List.Forall₂ R as bs) : ∀ a ∈ as, ∃ b ∈ bs, R a b := by
  induction h with
  | nil => simp
  | @cons a b as bs hab _ ih =>
    intro c hc
    rcases List.mem_cons.mp hc with rfl | hc
    · exact ⟨b, List.mem_cons_self, hab⟩
    · obtain ⟨d, hd, hcd⟩ := ih c hc
      exact ⟨d, List.mem_cons_of_mem b hd, hcd⟩

theorem map_eq_of_forall₂ {α β γ : Type} {R : α → β → Prop} {f : α → γ} {g : β → γ}
    (hfg : ∀ a b, R a b → g b = f a) {as : List α} {bs : List β} (h : List.Forall₂ R as bs) :
    bs.map g = as.map f := by
  induction h with
  | nil => rfl
  | cons hab _ ih => rw [List.map_cons, List.map_cons, hfg _ _ hab, ih]

theorem filterMap_eq_of_forall₂ {α β γ : Type} {R : α → β → Prop} {f : α → Option γ}
    {g : β → Option γ} (hfg : ∀ a b, R a b → g b = f a) {as : List α} {bs : List β}
    (h : List.Forall₂ R as bs) : bs.filterMap g = as.filterMap f := by
  induction h with
  | nil => rfl
  | cons hab _ ih => rw [List.filterMap_cons, List.filterMap_cons, hfg _ _ hab, ih]

theorem filterMap_eq_iff_forall₂ {α β : Type} {f : α → Option β} {P : α → Prop} [DecidablePred P]
    (hP : ∀ a, P a ↔ ∃ b, f a = some b) (as : List α) (bs : List β) :
    as.filterMap f = bs ↔ List.Forall₂ (fun a b => f a = some b) (as.filter (P ·)) bs := by
  induction as generalizing bs with
  | nil => simp [eq_comm]
  | cons a as ih =>
    rw [List.filterMap_cons]
    cases hf : f a with
    | none =>
      have ha : ¬ P a := by simp [hP, hf]
      rw [List.filter_cons_of_neg (by simpa using ha)]
      exact ih bs
    | some b =>
      have ha : P a := (hP a).mpr ⟨b, hf⟩
      rw [List.filter_cons_of_pos (by simpa using ha), List.forall₂_cons_left_iff]
      constructor
      · rintro rfl
        exact ⟨b, _, hf, (ih _).mp rfl, rfl⟩
      · rintro ⟨b', bs', hf', hRest, rfl⟩
        rw [(ih bs').mpr hRest, Option.some.inj (hf.symm.trans hf')]

theorem filterMap_sublist_filterMap {α β : Type} {f g : α → Option β}
    (h : ∀ a b, g a = some b → f a = some b) (as : List α) :
    (as.filterMap g).Sublist (as.filterMap f) := by
  induction as with
  | nil => exact .slnil
  | cons a as ih =>
    rw [List.filterMap_cons, List.filterMap_cons]
    cases hg : g a with
    | none =>
      cases f a with
      | none => exact ih
      | some b => exact ih.cons b
    | some b =>
      rw [h a b hg]
      exact ih.cons_cons b

theorem find?_rel {α β : Type} {R : α → β → Prop} {p : α → Bool} {q : β → Bool}
    (hpq : ∀ a b, R a b → q b = p a) {as : List α} {bs : List β} (h : List.Forall₂ R as bs) :
    Option.Rel R (as.find? p) (bs.find? q) := by
  induction h with
  | nil => exact .none
  | @cons a b as bs hab _ ih =>
    rw [List.find?_cons, List.find?_cons, hpq a b hab]
    cases p a with
    | true => exact .some hab
    | false => exact ih

theorem eq_nil_iff_of_forall₂ {α β : Type} {R : α → β → Prop} {as : List α} {bs : List β}
    (h : List.Forall₂ R as bs) : as = [] ↔ bs = [] := by
  cases h <;> simp

theorem forall₂_toList {α β : Type} {R : α → β → Prop} {a : Option α} {b : Option β}
    (h : Option.Rel R a b) : List.Forall₂ R a.toList b.toList := by
  cases h with
  | none => exact .nil
  | some h => exact .cons h .nil

/-- A list splits at its first member of some kind: at the head, or behind it if the head may stand
before such a member. -/
theorem exists_first_cons_iff {α : Type} {P Q : α → Prop} {a : α} {as : List α} :
    (∃ before b after, a :: as = before ++ b :: after ∧ (∀ c ∈ before, P c) ∧ Q b) ↔
      Q a ∨ P a ∧ ∃ before b after, as = before ++ b :: after ∧ (∀ c ∈ before, P c) ∧ Q b := by
  constructor
  · rintro ⟨before, b, after, hEq, hBefore, hb⟩
    cases before with
    | nil =>
      cases hEq
      exact .inl hb
    | cons c before =>
      cases hEq
      obtain ⟨hc, hBefore⟩ := List.forall_mem_cons.mp hBefore
      exact .inr ⟨hc, before, b, after, rfl, hBefore, hb⟩
  · rintro (ha | ⟨ha, before, b, after, rfl, hBefore, hb⟩)
    · exact ⟨[], a, as, rfl, fun c hc => absurd hc List.not_mem_nil, ha⟩
    · exact ⟨a :: before, b, after, rfl, List.forall_mem_cons.mpr ⟨ha, hBefore⟩, hb⟩

theorem find?_of_nodup {κ α : Type} [BEq κ] [LawfulBEq κ] {ds : List (κ × α)}
    (hNodup : (ds.map (·.1)).Nodup) {d : κ × α} (hd : d ∈ ds) :
    ds.find? (fun e => e.1 == d.1) = some d := by
  induction ds with
  | nil => cases hd
  | cons e ds ih =>
    rw [List.map_cons, List.nodup_cons] at hNodup
    rcases List.mem_cons.mp hd with rfl | hMem
    · simp
    · have hNe : e.1 ≠ d.1 := fun hEq => hNodup.1 (hEq ▸ List.mem_map.mpr ⟨d, hMem, rfl⟩)
      rw [List.find?_cons_of_neg (by simpa using hNe)]
      exact ih hNodup.2 hMem

theorem ascend_mergeSort {names : List String} (h : names.Nodup) :
    (names.mergeSort fun a b => decide (a ≤ b)).Pairwise (· < ·) := by
  have hSorted : (names.mergeSort fun a b => decide (a ≤ b)).Pairwise (· ≤ ·) := by
    have hTrans : ∀ a b c : String, decide (a ≤ b) = true → decide (b ≤ c) = true →
        decide (a ≤ c) = true := fun _ _ _ hab hbc =>
      decide_eq_true (String.le_trans (of_decide_eq_true hab) (of_decide_eq_true hbc))
    have hTotal : ∀ a b : String, (decide (a ≤ b) || decide (b ≤ a)) = true := fun a b => by
      simpa using String.le_total a b
    exact (List.pairwise_mergeSort hTrans hTotal names).imp of_decide_eq_true
  have hDistinct := (List.mergeSort_perm names fun a b => decide (a ≤ b)).nodup_iff.mpr h
  exact (hSorted.and hDistinct).imp fun h => Std.lt_of_le_of_ne h.1 h.2

end SchemaContract
