import Mathlib.Data.List.Forall2
import SchemaContract.Validation.Linking

/-!
# What a compilation gives

A compilation leaves open which numbers its references get. `Compile.Gives` answers them from a
finished linking, and turns each step of a compilation into a statement about its result: a chain of
steps gives what its last step does, a list of them gives a list. The order in which targets were
discovered no longer shows.
-/

namespace SchemaContract

theorem exceptMap_eq_ok_iff {ε α β : Type} {f : α → β} {x : Except ε α} {b : β} :
    x.map f = .ok b ↔ ∃ a, x = .ok a ∧ f a = b := by
  cases x <;> simp [Except.map]

theorem exceptBind_eq_ok_iff {ε α β : Type} {x : Except ε α} {f : α → Except ε β} {b : β} :
    (x >>= f) = .ok b ↔ ∃ a, x = .ok a ∧ f a = .ok b := by
  cases x <;> simp [bind, Except.bind]

namespace Table

/-- The table keeps the rule of a target with this key under this number. -/
def RuleAt (T : Table) (i : Nat) (key : TargetKey) : Prop := (T.rules.map (·.1))[i]? = some key

def CoverageAt (T : Table) (i : Nat) (key : TargetKey) (kind : PartKind) : Prop :=
  (T.coverages.map (·.1))[i]? = some (key, kind)

/-- A later table has the numbers of an earlier one. -/
structure Extends (a b : Table) : Prop where
  rules : ∀ i key, a.RuleAt i key → b.RuleAt i key
  coverages : ∀ i key kind, a.CoverageAt i key kind → b.CoverageAt i key kind

end Table

/-- A finished linking: where references lead to, and the numbers of their targets. -/
structure Linkage where
  library : Library
  table : Table

namespace Linkage

/-- The answers to a request for a rule. A reference says nothing where its keyword does not count,
or where its target holds the very same reference. -/
def RuleAnswer (W : Linkage) (request : Request) : Option Nat → Prop
  | none => W.library.leadsTo request = .ok none ∨
      ∃ t, W.library.leadsTo request = .ok (some t) ∧ t.repeats request = true
  | some i => ∃ t, W.library.leadsTo request = .ok (some t) ∧ W.table.RuleAt i t.key

def CoverageAnswer (W : Linkage) (request : Request) (kind : PartKind) : Option Nat → Prop
  | none => W.library.leadsTo request = .ok none
  | some i => ∃ t, W.library.leadsTo request = .ok (some t) ∧ W.table.CoverageAt i t.key kind

variable {lib : Library} {a b : Table}

theorem RuleAnswer.mono (h : a.Extends b) {request : Request} {answer : Option Nat}
    (hAnswer : RuleAnswer ⟨lib, a⟩ request answer) : RuleAnswer ⟨lib, b⟩ request answer := by
  cases answer with
  | none => exact hAnswer
  | some i =>
    obtain ⟨t, hLeads, hAt⟩ := hAnswer
    exact ⟨t, hLeads, h.rules i t.key hAt⟩

theorem CoverageAnswer.mono (h : a.Extends b) {request : Request} {kind : PartKind}
    {answer : Option Nat} (hAnswer : CoverageAnswer ⟨lib, a⟩ request kind answer) :
    CoverageAnswer ⟨lib, b⟩ request kind answer := by
  cases answer with
  | none => exact hAnswer
  | some i =>
    obtain ⟨t, hLeads, hAt⟩ := hAnswer
    exact ⟨t, hLeads, h.coverages i t.key kind hAt⟩

end Linkage

/-! ## Plans -/

namespace Plan

variable {α β : Type} {W : Linkage}

theorem bind_done (p : Plan α) : p.bind .done = p := by
  induction p with
  | done a => rfl
  | failed e => rfl
  | rule request next ih => exact congrArg (Plan.rule request) (funext ih)
  | coverage request kind next ih => exact congrArg (Plan.coverage request kind) (funext ih)

theorem bind_assoc {γ : Type} (p : Plan α) (f : α → Plan β) (g : β → Plan γ) :
    (p.bind f).bind g = p.bind fun a => (f a).bind g := by
  induction p with
  | done a => rfl
  | failed e => rfl
  | rule request next ih => exact congrArg (Plan.rule request) (funext ih)
  | coverage request kind next ih => exact congrArg (Plan.coverage request kind) (funext ih)

instance : LawfulMonad Plan := .mk' Plan bind_done (fun _ _ => rfl) bind_assoc

/-- The plan ends with the result when the linkage answers its requests. -/
def Gives (W : Linkage) : Plan α → α → Prop
  | .done a, b => a = b
  | .failed _, _ => False
  | .rule request next, b => ∃ answer, W.RuleAnswer request answer ∧ Gives W (next answer) b
  | .coverage request kind next, b =>
    ∃ answer, W.CoverageAnswer request kind answer ∧ Gives W (next answer) b

theorem gives_bind {p : Plan α} {f : α → Plan β} {b : β} :
    Gives W (p >>= f) b ↔ ∃ a, Gives W p a ∧ Gives W (f a) b := by
  change Gives W (p.bind f) b ↔ _
  induction p with
  | done a => simp [Plan.bind, Gives]
  | failed e => simp [Plan.bind, Gives]
  | rule request next ih =>
    simp only [Plan.bind, Gives, ih]
    constructor
    · rintro ⟨answer, hAnswer, a, ha, hb⟩
      exact ⟨a, ⟨answer, hAnswer, ha⟩, hb⟩
    · rintro ⟨a, ⟨answer, hAnswer, ha⟩, hb⟩
      exact ⟨answer, hAnswer, a, ha, hb⟩
  | coverage request kind next ih =>
    simp only [Plan.bind, Gives, ih]
    constructor
    · rintro ⟨answer, hAnswer, a, ha, hb⟩
      exact ⟨a, ⟨answer, hAnswer, ha⟩, hb⟩
    · rintro ⟨a, ⟨answer, hAnswer, ha⟩, hb⟩
      exact ⟨answer, hAnswer, a, ha, hb⟩

theorem Gives.mono {lib : Library} {S T : Table} (h : S.Extends T) {p : Plan α} {a : α}
    (hp : Gives ⟨lib, S⟩ p a) : Gives ⟨lib, T⟩ p a := by
  induction p with
  | done b => exact hp
  | failed e => exact hp
  | rule request next ih =>
    obtain ⟨answer, hAnswer, hNext⟩ := hp
    exact ⟨answer, hAnswer.mono h, ih answer hNext⟩
  | coverage request kind next ih =>
    obtain ⟨answer, hAnswer, hNext⟩ := hp
    exact ⟨answer, hAnswer.mono h, ih answer hNext⟩

end Plan

/-! ## Compilations -/

namespace Compile

variable {α β : Type} {W : Linkage} {ctx : Context}

def Gives (W : Linkage) (ctx : Context) (m : Compile α) (a : α) : Prop := (m ctx).Gives W a

@[simp] theorem gives_pure {a b : α} : Gives W ctx (pure a) b ↔ a = b := Iff.rfl

@[simp] theorem gives_bind {m : Compile α} {f : α → Compile β} {b : β} :
    Gives W ctx (m >>= f) b ↔ ∃ a, Gives W ctx m a ∧ Gives W ctx (f a) b :=
  Plan.gives_bind

@[simp] theorem gives_map {m : Compile α} {f : α → β} {b : β} :
    Gives W ctx (f <$> m) b ↔ ∃ a, Gives W ctx m a ∧ f a = b := by
  rw [map_eq_pure_bind, gives_bind]
  simp

@[simp] theorem gives_read {c : Context} : Gives W ctx read c ↔ ctx = c := Iff.rfl

@[simp] theorem gives_withReader {f : Context → Context} {m : Compile α} {a : α} :
    Gives W ctx (withReader f m) a ↔ Gives W (f ctx) m a := Iff.rfl

@[simp] theorem not_gives_refuse {reason : Reason} {a : α} : ¬ Gives W ctx (refuse reason) a :=
  fun h => h

@[simp] theorem gives_orRefuse {found : Except ReferenceFault α} {a : α} :
    Gives W ctx (orRefuse found) a ↔ found = .ok a := by
  cases found with
  | ok b => simp [orRefuse]
  | error fault =>
    constructor
    · exact fun h => h.elim
    · exact fun h => nomatch h

@[simp] theorem gives_ruleNumber {keyword reference : String} {answer : Option Nat} :
    Gives W ctx (ruleNumber keyword reference) answer ↔
      W.RuleAnswer ⟨keyword, reference, ctx⟩ answer := by
  constructor
  · rintro ⟨other, hAnswer, rfl⟩
    exact hAnswer
  · exact fun hAnswer => ⟨answer, hAnswer, rfl⟩

@[simp] theorem gives_coverageNumber {kind : PartKind} {keyword reference : String}
    {answer : Option Nat} :
    Gives W ctx (coverageNumber kind keyword reference) answer ↔
      W.CoverageAnswer ⟨keyword, reference, ctx⟩ kind answer := by
  constructor
  · rintro ⟨other, hAnswer, rfl⟩
    exact hAnswer
  · exact fun hAnswer => ⟨answer, hAnswer, rfl⟩

@[simp] theorem gives_under {steps : List Step} {part : Compile Rule} {r : Rule} :
    Gives W ctx (under steps part) r ↔
      ∃ inner, Gives W { ctx with location := steps.reverse ++ ctx.location } part inner ∧
        .within steps inner = r := by
  simp [under, inside]

@[simp] theorem gives_pattern {text : String} {p : Pattern} :
    Gives W ctx (pattern text) p ↔ Pattern.ofText? text = some p := by
  unfold pattern
  cases Pattern.ofText? text <;> simp

@[simp] theorem gives_mapM {f : α → Compile β} {as : List α} {bs : List β} :
    Gives W ctx (as.mapM f) bs ↔ List.Forall₂ (fun a b => Gives W ctx (f a) b) as bs := by
  induction as generalizing bs with
  | nil => simp [eq_comm]
  | cons a as ih =>
    simp only [List.mapM_cons, gives_bind, gives_pure, ih]
    constructor
    · rintro ⟨b, hb, bs, hbs, rfl⟩
      exact .cons hb hbs
    · rintro (_ | ⟨hb, hbs⟩)
      exact ⟨_, hb, _, hbs, rfl⟩

end Compile

end SchemaContract
