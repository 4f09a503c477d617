import SchemaContract.Proofs.Unbroken.Libraries
import SchemaContract.Proofs.Unbroken.Rules

/-!
# What a compilation ensures

A compilation ensures a property of its result if it has the property whatever numbers the
references get. It also has to fail in one line, and to ask only for references without escapes, so
that what these lead to can be compiled in turn.
-/

namespace SchemaContract

open Text

/-- References are read at a base without escapes, and the way here breaks no line. -/
structure Context.Plain (ctx : Context) : Prop where
  base : ctx.base.Verbatim
  scope : ctx.scope.Plain
  location : ∀ s ∈ ctx.location, s.Unbroken

structure Request.Plain (request : Request) : Prop where
  keyword : Unbroken request.keyword.toList
  reference : Verbatim request.reference.toList
  context : request.context.Plain

namespace Plan

variable {α β : Type} {P : α → Prop} {Q : β → Prop}

/-- The result has the property whatever the requests are answered. -/
def Ensures (P : α → Prop) : Plan α → Prop
  | .done a => P a
  | .failed e => e.Plain
  | .rule request next => request.Plain ∧ ∀ answer, Ensures P (next answer)
  | .coverage request _ next => request.Plain ∧ ∀ answer, Ensures P (next answer)

theorem Ensures.bind {p : Plan α} (h : p.Ensures P) {f : α → Plan β}
    (hf : ∀ a, P a → (f a).Ensures Q) : (p >>= f).Ensures Q := by
  induction p with
  | done a => exact hf a h
  | failed e => exact h
  | rule request next ih => exact ⟨h.1, fun answer => ih answer (h.2 answer)⟩
  | coverage request kind next ih => exact ⟨h.1, fun answer => ih answer (h.2 answer)⟩

end Plan

namespace Compile

variable {α β : Type} {P : α → Prop} {Q : β → Prop} {m : Compile α}

/-- The result has the property wherever the compilation is carried out. -/
def Ensures (P : α → Prop) (m : Compile α) : Prop := ∀ ctx, ctx.Plain → (m ctx).Ensures P

/-- Nothing is said about the result. -/
abbrev Sound (m : Compile α) : Prop := m.Ensures fun _ => True

theorem ensures_pure {a : α} (h : P a) : (pure a : Compile α).Ensures P := fun _ _ => h

theorem sound_pure (a : α) : (pure a : Compile α).Sound := ensures_pure trivial

namespace Ensures

theorem bind (h : m.Ensures P) {f : α → Compile β} (hf : ∀ a, P a → (f a).Ensures Q) :
    (m >>= f).Ensures Q :=
  fun ctx hCtx => (h ctx hCtx).bind fun a ha => hf a ha ctx hCtx

theorem map (h : m.Ensures P) {f : α → β} (hf : ∀ a, P a → Q (f a)) : (f <$> m).Ensures Q := by
  rw [map_eq_pure_bind]
  exact h.bind fun a ha => ensures_pure (hf a ha)

theorem mono (h : m.Ensures P) {P' : α → Prop} (hMore : ∀ a, P a → P' a) : m.Ensures P' := by
  rw [← bind_pure m]
  exact h.bind fun a ha => ensures_pure (hMore a ha)

theorem sound (h : m.Ensures P) : m.Sound := h.mono fun _ _ => trivial

end Ensures

theorem Sound.map (h : m.Sound) (f : α → β) : (f <$> m).Sound := Ensures.map h fun _ _ => trivial

theorem ensures_read : (read : Compile Context).Ensures Context.Plain := fun _ hCtx => hCtx

theorem ensures_withReader (h : m.Ensures P) {f : Context → Context}
    (hf : ∀ ctx : Context, ctx.Plain → (f ctx).Plain) : (withReader f m : Compile α).Ensures P :=
  fun ctx hCtx => h (f ctx) (hf ctx hCtx)

theorem ensures_inside (h : m.Ensures P) {steps : List Step} (hSteps : ∀ s ∈ steps, s.Unbroken) :
    (inside steps m).Ensures P := by
  refine ensures_withReader h fun ctx hCtx => ⟨hCtx.base, hCtx.scope, ?_⟩
  exact List.forall_mem_append.mpr ⟨fun s hs => hSteps s (List.mem_reverse.mp hs), hCtx.location⟩

theorem ensures_under {part : Compile Rule} (h : part.Ensures Rule.Plain) {steps : List Step}
    (hSteps : ∀ s ∈ steps, s.Unbroken) : (under steps part).Ensures Rule.Plain :=
  (ensures_inside h hSteps).bind fun _ hr => ensures_pure (.within hr)

theorem ensures_refuse {reason : Reason} (h : reason.Plain) :
    (refuse reason : Compile α).Ensures P :=
  fun _ hCtx => .plain (fun s hs => hCtx.location s (List.mem_reverse.mp hs)) h

theorem ensures_orRefuse {found : Except ReferenceFault α} (h : Ends ReferenceFault.Plain P found) :
    (orRefuse found).Ensures P := by
  cases found with
  | ok a => exact ensures_pure h
  | error fault => exact fun _ _ => .plain (fun _ hs => absurd hs List.not_mem_nil) h

theorem sound_ruleNumber {keyword reference : String} (hKeyword : Unbroken keyword.toList)
    (hReference : Verbatim reference.toList) : (ruleNumber keyword reference).Sound :=
  fun _ hCtx => ⟨⟨hKeyword, hReference, hCtx⟩, fun _ => trivial⟩

theorem sound_coverageNumber (kind : PartKind) {keyword reference : String}
    (hKeyword : Unbroken keyword.toList) (hReference : Verbatim reference.toList) :
    (coverageNumber kind keyword reference).Sound :=
  fun _ hCtx => ⟨⟨hKeyword, hReference, hCtx⟩, fun _ => trivial⟩

theorem ensures_pattern (text : String) :
    (pattern text).Ensures fun p => Pattern.portable? text = some p.text.toList := by
  unfold pattern
  split
  next p hText =>
    obtain ⟨portable, hPortable, hRest⟩ := Option.bind_eq_some_iff.mp hText
    obtain ⟨matcher, -, hPattern⟩ := Option.bind_eq_some_iff.mp hRest
    cases hPattern
    exact ensures_pure (hPortable.trans (congrArg some String.toList_ofList.symm))
  next => exact ensures_refuse Format.regex.unbroken_name

theorem ensures_mapM {f : α → Compile β} {as : List α} (h : ∀ a ∈ as, (f a).Ensures Q) :
    (as.mapM f).Ensures fun bs => ∀ b ∈ bs, Q b := by
  induction as with
  | nil => exact ensures_pure fun _ hb => absurd hb List.not_mem_nil
  | cons a as ih =>
    obtain ⟨ha, has⟩ := List.forall_mem_cons.mp h
    rw [List.mapM_cons]
    refine ha.bind fun b hb => (ih has).bind fun bs hbs => ?_
    exact ensures_pure (List.forall_mem_cons.mpr ⟨hb, hbs⟩)

theorem sound_mapM {f : α → Compile β} {as : List α} (h : ∀ a ∈ as, (f a).Sound) :
    (as.mapM f).Sound :=
  (ensures_mapM h).sound

end Compile

end SchemaContract
