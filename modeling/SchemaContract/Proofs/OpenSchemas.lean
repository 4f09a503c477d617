import SchemaContract.Proofs.ClosedForms

/-!
# Open object schemas of a dialect

The keywords of a dialect hold schemas in places of its own. Closing comes to all of them but those
of two keywords: `dependencies`, up to draft 7, and `contentSchema`, since draft 2019-09. What
stands below these stays as it was, open object schemas included; no other object schema stays open.
-/

namespace SchemaContract.Dialect

open Closing

/-- The ways from the root of a schema to the schemas in it, by the keywords of a dialect. -/
inductive SchemaAt (d : Dialect) : List Step → Prop where
  | root : SchemaAt d []
  | single {way : List Step} {k : String} (h : SchemaAt d way)
      (hk : d.role k = .schema ∨ d.role k = .schemaOrList) : SchemaAt d (way ++ [.member k])
  | listed {way : List Step} {k : String} (h : SchemaAt d way)
      (hk : d.role k = .list ∨ d.role k = .schemaOrList) (i : Nat) :
      SchemaAt d (way ++ [.member k, .index i])
  | named {way : List Step} {k : String} (h : SchemaAt d way) (hk : d.role k = .map)
      (name : String) : SchemaAt d (way ++ [.member k, .member name])

/-- Keywords that hold schemas in a dialect and that closing does not look into. -/
def Overlooked (d : Dialect) (k : String) : Prop :=
  (k = "dependencies" ∧ d.isUpTo .draft7 = true) ∨
    (k = "contentSchema" ∧ d.isSince .draft2019 = true)

/-- The ways that lead through one of these keywords. -/
inductive Bypassed (d : Dialect) : List Step → Prop where
  | keyword {before : List Step} {k : String} (after : List Step) (hBefore : d.SchemaAt before)
      (hk : d.Overlooked k) : Bypassed d (before ++ .member k :: after)

/-- Where an open object schema stands. -/
def LeavesOpen (d : Dialect) (s : Json) (way : List Step) : Prop :=
  d.SchemaAt way ∧ ∃ ms, s.Leads way (.object ms) ∧ IsOpen ms

variable {d : Dialect} {way : List Step} {k : String}

/-! ## The keywords of a dialect and those of closing -/

theorem Overlooked.role_eq (h : d.Overlooked k) : Closing.role k = .other := by
  rcases h with ⟨rfl, -⟩ | ⟨rfl, -⟩ <;> rfl

/-- Closing takes a keyword of the dialect for what it is, unless it overlooks it. -/
theorem closingRole_eq (hRole : d.role k ≠ .other) (hk : ¬ d.Overlooked k) :
    Closing.role k = if d.role k = .schema then .schemaOrList else d.role k := by
  revert hRole hk
  unfold role
  split <;> cases d <;> simp [Overlooked, isUpTo, isSince, rank] <;> rfl

/-! ## The schemas of a dialect -/

theorem Bypassed.append (h : d.Bypassed way) (rest : List Step) : d.Bypassed (way ++ rest) := by
  cases h with
  | keyword after hBefore hk =>
    rw [List.append_assoc]
    exact .keyword (after ++ rest) hBefore hk

/-- A schema of the dialect is one for closing as well, or closing leaves it alone. -/
def Placed (d : Dialect) (way : List Step) : Prop :=
  IsPosition way ∨ d.Bypassed way ∧ way.foldl roleInside .schemaOrList = .other

theorem Placed.keyword (hAt : d.SchemaAt way) (h : d.Placed way) {after : List Step}
    (hPosition : ¬ d.Overlooked k → after.foldl roleInside (Closing.role k) = .schemaOrList) :
    d.Placed (way ++ .member k :: after) := by
  rcases h with h | ⟨hBypassed, hRole⟩
  · by_cases hk : d.Overlooked k
    · exact .inr ⟨.keyword after hAt hk, foldl_keyword_other h hk.role_eq after⟩
    · left
      rw [isPosition_iff, foldl_keyword h]
      exact hPosition hk
  · right
    refine ⟨hBypassed.append _, ?_⟩
    rw [List.foldl_append, hRole]
    exact foldl_other _

theorem SchemaAt.placed (h : d.SchemaAt way) : d.Placed way := by
  -- Closing has the same role for every keyword that it does not overlook, so each step keeps up.
  induction h with
  | root => exact .inl .root
  | single h hk ih =>
    apply Placed.keyword h ih
    intro hKnown
    rcases hk with hk | hk <;> simp [closingRole_eq _ hKnown, hk]
  | listed h hk i ih =>
    apply Placed.keyword h ih
    intro hKnown
    rcases hk with hk | hk <;> simp [closingRole_eq _ hKnown, hk, roleInside, itemRole]
  | named h hk name ih =>
    apply Placed.keyword h ih
    intro hKnown
    simp [closingRole_eq _ hKnown, hk, roleInside, memberRole]

theorem Bypassed.role_eq (h : d.Bypassed way) : way.foldl roleInside .schemaOrList = .other := by
  cases h with
  | keyword after hBefore hk =>
    rcases hBefore.placed with hPosition | ⟨-, hOther⟩
    · exact foldl_keyword_other hPosition hk.role_eq after
    · rw [List.foldl_append, hOther]
      exact foldl_other _

/-- The open object schemas in a closed form are those below the overlooked keywords, where they
were open before. -/
theorem leavesOpen_closed_iff (d : Dialect) (s : Json) (way : List Step) :
    d.LeavesOpen s.closed way ↔ d.LeavesOpen s way ∧ d.Bypassed way := by
  constructor
  · rintro ⟨hAt, ms, hLeads, hOpen⟩
    rcases hAt.placed with hPosition | ⟨hBypassed, hRole⟩
    · exact absurd hOpen (s.isClosed_closed way ms hPosition hLeads)
    · rcases leads_of_close hLeads with ⟨v, hv, hEq⟩ | hFalse
      · rw [hRole, close_other] at hEq
        subst hEq
        exact ⟨⟨hAt, ms, hv, hOpen⟩, hBypassed⟩
      · cases hFalse
  · rintro ⟨⟨hAt, ms, hLeads, hOpen⟩, hBypassed⟩
    refine ⟨hAt, ms, ?_, hOpen⟩
    have hClosed := leads_close (r := .schemaOrList) hLeads
    rwa [hBypassed.role_eq, close_other] at hClosed

/-- Schemas with an object schema below each of the overlooked keywords. -/
def dependentSchema : Json :=
  .object [("$schema", .string "http://json-schema.org/draft-07/schema#"),
    ("dependencies", .object [("a", .object [("type", .string "object")])])]

def contentSchema : Json :=
  .object [("contentSchema", .object [("type", .string "object")])]

theorem leavesOpen_closed_overlooked :
    draft7.LeavesOpen dependentSchema.closed [.member "dependencies", .member "a"] ∧
      draft2020.LeavesOpen contentSchema.closed [.member "contentSchema"] := by
  have hOpen : IsOpen [("type", .string "object")] := ⟨.type rfl, by decide⟩
  constructor
  · refine ⟨SchemaAt.root.named (by decide) "a", _, ?_, hOpen⟩
    exact .member (List.mem_cons_of_mem _ List.mem_cons_self)
      (.member List.mem_cons_self (.here _))
  · refine ⟨SchemaAt.root.single (by decide), _, ?_, hOpen⟩
    exact .member List.mem_cons_self (.here _)

end SchemaContract.Dialect
