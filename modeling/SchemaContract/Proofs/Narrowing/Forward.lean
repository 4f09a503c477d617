import SchemaContract.Proofs.Closing
import SchemaContract.Proofs.Values

/-!
# Schemas that closing only narrows

Closing narrows the object schemas inside a schema. Below most keywords a narrower schema makes the
schema around it narrower. Below `not`, `if` and `oneOf`, and below `contains` with an upper bound,
it may make it wider: what stands there has to be closed already, and so has what references lead to
from there.

A position inside a schema is told by two things: whether closing reaches it, and whether it holds
an object of schemas instead of a schema.
-/

namespace SchemaContract

namespace Closing

/-- Whether a narrower schema under the keyword may make the schema around it wider. -/
def inverts (siblings : List (String × Json)) (keyword : String) : Bool :=
  ["not", "if", "oneOf"].contains keyword ||
    keyword == "contains" && Json.hasMember "maxContains" siblings

/-- Whether the value of a keyword is an object with schemas under names of its own. -/
def holdsMap (keyword : String) : Bool :=
  mapKeywords.contains keyword || ["dependencies", "dependentRequired"].contains keyword

/-- Whether closing reaches the value of a keyword. -/
def reaches (closed : Bool) (keyword : String) : Bool := closed && role keyword != .other

/-- Whether the value of a keyword stays as it is, with references from a list that is known to lead
to what stays as it is. -/
def isSettled (stable : List (String × String)) (closed : Bool) (keyword : String) (v : Json) :
    Bool :=
  (!closed || isClosed (role keyword) v) && v.references.all stable.contains

mutual

/-- Whether all that stands below an inverting keyword is settled. -/
def isForward (stable : List (String × String)) (closed map : Bool) : Json → Bool
  | .array vs => itemsAreForward stable closed vs
  | .object ms =>
    if map then valuesAreForward stable closed ms else keywordsAreForward stable closed ms ms
  | _ => true

def itemsAreForward (stable : List (String × String)) (closed : Bool) : List Json → Bool
  | [] => true
  | v :: vs => isForward stable closed false v && itemsAreForward stable closed vs

def valuesAreForward (stable : List (String × String)) (closed : Bool) :
    List (String × Json) → Bool
  | [] => true
  | (_, v) :: ms => isForward stable closed false v && valuesAreForward stable closed ms

def keywordsAreForward (stable : List (String × String)) (closed : Bool)
    (siblings : List (String × Json)) : List (String × Json) → Bool
  | [] => true
  | (k, v) :: ms =>
    (!inverts siblings k || isSettled stable closed k v) &&
      isForward stable (reaches closed k) (holdsMap k) v &&
        keywordsAreForward stable closed siblings ms

end

variable {stable : List (String × String)}

theorem isForward_array_iff {closed map : Bool} {vs : List Json} :
    isForward stable closed map (.array vs) = true ↔
      ∀ v ∈ vs, isForward stable closed false v = true := by
  rw [isForward]
  induction vs with
  | nil => simp [itemsAreForward]
  | cons v vs ih => simp [itemsAreForward, ih]

theorem isForward_map_iff {closed : Bool} {ms : List (String × Json)} :
    isForward stable closed true (.object ms) = true ↔
      ∀ m ∈ ms, isForward stable closed false m.2 = true := by
  rw [isForward, if_pos rfl]
  induction ms with
  | nil => simp [valuesAreForward]
  | cons m ms ih => simp [valuesAreForward, ih]

theorem keywordsAreForward_iff {closed : Bool} {siblings ms : List (String × Json)} :
    keywordsAreForward stable closed siblings ms = true ↔ ∀ m ∈ ms,
      (inverts siblings m.1 = true → isSettled stable closed m.1 m.2 = true) ∧
        isForward stable (reaches closed m.1) (holdsMap m.1) m.2 = true := by
  induction ms with
  | nil => simp [keywordsAreForward]
  | cons m ms ih =>
    rw [keywordsAreForward, Bool.and_eq_true, Bool.and_eq_true, ih, List.forall_mem_cons]
    cases inverts siblings m.1 <;> simp

theorem isForward_object_iff {closed : Bool} {ms : List (String × Json)} :
    isForward stable closed false (.object ms) = true ↔ ∀ m ∈ ms,
      (inverts ms m.1 = true → isSettled stable closed m.1 m.2 = true) ∧
        isForward stable (reaches closed m.1) (holdsMap m.1) m.2 = true := by
  rw [isForward, if_neg (by simp), keywordsAreForward_iff]

theorem isSettled_iff {closed : Bool} {k : String} {v : Json} :
    isSettled stable closed k v = true ↔
      (closed = true → isClosed (role k) v = true) ∧ ∀ e ∈ v.references, e ∈ stable := by
  cases closed <;> simp [isSettled]

/-- Where closing does not reach, and where more references are stable, less is asked for. -/
theorem isForward_open {more : List (String × String)} (hMore : ∀ e ∈ stable, e ∈ more)
    {closed map : Bool} {v : Json} (h : isForward stable closed map v = true) :
    isForward more false map v = true := by
  induction v using Json.inductionOn generalizing closed map with
  | scalar v hItems hMembers =>
    cases v with
    | array vs => cases hItems
    | object ms => cases hMembers
    | _ => rfl
  | array vs ih =>
    rw [isForward_array_iff] at h ⊢
    exact fun v hv => ih v hv (h v hv)
  | object ms ih =>
    cases map with
    | true =>
      rw [isForward_map_iff] at h ⊢
      exact fun m hm => ih m hm (h m hm)
    | false =>
      rw [isForward_object_iff] at h ⊢
      intro m hm
      obtain ⟨hSettled, hValue⟩ := h m hm
      refine ⟨fun hInverts => isSettled_iff.mpr ⟨nofun, fun e he => ?_⟩, ih m hm hValue⟩
      exact hMore e ((isSettled_iff.mp (hSettled hInverts)).2 e he)

end Closing

end SchemaContract
