import SchemaContract.Pattern
import SchemaContract.Proofs.Closing
import SchemaContract.Proofs.Unbroken.Texts

/-!
# Schemas without line breaks

A schema is plain if nothing in it breaks a line: neither a text nor a name, nor what the escapes in
a reference or a pattern stand for. Of a checked value only the names of members ever show.
-/

namespace SchemaContract

open Text

namespace Json

/-- The keywords whose texts are read as URIs. -/
def uriKeywords : List String :=
  ["$ref", "$dynamicRef", "$recursiveRef", "$schema", "$id", "id"]

/-- Whether no line breaks in the form that a pattern is matched and shown in. -/
def isPlainPattern (text : String) : Bool :=
  (Pattern.portable? text).all fun cs => decide (Unbroken cs)

/-- Whether a member shows no line break by itself: its name has none, a URI has no escapes, and the
escapes of a pattern stand for no line break. -/
def isPlainMember (k : String) (v : Json) : Bool :=
  decide (Unbroken k.toList) && v.string?.all fun s =>
    (!uriKeywords.contains k || decide ('%' ∉ s.toList)) && (k != "pattern" || isPlainPattern s)

mutual

/-- Whether no text and no name inside breaks a line, nor the escapes in URIs and patterns. -/
def isPlain : Json → Bool
  | .string s => decide (Unbroken s.toList)
  | .array vs => arePlain vs
  | .object ms => membersArePlain ms
  | _ => true

def arePlain : List Json → Bool
  | [] => true
  | v :: vs => isPlain v && arePlain vs

def membersArePlain : List (String × Json) → Bool
  | [] => true
  | (k, v) :: ms => isPlainMember k v && isPlain v && membersArePlain ms

end

mutual

/-- Whether no name inside breaks a line. -/
def hasPlainNames : Json → Bool
  | .array vs => havePlainNames vs
  | .object ms => membersHavePlainNames ms
  | _ => true

def havePlainNames : List Json → Bool
  | [] => true
  | v :: vs => hasPlainNames v && havePlainNames vs

def membersHavePlainNames : List (String × Json) → Bool
  | [] => true
  | (k, v) :: ms => decide (Unbroken k.toList) && hasPlainNames v && membersHavePlainNames ms

end

theorem isPlain_string_iff {s : String} : isPlain (.string s) = true ↔ Unbroken s.toList := by
  rw [isPlain, decide_eq_true_eq]

theorem isPlain_array_iff {vs : List Json} :
    isPlain (.array vs) = true ↔ ∀ v ∈ vs, isPlain v = true := by
  rw [isPlain]
  induction vs with
  | nil => simp [arePlain]
  | cons v vs ih => simp [arePlain, ih]

theorem isPlain_object_iff {ms : List (String × Json)} :
    isPlain (.object ms) = true ↔
      ∀ m ∈ ms, isPlainMember m.1 m.2 = true ∧ isPlain m.2 = true := by
  rw [isPlain]
  induction ms with
  | nil => simp [membersArePlain]
  | cons m ms ih => simp [membersArePlain, ih, and_assoc]

theorem hasPlainNames_array_iff {vs : List Json} :
    hasPlainNames (.array vs) = true ↔ ∀ v ∈ vs, hasPlainNames v = true := by
  rw [hasPlainNames]
  induction vs with
  | nil => simp [havePlainNames]
  | cons v vs ih => simp [havePlainNames, ih]

theorem hasPlainNames_object_iff {ms : List (String × Json)} :
    hasPlainNames (.object ms) = true ↔
      ∀ m ∈ ms, Unbroken m.1.toList ∧ hasPlainNames m.2 = true := by
  rw [hasPlainNames]
  induction ms with
  | nil => simp [membersHavePlainNames]
  | cons m ms ih => simp [membersHavePlainNames, ih, and_assoc]

/-! ## Members of plain schemas -/

theorem unbroken_of_isPlainMember {k : String} {v : Json} (h : isPlainMember k v = true) :
    Unbroken k.toList :=
  of_decide_eq_true (Bool.and_eq_true_iff.mp h).1

theorem isPlainMember_string {k s : String} (h : isPlainMember k (.string s) = true) :
    (k ∈ uriKeywords → '%' ∉ s.toList) ∧ (k = "pattern" → isPlainPattern s = true) := by
  obtain ⟨-, hText⟩ := Bool.and_eq_true_iff.mp h
  obtain ⟨hUri, hPattern⟩ := Bool.and_eq_true_iff.mp hText
  constructor
  · intro hk
    simpa [hk] using hUri
  · rintro rfl
    simpa using hPattern

theorem mem_of_lookup {k : String} {v : Json} {ms : List (String × Json)}
    (h : lookup k ms = some v) : (k, v) ∈ ms := by
  obtain ⟨m, hFind, rfl⟩ := Option.map_eq_some_iff.mp h
  have hName := List.find?_some hFind
  rw [← eq_of_beq hName]
  exact List.mem_of_find?_eq_some hFind

theorem isPlain_of_lookup {k : String} {v : Json} {ms : List (String × Json)}
    (h : isPlain (.object ms) = true) (hv : lookup k ms = some v) : isPlain v = true :=
  (isPlain_object_iff.mp h _ (mem_of_lookup hv)).2

/-- A text that is read as a URI is one as it stands. -/
theorem percent_not_mem_of_lookup {k s : String} {ms : List (String × Json)}
    (h : isPlain (.object ms) = true) (hk : k ∈ uriKeywords) (hs : lookup k ms = some (.string s)) :
    Unbroken s.toList ∧ '%' ∉ s.toList := by
  have hMember := isPlain_object_iff.mp h _ (mem_of_lookup hs)
  exact ⟨isPlain_string_iff.mp hMember.2, (isPlainMember_string hMember.1).1 hk⟩

theorem isPlain_of_child? {v w : Json} {segment : String} (h : isPlain v = true)
    (hw : v.child? segment = some w) : isPlain w = true := by
  cases v with
  | object ms => exact isPlain_of_lookup h hw
  | array vs =>
    obtain ⟨i, -, hi⟩ := Option.bind_eq_some_iff.mp hw
    exact isPlain_array_iff.mp h w (List.mem_of_getElem? hi)
  | _ => cases hw

theorem isPlain_of_get? {v w : Json} {name : String} (h : v.isPlain = true)
    (hw : v.get? name = some w) : w.isPlain = true := by
  cases v with
  | object ms => exact isPlain_of_lookup h hw
  | _ => cases hw

theorem isPlain_of_descend? {v w : Json} {segments : List String} (h : isPlain v = true)
    (hw : v.descend? segments = some w) : isPlain w = true := by
  induction segments generalizing v with
  | nil =>
    cases hw
    exact h
  | cons segment segments ih =>
    obtain ⟨u, hu, hw⟩ := Option.bind_eq_some_iff.mp hw
    exact ih (isPlain_of_child? h hu) hw

theorem hasPlainNames_of_isPlain {v : Json} (h : isPlain v = true) : hasPlainNames v = true := by
  induction v using inductionOn with
  | scalar v hItems hMembers =>
    cases v with
    | array vs => cases hItems
    | object ms => cases hMembers
    | _ => rfl
  | array vs ih =>
    rw [isPlain_array_iff] at h
    exact hasPlainNames_array_iff.mpr fun v hv => ih v hv (h v hv)
  | object ms ih =>
    rw [isPlain_object_iff] at h
    refine hasPlainNames_object_iff.mpr fun m hm => ?_
    exact ⟨unbroken_of_isPlainMember (h m hm).1, ih m hm (h m hm).2⟩

end Json

/-! ## Closing -/

namespace Closing

theorem isPlainMember_close {k : String} {v : Json} (r : Role)
    (h : Json.isPlainMember k v = true) : Json.isPlainMember k (close r v) = true := by
  rw [Json.isPlainMember, string?_close]
  exact h

theorem isPlain_close {v : Json} (r : Role) (h : v.isPlain = true) :
    (close r v).isPlain = true := by
  induction v using Json.inductionOn generalizing r with
  | scalar v hItems hMembers => rwa [close_scalar r hItems hMembers]
  | array vs ih =>
    rw [Json.isPlain_array_iff] at h
    rw [close_array, Json.isPlain_array_iff]
    exact List.forall_mem_map.mpr fun v hv => ih v hv _ (h v hv)
  | object ms ih =>
    rw [Json.isPlain_object_iff] at h
    rw [close_object, Json.isPlain_object_iff, List.forall_mem_append]
    constructor
    · exact List.forall_mem_map.mpr fun m hm =>
        ⟨isPlainMember_close _ (h m hm).1, ih m hm _ (h m hm).2⟩
    · rcases added_eq ms r with hNone | ⟨hSome, -, -⟩
      · rw [hNone]
        exact fun m hm => absurd hm List.not_mem_nil
      · rw [hSome]
        exact List.forall_mem_singleton.mpr ⟨by decide, rfl⟩

end Closing

end SchemaContract
