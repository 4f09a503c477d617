import Mathlib.Data.List.Nodup
import SchemaContract.Json.Pointer
import SchemaContract.Proofs.Values

/-!
# Ways into values

A way leads from a value to one inside it, step by step: by name from an object to the value of a
member, by index from an array to an item. Where no name occurs twice, it leads to one value at
most.
-/

namespace SchemaContract.Json

inductive Leads : Json → List Step → Json → Prop where
  | here (v : Json) : Leads v [] v
  | item {vs : List Json} {i : Nat} {v w : Json} {way : List Step} (hItem : vs[i]? = some v)
      (hRest : Leads v way w) : Leads (.array vs) (.index i :: way) w
  | member {ms : List (String × Json)} {k : String} {v w : Json} {way : List Step}
      (hMember : (k, v) ∈ ms) (hRest : Leads v way w) : Leads (.object ms) (.member k :: way) w

theorem leads_nil_iff {v w : Json} : v.Leads [] w ↔ v = w := by
  constructor
  · intro h
    cases h
    rfl
  · intro h
    subst h
    exact .here v

theorem Leads.eq_nil {v w : Json} {way : List Step} (h : v.Leads way w) (hItems : v.items? = none)
    (hMembers : v.members? = none) : way = [] ∧ v = w := by
  cases h with
  | here => exact ⟨rfl, rfl⟩
  | item => cases hItems
  | member => cases hMembers

theorem Leads.unique {v w u : Json} {way : List Step} (hDistinct : v.hasDistinctNames = true)
    (hw : v.Leads way w) (hu : v.Leads way u) : w = u := by
  induction hw with
  | here v => exact leads_nil_iff.mp hu
  | @item vs i v w way hItem _ ih =>
    cases hu with
    | @item _ _ v' _ _ hItem' hRest' =>
      have hSame : v = v' := Option.some.inj (hItem.symm.trans hItem')
      subst hSame
      have hInner := hasDistinctNames_array_iff.mp hDistinct v (List.mem_of_getElem? hItem)
      exact ih hInner hRest'
  | @member ms k v w way hMember _ ih =>
    cases hu with
    | @member _ _ v' _ _ hMember' hRest' =>
      obtain ⟨hNames, hInner⟩ := hasDistinctNames_object_iff.mp hDistinct
      have hSame : v = v' :=
        congrArg Prod.snd (List.inj_on_of_nodup_map hNames hMember hMember' rfl)
      subst hSame
      exact ih (hInner _ hMember) hRest'

end SchemaContract.Json
