import Mathlib.Algebra.BigOperators.Group.Finset.Basic
import Mathlib.Data.Finset.Card
import ShiepPipeline.Collections.FirstMatch

/-!
# Values filed under keys

A list of keys with values is filed by putting each value under its key, unless it is there already.
What stands under a key is then the list of its values in the order of their first occurrence, and
a key that never occurs has no entry.

`filed` says this without a loop, with `List.eraseDups` for the order of first occurrence. The
lemmas about one more pair at the end are the steps of a loop that fills such a map.
-/

open FirstMatch

namespace Filing

variable {κ α : Type*}

/-! ## First occurrences -/

section Distinct

variable [DecidableEq α]

theorem eraseDups_append_singleton_of_mem {l : List α} {a : α} (h : a ∈ l) :
    (l ++ [a]).eraseDups = l.eraseDups := by
  rw [List.eraseDups_append]
  simp [List.removeAll, h]

theorem eraseDups_append_singleton_of_not_mem {l : List α} {a : α} (h : a ∉ l) :
    (l ++ [a]).eraseDups = l.eraseDups ++ [a] := by
  rw [List.eraseDups_append]
  simp [List.removeAll, h, List.eraseDups_cons]

theorem nodup_eraseDups (l : List α) : l.eraseDups.Nodup := by
  induction l using List.reverseRecOn with
  | nil => exact List.nodup_nil
  | append_singleton l a ih =>
    by_cases h : a ∈ l
    · rwa [eraseDups_append_singleton_of_mem h]
    · rw [eraseDups_append_singleton_of_not_mem h, List.nodup_append_comm, List.singleton_append]
      exact ih.cons fun hmem ↦ h (List.mem_eraseDups.mp hmem)

theorem length_eraseDups (l : List α) : l.eraseDups.length = l.toFinset.card := by
  rw [← List.toFinset_card_of_nodup (nodup_eraseDups l)]
  congr 1
  ext a
  rw [List.mem_toFinset, List.mem_toFinset, List.mem_eraseDups]

end Distinct

/-! ## Filing -/

variable [DecidableEq κ]

/-- The values that stand with a key, in order. -/
def valuesAt (l : List (κ × α)) (k : κ) : List α :=
  l.filterMap fun x ↦ if x.1 = k then some x.2 else none

/-- A list as the entry of a map that holds no empty lists. -/
def entryOf (values : List α) : Option (List α) := if values = [] then none else some values

variable {l : List (κ × α)} {k : κ} {v : α}

theorem mem_valuesAt : v ∈ valuesAt l k ↔ (k, v) ∈ l := by
  rw [valuesAt, List.mem_filterMap]
  constructor
  · rintro ⟨⟨k', v'⟩, hmem, h⟩
    split_ifs at h with hk
    obtain rfl : k' = k := hk
    obtain rfl : v' = v := Option.some.inj h
    exact hmem
  · intro hmem
    exact ⟨(k, v), hmem, if_pos rfl⟩

theorem valuesAt_append_self : valuesAt (l ++ [(k, v)]) k = valuesAt l k ++ [v] := by
  rw [valuesAt, List.filterMap_append, valuesAt]
  simp

theorem valuesAt_append_of_ne {k' : κ} (h : k ≠ k') :
    valuesAt (l ++ [(k, v)]) k' = valuesAt l k' := by
  rw [valuesAt, List.filterMap_append, valuesAt]
  simp [h]

/-- Filing twice is filing under pairs. -/
theorem valuesAt_valuesAt {κ' : Type*} [DecidableEq κ'] (l : List (κ × κ' × α)) (k : κ) (k' : κ') :
    valuesAt (valuesAt l k) k' = valuesAt (l.map fun x ↦ ((x.1, x.2.1), x.2.2)) (k, k') := by
  rw [valuesAt, valuesAt, List.filterMap_filterMap, valuesAt, List.filterMap_map]
  refine List.filterMap_congr fun x _ ↦ ?_
  by_cases hk : x.1 = k <;> by_cases hk' : x.2.1 = k' <;> simp [hk, hk']

@[simp] theorem getD_entryOf (values : List α) : (entryOf values).getD [] = values := by
  rw [entryOf]
  split_ifs with h
  · exact h.symm
  · rfl

variable [DecidableEq α]

/-- What stands under a key. -/
def filed (l : List (κ × α)) (k : κ) : Option (List α) := entryOf (valuesAt l k).eraseDups

theorem filed_eq_some_iff {values : List α} :
    filed l k = some values ↔ values = (valuesAt l k).eraseDups ∧ values ≠ [] := by
  rw [filed, entryOf]
  split_ifs with h
  · simp only [false_iff]
    rintro ⟨rfl, hne⟩
    exact hne h
  · rw [Option.some.injEq]
    constructor
    · rintro rfl
      exact ⟨rfl, h⟩
    · rintro ⟨rfl, -⟩
      rfl

/-- A pair that has been filed is not filed again. -/
theorem filed_append_of_mem (h : (k, v) ∈ l) : filed (l ++ [(k, v)]) = filed l := by
  funext k'
  rw [filed, filed]
  by_cases hk : k = k'
  · subst hk
    rw [valuesAt_append_self, eraseDups_append_singleton_of_mem (mem_valuesAt.mpr h)]
  · rw [valuesAt_append_of_ne hk]

/-- A new pair goes to the end of what stands under its key. -/
theorem filed_append_of_not_mem (h : (k, v) ∉ l) :
    filed (l ++ [(k, v)]) = pushAt (filed l) k v := by
  funext k'
  by_cases hk : k = k'
  · subst hk
    rw [pushAt, Function.update_self, filed, filed, valuesAt_append_self,
      eraseDups_append_singleton_of_not_mem fun hmem ↦ h (mem_valuesAt.mp hmem), getD_entryOf,
      entryOf, if_neg (List.append_ne_nil_of_right_ne_nil _ (List.cons_ne_nil _ _))]
  · rw [pushAt, Function.update_of_ne (Ne.symm hk), filed, filed, valuesAt_append_of_ne hk]

/-- What stands under all keys together is what has been filed, each pair once. -/
theorem sum_length_filed (l : List (κ × α)) :
    ∑ k ∈ (l.map Prod.fst).toFinset, ((filed l k).getD []).length = l.toFinset.card := by
  have hmaps : ∀ x ∈ l.toFinset, x.1 ∈ (l.map Prod.fst).toFinset := by
    intro x hx
    rw [List.mem_toFinset] at hx ⊢
    exact List.mem_map_of_mem hx
  rw [Finset.card_eq_sum_card_fiberwise hmaps]
  refine Finset.sum_congr rfl fun k _ ↦ ?_
  rw [filed, getD_entryOf, length_eraseDups]
  -- the values of a key are as many as the pairs with it
  refine Finset.card_bij (fun v _ ↦ (k, v)) ?_ ?_ ?_
  · intro v hv
    rw [List.mem_toFinset, mem_valuesAt] at hv
    exact Finset.mem_filter.mpr ⟨List.mem_toFinset.mpr hv, rfl⟩
  · intro v _ v' _ h
    exact (Prod.mk.inj h).2
  · rintro ⟨k', v⟩ hx
    obtain ⟨hmem, rfl⟩ := Finset.mem_filter.mp hx
    exact ⟨v, List.mem_toFinset.mpr (mem_valuesAt.mpr (List.mem_toFinset.mp hmem)), rfl⟩

/-- The same for values filed twice. -/
theorem card_toFinset_eq_sum {κ' : Type*} [DecidableEq κ'] (l : List (κ × κ' × α)) :
    l.toFinset.card = ∑ key ∈ (l.map fun x ↦ (x.1, x.2.1)).toFinset,
      ((filed (valuesAt l key.1) key.2).getD []).length := by
  have hinj : Function.Injective fun x : κ × κ' × α ↦ ((x.1, x.2.1), x.2.2) := by
    rintro ⟨k, k', v⟩ ⟨_, _, _⟩ h
    simp only [Prod.mk.injEq] at h
    obtain ⟨⟨rfl, rfl⟩, rfl⟩ := h
    rfl
  have himage : (l.map fun x ↦ ((x.1, x.2.1), x.2.2)).toFinset
      = l.toFinset.image fun x ↦ ((x.1, x.2.1), x.2.2) := by
    ext x
    simp only [List.mem_toFinset, List.mem_map, Finset.mem_image]
  rw [← Finset.card_image_of_injective _ hinj, ← himage, ← sum_length_filed, List.map_map]
  refine Finset.sum_congr rfl fun key _ ↦ ?_
  rw [filed, filed, valuesAt_valuesAt]

end Filing
