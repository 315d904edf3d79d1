import Mathlib.Data.Finset.Card
import Mathlib.Data.List.Nodup

/-!
# Pairing two lists by position

Two lists are written side by side, and only some entries of each can be read. Reading the entries
of each list that can be read and pairing what comes out is the same as pairing by position only
if the lists have their unreadable entries in the same places. `isAligned_zip_iff` says so for
lists that come out with the same length, where nothing else would show the difference.
-/

namespace Aligned

variable {α β γ δ : Type}

/-- What is read at a position. -/
def entry (f : α → Option γ) (xs : List α) (i : ℕ) : Option γ := xs[i]?.bind f

/-- Each pair is what two readings give at one position, and the positions ascend. -/
def IsAligned (f : ℕ → Option γ) (g : ℕ → Option δ) (pairs : List (γ × δ)) : Prop :=
  ∃ ps : List ℕ, ps.Pairwise (· < ·) ∧
    pairs.map (fun x ↦ (some x.1, some x.2)) = ps.map fun i ↦ (f i, g i)

theorem isAligned_nil {f : ℕ → Option γ} {g : ℕ → Option δ} : IsAligned f g [] :=
  ⟨[], .nil, rfl⟩

/-! ## Reading a list by its positions -/

theorem filterMap_eq_filterMap_range {f : α → Option γ} {xs : List α} {n : ℕ}
    (hn : xs.length ≤ n) : xs.filterMap f = (List.range n).filterMap (entry f xs) := by
  induction xs generalizing n with
  | nil => simp [entry, List.filterMap_eq_nil_iff]
  | cons x xs ih =>
    obtain ⟨m, rfl⟩ : ∃ m, n = m + 1 :=
      Nat.exists_eq_add_one.mpr (Nat.zero_lt_succ xs.length |>.trans_le hn)
    have hrest : (List.range m).filterMap (entry f (x :: xs) ∘ Nat.succ) = xs.filterMap f :=
      (ih (Nat.le_of_succ_le_succ hn)).symm
    rw [List.range_succ_eq_map, List.filterMap_cons, List.filterMap_cons, List.filterMap_map,
      hrest]
    simp [entry]

theorem lt_length_of_isSome_entry {f : α → Option γ} {xs : List α} {i : ℕ}
    (h : (entry f xs i).isSome) : i < xs.length := by
  by_contra hi
  simp [entry, List.getElem?_eq_none (Nat.le_of_not_lt hi)] at h

/-! ## The comparison -/

/-- Where two readings succeed at the same positions, reading and then pairing is pairing at each
of those positions. -/
private theorem zip_filterMap {f : ℕ → Option γ} {g : ℕ → Option δ} (l : List ℕ)
    (h : ∀ i, (f i).isSome ↔ (g i).isSome) :
    ((l.filterMap f).zip (l.filterMap g)).map (fun x ↦ (some x.1, some x.2))
      = (l.filter fun i ↦ (f i).isSome).map fun i ↦ (f i, g i) := by
  induction l with
  | nil => rfl
  | cons i l ih =>
    cases hf : f i with
    | none =>
      have hg : g i = none := by
        simpa [hf] using h i
      simp [hf, hg, ih]
    | some a =>
      obtain ⟨b, hg⟩ : ∃ b, g i = some b := by
        rw [← Option.isSome_iff_exists, ← h i, hf, Option.isSome_some]
      simp [hf, hg, ih]

/-- Ascending positions where a reading succeeds, as many of them as it succeeds at, are all of
them. -/
private theorem mem_iff_isSome {f : ℕ → Option γ} {n : ℕ} {ps : List ℕ}
    (hps : ps.Pairwise (· < ·)) (hf : ∀ i ∈ ps, (f i).isSome)
    (hn : ∀ i, (f i).isSome → i < n) (hlen : ps.length = ((List.range n).filterMap f).length)
    (i : ℕ) : i ∈ ps ↔ (f i).isSome := by
  have hnodup : ps.Nodup := hps.imp Nat.ne_of_lt
  have hsub : ps.toFinset ⊆ (Finset.range n).filter fun i ↦ (f i).isSome := by
    intro j hj
    have hj' := hf j (List.mem_toFinset.mp hj)
    exact Finset.mem_filter.mpr ⟨Finset.mem_range.mpr (hn j hj'), hj'⟩
  have hcard : ((Finset.range n).filter fun i ↦ (f i).isSome).card ≤ ps.toFinset.card := by
    rw [List.toFinset_card_of_nodup hnodup, hlen, List.length_filterMap_eq_countP,
      List.countP_eq_length_filter]
    exact (List.toFinset_card_le _).trans' (Finset.card_le_card fun j hj ↦ by
      simpa using hj)
  have heq := Finset.eq_of_subset_of_card_le hsub hcard
  rw [← List.mem_toFinset, heq, Finset.mem_filter, Finset.mem_range]
  exact ⟨And.right, fun h ↦ ⟨hn i h, h⟩⟩

/-- **Pairing what can be read is pairing by position exactly when the readable positions of the
two lists are the same**, for lists with equally many of them. -/
theorem isAligned_zip_iff {f : α → Option γ} {g : β → Option δ} {xs : List α} {ys : List β}
    (hlen : (xs.filterMap f).length = (ys.filterMap g).length) :
    IsAligned (entry f xs) (entry g ys) ((xs.filterMap f).zip (ys.filterMap g))
      ↔ ∀ i, (entry f xs i).isSome ↔ (entry g ys i).isSome := by
  have hx := filterMap_eq_filterMap_range (f := f) (Nat.le_max_left xs.length ys.length)
  have hy := filterMap_eq_filterMap_range (f := g) (Nat.le_max_right xs.length ys.length)
  constructor
  · rintro ⟨ps, hps, hpairs⟩
    have hlength : ps.length = (xs.filterMap f).length := by
      simpa [hlen] using (congrArg List.length hpairs).symm
    have hread : ∀ i ∈ ps, (entry f xs i).isSome ∧ (entry g ys i).isSome := by
      intro i hi
      have hmem : (entry f xs i, entry g ys i)
          ∈ ((xs.filterMap f).zip (ys.filterMap g)).map fun x ↦ (some x.1, some x.2) :=
        hpairs ▸ List.mem_map_of_mem (f := fun i ↦ (entry f xs i, entry g ys i)) hi
      obtain ⟨x, -, hx⟩ := List.mem_map.mp hmem
      rw [← (Prod.mk.inj hx).1, ← (Prod.mk.inj hx).2]
      exact ⟨rfl, rfl⟩
    -- as many positions as can be read, so all of them, on either side
    have hf := mem_iff_isSome hps (fun i hi ↦ (hread i hi).1)
      (fun i hi ↦ (lt_length_of_isSome_entry hi).trans_le (Nat.le_max_left _ ys.length))
      (hlength.trans (congrArg List.length hx))
    have hg := mem_iff_isSome hps (fun i hi ↦ (hread i hi).2)
      (fun i hi ↦ (lt_length_of_isSome_entry hi).trans_le (Nat.le_max_right xs.length _))
      ((hlength.trans hlen).trans (congrArg List.length hy))
    exact fun i ↦ (hf i).symm.trans (hg i)
  · intro h
    refine ⟨(List.range (max xs.length ys.length)).filter fun i ↦ (entry f xs i).isSome,
      List.pairwise_lt_range.filter _, ?_⟩
    rw [hx, hy]
    exact zip_filterMap _ h

end Aligned
