import Mathlib.Order.Bounds.Basic
import Mathlib.Data.List.Induction
import Mathlib.Logic.Function.Basic

/-!
# First-match indexes over a list

A list of rules is searched for its first element with some property, but not by a scan: an index
maps keys to lists of positions, and the search looks only at the positions filed under the key at
hand. This file holds what makes such an index equal to the scan.

Everything goes through one notion. `IsLeastOf o S` says that `o` names the least element of the
set of positions `S`, or that there is none. A search of an ascending bucket finds the least
element of what it looks at, scanning several buckets with a running minimum finds the least
element of their union, and `find?_eq_of_isLeastOf` turns a least position back into the first
element.

The last part is the order-preserving removal of duplicates by a set of keys already seen.
-/

namespace FirstMatch

variable {α κ : Type*}

/-! ## Least positions -/

/-- The positions of `xs` that hold an element satisfying `p`. -/
def positions (p : α → Bool) (xs : List α) : Set ℕ := {i | ∃ x, xs[i]? = some x ∧ p x = true}

/-- `o` names the least element of `S`, or `S` is empty. -/
def IsLeastOf (o : Option ℕ) (S : Set ℕ) : Prop :=
  match o with
  | none => S = ∅
  | some i => IsLeast S i

/-- **A least position is the first match.** -/
theorem find?_eq_of_isLeastOf {p : α → Bool} {xs : List α} {o : Option ℕ}
    (h : IsLeastOf o (positions p xs)) : xs.find? p = o.bind (xs[·]?) := by
  cases o with
  | none =>
    have hempty : positions p xs = ∅ := h
    rw [Option.bind_none, List.find?_eq_none]
    intro x hx hp
    obtain ⟨i, hi⟩ := List.getElem?_of_mem hx
    have hmem : i ∈ positions p xs := ⟨x, hi, hp⟩
    rw [hempty] at hmem
    exact hmem
  | some i =>
    obtain ⟨⟨x, hx, hp⟩, hleast⟩ : IsLeast (positions p xs) i := h
    obtain ⟨hlt, hget⟩ := List.getElem?_eq_some_iff.mp hx
    rw [Option.bind_some, hx, List.find?_eq_some_iff_getElem]
    refine ⟨hp, i, hlt, hget, fun j hji ↦ ?_⟩
    by_contra hj
    have hmem : j ∈ positions p xs :=
      ⟨xs[j], List.getElem?_eq_getElem (by omega), by simpa using hj⟩
    exact absurd (hleast hmem) (by omega)

/-- The first hit of an ascending list of positions is the least one. -/
theorem isLeastOf_find? {q : ℕ → Bool} {ids : List ℕ} (hids : ids.Pairwise (· < ·)) :
    IsLeastOf (ids.find? q) {i | i ∈ ids ∧ q i = true} := by
  induction ids with
  | nil => simp [IsLeastOf]
  | cons j ids ih =>
    rw [List.pairwise_cons] at hids
    by_cases hj : q j = true
    · rw [List.find?_cons_of_pos hj]
      refine ⟨⟨List.mem_cons_self, hj⟩, ?_⟩
      rintro i ⟨hi, -⟩
      rcases List.mem_cons.mp hi with rfl | hi
      · exact le_refl i
      · exact (hids.1 i hi).le
    · rw [List.find?_cons_of_neg hj]
      have hset : {i | i ∈ j :: ids ∧ q i = true} = {i | i ∈ ids ∧ q i = true} := by
        ext i
        simp only [Set.mem_ofPred_eq, List.mem_cons]
        refine ⟨?_, fun h ↦ ⟨Or.inr h.1, h.2⟩⟩
        rintro ⟨rfl | hi, hq⟩
        · exact absurd hq hj
        · exact ⟨hi, hq⟩
      rw [hset]
      exact ih hids.2

/-! ## Scanning with a running minimum -/

/-- Look at every position of a bucket and keep the least accepted one, starting from `best`. -/
def scanLeast (q : ℕ → Bool) (best : Option ℕ) (ids : List ℕ) : Option ℕ :=
  ids.foldl (fun best i ↦ if q i && best.all (decide <| i < ·) then some i else best) best

/-- One step of the scan. The bucket need not be ascending: the minimum is kept explicitly. -/
private theorem isLeastOf_scanStep {q : ℕ → Bool} {best : Option ℕ} {S : Set ℕ} (i : ℕ)
    (h : IsLeastOf best S) :
    IsLeastOf (if q i && best.all (decide <| i < ·) then some i else best)
      (S ∪ {j | j = i ∧ q j = true}) := by
  by_cases hq : q i = true
  · have hset : {j | j = i ∧ q j = true} = {i} := by
      ext j
      simp only [Set.mem_ofPred_eq, Set.mem_singleton_iff]
      exact ⟨fun hj ↦ hj.1, fun hj ↦ ⟨hj, hj ▸ hq⟩⟩
    rw [hset, hq, Bool.true_and]
    cases best with
    | none =>
      have hempty : S = ∅ := h
      simp [IsLeastOf, hempty]
    | some b =>
      have hb : IsLeast S b := h
      -- the position is below the best one, or the best one stays
      by_cases hlt : i < b
      · simp only [Option.all_some, hlt, decide_true, if_true]
        refine ⟨Or.inr rfl, ?_⟩
        rintro j (hj | rfl)
        · exact hlt.le.trans (hb.2 hj)
        · exact le_refl j
      · simp only [Option.all_some, hlt, decide_false, Bool.false_eq_true, if_false]
        refine ⟨Or.inl hb.1, ?_⟩
        rintro j (hj | rfl)
        · exact hb.2 hj
        · omega
  · have hset : {j | j = i ∧ q j = true} = ∅ := by
      ext j
      simp only [Set.mem_ofPred_eq, Set.mem_empty_iff_false, iff_false]
      rintro ⟨rfl, hj⟩
      exact hq hj
    rw [hset, Set.union_empty]
    simpa [hq] using h

theorem isLeastOf_scanLeast {q : ℕ → Bool} {best : Option ℕ} {S : Set ℕ} (ids : List ℕ)
    (h : IsLeastOf best S) :
    IsLeastOf (scanLeast q best ids) (S ∪ {i | i ∈ ids ∧ q i = true}) := by
  induction ids generalizing best S with
  | nil => simpa [scanLeast] using h
  | cons j ids ih =>
    have hset : S ∪ {i | i ∈ j :: ids ∧ q i = true}
        = (S ∪ {i | i = j ∧ q i = true}) ∪ {i | i ∈ ids ∧ q i = true} := by
      ext i
      simp only [Set.mem_union, Set.mem_ofPred_eq, List.mem_cons]
      tauto
    rw [hset, scanLeast, List.foldl_cons]
    exact ih (isLeastOf_scanStep j h)

/-! ## Buckets -/

/-- The ascending list of the positions of `xs` that satisfy `p`. -/
def bucket (p : α → Bool) (xs : List α) : List ℕ :=
  (xs.zipIdx.filter fun x ↦ p x.1).map Prod.snd

theorem bucket_append_singleton (p : α → Bool) (xs : List α) (x : α) :
    bucket p (xs ++ [x]) = if p x then bucket p xs ++ [xs.length] else bucket p xs := by
  rw [bucket, List.zipIdx_append, List.filter_append, List.map_append, ← bucket]
  by_cases hx : p x = true <;> simp [hx]

theorem mem_bucket {p : α → Bool} {xs : List α} {i : ℕ} : i ∈ bucket p xs ↔ i ∈ positions p xs := by
  simp only [bucket, List.mem_map, List.mem_filter, positions, Set.mem_ofPred_eq, Prod.exists]
  constructor
  · rintro ⟨x, j, ⟨hmem, hp⟩, rfl⟩
    exact ⟨x, List.mk_mem_zipIdx_iff_getElem?.mp hmem, hp⟩
  · rintro ⟨x, hx, hp⟩
    exact ⟨x, i, ⟨List.mk_mem_zipIdx_iff_getElem?.mpr hx, hp⟩, rfl⟩

theorem lt_length_of_mem_bucket {p : α → Bool} {xs : List α} {i : ℕ} (h : i ∈ bucket p xs) :
    i < xs.length := by
  obtain ⟨x, hx, -⟩ := mem_bucket.mp h
  exact (List.getElem?_eq_some_iff.mp hx).1

theorem pairwise_bucket (p : α → Bool) (xs : List α) : (bucket p xs).Pairwise (· < ·) := by
  induction xs using List.reverseRecOn with
  | nil => exact List.Pairwise.nil
  | append_singleton xs x ih =>
    rw [bucket_append_singleton]
    split
    · rw [List.pairwise_append]
      refine ⟨ih, List.pairwise_singleton _ _, ?_⟩
      rintro i hi j hj
      rw [List.mem_singleton] at hj
      exact hj ▸ lt_length_of_mem_bucket hi
    · exact ih

/-- Searching a bucket for a second property searches the list for both. -/
theorem setOf_mem_bucket (p f : α → Bool) (xs : List α) :
    {i | i ∈ bucket p xs ∧ xs[i]?.any f = true} = positions (fun x ↦ p x && f x) xs := by
  ext i
  simp only [Set.mem_ofPred_eq, mem_bucket, positions, Bool.and_eq_true]
  constructor
  · rintro ⟨⟨x, hx, hp⟩, hf⟩
    rw [hx, Option.any_some] at hf
    exact ⟨x, hx, hp, hf⟩
  · rintro ⟨x, hx, hp, hf⟩
    exact ⟨⟨x, hx, hp⟩, by rw [hx, Option.any_some]; exact hf⟩

theorem positions_union (p q : α → Bool) (xs : List α) :
    positions p xs ∪ positions q xs = positions (fun x ↦ p x || q x) xs := by
  ext i
  simp only [Set.mem_union, positions, Set.mem_ofPred_eq, Bool.or_eq_true]
  constructor
  · rintro (⟨x, hx, hp⟩ | ⟨x, hx, hq⟩)
    · exact ⟨x, hx, Or.inl hp⟩
    · exact ⟨x, hx, Or.inr hq⟩
  · rintro ⟨x, hx, hp | hq⟩
    · exact Or.inl ⟨x, hx, hp⟩
    · exact Or.inr ⟨x, hx, hq⟩

/-! ## Filing under a key -/

/-- `entry(k).or_default().push(i)` on a map from keys to lists. -/
def pushAt [DecidableEq κ] {ι : Type*} (m : κ → Option (List ι)) (k : κ) (i : ι) :
    κ → Option (List ι) :=
  Function.update m k (some ((m k).getD [] ++ [i]))

theorem getD_pushAt [DecidableEq κ] {ι : Type*} (m : κ → Option (List ι)) (k k' : κ) (i : ι) :
    (pushAt m k i k').getD [] = if k = k' then (m k').getD [] ++ [i] else (m k').getD [] := by
  by_cases h : k = k'
  · subst h
    simp [pushAt]
  · simp [pushAt, Function.update_of_ne (Ne.symm h), h]

/-! ## Removing duplicates in order -/

/-- Append `x` unless its key has been seen, and remember the key. -/
def pushIfNew [DecidableEq κ] (key : α → κ) (state : List α × List κ) (x : α) : List α × List κ :=
  if key x ∈ state.2 then state else (state.1 ++ [x], key x :: state.2)

/-- The seen set holds exactly the keys of what has been kept. -/
theorem mem_seen_iff [DecidableEq κ] {key : α → κ} {state : List α × List κ}
    (h : ∀ k, k ∈ state.2 ↔ ∃ x ∈ state.1, key x = k) (x : α) :
    ∀ k, k ∈ (pushIfNew key state x).2 ↔ ∃ y ∈ (pushIfNew key state x).1, key y = k := by
  intro k
  rw [pushIfNew]
  split
  · exact h k
  · simp only [List.mem_cons, h k, List.mem_append, List.not_mem_nil, or_false]
    constructor
    · rintro (rfl | ⟨y, hy, rfl⟩)
      · exact ⟨x, Or.inr rfl, rfl⟩
      · exact ⟨y, Or.inl hy, rfl⟩
    · rintro ⟨y, hy | rfl, rfl⟩
      · exact Or.inr ⟨y, hy, rfl⟩
      · exact Or.inl rfl

/-- **Dropping later duplicates keeps every first match**, when equal keys mean equal elements. -/
theorem find?_foldl_pushIfNew [DecidableEq κ] {key : α → κ} (hkey : Function.Injective key)
    (p : α → Bool) (xs : List α) :
    ((xs.foldl (pushIfNew key) ([], [])).1).find? p = xs.find? p := by
  suffices hgen : ∀ state : List α × List κ, (∀ k, k ∈ state.2 ↔ ∃ x ∈ state.1, key x = k) →
      ((xs.foldl (pushIfNew key) state).1).find? p = (state.1 ++ xs).find? p by
    simpa using hgen ([], []) (by simp)
  induction xs with
  | nil => intro state _; simp
  | cons x xs ih =>
    intro state hseen
    rw [List.foldl_cons, ih _ (mem_seen_iff hseen x), pushIfNew]
    split
    · rename_i hmem
      obtain ⟨y, hy, hyx⟩ := (hseen _).mp hmem
      obtain rfl : y = x := hkey hyx
      rw [List.find?_append, List.find?_append, List.find?_cons]
      cases hp : p y with
      | false => rfl
      | true =>
        have hsome : (state.1.find? p).isSome := by
          rw [List.find?_isSome]
          exact ⟨y, hy, hp⟩
        obtain ⟨z, hz⟩ := Option.isSome_iff_exists.mp hsome
        rw [hz]
        rfl
    · rw [List.append_assoc, List.singleton_append]

theorem mem_foldl_pushIfNew [DecidableEq κ] {key : α → κ} (hkey : Function.Injective key)
    {xs : List α} {x : α} : x ∈ (xs.foldl (pushIfNew key) ([], [])).1 ↔ x ∈ xs := by
  classical
  have h := find?_foldl_pushIfNew hkey (fun y ↦ decide (y = x)) xs
  have hsome := congrArg (fun o ↦ o.isSome = true) h
  simpa only [List.find?_isSome, decide_eq_true_eq, exists_eq_right, eq_iff_iff] using hsome

end FirstMatch
