import Mathlib.Data.List.Basic

/-!
# Lists that differ in one place

`OneApart r` relates two lists that have the same items but for one, where the items are related by
`r`. What a function of the items does to the place carries over to `map`, `filterMap` and `zip`.

`SameUpTo r` relates two computations that fail with the same error or have results related by `r`.
A fold over two lists one apart gives computations that are the same up to what the one step in
which they differ does.
-/

/-! ## Computations -/

section SameUpTo

variable {ε α β γ δ : Type}

inductive SameUpTo (r : α → β → Prop) : Except ε α → Except ε β → Prop
  | error (e : ε) : SameUpTo r (.error e) (.error e)
  | ok {a : α} {b : β} (h : r a b) : SameUpTo r (.ok a) (.ok b)

namespace SameUpTo

variable {r : α → β → Prop} {x : Except ε α} {y : Except ε β}

theorem refl {r : α → α → Prop} (hr : ∀ a, r a a) (x : Except ε α) : SameUpTo r x x := by
  obtain e | a := x
  · exact .error e
  · exact .ok (hr a)

theorem mono {r' : α → β → Prop} (h : SameUpTo r x y) (hr : ∀ a b, r a b → r' a b) :
    SameUpTo r' x y := by
  obtain e | hab := h
  · exact .error e
  · exact .ok (hr _ _ hab)

theorem bind {s : γ → δ → Prop} {f : α → Except ε γ} {g : β → Except ε δ} (h : SameUpTo r x y)
    (hfg : ∀ a b, r a b → SameUpTo s (f a) (g b)) : SameUpTo s (x >>= f) (y >>= g) := by
  obtain e | hab := h
  · exact .error e
  · exact hfg _ _ hab

/-- Functions that do not see the difference give the same. -/
theorem map_eq {f : α → γ} {g : β → γ} (h : SameUpTo r x y) (hfg : ∀ a b, r a b → f a = g b) :
    x.map f = y.map g := by
  obtain e | hab := h
  · rfl
  · exact congrArg Except.ok (hfg _ _ hab)

/-- Steps that keep a relation, over one list. -/
theorem foldlM {f : α → γ → Except ε α} {g : β → γ → Except ε β}
    (hstep : ∀ a b c, r a b → SameUpTo r (f a c) (g b c)) (cs : List γ) {a : α} {b : β}
    (h : r a b) : SameUpTo r (cs.foldlM f a) (cs.foldlM g b) := by
  induction cs generalizing a b with
  | nil => exact .ok h
  | cons c cs ih =>
    rw [List.foldlM_cons, List.foldlM_cons]
    exact (hstep a b c h).bind fun a' b' h' ↦ ih h'

end SameUpTo

end SameUpTo

/-! ## Lists -/

variable {ε α β γ : Type} {r : α → α → Prop} {s : β → β → Prop}

inductive OneApart (r : α → α → Prop) : List α → List α → Prop
  | here {x y : α} (h : r x y) (l : List α) : OneApart r (x :: l) (y :: l)
  | there {l l' : List α} (z : α) (h : OneApart r l l') : OneApart r (z :: l) (z :: l')

namespace OneApart

variable {l l' : List α}

theorem append_left (h : OneApart r l l') : ∀ m : List α, OneApart r (m ++ l) (m ++ l')
  | [] => h
  | z :: m => .there z (h.append_left m)

theorem append_right (h : OneApart r l l') (m : List α) : OneApart r (l ++ m) (l' ++ m) := by
  induction h with
  | here h l => exact .here h (l ++ m)
  | there z _ ih => exact .there z ih

theorem exists_eq (h : OneApart r l l') :
    ∃ a x y b, r x y ∧ l = a ++ x :: b ∧ l' = a ++ y :: b := by
  induction h with
  | here h l => exact ⟨[], _, _, l, h, rfl, rfl⟩
  | there z _ ih =>
    obtain ⟨a, x, y, b, hxy, rfl, rfl⟩ := ih
    exact ⟨z :: a, x, y, b, hxy, rfl, rfl⟩

theorem map {f : α → β} (h : OneApart r l l') (hf : ∀ x y, r x y → s (f x) (f y)) :
    OneApart s (l.map f) (l'.map f) := by
  induction h with
  | here h l => exact .here (hf _ _ h) _
  | there z _ ih => exact .there (f z) ih

theorem map_eq {f : α → β} (h : OneApart r l l') (hf : ∀ x y, r x y → f x = f y) :
    l.map f = l'.map f := by
  induction h with
  | here h l => rw [List.map_cons, List.map_cons, hf _ _ h]
  | there z _ ih => rw [List.map_cons, List.map_cons, ih]

theorem filterMap_eq {f : α → Option β} (h : OneApart r l l') (hf : ∀ x y, r x y → f x = f y) :
    l.filterMap f = l'.filterMap f := by
  induction h with
  | here h l => rw [List.filterMap_cons, List.filterMap_cons, hf _ _ h]
  | there z _ ih => rw [List.filterMap_cons, List.filterMap_cons, ih]

/-- What is picked out of the two lists is the same, or one apart. -/
theorem filterMap {f : α → Option β} (h : OneApart r l l')
    (hf : ∀ x y, r x y → f x = f y ∨ ∃ u v, f x = some u ∧ f y = some v ∧ s u v) :
    l.filterMap f = l'.filterMap f ∨ OneApart s (l.filterMap f) (l'.filterMap f) := by
  induction h with
  | here h l =>
    obtain heq | ⟨u, v, hu, hv, huv⟩ := hf _ _ h
    · exact .inl (by rw [List.filterMap_cons, List.filterMap_cons, heq])
    · rw [List.filterMap_cons_some hu, List.filterMap_cons_some hv]
      exact .inr (.here huv _)
  | there z _ ih =>
    rcases hz : f z with _ | u
    · rwa [List.filterMap_cons_none hz, List.filterMap_cons_none hz]
    · rw [List.filterMap_cons_some hz, List.filterMap_cons_some hz]
      exact ih.imp (congrArg (u :: ·)) (.there u)

theorem length_eq (h : OneApart r l l') : l.length = l'.length := by
  induction h with
  | here h l => rfl
  | there z _ ih => rw [List.length_cons, List.length_cons, ih]

/-- Pairing with one list: the pairs are the same if the list is too short, or one apart. -/
theorem zip_left (h : OneApart r l l') (m : List β) :
    m.zip l = m.zip l' ∨ OneApart (fun p q ↦ p.1 = q.1 ∧ r p.2 q.2) (m.zip l) (m.zip l') := by
  induction h generalizing m with
  | here h l =>
    obtain _ | ⟨b, m⟩ := m
    · exact .inl rfl
    · exact .inr (.here ⟨rfl, h⟩ _)
  | there z _ ih =>
    obtain _ | ⟨b, m⟩ := m
    · exact .inl rfl
    · rw [List.zip_cons_cons, List.zip_cons_cons]
      exact (ih m).imp (congrArg ((b, z) :: ·)) (.there (b, z))

/-- A fold over two lists one apart. -/
theorem foldlM {t : β → β → Prop} {f : β → α → Except ε β} (h : OneApart r l l')
    (hstep : ∀ b b' z, t b b' → SameUpTo t (f b z) (f b' z))
    (hf : ∀ b x y, r x y → SameUpTo t (f b x) (f b y)) (b : β) :
    SameUpTo t (l.foldlM f b) (l'.foldlM f b) := by
  induction h generalizing b with
  | here h l =>
    rw [List.foldlM_cons, List.foldlM_cons]
    exact (hf b _ _ h).bind fun b₁ b₂ hb ↦ SameUpTo.foldlM hstep l hb
  | there z _ ih =>
    rw [List.foldlM_cons, List.foldlM_cons]
    refine (SameUpTo.refl (fun b ↦ rfl) (f b z)).bind fun b₁ b₂ hb ↦ ?_
    rw [hb]
    exact ih b₂

end OneApart
