import Mathlib.Data.Nat.ModEq

/-!
# Ones' complement sums

Adding with an end-around carry keeps a number modulo one less than the base. A sum that is folded
into a single digit is therefore determined up to the two representations of zero, and a sum of
nothing but zeros is told apart from every other one.

`IsFolded B n r` says that `r` is what folding the number `n` to one digit of base `B` gives. It is
the specification that a particular way of folding is compared with: `IsFolded.of_carry` is one
round of carries, and `IsFolded.complement` is why a checksum that is added to the sum it was made
from gives the digit of all ones.
-/

namespace OnesComplement

/-- The digit `r` of base `B` that the end-around sum `n` is folded into. -/
structure IsFolded (B n r : ℕ) : Prop where
  lt : r < B
  modEq : r ≡ n [MOD B - 1]
  /-- Only zero folds into zero: every other multiple of `B - 1` folds into `B - 1`. -/
  eq_zero_iff : r = 0 ↔ n = 0

variable {B n r : ℕ}

theorem isFolded_self (h : n < B) : IsFolded B n n := ⟨h, Nat.ModEq.refl n, Iff.rfl⟩

/-- A carry is worth as much at the end as it was at the front. -/
theorem carry_modEq (hB : 0 < B) (n : ℕ) : n % B + n / B ≡ n [MOD B - 1] := by
  have hone : 1 ≡ B [MOD B - 1] := (Nat.modEq_iff_dvd' hB).mpr dvd_rfl
  calc n % B + n / B ≡ n % B + B * (n / B) [MOD B - 1] := by
        simpa using (Nat.ModEq.refl (n % B)).add (hone.mul_right (n / B))
    _ = n := Nat.mod_add_div n B

theorem carry_eq_zero_iff : n % B + n / B = 0 ↔ n = 0 := by
  constructor
  · intro h
    obtain ⟨hmod, hdiv⟩ := Nat.add_eq_zero_iff.mp h
    rw [← Nat.mod_add_div n B, hmod, hdiv, mul_zero, add_zero]
  · rintro rfl
    simp

/-- A number with more than one digit gets smaller. -/
theorem carry_lt (hB : 1 < B) (h : B ≤ n) : n % B + n / B < n := by
  have hdiv : 0 < n / B := Nat.div_pos h (by omega)
  have hsplit := Nat.mod_add_div n B
  have hless : n / B < B * (n / B) := (Nat.lt_mul_iff_one_lt_left hdiv).mpr hB
  omega

/-- One round of carries does not change what a number folds into. -/
theorem IsFolded.of_carry (hB : 0 < B) (h : IsFolded B (n % B + n / B) r) : IsFolded B n r :=
  ⟨h.lt, h.modEq.trans (carry_modEq hB n), h.eq_zero_iff.trans carry_eq_zero_iff⟩

/-- A digit that is a multiple of `B - 1` and not zero is the digit of all ones. -/
private theorem eq_of_dvd (hlt : r < B) (hdvd : B - 1 ∣ r) (hr : r ≠ 0) : r = B - 1 := by
  have hle := Nat.le_of_dvd (Nat.pos_of_ne_zero hr) hdvd
  omega

theorem IsFolded.unique {r' : ℕ} (h : IsFolded B n r) (h' : IsFolded B n r') : r = r' := by
  have hmod : r ≡ r' [MOD B - 1] := h.modEq.trans h'.modEq.symm
  have hzero : r = 0 ↔ r' = 0 := h.eq_zero_iff.trans h'.eq_zero_iff.symm
  have hlt := h.lt
  have hlt' := h'.lt
  -- nothing but `0` and `B - 1` is represented twice
  by_cases hdvd : B - 1 ∣ r
  · have hdvd' : B - 1 ∣ r' := (hmod.dvd_iff dvd_rfl).mp hdvd
    by_cases hr : r = 0
    · rw [hr, hzero.mp hr]
    · rw [eq_of_dvd hlt hdvd hr, eq_of_dvd hlt' hdvd' fun hr' ↦ hr (hzero.mpr hr')]
  · have hr : r ≠ B - 1 := fun h ↦ hdvd (h ▸ dvd_rfl)
    have hr' : r' ≠ B - 1 := fun h ↦ hdvd ((hmod.dvd_iff dvd_rfl).mpr (h ▸ dvd_rfl))
    exact hmod.eq_of_lt_of_lt (by omega) (by omega)

/-- **Adding the complement of what a sum folds into** makes it fold into the digit of all ones,
also when the sum is zero. -/
theorem IsFolded.complement (hB : 1 < B) (h : IsFolded B n r) :
    IsFolded B (n + (B - 1 - r)) (B - 1) := by
  have hlt := h.lt
  refine ⟨by omega, ?_, ?_⟩
  · have hsum : n + (B - 1 - r) ≡ r + (B - 1 - r) [MOD B - 1] := h.modEq.symm.add_right _
    have hall : r + (B - 1 - r) = B - 1 := by omega
    rw [hall] at hsum
    exact hsum.symm
  · constructor
    · intro hB'
      omega
    · intro hzero
      have hr : r = 0 := h.eq_zero_iff.mpr (by omega)
      omega

end OnesComplement
