import Mathlib.Data.Nat.Notation
import Mathlib.Logic.Function.Basic

/-!
# Mixing that loses nothing

The steps of a mixing function on words of a fixed width: a word combined with its own upper bits, a
multiplication and a rotation. Each of them can be undone, so the composition of any number of them
can. A fold takes in a list of words one at a time; if a round can be undone in either argument, the
result tells apart what it started from, and what it took in at any one place.
-/

namespace Mixing

open Function

variable {w : ℕ}

/-! ## Words -/

/-- A word that is its own shift has no bit set. -/
theorem eq_zero_of_ushiftRight_eq {k : ℕ} (hk : 0 < k) {x : BitVec w} (h : x >>> k = x) :
    x = 0 := by
  have hbit : ∀ n i, w ≤ i + n → x.getLsbD i = false := by
    -- the induction runs downwards from the bits beyond the width
    intro n
    induction n with
    | zero => exact fun i hi ↦ BitVec.getLsbD_of_ge x i hi
    | succ n ih =>
      intro i hi
      rw [← h, BitVec.getLsbD_ushiftRight]
      exact ih (k + i) (by omega)
  apply BitVec.eq_of_getLsbD_eq
  intro i _
  rw [hbit w i (Nat.le_add_left w i)]
  exact BitVec.getLsbD_zero.symm

/-- A word combined with its own upper bits. -/
def xorShift (k : ℕ) (x : BitVec w) : BitVec w := x ^^^ (x >>> k)

theorem xorShift_injective {k : ℕ} (hk : 0 < k) : Injective (xorShift k : BitVec w → BitVec w) := by
  intro x y h
  have hdiff : (x ^^^ y) >>> k = x ^^^ y := by
    have hswap : (x ^^^ y) ^^^ (x >>> k ^^^ y >>> k) = 0 := by
      have hcancel : (x ^^^ x >>> k) ^^^ (y ^^^ y >>> k) = 0 := BitVec.xor_eq_zero_iff.mpr h
      rw [← hcancel]
      ac_rfl
    rw [BitVec.ushiftRight_xor_distrib]
    exact (BitVec.xor_eq_zero_iff.mp hswap).symm
  exact BitVec.xor_eq_zero_iff.mp (eq_zero_of_ushiftRight_eq hk hdiff)

/-- A multiplication by a number that has an inverse. -/
theorem mul_injective {c d : BitVec w} (h : c * d = 1) : Injective (fun x : BitVec w ↦ x * c) := by
  intro x y hxy
  have hback : ∀ z : BitVec w, z * c * d = z := by
    intro z
    rw [BitVec.mul_assoc, h]
    exact BitVec.mul_one z
  rw [← hback x, ← hback y]
  exact congrArg (· * d) hxy

theorem rotateLeft_injective {r : ℕ} (hr : r < w) :
    Injective (fun x : BitVec w ↦ x.rotateLeft r) := by
  have hbit : ∀ (x : BitVec w) (i : ℕ), i < w
      → (x.rotateLeft r).getLsbD (if i + r < w then i + r else i + r - w) = x.getLsbD i := by
    intro x i hi
    by_cases hwrap : i + r < w
    · have hlow : ¬ i + r < r := by omega
      rw [if_pos hwrap, BitVec.getLsbD_rotateLeft_of_le hr]
      simp [hlow, hwrap]
    · have hlow : i + r - w < r := by omega
      have hback : w - r + (i + r - w) = i := by omega
      rw [if_neg hwrap, BitVec.getLsbD_rotateLeft_of_le hr]
      simp [hlow, hback]
  intro x y h
  apply BitVec.eq_of_getLsbD_eq
  intro i hi
  rw [← hbit x i hi, ← hbit y i hi]
  exact congrArg (fun z : BitVec w ↦ z.getLsbD _) h

/-! ## Lists of words -/

variable {σ β : Type} {f : σ → β → σ}

/-- Rounds that can be undone, one after another. -/
theorem foldl_injective (hf : ∀ b, Injective fun s ↦ f s b) (l : List β) :
    Injective fun s ↦ l.foldl f s := by
  induction l with
  | nil => exact fun _ _ h ↦ h
  | cons b l ih => exact ih.comp (hf b)

/-- What is taken in at one place decides, if the rest is the same. -/
theorem eq_of_foldl_append_cons (hf : ∀ b, Injective fun s ↦ f s b) {s : σ} {l₁ l₂ : List β}
    {b b' : β} (h : (l₁ ++ b :: l₂).foldl f s = (l₁ ++ b' :: l₂).foldl f s) :
    f (l₁.foldl f s) b = f (l₁.foldl f s) b' := by
  simp only [List.foldl_append, List.foldl_cons] at h
  exact foldl_injective hf l₂ h

end Mixing
