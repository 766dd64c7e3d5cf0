import Mathlib.Algebra.Order.Ring.Nat
import Mathlib.Tactic.Linarith
import Mathlib.Tactic.Ring

set_option autoImplicit false

namespace UnionpiTiger.Lib

variable {n a b alpha beta limit : Nat}

def blended (n a b alpha : Nat) : Nat := b * alpha + a * (n - alpha)

def blend (n a b alpha : Nat) : Nat := blended n a b alpha / n

theorem blended_same (within : alpha ≤ n) : blended n a a alpha = a * n := by
  obtain ⟨rest, rfl⟩ := Nat.exists_eq_add_of_le within
  simp only [blended, Nat.add_sub_cancel_left]
  ring

theorem blended_mono {a' b' : Nat} (first : a ≤ a') (second : b ≤ b') :
    blended n a b alpha ≤ blended n a' b' alpha :=
  Nat.add_le_add (Nat.mul_le_mul_right _ second) (Nat.mul_le_mul_right _ first)

theorem blend_mono {a' b' : Nat} (first : a ≤ a') (second : b ≤ b') :
    blend n a b alpha ≤ blend n a' b' alpha :=
  Nat.div_le_div_right (blended_mono first second)

theorem blend_same (some : 0 < n) (within : alpha ≤ n) : blend n a a alpha = a := by
  rw [blend, blended_same within, Nat.mul_div_cancel _ some]

theorem blend_between (some : 0 < n) (within : alpha ≤ n) :
    min a b ≤ blend n a b alpha ∧ blend n a b alpha ≤ max a b := by
  constructor
  · calc min a b = blend n (min a b) (min a b) alpha := (blend_same some within).symm
      _ ≤ blend n a b alpha := blend_mono (Nat.min_le_left _ _) (Nat.min_le_right _ _)
  · calc blend n a b alpha ≤ blend n (max a b) (max a b) alpha :=
      blend_mono (Nat.le_max_left _ _) (Nat.le_max_right _ _)
      _ = max a b := blend_same some within

theorem blend_zero (some : 0 < n) : blend n a b 0 = a := by
  simp [blend, blended, some]

theorem blend_full (some : 0 < n) : blend n a b n = b := by
  simp [blend, blended, some]

theorem blended_rises (rises : a ≤ b) (more : alpha ≤ beta) (within : beta ≤ n) :
    blended n a b alpha ≤ blended n a b beta := by
  obtain ⟨step, rfl⟩ := Nat.exists_eq_add_of_le more
  obtain ⟨rest, rfl⟩ := Nat.exists_eq_add_of_le within
  have gain := Nat.mul_le_mul_right step rises
  simp only [blended, show alpha + step + rest - alpha =
    step + rest by omega, Nat.add_sub_cancel_left, mul_add]
  omega

theorem blended_falls (falls : b ≤ a) (more : alpha ≤ beta) (within : beta ≤ n) :
    blended n a b beta ≤ blended n a b alpha := by
  obtain ⟨step, rfl⟩ := Nat.exists_eq_add_of_le more
  obtain ⟨rest, rfl⟩ := Nat.exists_eq_add_of_le within
  have loss := Nat.mul_le_mul_right step falls
  simp only [blended, show alpha + step + rest - alpha =
    step + rest by omega, Nat.add_sub_cancel_left, mul_add]
  omega

theorem blended_lt {least most : Nat} (low : least ≤ alpha) (high : alpha ≤ most)
    (within : most ≤ n) (first : blended n a b least < limit) (last : blended n a b most < limit) :
    blended n a b alpha < limit := by
  rcases Nat.le_total a b with rises | falls
  · exact (blended_rises rises high within).trans_lt last
  · exact (blended_falls falls low (high.trans within)).trans_lt first

theorem blended_wraps (some : 0 < n) (within : alpha ≤ n) (first : b * alpha < limit)
    (second : a * (n - alpha) < limit) (wraps : limit ≤ blended n a b alpha) :
    (blended n a b alpha - limit) / n < min a b := by
  obtain ⟨rest, rfl⟩ := Nat.exists_eq_add_of_le within
  simp only [blended, Nat.add_sub_cancel_left] at first second wraps ⊢
  refine (Nat.div_lt_iff_lt_mul some).mpr ?_
  rcases Nat.le_total a b with rises | falls
  · have part : a * alpha ≤ b * alpha := Nat.mul_le_mul_right _ rises
    rw [Nat.min_eq_left rises, mul_add]
    omega
  · have part : b * rest ≤ a * rest := Nat.mul_le_mul_right _ falls
    rw [Nat.min_eq_right falls, mul_add]
    omega

end UnionpiTiger.Lib
