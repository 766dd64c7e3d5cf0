import Mathlib.Data.BitVec
import UnionpiTiger.Lib.BitSearch

set_option autoImplicit false

namespace UnionpiTiger.Isp

open Lib

section Words

variable {n r : Nat}

def sqrtTrial (mask : BitVec n) (res : BitVec r) (i : Nat) : BitVec n := res.setWidth n + mask >>> i

def sqrtStep (le : BitVec n → BitVec n → Bool) (mask arg : BitVec n) (res : BitVec r)
    (i : Nat) : BitVec r :=
  if le (sqrtTrial mask res i * sqrtTrial mask res i) arg
    then (sqrtTrial mask res i).setWidth r else res

def sqrtLoop (le : BitVec n → BitVec n → Bool) (mask arg : BitVec n) : Nat → BitVec r
  | 0 => 0
  | i + 1 => sqrtStep le mask arg (sqrtLoop le mask arg i) i

end Words

def mask64 : BitVec 64 := 1 <<< 31

def mask32 : BitVec 32 := 1 <<< 15

def mask16 : BitVec 32 := 128

def acameraSqrt64 (arg : BitVec 64) : BitVec 32 := sqrtLoop BitVec.ule mask64 arg 32

def acameraSqrt32 (arg : BitVec 32) : BitVec 16 := sqrtLoop BitVec.ule mask32 arg 16

def acameraSqrt16 (arg : BitVec 16) : BitVec 8 := sqrtLoop BitVec.sle mask16 (arg.setWidth 32) 8

section Loop

variable {n r : Nat}

structure Computes (le : BitVec n → BitVec n → Bool) (mask : BitVec n) (r : Nat) : Prop where
  wide : 2 * r ≤ n
  top : mask.toNat = 2 ^ (r - 1)
  compares : ∀ a b, a.toNat < 2 ^ (2 * r) → b.toNat < 2 ^ (2 * r) → (le a b ↔ a.toNat ≤ b.toNat)

variable {le : BitVec n → BitVec n → Bool} {mask arg : BitVec n}

theorem Computes.bit (computes : Computes le mask r) (i : Nat) (below : i < r) :
    (mask >>> i).toNat = 2 ^ (r - 1 - i) := by
  rw [BitVec.toNat_ushiftRight, computes.top, Nat.shiftRight_eq_div_pow,
    Nat.pow_div (by omega) (by omega)]

theorem sqrtTrial_toNat (computes : Computes le mask r) (res : BitVec r) (i : Nat) (below : i < r)
    (small : res.toNat + 2 ^ (r - 1 - i) < 2 ^ r) :
    (sqrtTrial mask res i).toNat = res.toNat + 2 ^ (r - 1 - i) := by
  have narrow : 2 ^ r ≤ 2 ^ n := Nat.pow_le_pow_right (by omega) (by have := computes.wide; omega)
  rw [sqrtTrial, BitVec.toNat_add, computes.bit i below, BitVec.toNat_setWidth,
    Nat.mod_eq_of_lt (show res.toNat < 2 ^ n by omega)]
  exact Nat.mod_eq_of_lt (by omega)

theorem square_lt {a : Nat} (small : a < 2 ^ r) : a * a < 2 ^ (2 * r) := by
  rw [two_mul, pow_add]
  exact Nat.mul_self_lt_mul_self small

theorem sqrtStep_toNat (computes : Computes le mask r) (small : arg.toNat < 2 ^ (2 * r))
    (res : BitVec r) (i : Nat) (below : i < r) (tried : res.toNat + 2 ^ (r - 1 - i) < 2 ^ r) :
    (sqrtStep le mask arg res i).toNat =
      if (res.toNat + 2 ^ (r - 1 - i)) * (res.toNat + 2 ^ (r - 1 - i)) ≤ arg.toNat
        then res.toNat + 2 ^ (r - 1 - i)
      else res.toNat := by
  have trial := sqrtTrial_toNat computes res i below tried
  have square : (sqrtTrial mask res i * sqrtTrial mask res i).toNat =
      (res.toNat + 2 ^ (r - 1 - i)) * (res.toNat + 2 ^ (r - 1 - i)) := by
    rw [BitVec.toNat_mul, trial]
    exact Nat.mod_eq_of_lt ((square_lt tried).trans_le (Nat.pow_le_pow_right (by omega) computes.wide))
  have compared := computes.compares (sqrtTrial mask res i * sqrtTrial mask res i) arg
    (by rw [square]; exact square_lt tried) small
  rw [square] at compared
  simp only [sqrtStep, compared]
  split_ifs
  · rw [BitVec.toNat_setWidth, trial, Nat.mod_eq_of_lt tried]
  · rfl

theorem above_all (small : arg.toNat < 2 ^ (2 * r)) : ¬2 ^ r * 2 ^ r ≤ arg.toNat := by
  rw [← pow_add, ← two_mul]
  exact Nat.not_le.mpr small

theorem sqrtLoop_toNat (computes : Computes le mask r) (small : arg.toNat < 2 ^ (2 * r)) (i : Nat)
    (below : i ≤ r) :
    (sqrtLoop le mask arg i : BitVec r).toNat = bitSearch (fun a => a * a ≤ arg.toNat) r i := by
  induction i with
  | zero => simp [sqrtLoop, bitSearch]
  | succ i ih =>
    have same := ih (Nat.le_of_succ_le below)
    have tried := (@bitSearch_tried (fun a => a * a ≤ arg.toNat)) r (by simp) (above_all small) i below
    rw [← same] at tried
    rw [sqrtLoop, sqrtStep_toNat computes small _ i below tried, same]
    rfl

def FloorRoot (res arg : Nat) : Prop := res * res ≤ arg ∧ arg < (res + 1) * (res + 1)

theorem FloorRoot.unique {res other x : Nat} (root : FloorRoot res x) (root_ : FloorRoot other x) :
    res = other := by
  have below : res < other + 1 := Nat.mul_self_lt_mul_self_iff.mp (root.1.trans_lt root_.2)
  have above : other < res + 1 := Nat.mul_self_lt_mul_self_iff.mp (root_.1.trans_lt root.2)
  omega

theorem sqrtLoop_root (computes : Computes le mask r) (small : arg.toNat < 2 ^ (2 * r)) :
    FloorRoot (sqrtLoop le mask arg r : BitVec r).toNat arg.toNat := by
  obtain ⟨low, high⟩ := (@bitSearch_last (fun a => a * a ≤ arg.toNat)) r (by simp) (above_all small)
  rw [sqrtLoop_toNat computes small r le_rfl]
  exact ⟨low, Nat.not_le.mp high⟩

theorem sqrtLoop_square (computes : Computes le mask r) (small : arg.toNat < 2 ^ (2 * r)) (i : Nat)
    (below : i < r) :
    ((sqrtLoop le mask arg i : BitVec r).toNat + (mask >>> i).toNat) ^ 2 < 2 ^ (2 * r) := by
  have tried := (@bitSearch_tried (fun a => a * a ≤ arg.toNat)) r (by simp) (above_all small) i below
  rw [sqrtLoop_toNat computes small i below.le, computes.bit i below, sq]
  exact square_lt tried

end Loop

theorem computes64 : Computes BitVec.ule mask64 32 where
  wide := le_rfl
  top := by decide
  compares a b _ _ := by simp [BitVec.ule]

theorem computes32 : Computes BitVec.ule mask32 16 where
  wide := le_rfl
  top := by decide
  compares a b _ _ := by simp [BitVec.ule]

theorem computes16 : Computes BitVec.sle mask16 8 where
  wide := by decide
  top := by decide
  compares a b small small_ := by
    have a_ : a.toInt = a.toNat := BitVec.toInt_eq_toNat_of_lt (by omega)
    have b_ : b.toInt = b.toNat := BitVec.toInt_eq_toNat_of_lt (by omega)
    simp [BitVec.sle, a_, b_]

theorem sqrt64_root (arg : BitVec 64) : FloorRoot (acameraSqrt64 arg).toNat arg.toNat :=
  sqrtLoop_root computes64 arg.isLt

theorem sqrt32_root (arg : BitVec 32) : FloorRoot (acameraSqrt32 arg).toNat arg.toNat :=
  sqrtLoop_root computes32 arg.isLt

theorem promoted (arg : BitVec 16) : (arg.setWidth 32).toNat = arg.toNat := by
  rw [BitVec.toNat_setWidth]
  omega

theorem sqrt16_root (arg : BitVec 16) : FloorRoot (acameraSqrt16 arg).toNat arg.toNat := by
  have root := sqrtLoop_root computes16 (by rw [promoted]; exact arg.isLt)
  rwa [promoted] at root

theorem integer_square_roots :
    (∀ arg : BitVec 64, FloorRoot (acameraSqrt64 arg).toNat arg.toNat) ∧
    (∀ arg : BitVec 32, FloorRoot (acameraSqrt32 arg).toNat arg.toNat) ∧
    (∀ arg : BitVec 16, FloorRoot (acameraSqrt16 arg).toNat arg.toNat) ∧
    (∀ (arg : BitVec 64) (i : Fin 32),
      ((sqrtLoop BitVec.ule mask64 arg i : BitVec 32).toNat + (mask64 >>> i.val).toNat) ^ 2 < 2 ^ 64) ∧
    (∀ (arg : BitVec 32) (i : Fin 16),
      ((sqrtLoop BitVec.ule mask32 arg i : BitVec 16).toNat + (mask32 >>> i.val).toNat) ^ 2 < 2 ^ 32) ∧
    (∀ (arg : BitVec 16) (i : Fin 8),
      ((sqrtLoop BitVec.sle mask16 (arg.setWidth 32) i : BitVec 8).toNat +
        (mask16 >>> i.val).toNat) ^ 2 < 2 ^ 31) ∧
    (∀ arg : BitVec 32, (acameraSqrt64 (arg.setWidth 64)).toNat = (acameraSqrt32 arg).toNat) ∧
    (∀ arg : BitVec 16, (acameraSqrt64 (arg.setWidth 64)).toNat = (acameraSqrt16 arg).toNat ∧
      (acameraSqrt32 (arg.setWidth 32)).toNat = (acameraSqrt16 arg).toNat) := by
  refine ⟨sqrt64_root, sqrt32_root, sqrt16_root, ?_, ?_, ?_, ?_, ?_⟩
  · exact fun arg i => sqrtLoop_square computes64 arg.isLt i i.isLt
  · exact fun arg i => sqrtLoop_square computes32 arg.isLt i i.isLt
  · intro arg i
    have square := sqrtLoop_square computes16 (by rw [promoted]; exact arg.isLt) i i.isLt
    exact square.trans (by decide)
  · intro arg
    have root := sqrt64_root (arg.setWidth 64)
    rw [BitVec.toNat_setWidth, Nat.mod_eq_of_lt (by omega)] at root
    exact root.unique (sqrt32_root arg)
  · intro arg
    have root64 := sqrt64_root (arg.setWidth 64)
    rw [BitVec.toNat_setWidth, Nat.mod_eq_of_lt (by omega)] at root64
    have root32 := sqrt32_root (arg.setWidth 32)
    rw [promoted] at root32
    exact ⟨root64.unique (sqrt16_root arg), root32.unique (sqrt16_root arg)⟩

end UnionpiTiger.Isp
