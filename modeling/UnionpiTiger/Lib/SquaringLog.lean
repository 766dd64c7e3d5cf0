import Mathlib.Algebra.Order.Ring.Nat
import Mathlib.Tactic.Linarith
import Mathlib.Tactic.Ring

set_option autoImplicit false

namespace UnionpiTiger.Lib

structure LogState where
  digits : Nat
  mantissa : Nat
deriving DecidableEq

namespace LogState

variable {w x c : Nat} {s t : LogState}

def Normal (w : Nat) (s : LogState) : Prop := 2 ^ w ≤ s.mantissa ∧ s.mantissa < 2 ^ (w + 1)

def next (w : Nat) (s : LogState) : LogState :=
  if 2 ^ (2 * w + 1) ≤ s.mantissa * s.mantissa
    then ⟨2 * s.digits + 1, s.mantissa * s.mantissa / 2 ^ (w + 1)⟩
  else ⟨2 * s.digits, s.mantissa * s.mantissa / 2 ^ w⟩

theorem two_pow_double (w : Nat) : 2 ^ (2 * w) = 2 ^ w * 2 ^ w := by
  rw [← pow_add, two_mul]

theorem square_bounds (normal : s.Normal w) :
    2 ^ w * 2 ^ w ≤ s.mantissa * s.mantissa ∧ s.mantissa * s.mantissa < 2 ^ (w + 1) * 2 ^ (w + 1) :=
  ⟨Nat.mul_self_le_mul_self normal.1, Nat.mul_self_lt_mul_self normal.2⟩

theorem next_normal (normal : s.Normal w) : (s.next w).Normal w := by
  obtain ⟨least, most⟩ := square_bounds normal
  have double : 2 ^ (2 * w + 1) = 2 ^ w * 2 ^ (w + 1) := by
    rw [pow_succ, two_pow_double, pow_succ, mul_assoc]
  unfold next Normal
  by_cases carry : 2 ^ (2 * w + 1) ≤ s.mantissa * s.mantissa
  · simp only [carry, if_true]
    constructor
    · rw [Nat.le_div_iff_mul_le (Nat.two_pow_pos _), ← double]
      exact carry
    · exact Nat.div_lt_of_lt_mul most
  · simp only [carry, if_false]
    constructor
    · exact (Nat.le_div_iff_mul_le (Nat.two_pow_pos _)).mpr least
    · rw [double, not_le] at carry
      exact Nat.div_lt_of_lt_mul carry

theorem cut_bounds {square unit cut : Nat} (some : 0 < unit) (left : square / unit = cut)
    (normal : 2 ^ w ≤ cut) :
    cut * unit ≤ square ∧ 2 ^ w * square ≤ cut * (2 ^ w + 1) * unit := by
  subst left
  have below := Nat.div_mul_le_self square unit
  have above : square < (square / unit + 1) * unit := Nat.lt_mul_of_div_lt (Nat.lt_succ_self _) some
  refine ⟨below, ?_⟩
  calc 2 ^ w * square ≤ 2 ^ w * ((square / unit + 1) * unit) := Nat.mul_le_mul_left _ above.le
    _ = (2 ^ w * (square / unit) + 2 ^ w) * unit := by ring
    _ ≤ (2 ^ w * (square / unit) + square / unit) * unit :=
        Nat.mul_le_mul_right _ (Nat.add_le_add_left normal _)
    _ = square / unit * (2 ^ w + 1) * unit := by ring

theorem next_value (normal : s.Normal w) :
    2 ^ (s.next w).digits * (s.next w).mantissa * 2 ^ w ≤
    2 ^ (2 * s.digits) * (s.mantissa * s.mantissa) ∧
      2 ^ (2 * s.digits) * (2 ^ w * (s.mantissa * s.mantissa)) ≤
        2 ^ (s.next w).digits * (s.next w).mantissa * (2 ^ w + 1) * 2 ^ w := by
  have normal' := (next_normal normal).1
  unfold next at normal' ⊢
  by_cases carry : 2 ^ (2 * w + 1) ≤ s.mantissa * s.mantissa
  · simp only [carry, if_true] at normal' ⊢
    obtain ⟨low, high⟩ := cut_bounds (Nat.two_pow_pos (w + 1)) rfl normal'
    constructor
    · calc _ = 2 ^ (2 * s.digits) * (s.mantissa * s.mantissa / 2 ^ (w + 1) * 2 ^ (w + 1)) := by ring
        _ ≤ _ := Nat.mul_le_mul_left _ low
    · calc _ ≤ 2 ^ (2 * s.digits) *
        (s.mantissa * s.mantissa / 2 ^ (w + 1) * (2 ^ w + 1) * 2 ^ (w + 1)) :=
            Nat.mul_le_mul_left _ high
        _ = _ := by ring
  · simp only [carry, if_false] at normal' ⊢
    obtain ⟨low, high⟩ := cut_bounds (Nat.two_pow_pos w) rfl normal'
    constructor
    · calc _ = 2 ^ (2 * s.digits) * (s.mantissa * s.mantissa / 2 ^ w * 2 ^ w) := by ring
        _ ≤ _ := Nat.mul_le_mul_left _ low
    · calc _ ≤ 2 ^ (2 * s.digits) * (s.mantissa * s.mantissa / 2 ^ w * (2 ^ w + 1) * 2 ^ w) :=
        Nat.mul_le_mul_left _ high
        _ = _ := by ring

-- `x` is at least what the state stands for, and at most that with `c` errors of one part in `2 ^
-- w`.
structure Near (w c x : Nat) (s : LogState) : Prop where
  lower : 2 ^ s.digits * s.mantissa ≤ x * 2 ^ w
  upper : x * 2 ^ w * (2 ^ w) ^ c ≤ 2 ^ s.digits * s.mantissa * (2 ^ w + 1) ^ c

theorem Near.next (near : s.Near w c x) (normal : s.Normal w) :
    (s.next w).Near w (2 * c + 1) (x * x) := by
  obtain ⟨low, high⟩ := next_value normal
  have positive := Nat.two_pow_pos w
  constructor
  · refine Nat.le_of_mul_le_mul_right ?_ positive
    calc _ ≤ 2 ^ (2 * s.digits) * (s.mantissa * s.mantissa) := low
      _ = 2 ^ s.digits * s.mantissa * (2 ^ s.digits * s.mantissa) := by ring
      _ ≤ x * 2 ^ w * (x * 2 ^ w) := Nat.mul_le_mul near.lower near.lower
      _ = x * x * 2 ^ w * 2 ^ w := by ring
  · refine Nat.le_of_mul_le_mul_right ?_ positive
    calc x * x * 2 ^ w * (2 ^ w) ^ (2 * c + 1) * 2 ^ w
        = x * 2 ^ w * (2 ^ w) ^ c * (x * 2 ^ w * (2 ^ w) ^ c) * 2 ^ w := by ring
      _ ≤ 2 ^ s.digits * s.mantissa * (2 ^ w + 1) ^ c *
        (2 ^ s.digits * s.mantissa * (2 ^ w + 1) ^ c) * 2 ^ w :=
          Nat.mul_le_mul_right _ (Nat.mul_le_mul near.upper near.upper)
      _ = 2 ^ (2 * s.digits) * (2 ^ w * (s.mantissa * s.mantissa)) * (2 ^ w + 1) ^ (2 * c) := by ring
      _ ≤ 2 ^ (s.next w).digits * (s.next w).mantissa * (2 ^ w + 1) * 2 ^ w * (2 ^ w + 1) ^ (2 * c) :=
          Nat.mul_le_mul_right _ high
      _ = _ := by ring

def errors : Nat → Nat
  | 0 => 1
  | k + 1 => 2 * errors k + 1

theorem errors_eq (k : Nat) : errors k + 1 = 2 ^ (k + 1) := by
  induction k with
  | zero => rfl
  | succ k ih =>
    simp only [errors, pow_succ] at ih ⊢
    omega

theorem iterate_normal (k : Nat) (normal : s.Normal w) : ((next w)^[k] s).Normal w := by
  induction k generalizing s with
  | zero => exact normal
  | succ k ih => exact ih (next_normal normal)

theorem Near.iterate (k : Nat) (near : s.Near w c x) (normal : s.Normal w) (start : c = 1) :
    ((LogState.next w)^[k] s).Near w (errors k) (x ^ 2 ^ k) := by
  induction k with
  | zero => simpa [errors, start] using near
  | succ k ih =>
    rw [Function.iterate_succ_apply', pow_succ, mul_two, pow_add]
    exact ih.next (iterate_normal k normal)

theorem errors_small {b : Nat} (few : 2 * c ≤ b) (some : 0 < b) : (b + 1) ^ c ≤ 2 * b ^ c := by
  have each (n : Nat) (within : n ≤ b) : (b + 1) ^ n * (b - n) ≤ b ^ (n + 1) := by
    induction n with
    | zero => simp
    | succ n ih =>
      obtain ⟨rest, rfl⟩ := Nat.exists_eq_add_of_le within
      have earlier := ih (by omega)
      simp only [show n + 1 + rest - (n + 1) =
        rest by omega, show n + 1 + rest - n = rest + 1 by omega] at earlier ⊢
      calc (n + 1 + rest + 1) ^ (n + 1) * rest =
        (n + 1 + rest + 1) ^ n * ((n + 1 + rest + 1) * rest) := by ring
        _ ≤ (n + 1 + rest + 1) ^ n * ((rest + 1) * (n + 1 + rest)) :=
          Nat.mul_le_mul_left _ (by nlinarith)
        _ = (n + 1 + rest + 1) ^ n * (rest + 1) * (n + 1 + rest) := by ring
        _ ≤ (n + 1 + rest) ^ (n + 1) * (n + 1 + rest) := Nat.mul_le_mul_right _ earlier
        _ = _ := by ring
  refine Nat.le_of_mul_le_mul_right ?_ some
  calc (b + 1) ^ c * b ≤ (b + 1) ^ c * (2 * (b - c)) := Nat.mul_le_mul_left _ (by omega)
    _ = 2 * ((b + 1) ^ c * (b - c)) := by ring
    _ ≤ 2 * b ^ (c + 1) := Nat.mul_le_mul_left _ (each c (by omega))
    _ = 2 * b ^ c * b := by ring

theorem Near.bounds (near : s.Near w c x) (normal : s.Normal w) (few : 2 * c ≤ 2 ^ w) :
    2 ^ s.digits ≤ x ∧ x < 2 ^ (s.digits + 2) := by
  have positive := Nat.two_pow_pos w
  constructor
  · refine Nat.le_of_mul_le_mul_right ?_ positive
    exact (Nat.mul_le_mul_left _ normal.1).trans near.lower
  · refine Nat.lt_of_mul_lt_mul_right (a := 2 ^ w * (2 ^ w) ^ c) ?_
    calc x * (2 ^ w * (2 ^ w) ^ c) = x * 2 ^ w * (2 ^ w) ^ c := by ring
      _ ≤ 2 ^ s.digits * s.mantissa * (2 ^ w + 1) ^ c := near.upper
      _ ≤ 2 ^ s.digits * s.mantissa * (2 * (2 ^ w) ^ c) :=
        Nat.mul_le_mul_left _ (errors_small few positive)
      _ < 2 ^ s.digits * 2 ^ (w + 1) * (2 * (2 ^ w) ^ c) :=
          Nat.mul_lt_mul_of_pos_right (Nat.mul_lt_mul_of_pos_left normal.2 (Nat.two_pow_pos _))
            (by positivity)
      _ = 2 ^ (s.digits + 2) * (2 ^ w * (2 ^ w) ^ c) := by ring

def Le (s t : LogState) : Prop := s.digits < t.digits ∨ s.digits = t.digits ∧ s.mantissa ≤ t.mantissa

theorem Le.next (le : s.Le t) : (s.next w).Le (t.next w) := by
  unfold LogState.next Le
  rcases le with less | ⟨same, least⟩
  · split_ifs <;> exact .inl (by dsimp only; omega)
  · have squares := Nat.mul_self_le_mul_self least
    split_ifs with first second second
    · exact .inr ⟨by rw [same], Nat.div_le_div_right squares⟩
    · exact absurd (first.trans squares) second
    · exact .inl (by dsimp only; omega)
    · exact .inr ⟨by rw [same], Nat.div_le_div_right squares⟩

theorem Le.iterate (k : Nat) (le : s.Le t) :
    ((LogState.next w)^[k] s).Le ((LogState.next w)^[k] t) := by
  induction k generalizing s t with
  | zero => exact le
  | succ k ih => exact ih le.next

def fixed (w shift : Nat) (s : LogState) : Nat :=
  s.digits * 2 ^ shift + (s.mantissa - 2 ^ w) / 2 ^ (w - shift)

theorem residue_lt {shift : Nat} (within : shift ≤ w) (normal : s.Normal w) :
    (s.mantissa - 2 ^ w) / 2 ^ (w - shift) < 2 ^ shift := by
  refine Nat.div_lt_of_lt_mul ?_
  rw [← pow_add, Nat.sub_add_cancel within]
  have most := normal.2
  rw [pow_succ] at most
  omega

theorem Le.fixed {shift : Nat} (le : s.Le t) (within : shift ≤ w) (normal : s.Normal w) :
    s.fixed w shift ≤ t.fixed w shift := by
  have residue := residue_lt within normal
  unfold LogState.fixed
  rcases le with less | ⟨same, least⟩
  · calc _ ≤ (s.digits + 1) * 2 ^ shift := by rw [add_mul, one_mul]; omega
      _ ≤ t.digits * 2 ^ shift := Nat.mul_le_mul_right _ less
      _ ≤ _ := Nat.le_add_right _ _
  · rw [same]
    exact Nat.add_le_add_left (Nat.div_le_div_right (Nat.sub_le_sub_right least _)) _

def ofNat (w pos x : Nat) : LogState := ⟨pos, x * 2 ^ w / 2 ^ pos⟩

section Start

variable {pos pos' y : Nat}

theorem ofNat_normal (least : 2 ^ pos ≤ x) (most : x < 2 ^ (pos + 1)) : (ofNat w pos x).Normal w := by
  constructor
  · refine (Nat.le_div_iff_mul_le (Nat.two_pow_pos _)).mpr ?_
    rw [mul_comm]
    exact Nat.mul_le_mul_right _ least
  · refine Nat.div_lt_of_lt_mul ?_
    calc x * 2 ^ w < 2 ^ (pos + 1) * 2 ^ w := Nat.mul_lt_mul_of_pos_right most (Nat.two_pow_pos w)
      _ = 2 ^ pos * 2 ^ (w + 1) := by ring

theorem ofNat_near (least : 2 ^ pos ≤ x) (most : x < 2 ^ (pos + 1)) : (ofNat w pos x).Near w 1 x := by
  obtain ⟨low, high⟩ := cut_bounds (Nat.two_pow_pos pos) rfl (ofNat_normal least most).1
  constructor
  · rw [mul_comm]
    exact low
  · calc x * 2 ^ w * (2 ^ w) ^ 1 = 2 ^ w * (x * 2 ^ w) := by ring
      _ ≤ (ofNat w pos x).mantissa * (2 ^ w + 1) * 2 ^ pos := high
      _ = 2 ^ pos * (ofNat w pos x).mantissa * (2 ^ w + 1) ^ 1 := by ring

theorem ofNat_le (least : 2 ^ pos ≤ x) (most : y < 2 ^ (pos' + 1)) (le : x ≤ y) :
    (ofNat w pos x).Le (ofNat w pos' y) := by
  have order : pos < pos' + 1 :=
    (Nat.pow_lt_pow_iff_right (by decide : 1 < 2)).mp ((least.trans le).trans_lt most)
  rcases Nat.lt_or_ge pos pos' with less | more
  · exact .inl less
  · obtain rfl : pos = pos' := by omega
    exact .inr ⟨rfl, Nat.div_le_div_right (Nat.mul_le_mul_right _ le)⟩

end Start

theorem iterate_digits (k pos mantissa : Nat) : (next w)^[k] ⟨pos, mantissa⟩ =
    ⟨pos * 2 ^ k + ((next w)^[k] ⟨0, mantissa⟩).digits, ((next w)^[k] ⟨0, mantissa⟩).mantissa⟩ := by
  induction k with
  | zero => simp
  | succ k ih =>
    simp only [Function.iterate_succ_apply', ih, next]
    split_ifs <;> simp only [LogState.mk.injEq, and_true] <;> ring

theorem iterate_digits_lt (k mantissa : Nat) : ((next w)^[k] ⟨0, mantissa⟩).digits < 2 ^ k := by
  induction k with
  | zero => simp
  | succ k ih =>
    simp only [Function.iterate_succ_apply', next, pow_succ]
    split_ifs <;> dsimp only <;> omega

end LogState

end UnionpiTiger.Lib
