import Mathlib.Data.List.Perm.Basic
import Mathlib.Data.List.Nodup
import Mathlib.Logic.Equiv.Basic

set_option autoImplicit false

namespace UnionpiTiger.Lib

structure Comparator (α : Type) where
  comp : α → α → Int
  flip : ∀ a b, 0 < comp a b ↔ comp b a < 0
  trans : ∀ a b c, comp a b ≤ 0 → comp b c ≤ 0 → comp a c ≤ 0

namespace Comparator

variable {α : Type} (order : Comparator α) {a b c : α}

def Le (a b : α) : Prop := order.comp a b ≤ 0

theorem le_refl (a : α) : order.Le a a := by
  have both := order.flip a a
  unfold Le
  omega

theorem le_trans (first : order.Le a b) (second : order.Le b c) : order.Le a c :=
  order.trans a b c first second

theorem le_of_gt (greater : 0 < order.comp a b) : order.Le b a := by
  have both := order.flip a b
  unfold Le
  omega

theorem eq_of_le (first : order.Le a b) (second : order.Le b a) : order.comp a b = 0 := by
  have both := order.flip b a
  unfold Le at first second
  omega

theorem le_of_eq (equal : order.comp a b = 0) : order.Le b a := by
  have both := order.flip b a
  have back := order.flip a b
  unfold Le
  omega

end Comparator

def Rearranged {α : Type} (lo hi : Nat) (before after : Nat → α) : Prop :=
  ∃ places : Equiv.Perm Nat, (∀ k, k < lo ∨ hi < k → places k = k) ∧ after = before ∘ places

namespace Rearranged

variable {α : Type} {lo hi lo' hi' : Nat} {before after last : Nat → α}

theorem refl (lo hi : Nat) (cells : Nat → α) : Rearranged lo hi cells cells :=
  ⟨Equiv.refl Nat, fun _ _ => rfl, rfl⟩

theorem trans (first : Rearranged lo hi before after) (second : Rearranged lo hi after last) :
    Rearranged lo hi before last := by
  obtain ⟨places, fixed, rfl⟩ := first
  obtain ⟨more, still, rfl⟩ := second
  refine ⟨more.trans places, fun k outside => ?_, rfl⟩
  rw [Equiv.trans_apply, still k outside, fixed k outside]

theorem widen (inside : Rearranged lo' hi' before after) (lower : lo ≤ lo') (upper : hi' ≤ hi) :
    Rearranged lo hi before after := by
  obtain ⟨places, fixed, rfl⟩ := inside
  exact ⟨places, fun k outside => fixed k (by omega), rfl⟩

theorem swap (cells : Nat → α) {i j : Nat} (first : lo ≤ i ∧ i ≤ hi) (second : lo ≤ j ∧ j ≤ hi) :
    Rearranged lo hi cells (cells ∘ Equiv.swap i j) :=
  ⟨Equiv.swap i j, fun _ outside => Equiv.swap_apply_of_ne_of_ne (by omega) (by omega), rfl⟩

theorem outside (rearranged : Rearranged lo hi before after) {k : Nat} (out : k < lo ∨ hi < k) :
    after k = before k := by
  obtain ⟨places, fixed, rfl⟩ := rearranged
  exact congrArg before (fixed k out)

theorem inside (rearranged : Rearranged lo hi before after) {k : Nat} (within : lo ≤ k ∧ k ≤ hi) :
    ∃ j, (lo ≤ j ∧ j ≤ hi) ∧ after k = before j := by
  obtain ⟨places, fixed, rfl⟩ := rearranged
  refine ⟨places k, ?_, rfl⟩
  by_contra out
  have moved := fixed (places k) (by omega)
  have same := places.injective moved
  omega

theorem all (P : α → Prop) (rearranged : Rearranged lo hi before after)
    (each : ∀ k, lo ≤ k → k ≤ hi → P (before k)) {k : Nat} (lower : lo ≤ k) (upper : k ≤ hi) :
    P (after k) := by
  obtain ⟨j, within, held⟩ := rearranged.inside ⟨lower, upper⟩
  rw [held]
  exact each j within.1 within.2

theorem perm {num : Nat} (rearranged : Rearranged 0 (num - 1) before after) :
    ((List.range num).map after).Perm ((List.range num).map before) := by
  obtain ⟨places, fixed, rfl⟩ := rearranged
  have numbers : ((List.range num).map places).Perm (List.range num) := by
    refine (List.perm_ext_iff_of_nodup (List.nodup_range.map places.injective) List.nodup_range).mpr
      fun k => ?_
    have stays : ∀ j, num ≤ j → places j = j := fun j out => by
      by_cases none_ : num = 0 ∧ j = 0
      · by_contra moved
        have back := fixed (places j) (by omega)
        exact moved (places.injective back)
      · exact fixed j (by omega)
    rw [List.mem_map, List.mem_range]
    constructor
    · rintro ⟨j, mem, rfl⟩
      by_contra out
      have same := places.injective (stays (places j) (by omega))
      rw [same] at out
      exact out (List.mem_range.mp mem)
    · intro below
      refine ⟨places.symm k, List.mem_range.mpr ?_, places.apply_symm_apply k⟩
      by_contra out
      have same := stays (places.symm k) (by omega)
      rw [places.apply_symm_apply] at same
      omega
  have moved := numbers.map before
  rwa [List.map_map] at moved

end Rearranged

section

variable {α : Type} (order : Comparator α)

def SortedBut (num : Nat) (pending : List (Nat × Nat)) (cells : Nat → α) : Prop :=
  ∀ i j, i < j → j < num → order.Le (cells i) (cells j) ∨ ∃ p ∈ pending, p.1 ≤ i ∧ j ≤ p.2

def Apart (p q : Nat × Nat) : Prop := p.2 < q.1 ∨ q.2 < p.1

variable {order} {num lo hi : Nat} {rest parts : List (Nat × Nat)} {before after : Nat → α}

theorem SortedBut.work (sorted : SortedBut order num ((lo, hi) :: rest) before)
    (apart : ∀ p ∈ rest, Apart (lo, hi) p) (within : hi < num)
      (rearranged : Rearranged lo hi before after)
    (left : ∀ i j, lo ≤ i → i < j → j ≤ hi →
      order.Le (after i) (after j) ∨ ∃ p ∈ parts, p.1 ≤ i ∧ j ≤ p.2) :
    SortedBut order num (parts ++ rest) after := by
  -- A cell of the range and one outside it are in order, whatever the range holds.
  have crossing : ∀ i j, i < j → j < num → ¬(lo ≤ i ∧ j ≤ hi) → (lo ≤ i ∧ i ≤ hi ∨ lo ≤ j ∧ j ≤ hi) →
      order.Le (before i) (before j) := by
    intro i j less below split either
    rcases sorted i j less below with done | ⟨p, mem, lower, upper⟩
    · exact done
    · rcases List.mem_cons.mp mem with rfl | other
      · exact absurd ⟨lower, upper⟩ split
      · have := apart p other
        unfold Apart at this
        dsimp only at this
        omega
  intro i j less below
  by_cases both : lo ≤ i ∧ j ≤ hi
  · rcases left i j both.1 less both.2 with done | ⟨p, mem, bounds⟩
    · exact Or.inl done
    · exact Or.inr ⟨p, List.mem_append_left _ mem, bounds⟩
  by_cases first : lo ≤ i ∧ i ≤ hi
  · left
    obtain ⟨k, kIn, held⟩ := rearranged.inside first
    rw [held, rearranged.outside (by omega)]
    exact crossing k j (by omega) below (by omega) (Or.inl kIn)
  by_cases second : lo ≤ j ∧ j ≤ hi
  · left
    obtain ⟨k, kIn, held⟩ := rearranged.inside second
    rw [held, rearranged.outside (by omega)]
    exact crossing i k (by omega) (by omega) (by omega) (Or.inr kIn)
  · rw [rearranged.outside (k := i) (by omega), rearranged.outside (k := j) (by omega)]
    rcases sorted i j less below with done | ⟨p, mem, bounds⟩
    · exact Or.inl done
    · rcases List.mem_cons.mp mem with rfl | other
      · exact absurd bounds both
      · exact Or.inr ⟨p, List.mem_append_right _ other, bounds⟩

end

end UnionpiTiger.Lib
