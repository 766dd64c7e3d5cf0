import Mathlib.Algebra.Order.Ring.Nat
import UnionpiTiger.Dpb.Qsort

set_option autoImplicit false

namespace UnionpiTiger.Dpb

open Lib

variable {α : Type} {order : Comparator α} {lo hi num : Nat} {cells : Nat → α}
  {stack : List (Nat × Nat)}

def rangeSize (p : Nat × Nat) : Nat := p.2 - p.1 + 1

def workLeft (pending : List (Nat × Nat)) : Nat := (pending.map fun p => 2 * rangeSize p - 1).sum

def Halving (num : Nat) : List (Nat × Nat) → Prop
  | [] => True
  | p :: rest => rangeSize p * 2 ^ rest.length ≤ num ∧ Halving num rest

structure Parts (lo hi : Nat) (parts : List (Nat × Nat)) : Prop where
  inside : ∀ p ∈ parts, lo ≤ p.1 ∧ p.1 < p.2 ∧ p.2 ≤ hi
  apart : parts.Pairwise Apart
  less : workLeft parts < 2 * rangeSize (lo, hi) - 1

theorem Halving.room {range : Nat × Nat} {stack : List (Nat × Nat)}
    (halving : Halving num (range :: stack)) (below : num < 2 ^ 64)
    (large : cutoff < rangeSize range) : stack.length < stksiz := by
  have enough := halving.1
  by_contra full
  have many : 2 ^ stksiz ≤ 2 ^ stack.length := Nat.pow_le_pow_right (by decide) (Nat.not_lt.mp full)
  have nine : 9 * 2 ^ stksiz ≤ rangeSize range * 2 ^ stack.length := Nat.mul_le_mul large many
  have over_ : 2 ^ 64 ≤ 9 * 2 ^ stksiz := by decide
  omega

theorem Halving.smaller {range part : Nat × Nat} (halving : Halving num (range :: stack))
    (less : rangeSize part ≤ rangeSize range) : Halving num (part :: stack) :=
  ⟨Nat.le_trans (Nat.mul_le_mul_right _ less) halving.1, halving.2⟩

theorem Halving.halved {range big small : Nat × Nat} (halving : Halving num (range :: stack))
    (less : rangeSize big ≤ rangeSize range) (half : 2 * rangeSize small ≤ rangeSize range) :
    Halving num (small :: big :: stack) := by
  refine ⟨?_, halving.smaller less⟩
  rw [List.length_cons, Nat.pow_succ', ← Nat.mul_assoc, Nat.mul_comm (rangeSize small)]
  exact Nat.le_trans (Nat.mul_le_mul_right _ half) halving.1

theorem saved_spec {big small : Nat × Nat} (halving : Halving num ((lo, hi) :: stack))
    (below : num < 2 ^ 64)
    (large : cutoff < rangeSize (lo, hi)) (bigIn : lo ≤ big.1 ∧
      big.2 ≤ hi) (smallIn : lo ≤ small.1 ∧ small.2 ≤ hi)
    (apart : Apart small big) (bigLess : big.1 < big.2 → rangeSize big < rangeSize (lo, hi))
    (smallLess : small.1 < small.2 → rangeSize small < rangeSize (lo, hi))
    (both : big.1 < big.2 → small.1 < small.2 →
      rangeSize big + rangeSize small ≤ rangeSize (lo, hi) ∧ 2 * rangeSize small ≤ rangeSize (lo, hi)) :
    ∃ parts, ((save big stack).bind fun stack => some (sortNext small stack)) = some (parts ++ stack) ∧
      Parts lo hi parts ∧ Halving num (parts ++ stack) ∧
      (big.1 < big.2 → big ∈ parts) ∧ (small.1 < small.2 → small ∈ parts) := by
  have room := halving.room below large
  have sizeBig : 1 ≤ rangeSize big := Nat.le_add_left 1 _
  have sizeSmall : 1 ≤ rangeSize small := Nat.le_add_left 1 _
  by_cases two : big.1 < big.2
  · have less := bigLess two
    rw [save, if_pos two, if_pos room, Option.bind_some, sortNext]
    by_cases next : small.1 < small.2
    · obtain ⟨total, half⟩ := both two next
      rw [if_pos next]
      refine ⟨[small, big], rfl, ⟨?_, ?_, ?_⟩, halving.halved (Nat.le_of_lt less) half,
        fun _ => by simp, fun _ => by simp⟩
      · simp only [List.mem_cons, List.not_mem_nil, or_false]
        rintro p (rfl | rfl)
        · exact ⟨smallIn.1, next, smallIn.2⟩
        · exact ⟨bigIn.1, two, bigIn.2⟩
      · simpa using apart
      · simp only [workLeft, List.map_cons, List.map_nil, List.sum_cons, List.sum_nil]
        omega
    · rw [if_neg next]
      refine ⟨[big], rfl, ⟨?_, List.pairwise_singleton _ _, ?_⟩,
        halving.smaller (Nat.le_of_lt less), fun _ => by simp,
        fun some_ => absurd some_ next⟩
      · intro p mem
        rw [List.mem_singleton.mp mem]
        exact ⟨bigIn.1, two, bigIn.2⟩
      · simp only [workLeft, List.map_cons, List.map_nil, List.sum_cons, List.sum_nil]
        omega
  · rw [save, if_neg two, Option.bind_some, sortNext]
    by_cases next : small.1 < small.2
    · have less := smallLess next
      rw [if_pos next]
      refine ⟨[small], rfl, ⟨?_, List.pairwise_singleton _ _, ?_⟩, halving.smaller (Nat.le_of_lt less),
        fun some_ => absurd some_ two, fun _ => by simp⟩
      · intro p mem
        rw [List.mem_singleton.mp mem]
        exact ⟨smallIn.1, next, smallIn.2⟩
      · simp only [workLeft, List.map_cons, List.map_nil, List.sum_cons, List.sum_nil]
        omega
    · rw [if_neg next]
      refine ⟨[], rfl, ⟨fun p mem => absurd mem List.not_mem_nil, List.Pairwise.nil, ?_⟩, halving.2,
        fun some_ => absurd some_ two, fun some_ => absurd some_ next⟩
      simp only [workLeft, List.map_nil, List.sum_nil]
      unfold cutoff at large
      omega

theorem paired {β γ δ : Type} {x : Option β} {f : β → γ} {r : γ} (c : δ)
    (done : (x.bind fun b => some (f b)) = some r) :
    (x.bind fun b => some (c, f b)) = some (c, r) := by
  cases x with
  | none => cases done
  | some b => exact congrArg (fun r => some (c, r)) (Option.some.inj done)

theorem recurse_spec (halving : Halving num ((lo, hi) :: stack)) (below : num < 2 ^ 64)
    (ends : lo < hi) :
    ∃ after parts, recurse order.comp cells lo hi stack = some (after, parts ++ stack) ∧
      Rearranged lo hi cells after ∧ Parts lo hi parts ∧ Halving num (parts ++ stack) ∧
      ∀ i j, lo ≤ i → i < j → j ≤ hi → order.Le (after i) (after j) ∨ ∃ p ∈ parts,
        p.1 ≤ i ∧ j ≤ p.2 := by
  unfold recurse
  dsimp only
  by_cases small : hi - lo + 1 ≤ cutoff
  · rw [if_pos small]
    have sorted := @shortsort_spec α order lo (hi - lo) cells
    rw [show lo + (hi - lo) = hi by omega] at sorted
    refine ⟨_, [], rfl, sorted.1,
      ⟨fun p mem => absurd mem List.not_mem_nil, List.Pairwise.nil, ?_⟩, halving.2,
      fun i j lower less upper => Or.inl (sorted.2 i j lower less upper)⟩
    simp only [workLeft, rangeSize, List.map_nil, List.sum_nil]
    omega
  · rw [if_neg small]
    have large : cutoff < rangeSize (lo, hi) := Nat.not_le.mp small
    unfold cutoff at small
    obtain ⟨moved, zones⟩ :=
      @medianOfThree_zones α order lo hi cells (lo + (hi - lo + 1) / 2) (by omega) (by omega)
    obtain ⟨t, done, parted, rest⟩ := partitionLoop_spec (hi - lo + 1) zones (by dsimp only; omega)
    obtain ⟨least, most, equal⟩ := parted.skipped
    have lower := parted.lower
    have upper := parted.upper
    have inside := parted.inside
    have passed := parted.passed
    rw [done]
    simp only [Option.bind_eq_bind, Option.bind_some, Option.pure_def]
    generalize skipEqual order.comp lo t = higuy at least most equal
    -- Elements that do not lie in one of the parts are in order.
    have left : ∀ parts : List (Nat × Nat), (lo < higuy → (lo, higuy) ∈ parts) →
        (t.loguy < hi → (t.loguy, hi) ∈ parts) →
        ∀ i j, lo ≤ i → i < j → j ≤ hi →
          order.Le (t.cells i) (t.cells j) ∨ ∃ p ∈ parts, p.1 ≤ i ∧ j ≤ p.2 := by
      intro parts first second i j from_ less to_
      by_cases low : j ≤ higuy
      · exact Or.inr ⟨_, first (by omega), from_, low⟩
      by_cases high : t.loguy ≤ i
      · exact Or.inr ⟨_, second (by omega), high, to_⟩
      · left
        have before : order.Le (t.cells i) (t.cells t.mid) := parted.small i from_ (Nat.not_le.mp high)
        by_cases between : j < t.loguy
        · exact order.le_trans before (order.le_of_eq (equal j (Nat.not_le.mp low) between))
        · by_cases last : j = hi
          · rw [last]
            exact order.le_trans before parted.last
          · exact order.le_trans before (order.le_of_gt (parted.great j (by omega) (by omega)))
    by_cases bigger : (higuy : Int) - lo ≥ (hi : Int) - t.loguy
    · rw [if_pos bigger]
      obtain ⟨parts, pushed, parts_, halves, big, next⟩ :=
        @saved_spec lo hi num stack (lo, higuy) (t.loguy, hi) halving
        below large ⟨Nat.le_refl lo, by dsimp only; omega⟩ ⟨Nat.le_of_lt lower, Nat.le_refl hi⟩
        (by unfold Apart; dsimp only; omega) (by unfold rangeSize; dsimp only; omega)
        (by unfold rangeSize; dsimp only; omega) (by unfold rangeSize; dsimp only; omega)
      exact ⟨_, parts, paired t.cells pushed, moved.trans rest, parts_, halves, left parts big next⟩
    · rw [if_neg bigger]
      obtain ⟨parts, pushed, parts_, halves, big, next⟩ :=
        @saved_spec lo hi num stack (t.loguy, hi) (lo, higuy) halving
        below large ⟨Nat.le_of_lt lower, Nat.le_refl hi⟩ ⟨Nat.le_refl lo, by dsimp only; omega⟩
        (by unfold Apart; dsimp only; omega) (by unfold rangeSize; dsimp only; omega)
        (by unfold rangeSize; dsimp only; omega) (by unfold rangeSize; dsimp only; omega)
      exact ⟨_, parts, paired t.cells pushed, moved.trans rest, parts_, halves, left parts next big⟩

structure Pending (order : Comparator α) (num : Nat) (cells : Nat → α)
    (pending : List (Nat × Nat)) : Prop where
  ranges : ∀ p ∈ pending, p.1 < p.2 ∧ p.2 < num
  apart : pending.Pairwise Apart
  halving : Halving num pending
  sorted : SortedBut order num pending cells

theorem Pending.turn (below : num < 2 ^ 64) (pending : Pending order num cells ((lo, hi) :: stack)) :
    ∃ after next, recurse order.comp cells lo hi stack = some (after, next) ∧
      Pending order num after next ∧
      Rearranged 0 (num - 1) cells after ∧ workLeft next < workLeft ((lo, hi) :: stack) := by
  obtain ⟨ends, within⟩ := pending.ranges (lo, hi) List.mem_cons_self
  have apart := List.pairwise_cons.mp pending.apart
  obtain ⟨after, parts, done, moved, parts_, halving, left⟩ :=
    @recurse_spec α order lo hi num cells stack pending.halving below ends
  dsimp only at within
  refine ⟨after, parts ++ stack, done, ⟨fun p mem => ?_, ?_, halving, ?_⟩,
    moved.widen (Nat.zero_le lo) (by omega), ?_⟩
  · rcases List.mem_append.mp mem with part | later
    · have inside := parts_.inside p part
      omega
    · exact pending.ranges p (List.mem_cons_of_mem _ later)
  · refine List.pairwise_append.mpr ⟨parts_.apart, apart.2, fun p part q later => ?_⟩
    have inside := parts_.inside p part
    have beyond := apart.1 q later
    unfold Apart at beyond ⊢
    dsimp only at beyond
    omega
  · exact pending.sorted.work (fun p mem => apart.1 p mem) within moved left
  · have less := parts_.less
    simp only [workLeft, List.map_append, List.sum_append, List.map_cons, List.sum_cons] at less ⊢
    omega

theorem qsortLoop_spec (below : num < 2 ^ 64) (fuel : Nat) {pending : List (Nat × Nat)}
    (holds : Pending order num cells pending) (enough : workLeft pending ≤ fuel) :
    ∃ sorted, qsortLoop order.comp fuel cells pending = some sorted ∧ Pending order num sorted [] ∧
      Rearranged 0 (num - 1) cells sorted := by
  induction fuel generalizing cells pending with
  | zero =>
    cases pending with
    | nil => exact ⟨cells, rfl, holds, Rearranged.refl _ _ _⟩
    | cons p stack =>
      obtain ⟨lo, hi⟩ := p
      obtain ⟨after, next, -, -, -, less⟩ := holds.turn below
      omega
  | succ fuel ih =>
    cases pending with
    | nil => exact ⟨cells, rfl, holds, Rearranged.refl _ _ _⟩
    | cons p stack =>
      obtain ⟨lo, hi⟩ := p
      obtain ⟨after, next, done, later, moved, less⟩ := holds.turn below
      obtain ⟨sorted, rest, ends, back⟩ := ih later (by omega)
      refine ⟨sorted, ?_, ends, moved.trans back⟩
      rw [qsortLoop, done]
      exact rest

theorem qsort_sorts (order : Comparator α) (base : Nat → α) (num : UInt64) :
    ∃ sorted, qsort order.comp base num.toNat = some sorted ∧
      ((List.range num.toNat).map sorted).Pairwise order.Le ∧
      ((List.range num.toNat).map sorted).Perm ((List.range num.toNat).map base) ∧
      ∀ i, num.toNat ≤ i → sorted i = base i := by
  have below : num.toNat < 2 ^ 64 := num.toNat_lt
  generalize num.toNat = num at below
  unfold qsort
  by_cases few : num < 2
  · rw [if_pos few]
    refine ⟨base, rfl, ?_, List.Perm.refl _, fun _ _ => rfl⟩
    rcases (by omega : num = 0 ∨ num = 1) with rfl | rfl
    · exact List.Pairwise.nil
    · exact List.pairwise_singleton _ _
  · rw [if_neg few]
    have first : Pending order num base [(0, num - 1)] := by
      refine ⟨fun p mem => ?_, List.pairwise_singleton _ _, ⟨?_, trivial⟩,
        fun i j less under => Or.inr ?_⟩
      · rw [List.mem_singleton.mp mem]
        exact ⟨by dsimp only; omega, by dsimp only; omega⟩
      · rw [List.length_nil, Nat.pow_zero, Nat.mul_one, rangeSize]
        omega
      · exact ⟨_, List.mem_singleton_self _, Nat.zero_le i, by dsimp only; omega⟩
    obtain ⟨sorted, done, ends, moved⟩ := qsortLoop_spec below (2 * num) first (by
      simp only [workLeft, rangeSize, List.map_cons, List.map_nil, List.sum_cons, List.sum_nil]
      omega)
    refine ⟨sorted, done, ?_, moved.perm, fun i outside => moved.outside (by omega)⟩
    rw [List.pairwise_map]
    refine List.pairwise_lt_range.imp_of_mem fun mem other less => ?_
    rcases ends.sorted _ _ less (List.mem_range.mp other) with le | ⟨p, none_, -⟩
    · exact le
    · exact absurd none_ List.not_mem_nil

end UnionpiTiger.Dpb
