import Mathlib.Data.BitVec
import Mathlib.Data.List.Pairwise
import UnionpiTiger.Lib.Blend

set_option autoImplicit false

namespace UnionpiTiger.Isp

open Lib

-- modulation_entry_t and modulation_entry_32_t
structure ModulationEntry (w : Nat) where
  x : BitVec w
  y : BitVec w
deriving DecidableEq

abbrev Table (w : Nat) : Type := List (ModulationEntry w)

section Code

variable {w : Nat}

def xAt (table : Table w) (i : Nat) : Nat := (table.getD i ⟨0, 0⟩).x.toNat

def yAt (table : Table w) (i : Nat) : Nat := (table.getD i ⟨0, 0⟩).y.toNat

def segment (next : Nat → Nat) (x : Nat) (table : Table w) : Nat → Nat → Option Nat
  | 0, _ => none
  | fuel + 1, i =>
    if i < table.length then if x < xAt table i then some i
      else segment next x table fuel (next i) else some i

def modulate (next cut : Nat → Nat) (x : Nat) (table : Table w) (fuel : Nat) : Option Nat :=
  if x ≤ xAt table 0 then some (yAt table 0)
  else if x ≥ xAt table (table.length - 1) then some (yAt table (table.length - 1))
  else
    (segment next x table fuel 1).map fun i =>
      if xAt table i - xAt table (i - 1) ≠ 0 then
        let alpha := cut ((x - xAt table (i - 1)) * 256) / (xAt table i - xAt table (i - 1))
        cut (cut (yAt table i * alpha) + cut (yAt table (i - 1) * (256 - alpha))) / 256
      else yAt table i

def acameraCalcModulationU16 (table : Table 16) (x : BitVec 16) (fuel : Nat) : Option Nat :=
  (modulate (fun i => i + 1) id x.toNat table fuel).map fun y => y % 2 ^ 16

def acameraCalcModulationU32 (table : Table 32) (x : BitVec 32) (fuel : Nat) : Option Nat :=
  modulate (fun i => (i + 1) % 2 ^ 16) (fun product => product % 2 ^ 32) x.toNat table fuel

def widen (table : Table 16) :
    Table 32 := table.map fun entry => ⟨entry.x.setWidth 32, entry.y.setWidth 32⟩

end Code

def Returns {A : Type} (f : Nat → Option A) (a : A) : Prop := ∃ fuel, f fuel = some a

section Rising

variable {w : Nat} {table : Table w} {x i j : Nat}

def Rising (table : Table w) : Prop := table.Pairwise fun before after => before.x.toNat < after.x.toNat

theorem xAt_eq (within : i < table.length) : xAt table i = table[i].x.toNat := by simp [xAt, within]

theorem yAt_eq (within : i < table.length) : yAt table i = table[i].y.toNat := by simp [yAt, within]

theorem xAt_word (table : Table w) (i : Nat) : xAt table i < 2 ^ w := BitVec.isLt _

theorem yAt_word (table : Table w) (i : Nat) : yAt table i < 2 ^ w := BitVec.isLt _

theorem Rising.xAt_lt (rising : Rising table) (before : i < j) (within : j < table.length) :
    xAt table i < xAt table j := by
  rw [xAt_eq within, xAt_eq (before.trans within)]
  exact List.pairwise_iff_getElem.mp rising i j _ within before

theorem Rising.xAt_le (rising : Rising table) (before : i ≤ j) (within : j < table.length) :
    xAt table i ≤ xAt table j := by
  rcases Nat.eq_or_lt_of_le before with rfl | less
  · exact Nat.le_refl _
  · exact (rising.xAt_lt less within).le

theorem Rising.lt_of_xAt (rising : Rising table) (within : i < table.length)
    (less : xAt table i < xAt table j) : i < j := by
  by_contra more
  exact absurd (rising.xAt_le (not_lt.mp more) within) (not_le.mpr less)

theorem Rising.index_le (rising : Rising table) (within : i < table.length) : i ≤ xAt table i := by
  induction i with
  | zero => exact Nat.zero_le _
  | succ i ih => exact (ih (by omega)).trans_lt (rising.xAt_lt (Nat.lt_succ_self i) within)

theorem Rising.length_le (rising : Rising table) : table.length ≤ 2 ^ w := by
  rcases Nat.eq_zero_or_pos table.length with empty | some
  · rw [empty]
    exact Nat.zero_le _
  · have last := rising.index_le (i := table.length - 1) (by omega)
    have bound := xAt_word table (table.length - 1)
    omega

theorem Rising.ends_meet (rising : Rising table) (low : x ≤ xAt table 0)
    (high : xAt table (table.length - 1) ≤ x) :
    table.length - 1 = 0 := by
  by_contra more
  have less := rising.xAt_lt (i := 0) (j := table.length - 1) (by omega) (by omega)
  omega

structure Inside (table : Table w) (x i : Nat) : Prop where
  within : i + 1 < table.length
  above : xAt table 0 < x
  least : xAt table i ≤ x
  most : x < xAt table (i + 1)

theorem inside_exists (above : xAt table 0 < x) (below : x < xAt table (table.length - 1)) :
    ∃ i, Inside table x i := by
  have found : ∃ j, x < xAt table j := ⟨_, below⟩
  have first {k : Nat} := Nat.find_min found (m := k)
  have here := Nat.find_spec found
  have within := Nat.find_min' found below
  cases at_ : Nat.find found with
  | zero =>
    rw [at_] at here
    omega
  | succ i =>
    rw [at_] at first here within
    exact ⟨i, by omega, above, not_lt.mp (first (Nat.lt_succ_self i)), here⟩

theorem Inside.before (inside : Inside table x i) (rising : Rising table) (earlier : j ≤ i) :
    xAt table j ≤ x :=
  (rising.xAt_le earlier (by have := inside.within; omega)).trans inside.least

theorem Inside.not_ends (inside : Inside table x i) (rising : Rising table) :
    ¬x ≤ xAt table 0 ∧ ¬x ≥ xAt table (table.length - 1) := by
  have last := rising.xAt_le (i := i + 1) (j := table.length - 1) (by have := inside.within; omega)
    (by have := inside.within; omega)
  have most := inside.most
  have above := inside.above
  omega

theorem Inside.unique (inside : Inside table x i) (rising : Rising table)
    (other : Inside table x j) : i = j := by
  have up := rising.lt_of_xAt (by have := inside.within; omega) (inside.least.trans_lt other.most)
  have down := rising.lt_of_xAt (by have := other.within; omega) (other.least.trans_lt inside.most)
  omega

end Rising

section Loop

variable {w : Nat} {table : Table w} {next : Nat → Nat} {x i j : Nat}

theorem segment_eq (steps : ∀ k, k < j → next k = k + 1)
    (before : ∀ k, k < j → k < table.length ∧ xAt table k ≤ x) (within : j < table.length)
    (stops : x < xAt table j) (fuel : Nat) (earlier : i ≤ j) :
    segment next x table fuel i = if fuel ≤ j - i then none else some j := by
  induction fuel generalizing i with
  | zero => simp [segment]
  | succ fuel ih =>
    unfold segment
    rcases Nat.eq_or_lt_of_le earlier with rfl | less
    · simp [within, stops]
    · obtain ⟨inside, least⟩ := before i less
      simp only [inside, not_lt.mpr least, if_true, if_false, steps i less, ih less]
      exact if_congr (by omega) rfl rfl

theorem segment_none (around : ∀ k, k < j → next k < j)
    (before : ∀ k, k < j → k < table.length ∧ xAt table k ≤ x) (fuel : Nat) (earlier : i < j) :
    segment next x table fuel i = none := by
  induction fuel generalizing i with
  | zero => rfl
  | succ fuel ih =>
    obtain ⟨inside, least⟩ := before i earlier
    simp [segment, inside, not_lt.mpr least, ih (around i earlier)]

def weight (table : Table w) (i d : Nat) : Nat := d * 256 / (xAt table (i + 1) - xAt table i)

def sumAt (table : Table w) (i d : Nat) : Nat :=
  blended 256 (yAt table i) (yAt table (i + 1)) (weight table i d)

theorem weight_lt {d : Nat} (within : d < xAt table (i + 1) - xAt table i) : weight table i d < 256 :=
  Nat.div_lt_of_lt_mul (Nat.mul_lt_mul_of_pos_right within (by decide))

theorem weight_mono {d e : Nat} (le : d ≤ e) : weight table i d ≤ weight table i e :=
  Nat.div_le_div_right (Nat.mul_le_mul_right _ le)

theorem weight_zero : weight table i 0 = 0 := by simp [weight]

-- What the code makes of an `x` inside the table, with the word that it computes in.
def inWords (cut : Nat → Nat) (table : Table w) (i d : Nat) : Nat :=
  let alpha := cut (d * 256) / (xAt table (i + 1) - xAt table i)
  cut (cut (yAt table (i + 1) * alpha) + cut (yAt table i * (256 - alpha))) / 256

theorem Inside.modulate_eq (inside : Inside table x i) (rising : Rising table)
    (steps : ∀ k, k < i + 1 → next k = k + 1) (cut : Nat → Nat) (fuel : Nat) :
    modulate next cut x table fuel =
      if fuel ≤ i then none else some (inWords cut table i (x - xAt table i)) := by
  obtain ⟨low, high⟩ := inside.not_ends rising
  have found := segment_eq (i := 1) steps
    (fun k earlier => ⟨by have := inside.within; omega,
      inside.before rising (Nat.lt_succ_iff.mp earlier)⟩)
    inside.within inside.most fuel (by omega)
  have gap : xAt table (i + 1) - xAt table i ≠ 0 := by
    have less := rising.xAt_lt (Nat.lt_add_one i) inside.within
    omega
  unfold modulate
  simp only [low, high, if_false, found, Nat.add_sub_cancel]
  split_ifs <;> simp [gap, inWords]

theorem modulate_low (cut : Nat → Nat) (low : x ≤ xAt table 0) (fuel : Nat) :
    modulate next cut x table fuel = some (yAt table 0) := by
  simp [modulate, low]

theorem modulate_high (rising : Rising table) (cut : Nat → Nat)
    (high : xAt table (table.length - 1) ≤ x) (fuel : Nat) :
    modulate next cut x table fuel = some (yAt table (table.length - 1)) := by
  by_cases low : x ≤ xAt table 0
  · rw [rising.ends_meet low high]
    exact modulate_low cut low fuel
  · simp [modulate, low, high]

end Loop

section Value

variable {w : Nat} {table : Table w} {next cut : Nat → Nat} {x x' v v' i : Nat}

inductive Value (table : Table w) (x : Nat) : Nat → Prop
  | low (low : x ≤ xAt table 0) : Value table x (yAt table 0)
  | high (high : xAt table (table.length - 1) ≤ x) : Value table x (yAt table (table.length - 1))
  | inside (i : Nat) (inside : Inside table x i) :
      Value table x (blend 256 (yAt table i) (yAt table (i + 1)) (weight table i (x - xAt table i)))

theorem exists_value (table : Table w) (x : Nat) : ∃ v, Value table x v := by
  by_cases low : x ≤ xAt table 0
  · exact ⟨_, .low low⟩
  · by_cases high : xAt table (table.length - 1) ≤ x
    · exact ⟨_, .high high⟩
    · obtain ⟨i, inside⟩ := inside_exists (not_le.mp low) (not_le.mp high)
      exact ⟨_, .inside i inside⟩

theorem Inside.offset_lt (inside : Inside table x i) :
    x - xAt table i < xAt table (i + 1) - xAt table i := by
  obtain ⟨-, -, least, most⟩ := inside
  omega

structure Exact (next cut : Nat → Nat) (table : Table w) : Prop where
  rising : Rising table
  some : table ≠ []
  steps : ∀ k, k + 1 < table.length → next k = k + 1
  words : ∀ x i, Inside table x i → inWords cut table i (x - xAt table i) =
    blend 256 (yAt table i) (yAt table (i + 1)) (weight table i (x - xAt table i))

theorem Exact.returns_iff (exact_ : Exact next cut table) :
    Returns (modulate next cut x table) v ↔ Value table x v := by
  have loop {i : Nat} (inside : Inside table x i) (fuel : Nat) := inside.modulate_eq exact_.rising
    (fun k earlier => exact_.steps k (by have := inside.within; omega)) cut fuel
  constructor
  · rintro ⟨fuel, result⟩
    by_cases low : x ≤ xAt table 0
    · rw [modulate_low cut low] at result
      exact Option.some.inj result ▸ .low low
    · by_cases high : xAt table (table.length - 1) ≤ x
      · rw [modulate_high exact_.rising cut high] at result
        exact Option.some.inj result ▸ .high high
      · obtain ⟨i, inside⟩ := inside_exists (not_le.mp low) (not_le.mp high)
        rw [loop inside] at result
        split_ifs at result
        rw [exact_.words x i inside] at result
        exact Option.some.inj result ▸ .inside i inside
  · rintro (low | high | ⟨i, inside⟩)
    · exact ⟨0, modulate_low cut low 0⟩
    · exact ⟨0, modulate_high exact_.rising cut high 0⟩
    · refine ⟨i + 1, ?_⟩
      rw [loop inside, exact_.words x i inside]
      simp

theorem Value.unique (value : Value table x v) (value' : Value table x v')
    (rising : Rising table) : v = v' := by
  cases value with
  | low low =>
    cases value' with
    | low => rfl
    | high high => rw [rising.ends_meet low high]
    | inside i inside => exact absurd low (inside.not_ends rising).1
  | high high =>
    cases value' with
    | low low => rw [rising.ends_meet low high]
    | high => rfl
    | inside i inside => exact absurd high (inside.not_ends rising).2
  | inside i inside =>
    cases value' with
    | low low => exact absurd low (inside.not_ends rising).1
    | high high => exact absurd high (inside.not_ends rising).2
    | inside j inside' => rw [inside.unique rising inside']

theorem Value.between (value : Value table x v) (rising : Rising table) (within : i + 1 < table.length)
    (least : xAt table i ≤ x) (most : x < xAt table (i + 1)) :
    min (yAt table i) (yAt table (i + 1)) ≤ v ∧ v ≤ max (yAt table i) (yAt table (i + 1)) := by
  cases value with
  | low low =>
    have zero : i = 0 := by
      by_contra more
      have less := rising.xAt_lt (i := 0) (j := i) (by omega) (by omega)
      omega
    subst zero
    exact ⟨Nat.min_le_left _ _, Nat.le_max_left _ _⟩
  | high high =>
    have last := rising.xAt_le (i := i + 1) (j := table.length - 1) (by omega) (by omega)
    omega
  | inside j inside =>
    obtain rfl := inside.unique rising ⟨within, inside.above, least, most⟩
    exact blend_between (by decide) (weight_lt inside.offset_lt).le

theorem value_of_entry (rising : Rising table) (within : i < table.length) :
    Value table (xAt table i) (yAt table i) := by
  rcases Nat.eq_zero_or_pos i with rfl | later
  · exact .low (Nat.le_refl _)
  · by_cases last : i + 1 < table.length
    · have inside : Inside table (xAt table i) i :=
        ⟨last, rising.xAt_lt later within, Nat.le_refl _, rising.xAt_lt (Nat.lt_add_one i) last⟩
      have value := Value.inside i inside
      rwa [Nat.sub_self, weight_zero, blend_zero (by decide)] at value
    · obtain rfl : i = table.length - 1 := by omega
      exact .high (Nat.le_refl _)

section Monotone

variable (R : Nat → Nat → Prop)

structure Ordered (table : Table w) : Prop where
  refl : ∀ a, R a a
  trans : ∀ a b c, R a b → R b c → R a c
  weighs : ∀ a b alpha beta, R a b → alpha ≤ beta → beta ≤ 256 →
    R (blend 256 a b alpha) (blend 256 a b beta)
  values : ∀ i j, i ≤ j → j < table.length → R (yAt table i) (yAt table j)

variable {R}

theorem Ordered.inside (ordered : Ordered R table) (inside : Inside table x i) :
    R (yAt table i) (blend 256 (yAt table i) (yAt table (i + 1)) (weight table i (x - xAt table i))) ∧
      R (blend 256 (yAt table i) (yAt table (i + 1)) (weight table i (x - xAt table i)))
        (yAt table (i + 1)) := by
  have pair := ordered.values i (i + 1) (Nat.le_succ i) inside.within
  have small := (weight_lt inside.offset_lt).le
  have first := ordered.weighs _ _ 0 _ pair (Nat.zero_le _) small
  have last := ordered.weighs _ _ _ 256 pair small (Nat.le_refl _)
  rw [blend_zero (by decide)] at first
  rw [blend_full (by decide)] at last
  exact ⟨first, last⟩

theorem Ordered.ends (ordered : Ordered R table) (some : table ≠ []) (value : Value table x v) :
    R (yAt table 0) v ∧ R v (yAt table (table.length - 1)) := by
  have long : 0 < table.length := List.length_pos_iff.mpr some
  cases value with
  | low => exact ⟨ordered.refl _, ordered.values 0 _ (Nat.zero_le _) (by omega)⟩
  | high => exact ⟨ordered.values 0 _ (Nat.zero_le _) (by omega), ordered.refl _⟩
  | inside i inside =>
    have within := inside.within
    obtain ⟨low, high⟩ := ordered.inside inside
    exact ⟨ordered.trans _ _ _ (ordered.values 0 i (Nat.zero_le _) (by omega)) low,
      ordered.trans _ _ _ high (ordered.values (i + 1) _ (by omega) (by omega))⟩

theorem Ordered.mono (ordered : Ordered R table) (rising : Rising table) (some : table ≠ [])
    (le : x ≤ x') (value : Value table x v) (value' : Value table x' v') : R v v' := by
  cases value with
  | low => exact (ordered.ends some value').1
  | high high =>
    cases value' with
    | low low =>
      rw [rising.ends_meet (low.trans' le) high]
      exact ordered.refl _
    | high => exact ordered.refl _
    | inside j inside => exact absurd (high.trans le) (inside.not_ends rising).2
  | inside i inside =>
    cases value' with
    | low low => exact absurd (le.trans low) (not_le.mpr inside.above)
    | high => exact (ordered.ends some (.inside i inside)).2
    | inside j inside' =>
      have order := rising.lt_of_xAt (i := i) (j := j + 1) (by have := inside.within; omega)
        (inside.least.trans_lt (le.trans_lt inside'.most))
      rcases Nat.lt_or_ge i j with less | more
      · have within := inside'.within
        refine ordered.trans _ _ _ (ordered.inside inside).2
          (ordered.trans _ _ _ ?_ (ordered.inside inside').1)
        exact ordered.values (i + 1) j less (by omega)
      · obtain rfl : i = j := by omega
        exact ordered.weighs _ _ _ _ (ordered.values i (i + 1) (Nat.le_succ i) inside.within)
          (weight_mono (Nat.sub_le_sub_right le _)) (weight_lt inside'.offset_lt).le

end Monotone

end Value

end UnionpiTiger.Isp
