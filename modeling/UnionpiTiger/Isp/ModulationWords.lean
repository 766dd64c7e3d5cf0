import UnionpiTiger.Isp.Modulation

set_option autoImplicit false

namespace UnionpiTiger.Isp

open Lib

structure Modulates {w : Nat} (limit : Nat) (table : Table w)
    (f : BitVec w → Nat → Option Nat) : Prop where
  returns : ∀ x, ∃ v, Returns (f x) v
  low : ∀ x v, x.toNat ≤ xAt table 0 → Returns (f x) v → v = yAt table 0
  high : ∀ x v, xAt table (table.length - 1) ≤ x.toNat → Returns (f x) v →
    v = yAt table (table.length - 1)
  between : ∀ x v i, i + 1 < table.length → xAt table i ≤ x.toNat → x.toNat < xAt table (i + 1) →
    Returns (f x) v →
    min (yAt table i) (yAt table (i + 1)) ≤ v ∧ v ≤ max (yAt table i) (yAt table (i + 1))
  entry : ∀ i, (within : i < table.length) → Returns (f table[i].x) (yAt table i)
  rises : (∀ i j, i ≤ j → j < table.length → yAt table i ≤ yAt table j) →
    ∀ x x' v v', x.toNat ≤ x'.toNat → Returns (f x) v → Returns (f x') v' → v ≤ v'
  falls : (∀ i j, i ≤ j → j < table.length → yAt table j ≤ yAt table i) →
    ∀ x x' v v', x.toNat ≤ x'.toNat → Returns (f x) v → Returns (f x') v' → v' ≤ v
  products : ∀ x i, Inside table x i → (x - xAt table i) * 256 < limit ∧
    yAt table (i + 1) * weight table i (x - xAt table i) < limit ∧
    yAt table i * (256 - weight table i (x - xAt table i)) < limit

section Exact

variable {w : Nat} {table : Table w} {x i v : Nat}

theorem ordered_rises (values : ∀ i j, i ≤ j → j < table.length → yAt table i ≤ yAt table j) :
    Ordered (fun a b => a ≤ b) table where
  refl := Nat.le_refl
  trans := fun _ _ _ => Nat.le_trans
  weighs := fun _ _ _ _ rises more within => Nat.div_le_div_right (blended_rises rises more within)
  values := values

theorem ordered_falls (values : ∀ i j, i ≤ j → j < table.length → yAt table j ≤ yAt table i) :
    Ordered (fun a b => b ≤ a) table where
  refl := Nat.le_refl
  trans := fun _ _ _ first second => Nat.le_trans second first
  weighs := fun _ _ _ _ falls more within => Nat.div_le_div_right (blended_falls falls more within)
  values := values

theorem modulates_of_value {limit : Nat} {f : BitVec w → Nat → Option Nat} (rising : Rising table)
    (some : table ≠ [])
    (same : ∀ x v, Returns (f x) v ↔ Value table x.toNat v)
    (products : ∀ x i, Inside table x i → (x - xAt table i) * 256 < limit ∧
      yAt table (i + 1) * weight table i (x - xAt table i) < limit ∧
      yAt table i * (256 - weight table i (x - xAt table i)) < limit) : Modulates limit table f where
  returns x := by simpa [same] using exists_value table x.toNat
  low x v low result := ((same x v).mp result).unique (.low low) rising
  high x v high result := ((same x v).mp result).unique (.high high) rising
  between x v i within least most result := ((same x v).mp result).between rising within least most
  entry i within := by
    rw [same, ← xAt_eq within]
    exact value_of_entry rising within
  rises values x x' v v' le first second :=
    (ordered_rises values).mono rising some le ((same x v).mp first) ((same x' v').mp second)
  falls values x x' v v' le first second :=
    (ordered_falls values).mono rising some le ((same x v).mp first) ((same x' v').mp second)
  products := products

theorem products_le_sumAt (d : Nat) : yAt table (i + 1) * weight table i d ≤ sumAt table i d ∧
    yAt table i * (256 - weight table i d) ≤ sumAt table i d :=
  ⟨Nat.le_add_right _ _, Nat.le_add_left _ _⟩

theorem sumAt_lt {d : Nat} (within : d < xAt table (i + 1) - xAt table i) :
    sumAt table i d < 256 * 2 ^ w := by
  have between := (blend_between (by decide) (weight_lt within).le (a := yAt table i)
    (b := yAt table (i + 1))).2
  have first := yAt_word table i
  have second := yAt_word table (i + 1)
  unfold sumAt
  unfold blend at between
  omega

theorem inWords_products {cut : Nat → Nat} {limit d : Nat} (keeps : ∀ a, a < limit → cut a = a)
    (offset : d * 256 < limit) (second : yAt table (i + 1) * weight table i d < limit)
    (first : yAt table i * (256 - weight table i d) < limit) :
    inWords cut table i d = cut (sumAt table i d) / 256 := by
  simp only [inWords, keeps _ offset]
  rw [← weight, keeps _ second, keeps _ first]
  rfl

theorem inWords_exact {cut : Nat → Nat} {limit d : Nat} (keeps : ∀ a, a < limit → cut a = a)
    (offset : d * 256 < limit) (sum : sumAt table i d < limit) :
    inWords cut table i d = blend 256 (yAt table i) (yAt table (i + 1)) (weight table i d) := by
  obtain ⟨second, first⟩ := products_le_sumAt (i := i) d
  rw [inWords_products keeps offset (second.trans_lt sum) (first.trans_lt sum), keeps _ sum]
  rfl

theorem modulate_none {next cut : Nat → Nat} {fuel : Nat} (low : xAt table 0 < x)
    (high : x < xAt table (table.length - 1)) (lost : segment next x table fuel 1 = none) :
    modulate next cut x table fuel = none := by
  simp [modulate, not_le.mpr low, not_le.mpr high, lost]

end Exact

section Narrow

variable {table : Table 16}

theorem exact_u16 (rising : Rising table) (some : table ≠ []) : Exact (fun i => i + 1) id table where
  rising := rising
  some := some
  steps _ _ := rfl
  words _ _ _ := rfl

theorem value_word {x v : Nat} (value : Value table x v) : v < 2 ^ 16 := by
  cases value with
  | low => exact yAt_word table 0
  | high => exact yAt_word table _
  | inside i inside =>
    refine (blend_between (by decide) (weight_lt inside.offset_lt).le).2.trans_lt ?_
    exact max_lt (yAt_word table i) (yAt_word table (i + 1))

theorem returns_u16 (rising : Rising table) (some : table ≠ []) (x : BitVec 16) (v : Nat) :
    Returns (acameraCalcModulationU16 table x) v ↔ Value table x.toNat v := by
  rw [← (exact_u16 rising some).returns_iff]
  have word {u : Nat} (result : Returns (modulate (fun i => i + 1) id x.toNat table) u) :
      u % 2 ^ 16 = u :=
    Nat.mod_eq_of_lt (value_word ((exact_u16 rising some).returns_iff.mp result))
  constructor
  · rintro ⟨fuel, result⟩
    obtain ⟨u, found, rfl⟩ := Option.map_eq_some_iff.mp result
    exact ⟨fuel, by rw [word ⟨fuel, found⟩, found]⟩
  · rintro ⟨fuel, result⟩
    exact ⟨fuel, by rw [acameraCalcModulationU16, result, Option.map_some, word ⟨fuel, result⟩]⟩

theorem modulates_u16 (rising : Rising table) (some : table ≠ []) :
    Modulates (2 ^ 31) table (acameraCalcModulationU16 table) := by
  refine modulates_of_value rising some (returns_u16 rising some) fun x i inside => ?_
  have sum := sumAt_lt inside.offset_lt
  obtain ⟨second, first⟩ := products_le_sumAt (i := i) (x - xAt table i)
  have most := inside.most
  have word := xAt_word table (i + 1)
  refine ⟨?_, second.trans_lt (sum.trans ?_), first.trans_lt (sum.trans ?_)⟩ <;> omega

end Narrow

section Wide

variable {table : Table 32} {x i : Nat}

def gap (table : Table 32) (i : Nat) : Nat := xAt table (i + 1) - xAt table i

def firstOffset (i : Nat) : Nat := if i = 0 then 1 else 0

structure Fits (table : Table 32) : Prop where
  length : table.length ≤ 2 ^ 16
  offsets : ∀ i, i + 1 < table.length → firstOffset i < gap table i → (gap table i - 1) * 256 < 2 ^ 32
  first : ∀ i, i + 1 < table.length → firstOffset i < gap table i →
    sumAt table i (firstOffset i) < 2 ^ 32
  last : ∀ i, i + 1 < table.length → firstOffset i < gap table i →
    sumAt table i (gap table i - 1) < 2 ^ 32

theorem inside_of_offset {d : Nat} (rising : Rising table) (within : i + 1 < table.length)
    (first : firstOffset i ≤ d) (last : d < gap table i) : Inside table (xAt table i + d) i := by
  unfold gap at last
  refine ⟨within, ?_, by omega, by omega⟩
  rcases Nat.eq_zero_or_pos i with rfl | later
  · simp [firstOffset] at first
    omega
  · have less := rising.xAt_lt later (by omega)
    omega

theorem Inside.firstOffset_le (inside : Inside table x i) : firstOffset i ≤ x - xAt table i := by
  have above := inside.above
  unfold firstOffset
  split_ifs with zero
  · subst zero
    omega
  · exact Nat.zero_le _

theorem Fits.words (fits : Fits table) (inside : Inside table x i) : (x - xAt table i) * 256 < 2 ^ 32 ∧
    sumAt table i (x - xAt table i) < 2 ^ 32 := by
  have first := inside.firstOffset_le
  have last : x - xAt table i < gap table i := inside.offset_lt
  have some := first.trans_lt last
  refine ⟨(Nat.mul_le_mul_right _ (by omega)).trans_lt (fits.offsets i inside.within some), ?_⟩
  exact blended_lt (weight_mono first) (weight_mono (by omega))
    (weight_lt (by unfold gap at *; omega)).le
    (fits.first i inside.within some) (fits.last i inside.within some)

theorem Fits.exact (fits : Fits table) (rising : Rising table) (some : table ≠ []) :
    Exact (fun i => (i + 1) % 2 ^ 16) (fun product => product % 2 ^ 32) table where
  rising := rising
  some := some
  steps _ within := Nat.mod_eq_of_lt (within.trans_le fits.length)
  words _ _ inside :=
    inWords_exact (fun _ => Nat.mod_eq_of_lt) (fits.words inside).1 (fits.words inside).2

theorem Fits.modulates (fits : Fits table) (rising : Rising table) (some : table ≠ []) :
    Modulates (2 ^ 32) table (acameraCalcModulationU32 table) := by
  refine modulates_of_value rising some (fun _ _ => (fits.exact rising some).returns_iff) fun x
    i inside => ?_
  obtain ⟨offset, sum⟩ := fits.words inside
  obtain ⟨second, first⟩ := products_le_sumAt (i := i) (x - xAt table i)
  exact ⟨offset, second.trans_lt sum, first.trans_lt sum⟩

theorem Modulates.length (modulates : Modulates (2 ^ 32) table (acameraCalcModulationU32 table)) (rising : Rising table) :
    table.length ≤ 2 ^ 16 := by
  by_contra long
  have within : 2 ^ 16 - 1 < table.length := by omega
  obtain ⟨v, fuel, result⟩ := modulates.returns table[2 ^ 16 - 1].x
  have low := rising.xAt_lt (i := 0) (j := 2 ^ 16 - 1) (by decide) within
  have high := rising.xAt_lt (i := 2 ^ 16 - 1) (j := table.length - 1) (by omega) (by omega)
  have lost := (@segment_none _ _ (fun i => (i + 1) % 2 ^ 16) (xAt table (2 ^ 16 - 1)) 1 (2 ^ 16))
    (fun k _ => Nat.mod_lt _ (by decide))
    (fun k earlier => ⟨by omega, rising.xAt_le (Nat.le_sub_one_of_lt earlier) within⟩) fuel (by decide)
  rw [acameraCalcModulationU32, ← xAt_eq within, modulate_none low high lost] at result
  simp at result

theorem Modulates.sum (modulates : Modulates (2 ^ 32) table (acameraCalcModulationU32 table)) (rising : Rising table)
    (inside : Inside table x i) : sumAt table i (x - xAt table i) < 2 ^ 32 := by
  obtain ⟨offset, second, first⟩ := modulates.products x i inside
  have word : x < 2 ^ 32 := inside.most.trans (xAt_word table (i + 1))
  have small := (weight_lt inside.offset_lt).le
  have loop := (@Inside.modulate_eq _ _ (fun i => (i + 1) % 2 ^ 16) _ _ inside) rising
    (fun k earlier => Nat.mod_eq_of_lt (by have := modulates.length rising; have := inside.within; omega))
    (fun product => product % 2 ^ 32) (i + 1)
  have found : acameraCalcModulationU32 table (BitVec.ofNat 32 x) (i + 1) =
      some (sumAt table i (x - xAt table i) % 2 ^ 32 / 256) := by
    rw [acameraCalcModulationU32, BitVec.toNat_ofNat, Nat.mod_eq_of_lt word, loop,
      inWords_products (fun _ => Nat.mod_eq_of_lt) offset second first]
    simp
  have least := (modulates.between (BitVec.ofNat 32 x) _ i inside.within
    (by rw [BitVec.toNat_ofNat, Nat.mod_eq_of_lt word]; exact inside.least)
    (by rw [BitVec.toNat_ofNat, Nat.mod_eq_of_lt word]; exact inside.most) ⟨_, found⟩).1
  by_contra wraps
  have below := blended_wraps (by decide) small second first (not_lt.mp wraps)
  have sum : sumAt table i (x - xAt table i) < 2 ^ 32 + 2 ^ 32 := Nat.add_lt_add second first
  rw [Nat.mod_eq_sub_mod (not_lt.mp wraps), Nat.mod_eq_of_lt (by omega)] at least
  exact absurd (below.trans_le least) (lt_irrefl _)

theorem Modulates.fits (modulates : Modulates (2 ^ 32) table (acameraCalcModulationU32 table))
    (rising : Rising table) :
    Fits table where
  length := modulates.length rising
  offsets i within some := by
    have inside := inside_of_offset (d := gap table i - 1) rising within (by omega) (by omega)
    simpa using (modulates.products _ i inside).1
  first i within some := by
    simpa using modulates.sum rising (inside_of_offset rising within (Nat.le_refl _) some)
  last i within some := by
    simpa using modulates.sum rising
      (inside_of_offset (d := gap table i - 1) rising within (by omega) (by omega))

end Wide

section Agree

variable {table : Table 16} {x i v : Nat}

@[simp] theorem widen_length : (widen table).length = table.length := by simp [widen]

theorem xAt_widen (i : Nat) : xAt (widen table) i = xAt table i := by
  by_cases within : i < table.length
  · rw [xAt_eq within, xAt_eq (by simpa using within)]
    simp [widen, -BitVec.toNat_setWidth, BitVec.toNat_setWidth_of_le]
  · simp [xAt, widen, within]

theorem yAt_widen (i : Nat) : yAt (widen table) i = yAt table i := by
  by_cases within : i < table.length
  · rw [yAt_eq within, yAt_eq (by simpa using within)]
    simp [widen, -BitVec.toNat_setWidth, BitVec.toNat_setWidth_of_le]
  · simp [yAt, widen, within]

theorem weight_widen (d : Nat) : weight (widen table) i d = weight table i d := by
  simp [weight, xAt_widen]

theorem gap_widen (i : Nat) : gap (widen table) i = xAt table (i + 1) - xAt table i := by
  simp [gap, xAt_widen]

theorem sumAt_widen (d : Nat) : sumAt (widen table) i d = sumAt table i d := by
  simp [sumAt, weight_widen, yAt_widen]

theorem inside_widen : Inside (widen table) x i ↔ Inside table x i := by
  constructor
  · rintro ⟨within, above, least, most⟩
    simp only [widen_length, xAt_widen] at within above least most
    exact ⟨within, above, least, most⟩
  · rintro ⟨within, above, least, most⟩
    exact ⟨by simpa, by simpa [xAt_widen], by simpa [xAt_widen], by simpa [xAt_widen]⟩

theorem Value.widen (value : Value table x v) : Value (widen table) x v := by
  cases value with
  | low low => exact yAt_widen 0 ▸ .low (by rwa [xAt_widen])
  | high high =>
    rw [← yAt_widen, ← widen_length]
    exact .high (by rwa [xAt_widen, widen_length])
  | inside i inside =>
    rw [← weight_widen, ← yAt_widen, ← yAt_widen, ← xAt_widen]
    exact .inside i (inside_widen.mpr inside)

theorem Rising.widen (rising : Rising table) : Rising (widen table) := by
  refine List.pairwise_map.mpr (rising.imp fun {before after} less => ?_)
  simpa [-BitVec.toNat_setWidth, BitVec.toNat_setWidth_of_le] using less

theorem fits_widen (rising : Rising table) : Fits (widen table) where
  length := by simpa using rising.length_le
  offsets i _ _ := by
    have word := xAt_word table (i + 1)
    rw [gap_widen]
    omega
  first i _ some := by
    rw [sumAt_widen]
    rw [gap_widen] at some
    exact (sumAt_lt some).trans (by decide)
  last i _ some := by
    rw [sumAt_widen, gap_widen]
    rw [gap_widen] at some
    exact (sumAt_lt (by omega)).trans (by decide)

theorem returns_widen (rising : Rising table) (some : table ≠ []) (x : BitVec 16) (v : Nat) :
    Returns (acameraCalcModulationU16 table x) v ↔
      Returns (acameraCalcModulationU32 (widen table) (x.setWidth 32)) v := by
  have wide := ((fits_widen rising).exact rising.widen (by simpa [widen] using some)).returns_iff
    (x := (x.setWidth 32).toNat) (v := v)
  refine (returns_u16 rising some x v).trans (Iff.trans ?_ wide.symm)
  rw [BitVec.toNat_setWidth_of_le (by decide)]
  constructor
  · exact Value.widen
  · intro value
    obtain ⟨u, narrow⟩ := exists_value table x.toNat
    rwa [value.unique narrow.widen rising.widen]

end Agree

theorem modulation_tables (table : Table 32) :
    (∀ table : Table 16, Rising table → table ≠ [] →
      Modulates (2 ^ 31) table (acameraCalcModulationU16 table)) ∧
      (∀ table : Table 16, Rising table → table ≠ [] →
        ∀ x v, Returns (acameraCalcModulationU16 table x) v ↔
        Returns (acameraCalcModulationU32 (widen table) (x.setWidth 32)) v) ∧
      (Rising table → table ≠ [] →
        (Modulates (2 ^ 32) table (acameraCalcModulationU32 table) ↔ Fits table)) :=
  ⟨fun _ => modulates_u16, fun _ => returns_widen, fun rising some =>
    ⟨fun modulates => modulates.fits rising, fun fits => fits.modulates rising some⟩⟩

def exposures : Table 32 := [⟨0, 0⟩, ⟨10, 16777300⟩, ⟨20, 16777300⟩]

theorem modulation_wraps : ¬∀ table : Table 32, Rising table → table ≠ [] →
    Modulates (2 ^ 32) table (acameraCalcModulationU32 table) := by
  intro claim
  have modulates := claim exposures (by simp [Rising, exposures]) (by decide)
  have found : Returns (acameraCalcModulationU32 exposures 10) 84 := ⟨3, by decide⟩
  have between := modulates.between 10 84 1 (by decide) (by decide) (by decide) found
  exact absurd between.1 (by decide)

end UnionpiTiger.Isp
