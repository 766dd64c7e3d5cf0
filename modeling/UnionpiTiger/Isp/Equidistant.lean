import Mathlib.Data.BitVec
import Mathlib.Data.List.Pairwise
import UnionpiTiger.Lib.Blend

set_option autoImplicit false

namespace UnionpiTiger.Isp

open Lib

section Code

def equidistant (store cut : Nat → Nat) (x : Nat) (table : List Nat) : Option Nat :=
  if x = 0 then table[0]?
  else if x = 2 ^ 16 - 1 then table[table.length - 1]?
  else if table.length = 1 then table[0]?
  else
    let d := store (2 ^ 16 / (table.length - 1))
    if d = 0 then table[0]?
    else do
      let bn := x / d
      let alpha := cut ((x - bn * d) * 256) / d
      let low ← table[bn]?
      let high ← table[bn + 1]?
      some (cut (cut (low * (256 - alpha)) + cut (high * alpha)) / 256)

def acameraCalcEquidistantModulationU16 (x : BitVec 16) (table : List (BitVec 16)) : Option Nat :=
  (equidistant (fun d => d % 2 ^ 16) id x.toNat (table.map BitVec.toNat)).map fun value =>
    value % 2 ^ 16

def acameraCalcEquidistantModulationU32 (x : BitVec 32) (table : List (BitVec 32)) : Option Nat :=
  equidistant id (fun product => product % 2 ^ 32) x.toNat (table.map BitVec.toNat)

def above (x : Nat) : List Nat → Nat → Nat
  | [], i => i
  | entry :: rest, i => if x < entry then i else above x rest (i + 1)

def invEquidistant (store cut : Nat → Nat) (x : Nat) (table : List Nat) : Option Nat := do
  let first ← table[0]?
  if x ≤ first then some 0
  else
    let last ← table[table.length - 1]?
    if x ≥ last then some (2 ^ 16 - 1)
    else if table.length = 1 then some 0
    else
      let i := above x table.tail 1
      let d := store (2 ^ 16 / (table.length - 1))
      let high ← table[i]?
      let low ← table[i - 1]?
      if high = low then some (cut (d * i))
      else
        let alpha := cut ((x - low) * 256) / (high - low)
        some (cut (cut (d * i * alpha) + cut (d * (i - 1) * (256 - alpha))) / 256)

def acameraCalcInvEquidistantModulationU16 (x : BitVec 16) (table : List (BitVec 16)) : Option Nat :=
  (invEquidistant (fun d => d % 2 ^ 16) id x.toNat (table.map BitVec.toNat)).map fun value =>
    value % 2 ^ 16

def acameraCalcInvEquidistantModulationU32 (x : BitVec 32) (table : List (BitVec 32)) : Option Nat :=
  invEquidistant id (fun product => product % 2 ^ 32) x.toNat (table.map BitVec.toNat)

end Code

section Steps

variable {m x : Nat}

theorem bin_lt (even : 2 ^ 16 % m ≤ 1) (below : x < 2 ^ 16 - 1) : x / (2 ^ 16 / m) < m := by
  have whole := Nat.div_add_mod (2 ^ 16) m
  exact Nat.div_lt_of_lt_mul (by rw [Nat.mul_comm]; omega)

theorem bin_eq (even : 2 ^ 16 % m ≤ 1) (below : x < 2 ^ 16 - 1) :
    x / (2 ^ 16 / m) = x * m / 2 ^ 16 ∨
      x / (2 ^ 16 / m) = x * m / 2 ^ 16 + 1 ∧ x % (2 ^ 16 / m) = 0 := by
  have bin := bin_lt even below
  have whole := Nat.div_add_mod (2 ^ 16) m
  generalize 2 ^ 16 / m = d at bin whole ⊢
  have split := Nat.div_add_mod x d
  have rest : x % d < d := Nat.mod_lt _ (Nat.pos_of_ne_zero fun zero => by subst zero; omega)
  have short : x % d * m + m ≤ m * d := by
    calc x % d * m + m = (x % d + 1) * m := by ring
      _ ≤ d * m := Nat.mul_le_mul_right _ rest
      _ = m * d := Nat.mul_comm _ _
  have position : x * m = x / d * (m * d) + x % d * m := by
    calc x * m = (d * (x / d) + x % d) * m := by rw [split]
      _ = x / d * (m * d) + x % d * m := by ring
  have edge : x % d = 0 ∨ m ≤ x % d * m := by
    rcases Nat.eq_zero_or_pos (x % d) with zero | more
    · exact .inl zero
    · exact .inr (Nat.le_mul_of_pos_left m more)
  have none : x % d = 0 → x % d * m = 0 := fun zero => by rw [zero, Nat.zero_mul]
  rcases Nat.le_one_iff_eq_zero_or_eq_one.mp even with exact_ | short_
  · rw [show m * d = 2 ^ 16 by omega] at position short
    omega
  · rw [show m * d = 2 ^ 16 - 1 by omega] at position short
    omega

theorem bin_beyond (steps : 2 ≤ m) (word : m ≤ 2 ^ 16) (rest : 2 ≤ 2 ^ 16 % m) :
    ∃ x, 0 < x ∧ x < 2 ^ 16 - 1 ∧ x / (2 ^ 16 / m) = m := by
  have whole := Nat.div_add_mod (2 ^ 16) m
  have step : 0 < 2 ^ 16 / m := Nat.div_pos word (by omega)
  refine ⟨m * (2 ^ 16 / m), Nat.mul_pos (by omega) step, by omega, Nat.mul_div_cancel _ step⟩

end Steps

section Values

variable {store cut : Nat → Nat} {table : List Nat} {x d low high : Nat}

@[simp] theorem equidistant_zero : equidistant store cut 0 table = table[0]? := rfl

@[simp] theorem equidistant_last :
    equidistant store cut (2 ^ 16 - 1) table = table[table.length - 1]? := rfl

theorem equidistant_single (one : table.length = 1) : equidistant store cut x table = table[0]? := by
  simp [equidistant, one]

theorem equidistant_coarse (some_ : x ≠ 0) (more : x ≠ 2 ^ 16 - 1)
    (coarse : store (2 ^ 16 / (table.length - 1)) = 0) :
    equidistant store cut x table = table[0]? := by
  simp only [equidistant, some_, more, coarse, if_true, if_false, ite_self]

theorem equidistant_bin (some_ : x ≠ 0) (more : x ≠ 2 ^ 16 - 1) (long : table.length ≠ 1)
    (step : store (2 ^ 16 / (table.length - 1)) = d) (fine : d ≠ 0) : equidistant store cut x table =
      (table[x / d]?).bind fun low => (table[x / d + 1]?).bind fun high =>
        some (cut (cut (low * (256 - cut (x % d * 256) / d)) +
          cut (high * (cut (x % d * 256) / d))) / 256) := by
  subst step
  have rest := Nat.mod_eq_sub_div_mul (x := x) (k := store (2 ^ 16 / (table.length - 1)))
  simp only [equidistant, some_, more, long, fine, if_false, rest]
  rfl

theorem cut_blend (keeps : ∀ a, a < 2 ^ 32 → cut a = a) (step : d ≤ 2 ^ 16) (fine : d ≠ 0)
    (first : low < 2 ^ 16) (second : high < 2 ^ 16) :
    cut (cut (low * (256 - cut (x % d * 256) / d)) + cut (high * (cut (x % d * 256) / d))) / 256 =
      blend 256 low high (x % d * 256 / d) := by
  have rest : x % d < d := Nat.mod_lt _ (Nat.pos_of_ne_zero fine)
  have part : x % d * 256 / d < 256 :=
    Nat.div_lt_of_lt_mul (Nat.mul_lt_mul_of_pos_right rest (by decide))
  rw [keeps (x % d * 256) (by omega)]
  generalize x % d * 256 / d = alpha at *
  have left : low * (256 - alpha) ≤ 2 ^ 16 * 256 := Nat.mul_le_mul first.le (by omega)
  have right : high * alpha ≤ 2 ^ 16 * 256 := Nat.mul_le_mul second.le (by omega)
  rw [keeps (low * (256 - alpha)) (by omega), keeps (high * alpha) (by omega),
    keeps (_ + _) (by omega), Nat.add_comm]
  rfl

theorem alpha_le (fine : d ≠ 0) : x % d * 256 / d ≤ 256 :=
  (Nat.div_lt_of_lt_mul
    (Nat.mul_lt_mul_of_pos_right (Nat.mod_lt _ (Nat.pos_of_ne_zero fine)) (by decide))).le

theorem equidistant_inside (keeps : ∀ a, a < 2 ^ 32 → cut a = a) (words : ∀ v ∈ table, v < 2 ^ 16)
    (some_ : x ≠ 0) (more : x ≠ 2 ^ 16 - 1) (long : table.length ≠ 1)
    (step : store (2 ^ 16 / (table.length - 1)) = d) (fine : d ≠ 0) (least : d ≤ 2 ^ 16) :
    equidistant store cut x table = (table[x / d]?).bind fun low => (table[x / d + 1]?).map fun high =>
      blend 256 low high (x % d * 256 / d) := by
  rw [equidistant_bin some_ more long step fine]
  cases first : table[x / d]? with
  | none => rfl
  | some low =>
    cases second : table[x / d + 1]? with
    | none => rfl
    | some high =>
      simpa using cut_blend keeps least fine (words _ (List.mem_of_getElem? first))
        (words _ (List.mem_of_getElem? second))

theorem equidistant_word (words : ∀ v ∈ table, v < 2 ^ 16) {v : Nat}
    (result : equidistant (fun d => d % 2 ^ 16) id x table = some v) : v < 2 ^ 16 := by
  by_cases zero : x = 0
  · subst zero
    exact words v (List.mem_of_getElem? result)
  · by_cases last : x = 2 ^ 16 - 1
    · subst last
      exact words v (List.mem_of_getElem? result)
    · by_cases one : table.length = 1
      · rw [equidistant_single one] at result
        exact words v (List.mem_of_getElem? result)
      · by_cases coarse : 2 ^ 16 / (table.length - 1) % 2 ^ 16 = 0
        · rw [equidistant_coarse zero last coarse] at result
          exact words v (List.mem_of_getElem? result)
        · rw [(@equidistant_inside _ id) (fun _ _ => rfl) words zero last one rfl coarse
            (Nat.mod_lt _ (by decide : 0 < 2 ^ 16)).le] at result
          obtain ⟨low, first, rest⟩ := Option.bind_eq_some_iff.mp result
          obtain ⟨high, second, rfl⟩ := Option.map_eq_some_iff.mp rest
          refine (blend_between (by decide) (alpha_le coarse)).2.trans_lt ?_
          exact max_lt (words _ (List.mem_of_getElem? first)) (words _ (List.mem_of_getElem? second))

end Values

section Property

def Around (table : List Nat) (q v : Nat) : Prop :=
  ∃ a b, table[q]? = some a ∧ table[min (q + 1) (table.length - 1)]? = some b ∧
    min a b ≤ v ∧ v ≤ max a b

def widenEntries (table : List (BitVec 16)) : List (BitVec 32) :=
  table.map fun entry => entry.setWidth 32

-- The length that the 16-bit function takes is a uint16_t
structure Interpolates (table : List (BitVec 16)) (x : BitVec 16) : Prop where
  agree : table.length < 2 ^ 16 → acameraCalcEquidistantModulationU16 x table =
    acameraCalcEquidistantModulationU32 (x.setWidth 32) (widenEntries table)
  value : ∃ v, acameraCalcEquidistantModulationU32 (x.setWidth 32) (widenEntries table) = some v ∧
    Around (table.map BitVec.toNat) (x.toNat * (table.length - 1) / 2 ^ 16) v

structure Inverts (table : List (BitVec 16)) : Prop where
  returns : ∀ x, ∃ v, acameraCalcInvEquidistantModulationU16 x table = some v
  agree : ∀ x, acameraCalcInvEquidistantModulationU16 x table =
    acameraCalcInvEquidistantModulationU32 (x.setWidth 32) (widenEntries table)
  monotone : ∀ x x' v v', x.toNat ≤ x'.toNat → acameraCalcInvEquidistantModulationU16 x table = some v →
    acameraCalcInvEquidistantModulationU16 x' table = some v' → v ≤ v'

def Increasing (table : List Nat) : Prop := table.Pairwise fun before after => before < after

def EquidistantTable (table : List (BitVec 16)) : Prop :=
  (∀ x, Interpolates table x) ∧ (table.length < 2 ^ 16 → Increasing (table.map BitVec.toNat) →
    Inverts table)

-- The step of the table fills the range but for one. Two entries are at most one apart, since a
-- step of the whole range is stored as 0; where a table is so long that the step is 0, the first
-- entry serves everywhere.
inductive Spread (table : List Nat) : Prop
  | single (one : table.length = 1)
  | pair (a b : Nat) (two : table = [a, b]) (close : b = a ∨ b = a + 1)
  | even (least : 3 ≤ table.length) (most : table.length ≤ 2 ^ 16 + 1)
      (rest : 2 ^ 16 % (table.length - 1) ≤ 1)
  | long (more : 2 ^ 16 + 1 < table.length) (first : ∀ a, table[0]? = some a →
      ∀ x, 0 < x → x < 2 ^ 16 - 1 → Around table (x * (table.length - 1) / 2 ^ 16) a)
      (last : ∀ a, table[table.length - 1]? = some a →
        Around table ((2 ^ 16 - 1) * (table.length - 1) / 2 ^ 16) a)

end Property

section Interpolation

variable {store cut : Nat → Nat} {table : List Nat} {x v : Nat}

theorem Around.of_first {q : Nat} (first : table[q]? = some v) (within : q < table.length) :
    Around table q v := by
  obtain ⟨b, other⟩ : ∃ b, table[min (q + 1) (table.length - 1)]? = some b :=
    ⟨_, List.getElem?_eq_getElem (by omega)⟩
  exact ⟨v, b, first, other, Nat.min_le_left _ _, Nat.le_max_left _ _⟩

theorem Around.of_second {q : Nat} (within : q + 1 < table.length)
    (second : table[q + 1]? = some v) : Around table q v := by
  refine ⟨_, v, List.getElem?_eq_getElem (by omega), ?_, Nat.min_le_right _ _, Nat.le_max_right _ _⟩
  rwa [Nat.min_eq_left (by omega)]

theorem Around.of_blend {q low high alpha : Nat} (first : table[q]? = some low)
    (second : table[q + 1]? = some high) (within : alpha ≤ 256) :
    Around table q (blend 256 low high alpha) := by
  have inside : q + 1 < table.length := (List.getElem?_eq_some_iff.mp second).1
  obtain ⟨least, most⟩ := blend_between (n := 256) (a := low) (b := high) (by decide) within
  exact ⟨low, high, first, by rwa [Nat.min_eq_left (by omega)], least, most⟩

theorem even_value (keeps : ∀ a, a < 2 ^ 32 → cut a = a) (words : ∀ v ∈ table, v < 2 ^ 16)
    (least : 3 ≤ table.length) (most : table.length ≤ 2 ^ 16 + 1)
    (rest : 2 ^ 16 % (table.length - 1) ≤ 1)
    (step : store (2 ^ 16 / (table.length - 1)) = 2 ^ 16 / (table.length - 1)) (word : x < 2 ^ 16) :
    ∃ v, equidistant store cut x table = some v ∧ Around table (x * (table.length - 1) / 2 ^ 16) v := by
  have fine : 2 ^ 16 / (table.length - 1) ≠ 0 := (Nat.div_pos (by omega) (by omega)).ne'
  by_cases zero : x = 0
  · subst zero
    rw [equidistant_zero, Nat.zero_mul, Nat.zero_div]
    exact ⟨_, List.getElem?_eq_getElem (by omega),
      Around.of_first (List.getElem?_eq_getElem (by omega)) (by omega)⟩
  · by_cases last : x = 2 ^ 16 - 1
    · subst last
      rw [equidistant_last, show (2 ^ 16 - 1) * (table.length - 1) / 2 ^ 16 = table.length - 2 by omega]
      refine ⟨_, List.getElem?_eq_getElem (by omega), Around.of_second (by omega) ?_⟩
      rw [show table.length - 2 + 1 = table.length - 1 by omega]
      exact List.getElem?_eq_getElem (by omega)
    · have bin := bin_lt rest (show x < 2 ^ 16 - 1 by omega)
      have small : 2 ^ 16 / (table.length - 1) ≤ 2 ^ 16 := Nat.div_le_self _ _
      obtain ⟨low, first⟩ : ∃ low, table[x / (2 ^ 16 / (table.length - 1))]? = some low :=
        ⟨_, List.getElem?_eq_getElem (by omega)⟩
      obtain ⟨high, second⟩ : ∃ high, table[x / (2 ^ 16 / (table.length - 1)) + 1]? = some high :=
        ⟨_, List.getElem?_eq_getElem (by omega)⟩
      rw [equidistant_inside keeps words zero last (by omega) step fine small, first, second,
        Option.bind_some, Option.map_some]
      refine ⟨_, rfl, ?_⟩
      rcases bin_eq rest (show x < 2 ^ 16 - 1 by omega) with same | ⟨next, edge⟩
      · rw [← same]
        exact Around.of_blend first second (alpha_le fine)
      · rw [edge, Nat.zero_mul, Nat.zero_div, blend_zero (by decide : 0 < 256)]
        refine Around.of_second (by omega) ?_
        rw [← next]
        exact first

end Interpolation

end UnionpiTiger.Isp
