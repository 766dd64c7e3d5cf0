import UnionpiTiger.Isp.Equidistant

set_option autoImplicit false

namespace UnionpiTiger.Isp

open Lib

section Inverse

variable {store cut : Nat → Nat} {table rest : List Nat} {x x' d v v' : Nat}

theorem above_found (found : ∃ entry ∈ rest, x < entry) (i : Nat) : ∃ k entry, above x rest i = i + k ∧
    rest[k]? = some entry ∧ x < entry ∧ ∀ j other, j < k → rest[j]? = some other → other ≤ x := by
  induction rest generalizing i with
  | nil => simp at found
  | cons head rest ih =>
    by_cases here : x < head
    · exact ⟨0, head, by simp [above, here], rfl, here, by simp⟩
    · obtain ⟨k, entry, stops, at_, more, before⟩ := ih (by simpa [here] using found) (i + 1)
      refine ⟨k + 1, entry, by simp [above, here, stops, Nat.add_comm,
        Nat.add_left_comm], at_, more, fun j other earlier found => ?_⟩
      cases j with
      | zero =>
        obtain rfl : head = other := by simpa using found
        exact not_lt.mp here
      | succ j => exact before j other (by omega) found

inductive Inverse (d : Nat) (table : List Nat) (x : Nat) : Nat → Prop
  | low (first : Nat) (entry : table[0]? = some first) (below : x ≤ first) : Inverse d table x 0
  | high (first last : Nat) (start : table[0]? = some first) (above : first < x)
      (entry : table[table.length - 1]? = some last) (beyond : last ≤ x) : Inverse d table
        x (2 ^ 16 - 1)
  | inside (first i low high : Nat) (start : table[0]? = some first) (above : first < x)
      (left : table[i]? = some low)
      (right : table[i + 1]? = some high) (least : low ≤ x) (most : x < high) :
      Inverse d table x (blend 256 (d * i) (d * (i + 1)) ((x - low) * 256 / (high - low)))

theorem part_lt {low high : Nat} (least : low ≤ x) (most : x < high) :
    (x - low) * 256 / (high - low) < 256 :=
  Nat.div_lt_of_lt_mul (Nat.mul_lt_mul_of_pos_right (by omega) (by decide))

theorem cut_inverse {k alpha : Nat} (keeps : ∀ a, a < 2 ^ 32 → cut a = a)
    (reach : d * (k + 1) ≤ 2 ^ 16) (part : alpha < 256) :
    cut (cut (d * (k + 1) * alpha) + cut (d * k * (256 - alpha))) / 256 =
      blend 256 (d * k) (d * (k + 1)) alpha := by
  have left : d * (k + 1) * alpha ≤ 2 ^ 16 * 256 := Nat.mul_le_mul reach part.le
  have right : d * k * (256 - alpha) ≤ 2 ^ 16 * 256 :=
    Nat.mul_le_mul ((Nat.mul_le_mul_left d (Nat.le_succ k)).trans reach) (Nat.sub_le _ _)
  rw [keeps (d * (k + 1) * alpha) (by omega), keeps (d * k * (256 - alpha)) (by omega),
    keeps (_ + _) (by omega)]
  rfl

theorem inverse_exists (some_ : table ≠ []) (words : ∀ v ∈ table, v < 2 ^ 16)
    (reach : d * (table.length - 1) ≤ 2 ^ 16) :
    ∃ v, Inverse d table x v ∧ ∀ store cut, (∀ a, a < 2 ^ 32 → cut a = a) →
      store (2 ^ 16 / (table.length - 1)) = d →
      invEquidistant store cut x table = some v := by
  obtain ⟨first, rest, rfl⟩ := List.exists_cons_of_ne_nil some_
  by_cases below : x ≤ first
  · exact ⟨0, .low first rfl below, fun store cut _ _ => by simp [invEquidistant, below]⟩
  · obtain ⟨last, end_⟩ : ∃ last, (first :: rest)[(first :: rest).length - 1]? = some last :=
      ⟨_, List.getElem?_eq_getElem (by simp)⟩
    by_cases beyond : last ≤ x
    · refine ⟨_, .high first last rfl (not_le.mp below) end_ beyond, fun store cut _ _ => ?_⟩
      simp only [invEquidistant, end_, List.getElem?_cons_zero, Option.bind_eq_bind,
        Option.bind_some, below, beyond, ge_iff_le, if_true, if_false]
    · have long : (first :: rest).length ≠ 1 := by
        intro one
        rw [one] at end_
        have same : first = last := by simpa using end_
        omega
      have found : ∃ entry ∈ rest, x < entry := by
        refine ⟨last, ?_, not_le.mp beyond⟩
        have member := List.mem_of_getElem? end_
        rcases List.mem_cons.mp member with rfl | tail
        · omega
        · exact tail
      obtain ⟨k, high, stops, at_, most, before⟩ := above_found found 1
      obtain ⟨low, left, least⟩ : ∃ low, (first :: rest)[k]? = some low ∧ low ≤ x := by
        cases k with
        | zero => exact ⟨first, rfl, (not_le.mp below).le⟩
        | succ k =>
          have within := (List.getElem?_eq_some_iff.mp at_).1
          have entry := List.getElem?_eq_getElem (l := rest) (show k < rest.length by omega)
          exact ⟨_, entry, before k _ (Nat.lt_succ_self k) entry⟩
      have right : (first :: rest)[k + 1]? = some high := at_
      refine ⟨_, .inside first k low high rfl (not_le.mp below) left right least most,
        fun store cut keeps step => ?_⟩
      have within : k + 1 ≤ (first :: rest).length - 1 := by
        have inside := (List.getElem?_eq_some_iff.mp right).1
        omega
      have word := words high (List.mem_of_getElem? right)
      simp only [invEquidistant, List.getElem?_cons_zero, Option.bind_eq_bind, Option.bind_some,
        below, if_false, end_, ge_iff_le, beyond, long, List.tail_cons, stops, Nat.add_comm 1 k,
        right, Nat.add_sub_cancel, left, step, (least.trans_lt most).ne',
        keeps ((x - low) * 256) (by omega)]
      rw [cut_inverse keeps ((Nat.mul_le_mul_left d within).trans reach) (part_lt least most)]

theorem Inverse.word (value : Inverse d table x v) (reach : d * (table.length - 1) ≤ 2 ^ 16) :
    v < 2 ^ 16 := by
  cases value with
  | low => decide
  | high => decide
  | inside first i low high start above left right least most =>
    have part := part_lt least most
    have within := (List.getElem?_eq_some_iff.mp right).1
    have step : d * (i + 1) ≤ 2 ^ 16 := (Nat.mul_le_mul_left d (by omega)).trans reach
    generalize (x - low) * 256 / (high - low) = alpha at part
    rw [blend, Nat.div_lt_iff_lt_mul (by decide)]
    rcases Nat.eq_zero_or_pos d with rfl | some_
    · simp [blended]
    · have less : d * alpha < d * 256 := Nat.mul_lt_mul_of_pos_left part some_
      calc blended 256 (d * i) (d * (i + 1)) alpha = d * i * 256 + d * alpha := by
            obtain ⟨rest, split⟩ := Nat.exists_eq_add_of_le part.le
            rw [blended, show 256 - alpha = rest by omega, split]
            ring
        _ < d * i * 256 + d * 256 := Nat.add_lt_add_left less _
        _ = d * (i + 1) * 256 := by ring
        _ ≤ 2 ^ 16 * 256 := Nat.mul_le_mul_right _ step

theorem Increasing.entry_le (increasing : Increasing table) {i j a b : Nat} (first : table[i]? = some a)
    (second : table[j]? = some b) (before : i ≤ j) : a ≤ b := by
  obtain ⟨left, rfl⟩ := List.getElem?_eq_some_iff.mp first
  obtain ⟨right, rfl⟩ := List.getElem?_eq_some_iff.mp second
  rcases Nat.eq_or_lt_of_le before with rfl | less
  · exact Nat.le_refl _
  · exact (List.pairwise_iff_getElem.mp increasing i j left right less).le

theorem Increasing.index_le (increasing : Increasing table) {i j a b : Nat} (first : table[i]? = some a)
    (second : table[j]? = some b) (less : a < b) : i < j := by
  by_contra more
  exact absurd (increasing.entry_le second first (not_lt.mp more)) (not_le.mpr less)

theorem blend_steps {i j alpha beta : Nat} (before : i < j) (first : alpha ≤ 256)
    (second : beta ≤ 256) :
    blend 256 (d * i) (d * (i + 1)) alpha ≤ blend 256 (d * j) (d * (j + 1)) beta := by
  have rises (k : Nat) : d * k ≤ d * (k + 1) := Nat.mul_le_mul_left d (Nat.le_succ k)
  calc blend 256 (d * i) (d * (i + 1)) alpha ≤ max (d * i) (d * (i + 1)) :=
    (blend_between (by decide) first).2
    _ = d * (i + 1) := Nat.max_eq_right (rises i)
    _ ≤ d * j := Nat.mul_le_mul_left d before
    _ = min (d * j) (d * (j + 1)) := (Nat.min_eq_left (rises j)).symm
    _ ≤ blend 256 (d * j) (d * (j + 1)) beta := (blend_between (by decide) second).1

theorem Inverse.mono (increasing : Increasing table) (reach : d * (table.length - 1) ≤ 2 ^ 16)
    (le : x ≤ x') (value : Inverse d table x v) (value' : Inverse d table x' v') : v ≤ v' := by
  have word := value.word reach
  cases value with
  | low => exact Nat.zero_le _
  | high first last start above end_ beyond =>
    cases value' with
    | low first' start' below =>
      obtain rfl : first = first' := Option.some.inj (start.symm.trans start')
      omega
    | high => exact Nat.le_refl _
    | inside _ i low high _ _ _ right _ most =>
      have within := (List.getElem?_eq_some_iff.mp right).1
      have top := increasing.entry_le right end_ (by omega)
      omega
  | inside first i low high start above left right least most =>
    cases value' with
    | low first' start' below =>
      obtain rfl : first = first' := Option.some.inj (start.symm.trans start')
      omega
    | high => omega
    | inside _ j low' high' _ _ left' right' least' most' =>
      have order := increasing.index_le left right' (by omega)
      rcases Nat.lt_or_ge i j with less | more
      · exact blend_steps less (part_lt least most).le (part_lt least' most').le
      · obtain rfl : i = j := by omega
        obtain rfl : low = low' := Option.some.inj (left.symm.trans left')
        obtain rfl : high = high' := Option.some.inj (right.symm.trans right')
        refine Nat.div_le_div_right
          (blended_rises (Nat.mul_le_mul_left d (Nat.le_succ i)) ?_ (part_lt least' most').le)
        exact Nat.div_le_div_right (Nat.mul_le_mul_right _ (Nat.sub_le_sub_right le _))

end Inverse

section Tables

variable {table : List (BitVec 16)} {x : BitVec 16} {v : Nat}

theorem entries_words (table : List (BitVec 16)) : ∀ v ∈ table.map BitVec.toNat, v < 2 ^ 16 := by
  simp only [List.mem_map, forall_exists_index, and_imp, forall_apply_eq_imp_iff₂]
  exact fun entry _ => entry.isLt

theorem widenEntries_values (table : List (BitVec 16)) :
    (widenEntries table).map BitVec.toNat = table.map BitVec.toNat := by
  simp [widenEntries, -BitVec.toNat_setWidth, BitVec.toNat_setWidth_of_le]

theorem mod_word (a : Nat) (small : a < 2 ^ 32) : a % 2 ^ 32 = a := Nat.mod_eq_of_lt small

theorem equidistant_u32 (table : List (BitVec 16)) (x : BitVec 16) :
    acameraCalcEquidistantModulationU32 (x.setWidth 32) (widenEntries table) =
      equidistant id (fun product => product % 2 ^ 32) x.toNat (table.map BitVec.toNat) := by
  rw [acameraCalcEquidistantModulationU32, widenEntries_values, BitVec.toNat_setWidth_of_le (by decide)]

theorem equidistant_u16 (table : List (BitVec 16)) (x : BitVec 16) :
    acameraCalcEquidistantModulationU16 x table =
      equidistant (fun d => d % 2 ^ 16) id x.toNat (table.map BitVec.toNat) := by
  unfold acameraCalcEquidistantModulationU16
  cases result : equidistant (fun d => d % 2 ^ 16) id x.toNat (table.map BitVec.toNat) with
  | none => rfl
  | some v => exact congrArg some (Nat.mod_eq_of_lt (equidistant_word (entries_words table) result))

theorem even_agrees {values : List Nat} {position : Nat} (words : ∀ v ∈ values, v < 2 ^ 16)
    (least : 3 ≤ values.length) :
    equidistant (fun d => d % 2 ^ 16) id position values =
      equidistant id (fun product => product % 2 ^ 32) position values := by
  by_cases zero : position = 0
  · rw [zero, equidistant_zero, equidistant_zero]
  · by_cases last : position = 2 ^ 16 - 1
    · rw [last, equidistant_last, equidistant_last]
    · have half : 2 ^ 16 / (values.length - 1) ≤ 2 ^ 16 / 2 :=
        Nat.div_le_div_left (by omega) (by decide)
      have small : 2 ^ 16 / (values.length - 1) % 2 ^ 16 = 2 ^ 16 / (values.length - 1) :=
        Nat.mod_eq_of_lt (by omega)
      by_cases coarse : 2 ^ 16 / (values.length - 1) = 0
      · rw [equidistant_coarse zero last (small.trans coarse), equidistant_coarse zero last coarse]
      · rw [(@equidistant_inside _ id) (fun _ _ => rfl) words zero last (by omega) small
          coarse (by omega),
          equidistant_inside (d := 2 ^ 16 / (values.length - 1)) mod_word words zero last (by omega)
            rfl coarse (by omega)]

theorem pair_coarse {a b position : Nat} (cut : Nat → Nat) (inside : position ≠ 2 ^ 16 - 1) :
    equidistant (fun d => d % 2 ^ 16) cut position [a, b] = some a := by
  by_cases zero : position = 0
  · rw [zero]
    rfl
  · exact equidistant_coarse zero inside (by simp)

theorem pair_fine {a b position : Nat} (words : ∀ v ∈ [a, b], v < 2 ^ 16) (word : position < 2 ^ 16)
    (inside : position ≠ 2 ^ 16 - 1) :
    equidistant id (fun product => product % 2 ^ 32) position [a, b] =
      some (blend 256 a b (position * 256 / 2 ^ 16)) := by
  by_cases zero : position = 0
  · rw [zero, Nat.zero_mul, Nat.zero_div, blend_zero (by decide)]
    rfl
  · rw [equidistant_inside (d := 2 ^ 16) mod_word words zero inside (by simp) (by simp)
      (by decide) (by decide)]
    rw [Nat.div_eq_of_lt word, Nat.mod_eq_of_lt word]
    rfl

theorem pair_close {a b position : Nat} (close : b = a ∨ b = a + 1)
    (word : position < 2 ^ 16) : blend 256 a b (position * 256 / 2 ^ 16) = a := by
  have part : position * 256 / 2 ^ 16 < 256 := by omega
  generalize position * 256 / 2 ^ 16 = alpha at part
  obtain ⟨rest, split⟩ := Nat.exists_eq_add_of_le part.le
  rcases close with rfl | rfl
  · exact blend_same (by decide) part.le
  · have whole : blended 256 a (a + 1) alpha = a * 256 + alpha := by
      rw [blended, show 256 - alpha = rest by omega, split]
      ring
    rw [blend, whole]
    omega

theorem Spread.interpolates (spread : Spread (table.map BitVec.toNat)) (x : BitVec 16) :
    Interpolates table x := by
  have words := entries_words table
  have word := x.isLt
  have length : (table.map BitVec.toNat).length = table.length := List.length_map ..
  constructor
  · intro short
    rw [equidistant_u16, equidistant_u32]
    cases spread with
    | single one => rw [equidistant_single one, equidistant_single one]
    | pair a b two close =>
      rw [two] at words ⊢
      by_cases last : x.toNat = 2 ^ 16 - 1
      · rw [last, equidistant_last, equidistant_last]
      · rw [pair_coarse id last, pair_fine words word last, pair_close close word]
    | even least => exact even_agrees words least
    | long more => omega
  · rw [equidistant_u32, ← length]
    cases spread with
    | single one =>
      rw [equidistant_single one, one, Nat.sub_self, Nat.mul_zero, Nat.zero_div]
      exact ⟨_, List.getElem?_eq_getElem (by omega),
        Around.of_first (List.getElem?_eq_getElem (by omega)) (by omega)⟩
    | pair a b two close =>
      rw [two] at words ⊢
      rw [show x.toNat * ([a, b].length - 1) / 2 ^ 16 = 0 by simp; omega]
      by_cases last : x.toNat = 2 ^ 16 - 1
      · rw [last, equidistant_last]
        exact ⟨b, rfl, Around.of_second (by simp) rfl⟩
      · rw [pair_fine words word last, pair_close close word]
        exact ⟨a, rfl, Around.of_first rfl (by simp)⟩
    | even least most rest => exact even_value mod_word words least most rest rfl word
    | long more first last =>
      obtain ⟨a, start⟩ : ∃ a, (table.map BitVec.toNat)[0]? = some a :=
        ⟨_, List.getElem?_eq_getElem (by omega)⟩
      obtain ⟨b, end_⟩ : ∃ b, (table.map BitVec.toNat)[(table.map BitVec.toNat).length - 1]? = some b :=
        ⟨_, List.getElem?_eq_getElem (by omega)⟩
      by_cases zero : x.toNat = 0
      · rw [zero, equidistant_zero, Nat.zero_mul, Nat.zero_div]
        exact ⟨a, start, Around.of_first start (by omega)⟩
      · by_cases top : x.toNat = 2 ^ 16 - 1
        · rw [top, equidistant_last]
          exact ⟨b, end_, last b end_⟩
        · rw [(@equidistant_coarse id) zero top (Nat.div_eq_of_lt (by omega))]
          exact ⟨a, start, first a start _ (Nat.pos_of_ne_zero zero) (by omega)⟩

theorem inv_u32 (table : List (BitVec 16)) (x : BitVec 16) :
    acameraCalcInvEquidistantModulationU32 (x.setWidth 32) (widenEntries table) =
      invEquidistant id (fun product => product % 2 ^ 32) x.toNat (table.map BitVec.toNat) := by
  rw [acameraCalcInvEquidistantModulationU32, widenEntries_values,
    BitVec.toNat_setWidth_of_le (by decide)]

def storedStep (table : List Nat) : Nat := 2 ^ 16 / (table.length - 1) % 2 ^ 16

theorem storedStep_reach (table : List Nat) : storedStep table * (table.length - 1) ≤ 2 ^ 16 :=
  (Nat.mul_le_mul_right _ (Nat.mod_le _ _)).trans (Nat.div_mul_le_self _ _)

theorem inv_u16 (some_ : table ≠ []) (x : BitVec 16) :
    ∃ v, Inverse (storedStep (table.map BitVec.toNat)) (table.map BitVec.toNat) x.toNat v ∧
      acameraCalcInvEquidistantModulationU16 x table = some v ∧
      (2 ^ 16 / (table.length - 1) < 2 ^ 16 →
        acameraCalcInvEquidistantModulationU32 (x.setWidth 32) (widenEntries table) = some v) := by
  have reach := storedStep_reach (table.map BitVec.toNat)
  obtain ⟨v, value, result⟩ :=
    inverse_exists (x := x.toNat) (by simpa using some_) (entries_words table) reach
  refine ⟨v, value, ?_, fun small => ?_⟩
  · rw [acameraCalcInvEquidistantModulationU16, result _ id (fun _ _ => rfl) rfl, Option.map_some,
      Nat.mod_eq_of_lt (value.word reach)]
  · rw [inv_u32, result id _ mod_word]
    rw [storedStep, List.length_map, Nat.mod_eq_of_lt small]
    rfl

theorem inv_pair {store cut : Nat → Nat} {a position : Nat} :
    invEquidistant store cut position [a, a + 1] = some (if position ≤ a then 0 else 2 ^ 16 - 1) := by
  by_cases low : position ≤ a
  · simp [invEquidistant, low]
  · simp [invEquidistant, low, show a + 1 ≤ position by omega]

theorem Spread.inverts (spread : Spread (table.map BitVec.toNat)) (some_ : table ≠ [])
    (increasing : Increasing (table.map BitVec.toNat)) : Inverts table where
  returns x := by
    obtain ⟨v, -, result, -⟩ := inv_u16 some_ x
    exact ⟨v, result⟩
  agree x := by
    obtain ⟨v, -, narrow, wide⟩ := inv_u16 some_ x
    by_cases small : 2 ^ 16 / (table.length - 1) < 2 ^ 16
    · rw [narrow, wide small]
    · have two : table.length = 2 := by
        by_contra other
        refine small ?_
        rcases Nat.lt_or_ge table.length 2 with less | more
        · rw [show table.length - 1 = 0 by omega]
          decide
        · exact Nat.div_lt_self (by decide) (by omega)
      cases spread with
      | pair a b pair close =>
        have next : b = a + 1 := by
          rcases close with rfl | next
          · rw [pair] at increasing
            simp [Increasing] at increasing
          · exact next
        rw [inv_u32, acameraCalcInvEquidistantModulationU16, pair, next, inv_pair, inv_pair]
        split_ifs <;> rfl
      | single one => simp [two] at one
      | even least => simp [two] at least
      | long more => simp [two] at more
  monotone x x' v v' le first second := by
    obtain ⟨u, value, result, -⟩ := inv_u16 some_ x
    obtain ⟨u', value', result', -⟩ := inv_u16 some_ x'
    obtain rfl : u = v := Option.some.inj (result.symm.trans first)
    obtain rfl : u' = v' := Option.some.inj (result'.symm.trans second)
    exact value.mono increasing (storedStep_reach _) le value'

theorem EquidistantTable.spread (property : EquidistantTable table) (some_ : table ≠ []) :
    Spread (table.map BitVec.toNat) := by
  have words := entries_words table
  have length : (table.map BitVec.toNat).length = table.length := List.length_map ..
  have long : 0 < table.length := List.length_pos_iff.mpr some_
  have value (position : Nat) (word : position < 2 ^ 16) : ∃ v,
      equidistant id (fun product => product % 2 ^ 32) position (table.map BitVec.toNat) = some v ∧
        Around (table.map BitVec.toNat) (position *
          ((table.map BitVec.toNat).length - 1) / 2 ^ 16) v := by
    have found := (property.1 (BitVec.ofNat 16 position)).value
    rwa [equidistant_u32, BitVec.toNat_ofNat, Nat.mod_eq_of_lt word, ← length] at found
  by_cases one : table.length = 1
  · exact .single (length.trans one)
  · by_cases two : table.length = 2
    · obtain ⟨a, b, pair⟩ := List.length_eq_two.mp (length.trans two)
      have agree := (property.1 (BitVec.ofNat 16 (2 ^ 16 - 2))).agree (by omega)
      rw [equidistant_u16, equidistant_u32, pair, BitVec.toNat_ofNat, pair_coarse id (by decide),
        pair_fine (pair ▸ words) (by decide) (by decide)] at agree
      have same := Option.some.inj agree
      simp only [blend, blended, show (2 ^ 16 - 2) % 2 ^ 16 * 256 / 2 ^ 16 = 255 by decide] at same
      exact .pair a b pair (by omega)
    · by_cases fits : table.length ≤ 2 ^ 16 + 1
      · refine .even (by omega) (by omega) (not_lt.mp fun rest => ?_)
        rw [length] at rest
        obtain ⟨x, some_, below, beyond⟩ :=
          bin_beyond (m := table.length - 1) (by omega) (by omega) rest
        obtain ⟨v, result, -⟩ := value x (by omega)
        have fine : 2 ^ 16 / (table.length - 1) ≠ 0 := (Nat.div_pos (by omega) (by omega)).ne'
        have outside : (table.map BitVec.toNat)[table.length - 1 + 1]? = none :=
          List.getElem?_eq_none (by omega)
        rw [equidistant_inside (d := 2 ^ 16 / (table.length - 1)) mod_word words (by omega)
          (by omega) (by omega)
          (by rw [length]; rfl) fine (Nat.div_le_self _ _), beyond, outside] at result
        simp at result
      · refine .long (by omega) (fun a start x some_ below => ?_) fun a end_ => ?_
        · obtain ⟨v, result, around⟩ := value x (by omega)
          rw [(@equidistant_coarse id) (by omega) (by omega) (Nat.div_eq_of_lt (by omega)),
            start] at result
          exact Option.some.inj result ▸ around
        · obtain ⟨v, result, around⟩ := value (2 ^ 16 - 1) (by decide)
          rw [equidistant_last, end_] at result
          exact Option.some.inj result ▸ around

end Tables

theorem equidistant_tables (table : List (BitVec 16)) (some_ : table ≠ []) :
    EquidistantTable table ↔ Spread (table.map BitVec.toNat) :=
  ⟨fun property => property.spread some_, fun spread =>
    ⟨spread.interpolates, fun _ => spread.inverts some_⟩⟩

theorem equidistant_three : EquidistantTable [5, 9, 7] :=
  (equidistant_tables [5, 9, 7] (by decide)).mpr (.even (by decide) (by decide) (by decide))

theorem equidistant_overrun : ¬∀ table : List (BitVec 16), table ≠ [] → EquidistantTable table := by
  intro claim
  have property := claim [0, 1, 2, 3, 4, 5, 6] (by decide)
  obtain ⟨v, result, -⟩ := (property.1 65532).value
  have overrun : acameraCalcEquidistantModulationU32 ((65532 : BitVec 16).setWidth 32)
    (widenEntries [0, 1, 2, 3, 4, 5, 6]) = none := by decide
  exact absurd (overrun.symm.trans result) (by simp)

end UnionpiTiger.Isp
