import UnionpiTiger.Lib.Sorting

set_option autoImplicit false

namespace UnionpiTiger.Dpb

open Lib

variable {α : Type}

def cutoff : Nat := 8

def stksiz : Nat := 8 * 8 - 2

def swap (cells : Nat → α) (a b : Nat) : Nat → α :=
  fun k => if k = a then cells b else if k = b then cells a else cells k

def maxPlace (comp : α → α → Int) (cells : Nat → α) (lo count : Nat) : Nat :=
  (List.range' (lo + 1) count).foldl (fun max p => if comp (cells p) (cells max) > 0 then p else max) lo

def shortsort (comp : α → α → Int) (lo : Nat) : Nat → (Nat → α) → Nat → α
  | 0, cells => cells
  | count + 1, cells =>
    shortsort comp lo count (swap cells (maxPlace comp cells lo (count + 1)) (lo + (count + 1)))

def seekUp (stop : Nat → Bool) : Nat → Nat → Nat
  | 0, i => i
  | fuel + 1, i => if stop i then i else seekUp stop fuel (i + 1)

def seekDown (stop : Nat → Bool) : Nat → Nat → Nat
  | 0, i => i
  | fuel + 1, i => if stop i then i else seekDown stop fuel (i - 1)

structure Guys (α : Type) where
  cells : Nat → α
  mid : Nat
  loguy : Nat
  higuy : Nat

def climb (comp : α → α → Int) (hi : Nat) (s : Guys α) : Nat :=
  let loguy :=
    if s.mid > s.loguy then
      seekUp (fun k => k ≥ s.mid || comp (s.cells k) (s.cells s.mid) > 0)
        (s.mid - (s.loguy + 1)) (s.loguy + 1)
    else s.loguy
  if s.mid ≤ loguy then
    seekUp (fun k => k > hi || comp (s.cells k) (s.cells s.mid) > 0) (hi + 1 - (loguy + 1)) (loguy + 1)
  else loguy

def descend (comp : α → α → Int) (s : Guys α) : Nat :=
  seekDown (fun k => k ≤ s.mid || comp (s.cells k) (s.cells s.mid) ≤ 0)
    (s.higuy - 1 - s.mid) (s.higuy - 1)

def partitionLoop (comp : α → α → Int) (hi : Nat) : Nat → Guys α → Option (Guys α)
  | 0, _ => none
  | fuel + 1, s =>
    let loguy := climb comp hi s
    let higuy := descend comp s
    if higuy < loguy then some { s with loguy, higuy }
    else
      partitionLoop comp hi fuel {
        cells := swap s.cells loguy higuy
        mid := if s.mid = higuy then loguy else s.mid
        loguy, higuy }

-- The elements equal to the partition element that lie next to it are left out.
def skipEqual (comp : α → α → Int) (lo : Nat) (s : Guys α) : Nat :=
  let higuy := s.higuy + 1
  let higuy :=
    if s.mid < higuy then
      seekDown (fun k => k ≤ s.mid || comp (s.cells k) (s.cells s.mid) ≠ 0)
        (higuy - 1 - s.mid) (higuy - 1)
    else higuy
  if s.mid ≥ higuy then
    seekDown (fun k => k ≤ lo || comp (s.cells k) (s.cells s.mid) ≠ 0) (higuy - 1 - lo) (higuy - 1)
  else higuy

def orderPair (comp : α → α → Int) (a b : Nat) (cells : Nat → α) : Nat → α :=
  if comp (cells a) (cells b) > 0 then swap cells a b else cells

def medianOfThree (comp : α → α → Int) (lo mid hi : Nat) (cells : Nat → α) : Nat → α :=
  orderPair comp mid hi (orderPair comp lo hi (orderPair comp lo mid cells))

def save (range : Nat × Nat) (stack : List (Nat × Nat)) : Option (List (Nat × Nat)) :=
  if range.1 < range.2 then
    if stack.length < stksiz then some (range :: stack) else none
  else some stack

def sortNext (range : Nat × Nat) (stack : List (Nat × Nat)) : List (Nat × Nat) :=
  if range.1 < range.2 then range :: stack else stack

def recurse (comp : α → α → Int) (cells : Nat → α) (lo hi : Nat) (stack : List (Nat × Nat)) :
    Option ((Nat → α) × List (Nat × Nat)) :=
  let size := hi - lo + 1
  if size ≤ cutoff then some (shortsort comp lo (hi - lo) cells, stack)
  else do
    let mid := lo + size / 2
    let s ← partitionLoop comp hi size { cells := medianOfThree comp lo mid hi cells, mid, loguy := lo, higuy := hi }
    let higuy := skipEqual comp lo s
    let loguy := s.loguy
    if (higuy : Int) - lo ≥ (hi : Int) - loguy then
      let stack ← save (lo, higuy) stack
      return (s.cells, sortNext (loguy, hi) stack)
    else
      let stack ← save (loguy, hi) stack
      return (s.cells, sortNext (lo, higuy) stack)

def qsortLoop (comp : α → α → Int) : Nat → (Nat → α) → List (Nat × Nat) → Option (Nat → α)
  | _, cells, [] => some cells
  | 0, _, _ :: _ => none
  | fuel + 1, cells, (lo, hi) :: stack => do
    let (cells, pending) ← recurse comp cells lo hi stack
    qsortLoop comp fuel cells pending

def qsort (comp : α → α → Int) (base : Nat → α) (num : Nat) : Option (Nat → α) :=
  if num < 2 then some base else qsortLoop comp (2 * num) base [(0, num - 1)]

theorem swap_eq (cells : Nat → α) (a b : Nat) : swap cells a b = cells ∘ Equiv.swap a b := by
  funext k
  simp only [swap, Function.comp, Equiv.swap_apply_def]
  split_ifs <;> rfl

theorem swap_rearranged (cells : Nat → α) {lo hi a b : Nat} (first : lo ≤ a ∧ a ≤ hi)
    (second : lo ≤ b ∧ b ≤ hi) :
    Rearranged lo hi cells (swap cells a b) := by
  rw [swap_eq]
  exact Rearranged.swap cells first second

section

variable {stop : Nat → Bool} {fuel i : Nat}

theorem seekUp_spec (stops : stop (i + fuel) = true) :
    i ≤ seekUp stop fuel i ∧ seekUp stop fuel i ≤ i + fuel ∧ stop (seekUp stop fuel i) = true ∧
      ∀ k, i ≤ k → k < seekUp stop fuel i → stop k = false := by
  induction fuel generalizing i with
  | zero => exact ⟨Nat.le_refl i, Nat.le_refl i, stops,
      fun k lower upper => absurd upper (Nat.not_lt.mpr lower)⟩
  | succ fuel ih =>
    by_cases here : stop i = true
    · rw [seekUp, if_pos here]
      exact ⟨Nat.le_refl i, by omega, here, fun k lower upper => absurd upper (Nat.not_lt.mpr lower)⟩
    · rw [seekUp, if_neg here]
      obtain ⟨lower, upper, stopped, passed⟩ := @ih (i + 1) (by rwa [Nat.add_assoc, Nat.add_comm 1])
      refine ⟨by omega, by omega, stopped, fun k above below => ?_⟩
      by_cases same : k = i
      · rw [same]
        exact Bool.eq_false_iff.mpr here
      · exact passed k (by omega) below

theorem seekDown_spec (stops : stop (i - fuel) = true) (room : fuel ≤ i) :
    i - fuel ≤ seekDown stop fuel i ∧ seekDown stop fuel i ≤ i ∧ stop (seekDown stop fuel i) = true ∧
      ∀ k, seekDown stop fuel i < k → k ≤ i → stop k = false := by
  induction fuel generalizing i with
  | zero => exact ⟨Nat.le_refl i, Nat.le_refl i, stops,
      fun k lower upper => absurd upper (Nat.not_le.mpr lower)⟩
  | succ fuel ih =>
    by_cases here : stop i = true
    · rw [seekDown, if_pos here]
      exact ⟨by omega, Nat.le_refl i, here, fun k lower upper => absurd upper (Nat.not_le.mpr lower)⟩
    · rw [seekDown, if_neg here]
      obtain ⟨lower, upper, stopped, passed⟩ := @ih (i - 1)
        (by rwa [Nat.sub_sub, Nat.add_comm 1]) (by omega)
      refine ⟨by omega, by omega, stopped, fun k above below => ?_⟩
      by_cases same : k = i
      · rw [same]
        exact Bool.eq_false_iff.mpr here
      · exact passed k above (by omega)

end

variable {order : Comparator α} {lo hi : Nat}

theorem maxPlace_spec (cells : Nat → α) (lo count : Nat) :
    (lo ≤ maxPlace order.comp cells lo count ∧ maxPlace order.comp cells lo count ≤ lo + count) ∧
      ∀ k, lo ≤ k → k ≤ lo + count →
        order.Le (cells k) (cells (maxPlace order.comp cells lo count)) := by
  induction count with
  | zero =>
    refine ⟨⟨Nat.le_refl lo, Nat.le_refl lo⟩, fun k lower upper => ?_⟩
    rw [show k = lo by omega]
    exact order.le_refl _
  | succ count ih =>
    obtain ⟨⟨lower, upper⟩, greatest⟩ := ih
    have next : maxPlace order.comp cells lo (count + 1) =
        if order.comp (cells (lo + 1 + count)) (cells (maxPlace order.comp cells lo count)) > 0
          then lo + 1 + count
        else maxPlace order.comp cells lo count := by
      rw [maxPlace, List.range'_concat, List.foldl_append, Nat.one_mul]
      rfl
    rw [next]
    split_ifs with greater
    · refine ⟨⟨by omega, by omega⟩, fun k above below => ?_⟩
      by_cases last : k = lo + 1 + count
      · rw [last]
        exact order.le_refl _
      · exact order.le_trans (greatest k above (by omega)) (order.le_of_gt greater)
    · refine ⟨⟨lower, by omega⟩, fun k above below => ?_⟩
      by_cases last : k = lo + 1 + count
      · rw [last]
        exact Int.not_lt.mp greater
      · exact greatest k above (by omega)

theorem shortsort_spec (count : Nat) (cells : Nat → α) :
    Rearranged lo (lo + count) cells (shortsort order.comp lo count cells) ∧
      ∀ i j, lo ≤ i → i < j → j ≤ lo + count →
        order.Le (shortsort order.comp lo count cells i) (shortsort order.comp lo count cells j) := by
  induction count generalizing cells with
  | zero => exact ⟨Rearranged.refl _ _ _, fun i j lower less upper => by omega⟩
  | succ count ih =>
    obtain ⟨within, greatest⟩ := @maxPlace_spec α order cells lo (count + 1)
    rw [shortsort]
    generalize maxPlace order.comp cells lo (count + 1) = max at within greatest
    have moved : Rearranged lo (lo + (count + 1)) cells (swap cells max (lo + (count + 1))) :=
      swap_rearranged cells within ⟨by omega, by omega⟩
    have top : swap cells max (lo + (count + 1)) (lo + (count + 1)) = cells max := by
      simp only [swap]
      split_ifs with same
      · rw [same]
      · rfl
    obtain ⟨rest, sorted⟩ := ih (swap cells max (lo + (count + 1)))
    refine ⟨moved.trans (rest.widen (Nat.le_refl lo) (by omega)), fun i j lower less upper => ?_⟩
    by_cases last : j = lo + (count + 1)
    · rw [last, rest.outside (k := lo + (count + 1)) (by omega), top]
      exact rest.all (order.Le · (cells max))
        (fun k above under => moved.all (order.Le · (cells max)) greatest above (by omega))
          lower (by omega)
    · exact sorted i j lower less (by omega)

section

variable (order lo hi)

structure Zones (s : Guys α) : Prop where
  lower : lo ≤ s.loguy
  apart : s.loguy < s.higuy
  upper : s.higuy ≤ hi
  midLow : lo < s.mid
  midHigh : s.mid < s.higuy
  small : ∀ i, lo ≤ i → i ≤ s.loguy → order.Le (s.cells i) (s.cells s.mid)
  great : ∀ i, s.higuy ≤ i → i < hi → 0 < order.comp (s.cells i) (s.cells s.mid)
  last : order.Le (s.cells s.mid) (s.cells hi)

structure Parted (s : Guys α) : Prop where
  midLow : lo < s.mid
  midHigh : s.mid ≤ s.higuy
  passed : s.higuy < s.loguy
  lower : lo < s.loguy
  upper : s.loguy ≤ hi + 1
  inside : s.higuy < hi
  small : ∀ i, lo ≤ i → i < s.loguy → order.Le (s.cells i) (s.cells s.mid)
  great : ∀ i, s.higuy < i → i < hi → 0 < order.comp (s.cells i) (s.cells s.mid)
  last : order.Le (s.cells s.mid) (s.cells hi)

end

variable {s : Guys α}

theorem Zones.climbed (zones : Zones order lo hi s) :
    s.loguy < climb order.comp hi s ∧ climb order.comp hi s ≤ hi + 1 ∧
      (∀ i, lo ≤ i → i < climb order.comp hi s → order.Le (s.cells i) (s.cells s.mid)) ∧
      (climb order.comp hi s ≤ hi →
        0 < order.comp (s.cells (climb order.comp hi s)) (s.cells s.mid)) := by
  have midUp := zones.midHigh
  have highUp := zones.upper
  -- From a place past the middle on, up to behind the last element.
  have second : ∀ l, s.mid ≤ l → l ≤ hi → (∀ i, lo ≤ i → i ≤ l → order.Le (s.cells i) (s.cells s.mid)) →
      ∃ r, seekUp (fun k => k > hi || order.comp (s.cells k) (s.cells s.mid) > 0)
        (hi + 1 - (l + 1)) (l + 1) = r ∧
        l < r ∧ r ≤ hi + 1 ∧ (∀ i, lo ≤ i → i < r → order.Le (s.cells i) (s.cells s.mid)) ∧
        (r ≤ hi → 0 < order.comp (s.cells r) (s.cells s.mid)) := by
    intro l past within small
    obtain ⟨least, most, stopped, goneBy⟩ := @seekUp_spec
      (fun k => k > hi || order.comp (s.cells k) (s.cells s.mid) > 0) (hi + 1 - (l + 1)) (l + 1)
      (by simp only [Bool.or_eq_true, decide_eq_true_eq]; omega)
    refine ⟨_, rfl, by omega, by omega, fun i above below => ?_, fun inside => ?_⟩
    · by_cases early : i ≤ l
      · exact small i above early
      · have goes := goneBy i (by omega) below
        simp only [Bool.or_eq_false_iff, decide_eq_false_iff_not] at goes
        exact Int.not_lt.mp goes.2
    · simp only [Bool.or_eq_true, decide_eq_true_eq] at stopped
      exact stopped.resolve_left (by omega)
  unfold climb
  by_cases before : s.mid > s.loguy
  · rw [if_pos before]
    obtain ⟨least, most, stopped, goneBy⟩ := @seekUp_spec
      (fun k => k ≥ s.mid || order.comp (s.cells k) (s.cells s.mid) > 0)
        (s.mid - (s.loguy + 1)) (s.loguy + 1)
      (by simp only [Bool.or_eq_true, decide_eq_true_eq]; omega)
    generalize seekUp (fun k => k ≥ s.mid || order.comp (s.cells k) (s.cells s.mid) > 0)
      (s.mid - (s.loguy + 1)) (s.loguy + 1) = l at least most stopped goneBy
    have small : ∀ i, lo ≤ i → i < l → order.Le (s.cells i) (s.cells s.mid) := by
      intro i above below
      by_cases early : i ≤ s.loguy
      · exact zones.small i above early
      · have goes := goneBy i (by omega) below
        simp only [Bool.or_eq_false_iff, decide_eq_false_iff_not] at goes
        exact Int.not_lt.mp goes.2
    dsimp only
    by_cases met : s.mid ≤ l
    · rw [if_pos met]
      have here : l = s.mid := by omega
      obtain ⟨r, is, less, within, all, greater⟩ := second l met (by omega) fun i above below => by
        by_cases same : i = l
        · rw [same, here]
          exact order.le_refl _
        · exact small i above (by omega)
      rw [is]
      exact ⟨by omega, within, all, greater⟩
    · rw [if_neg met]
      simp only [Bool.or_eq_true, decide_eq_true_eq] at stopped
      exact ⟨by omega, by omega, small, fun _ => stopped.resolve_left met⟩
  · rw [if_neg before]
    dsimp only
    have apart := zones.apart
    obtain ⟨r, is, less, within, all, greater⟩ := second s.loguy (by omega) (by omega) zones.small
    rw [if_pos (by omega), is]
    exact ⟨less, within, all, greater⟩

theorem Zones.descended (zones : Zones order lo hi s) :
    s.mid ≤ descend order.comp s ∧ descend order.comp s < s.higuy ∧
      order.Le (s.cells (descend order.comp s)) (s.cells s.mid) ∧
      ∀ i, descend order.comp s < i → i < hi → 0 < order.comp (s.cells i) (s.cells s.mid) := by
  have midUp := zones.midHigh
  obtain ⟨least, most, stopped, goneBy⟩ := @seekDown_spec
    (fun k => k ≤ s.mid || order.comp (s.cells k) (s.cells s.mid) ≤ 0)
      (s.higuy - 1 - s.mid) (s.higuy - 1)
    (by simp only [Bool.or_eq_true, decide_eq_true_eq]; omega) (by omega)
  unfold descend
  generalize seekDown (fun k => k ≤ s.mid || order.comp (s.cells k) (s.cells s.mid) ≤ 0)
    (s.higuy - 1 - s.mid) (s.higuy - 1) = r at least most stopped goneBy
  refine ⟨by omega, by omega, ?_, fun i above below => ?_⟩
  · simp only [Bool.or_eq_true, decide_eq_true_eq] at stopped
    rcases stopped with met | small
    · rw [show r = s.mid by omega]
      exact order.le_refl _
    · exact small
  · by_cases later : s.higuy ≤ i
    · exact zones.great i later below
    · have goes := goneBy i above (by omega)
      simp only [Bool.or_eq_false_iff, decide_eq_false_iff_not] at goes
      exact Int.not_le.mp goes.2

theorem swap_of_ne (cells : Nat → α) {a b k : Nat} (first : k ≠ a) (second : k ≠ b) :
    swap cells a b k = cells k := by
  rw [swap, if_neg first, if_neg second]

theorem swap_left (cells : Nat → α) (a b : Nat) : swap cells a b a = cells b := if_pos rfl

theorem swap_right (cells : Nat → α) (a b : Nat) : swap cells a b b = cells a := by
  simp only [swap]
  split_ifs with same
  · rw [same]
  · rfl

theorem Zones.turn (zones : Zones order lo hi s)
    (within : climb order.comp hi s ≤ descend order.comp s) :
    Zones order lo hi {
      cells := swap s.cells (climb order.comp hi s) (descend order.comp s)
      mid := if s.mid = descend order.comp s then climb order.comp hi s else s.mid
      loguy := climb order.comp hi s
      higuy := descend order.comp s } := by
  obtain ⟨up, -, small, greater⟩ := zones.climbed
  obtain ⟨least, down, less, great⟩ := zones.descended
  have lower := zones.lower
  have upper := zones.upper
  have midLow := zones.midLow
  generalize climb order.comp hi s = l at within up small greater
  generalize descend order.comp s = h at within least down less great
  have above := greater (by omega)
  have same : order.comp (s.cells s.mid) (s.cells s.mid) ≤ 0 := order.le_refl _
  have apart : l ≠ h := fun met => by
    rw [met] at above
    exact absurd less (Int.not_le.mpr above)
  have other : l ≠ s.mid := fun met => by
    rw [met] at above
    exact absurd same (Int.not_le.mpr above)
  have pivot : swap s.cells l h (if s.mid = h then l else s.mid) = s.cells s.mid := by
    split_ifs with met
    · rw [swap_left, met]
    · exact swap_of_ne _ (Ne.symm other) met
  constructor
  · exact (by omega : lo ≤ l)
  · exact (by omega : l < h)
  · exact (by omega : h ≤ hi)
  · dsimp only
    split_ifs <;> omega
  · dsimp only
    split_ifs <;> omega
  · intro i from_ below
    dsimp only at below ⊢
    rw [pivot]
    by_cases here : i = l
    · rw [here, swap_left]
      exact less
    · rw [swap_of_ne _ here (by omega)]
      exact small i from_ (by omega)
  · intro i from_ below
    dsimp only at from_ ⊢
    rw [pivot]
    by_cases here : i = h
    · rw [here, swap_right]
      exact above
    · rw [swap_of_ne _ (by omega) here]
      exact great i (by omega) below
  · dsimp only
    rw [pivot, swap_of_ne _ (by omega) (by omega)]
    exact zones.last

theorem Zones.parted (zones : Zones order lo hi s)
    (passed : descend order.comp s < climb order.comp hi s) :
    Parted order lo hi { s with loguy := climb order.comp hi s, higuy := descend order.comp s } := by
  obtain ⟨up, most, small, -⟩ := zones.climbed
  obtain ⟨least, down, -, great⟩ := zones.descended
  have lower := zones.lower
  have upper := zones.upper
  exact ⟨zones.midLow, least, passed, Nat.lt_of_le_of_lt lower up, most,
    Nat.lt_of_lt_of_le down upper, small, great,
    zones.last⟩

theorem partitionLoop_spec (fuel : Nat) (zones : Zones order lo hi s) (enough : s.higuy - lo ≤ fuel) :
    ∃ t, partitionLoop order.comp hi fuel s = some t ∧ Parted order lo hi t ∧
      Rearranged lo hi s.cells t.cells := by
  induction fuel generalizing s with
  | zero =>
    have midLow := zones.midLow
    have midHigh := zones.midHigh
    omega
  | succ fuel ih =>
    rw [partitionLoop]
    by_cases passed : descend order.comp s < climb order.comp hi s
    · rw [if_pos passed]
      exact ⟨_, rfl, zones.parted passed, Rearranged.refl _ _ _⟩
    · rw [if_neg passed]
      obtain ⟨up, -⟩ := zones.climbed
      obtain ⟨least, down, -⟩ := zones.descended
      have lower := zones.lower
      have upper := zones.upper
      obtain ⟨t, done, parted, rest⟩ := ih (zones.turn (Nat.not_lt.mp passed)) (by dsimp only; omega)
      exact ⟨t, done, parted, (swap_rearranged s.cells (by omega) (by omega)).trans rest⟩

theorem Parted.skipped (parted : Parted order lo hi s) :
    lo ≤ skipEqual order.comp lo s ∧ skipEqual order.comp lo s ≤ s.higuy ∧
      ∀ i, skipEqual order.comp lo s < i → i < s.loguy →
        order.comp (s.cells i) (s.cells s.mid) = 0 := by
  have midLow := parted.midLow
  have midHigh := parted.midHigh
  have self : order.comp (s.cells s.mid) (s.cells s.mid) = 0 :=
    order.eq_of_le (order.le_refl _) (order.le_refl _)
  have middle : ∀ i, s.higuy < i → i < s.loguy → order.comp (s.cells i) (s.cells s.mid) = 0 := by
    intro i above below
    have upper := parted.upper
    have small := parted.small i (by omega) below
    by_cases inside : i < hi
    · exact absurd small (Int.not_le.mpr (parted.great i above inside))
    · rw [show i = hi by omega] at small ⊢
      exact order.eq_of_le small parted.last
  unfold skipEqual
  dsimp only
  rw [if_pos (by omega : s.mid < s.higuy + 1)]
  obtain ⟨least, most, stopped, goneBy⟩ := @seekDown_spec
    (fun k => k ≤ s.mid || order.comp (s.cells k) (s.cells s.mid) ≠ 0) (s.higuy + 1 - 1 - s.mid)
      (s.higuy + 1 - 1)
    (by simp only [Bool.or_eq_true, decide_eq_true_eq]; omega) (by omega)
  generalize seekDown (fun k => k ≤ s.mid || order.comp (s.cells k) (s.cells s.mid) ≠ 0)
    (s.higuy + 1 - 1 - s.mid) (s.higuy + 1 - 1) = r at least most stopped goneBy
  have equal : ∀ i, r < i → i < s.loguy → order.comp (s.cells i) (s.cells s.mid) = 0 := by
    intro i above below
    by_cases early : i ≤ s.higuy
    · have goes := goneBy i above (by omega)
      simp only [Bool.or_eq_false_iff, decide_eq_false_iff_not, not_not] at goes
      exact goes.2
    · exact middle i (by omega) below
  by_cases met : s.mid ≥ r
  · rw [if_pos met]
    have here : r = s.mid := by omega
    obtain ⟨floor, under, -, passed⟩ := @seekDown_spec
      (fun k => k ≤ lo || order.comp (s.cells k) (s.cells s.mid) ≠ 0) (r - 1 - lo) (r - 1)
      (by simp only [Bool.or_eq_true, decide_eq_true_eq]; omega) (by omega)
    generalize seekDown (fun k => k ≤ lo || order.comp (s.cells k) (s.cells s.mid) ≠ 0)
      (r - 1 - lo) (r - 1) = q
      at floor under passed
    refine ⟨by omega, by omega, fun i above below => ?_⟩
    rcases Nat.lt_trichotomy i r with low | at_ | high
    · have goes := passed i above (by omega)
      simp only [Bool.or_eq_false_iff, decide_eq_false_iff_not, not_not] at goes
      exact goes.2
    · rw [at_, here]
      exact self
    · exact equal i high below
  · rw [if_neg met]
    exact ⟨by omega, by omega, equal⟩

theorem orderPair_spec (cells : Nat → α) {a b : Nat} (first : lo ≤ a ∧ a ≤ hi)
    (second : lo ≤ b ∧ b ≤ hi) :
    Rearranged lo hi cells (orderPair order.comp a b cells) ∧
      order.Le (orderPair order.comp a b cells a) (orderPair order.comp a b cells b) := by
  unfold orderPair
  split_ifs with greater
  · refine ⟨swap_rearranged cells first second, ?_⟩
    rw [swap_left, swap_right]
    exact order.le_of_gt greater
  · exact ⟨Rearranged.refl _ _ _, Int.not_lt.mp greater⟩

theorem orderPair_of_ne (cells : Nat → α) {a b k : Nat} (first : k ≠ a) (second : k ≠ b) :
    orderPair order.comp a b cells k = cells k := by
  unfold orderPair
  split_ifs
  · exact swap_of_ne cells first second
  · rfl

theorem medianOfThree_zones (cells : Nat → α) {mid : Nat} (low : lo < mid) (high : mid < hi) :
    Rearranged lo hi cells (medianOfThree order.comp lo mid hi cells) ∧
      Zones order lo hi { cells := medianOfThree order.comp lo mid hi cells, mid, loguy := lo, higuy := hi } := by
  unfold medianOfThree
  obtain ⟨moved1, le1⟩ := @orderPair_spec α order lo hi cells lo mid (by omega) (by omega)
  have kept := @orderPair_of_ne α order (orderPair order.comp lo mid cells) lo hi mid
    (by omega) (by omega)
  generalize orderPair order.comp lo mid cells = first at moved1 le1 kept
  obtain ⟨moved2, le2⟩ := @orderPair_spec α order lo hi first lo hi (by omega) (by omega)
  have least : order.Le (orderPair order.comp lo hi first lo) (first lo) := by
    unfold orderPair
    split_ifs with greater
    · rw [swap_left]
      exact order.le_of_gt greater
    · exact order.le_refl _
  generalize orderPair order.comp lo hi first = second at moved2 le2 kept least
  obtain ⟨moved3, le3⟩ := @orderPair_spec α order lo hi second mid hi (by omega) (by omega)
  have under : order.Le (second lo) (orderPair order.comp mid hi second mid) := by
    unfold orderPair
    split_ifs
    · rw [swap_left]
      exact le2
    · rw [kept]
      exact order.le_trans least le1
  have start := @orderPair_of_ne α order second mid hi lo (by omega) (by omega)
  refine ⟨moved1.trans (moved2.trans moved3),
    ⟨Nat.le_refl lo, by dsimp only; omega, Nat.le_refl hi, low, high,
    fun i above below => ?_, fun i above below => absurd above (Nat.not_le.mpr below), le3⟩⟩
  dsimp only at below ⊢
  rw [show i = lo by omega, start]
  exact under

end UnionpiTiger.Dpb
