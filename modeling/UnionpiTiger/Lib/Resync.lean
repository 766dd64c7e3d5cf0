import Mathlib.Data.List.Basic

set_option autoImplicit false

namespace UnionpiTiger.Lib

variable {B : Type}

-- A reader of blocks of a fixed size that begin with a marked element. Elements it does not find at
-- the start of a block are skipped, and less than a block is left unread.
def blocks (size : Nat) (starts : B → Bool) : Nat → List B → List (List B) × List B
  | 0, buffer => ([], buffer)
  | _ + 1, [] => ([], [])
  | fuel + 1, b :: rest =>
    if (b :: rest).length < size then ([], b :: rest)
    else if starts b then
      let later := blocks size starts fuel ((b :: rest).drop size)
      ((b :: rest).take size :: later.1, later.2)
    else blocks size starts fuel rest

section

variable {size : Nat} {starts : B → Bool}

theorem blocks_short (fuel : Nat) {buffer : List B} (short : buffer.length < size) :
    blocks size starts fuel buffer = ([], buffer) := by
  cases fuel with
  | zero => rfl
  | succ fuel =>
    cases buffer with
    | nil => rfl
    | cons b rest => rw [blocks, if_pos short]

theorem blocks_start (fuel : Nat) {b : B} {rest : List B} (full : size ≤ (b :: rest).length)
    (marked : starts b = true) :
    blocks size starts (fuel + 1) (b :: rest) =
      ((b :: rest).take size :: (blocks size starts fuel ((b :: rest).drop size)).1,
        (blocks size starts fuel ((b :: rest).drop size)).2) := by
  rw [blocks, if_neg (Nat.not_lt.mpr full), if_pos marked]

theorem blocks_skip (fuel : Nat) {b : B} {rest : List B} (full : size ≤ (b :: rest).length)
    (unmarked : starts b = false) :
    blocks size starts (fuel + 1) (b :: rest) = blocks size starts fuel rest := by
  rw [blocks, if_neg (Nat.not_lt.mpr full), if_neg (Bool.eq_false_iff.mp unmarked)]

theorem blocks_fuel (positive : 0 < size) {fuel other : Nat} {buffer : List B}
    (enough : buffer.length ≤ fuel) (more : buffer.length ≤ other) :
    blocks size starts fuel buffer = blocks size starts other buffer := by
  induction fuel generalizing other buffer with
  | zero =>
    have empty := List.eq_nil_of_length_eq_zero (Nat.le_zero.mp enough)
    rw [empty, blocks_short 0 (by simpa using positive), blocks_short other (by simpa using positive)]
  | succ fuel ih =>
    cases buffer with
    | nil => rw [blocks_short _ (by simpa using positive), blocks_short _ (by simpa using positive)]
    | cons b rest =>
      rw [List.length_cons] at enough more
      obtain ⟨other, rfl⟩ : ∃ less, other = less + 1 := ⟨other - 1, by omega⟩
      by_cases short : (b :: rest).length < size
      · rw [blocks_short _ short, blocks_short _ short]
      · have full := Nat.not_lt.mp short
        have dropped : ((b :: rest).drop size).length ≤ rest.length := by
          rw [List.length_drop, List.length_cons]
          omega
        cases marked : starts b with
        | true =>
          rw [blocks_start fuel full marked, blocks_start other full marked,
            @ih other _ (by omega) (by omega)]
        | false =>
          rw [blocks_skip fuel full marked, blocks_skip other full marked,
            @ih other _ (by omega) (by omega)]

theorem blocks_rest_short (positive : 0 < size) {fuel : Nat} {buffer : List B}
    (enough : buffer.length ≤ fuel) : (blocks size starts fuel buffer).2.length < size := by
  induction fuel generalizing buffer with
  | zero =>
    rw [blocks, List.eq_nil_of_length_eq_zero (Nat.le_zero.mp enough)]
    exact positive
  | succ fuel ih =>
    cases buffer with
    | nil => exact positive
    | cons b rest =>
      rw [List.length_cons] at enough
      by_cases short : (b :: rest).length < size
      · rw [blocks_short _ short]
        exact short
      · have full := Nat.not_lt.mp short
        cases marked : starts b with
        | true =>
          rw [blocks_start fuel full marked]
          refine ih ?_
          rw [List.length_drop, List.length_cons]
          omega
        | false =>
          rw [blocks_skip fuel full marked]
          exact ih (by omega)

theorem blocks_rest_suffix (fuel : Nat) (buffer : List B) :
    (blocks size starts fuel buffer).2 <:+ buffer := by
  induction fuel generalizing buffer with
  | zero => exact List.suffix_rfl
  | succ fuel ih =>
    cases buffer with
    | nil => exact List.suffix_rfl
    | cons b rest =>
      by_cases short : (b :: rest).length < size
      · exact ⟨[], congrArg Prod.snd (blocks_short _ short)⟩
      · have full := Nat.not_lt.mp short
        cases marked : starts b with
        | true =>
          rw [blocks_start fuel full marked]
          exact (ih _).trans (List.drop_suffix _ _)
        | false =>
          rw [blocks_skip fuel full marked]
          exact (ih rest).trans (List.suffix_cons b rest)

end

def scan (size : Nat) (starts : B → Bool) (buffer : List B) : List (List B) × List B :=
  blocks size starts buffer.length buffer

def scanChunks (size : Nat) (starts : B → Bool) : List B → List (List B) → List (List B) × List B
  | pending, [] => ([], pending)
  | pending, chunk :: chunks =>
    let found := scan size starts (pending ++ chunk)
    let later := scanChunks size starts found.2 chunks
    (found.1 ++ later.1, later.2)

variable {size : Nat} {starts : B → Bool}

theorem drop_consumed (buffer : List B) :
    buffer.drop (buffer.length - (scan size starts buffer).2.length) = (scan size starts buffer).2 := by
  obtain ⟨read, split⟩ : (scan size starts buffer).2 <:+ buffer :=
    blocks_rest_suffix buffer.length buffer
  have length : buffer.length - (scan size starts buffer).2.length = read.length := by
    have total := congrArg List.length split
    rw [List.length_append] at total
    omega
  rw [length]
  conv_lhs => rw [← split]
  exact List.drop_left

theorem scan_append (positive : 0 < size) (first second : List B) :
    scan size starts (first ++ second) =
      ((scan size starts first).1 ++ (scan size starts ((scan size starts first).2 ++ second)).1,
        (scan size starts ((scan size starts first).2 ++ second)).2) := by
  generalize length : first.length = n
  induction n using Nat.strongRecOn generalizing first with
  | _ n ih =>
    cases first with
    | nil => rfl
    | cons b rest =>
      by_cases short : (b :: rest).length < size
      · have alone : scan size starts (b :: rest) = ([], b :: rest) := blocks_short _ short
        rw [alone]
        rfl
      · have full := Nat.not_lt.mp short
        have longer : size ≤ (b :: (rest ++ second)).length := by
          rw [List.length_cons, List.length_append]
          rw [List.length_cons] at full
          omega
        have smaller : ((b :: rest).drop size).length < n := by
          rw [List.length_drop, length]
          rw [length] at full
          omega
        have refuel : ∀ buffer : List B, buffer.length ≤ (rest ++ second).length →
            blocks size starts (rest ++ second).length buffer = scan size starts buffer :=
          fun buffer enough => blocks_fuel positive enough (Nat.le_refl _)
        have refuelRest : ∀ buffer : List B, buffer.length ≤ rest.length →
            blocks size starts rest.length buffer = scan size starts buffer :=
          fun buffer enough => blocks_fuel positive enough (Nat.le_refl _)
        rw [List.cons_append]
        cases marked : starts b with
        | true =>
          have whole : scan size starts (b :: (rest ++ second)) =
              ((b :: rest).take size :: (scan size starts ((b :: rest).drop size ++ second)).1,
                (scan size starts ((b :: rest).drop size ++ second)).2) := by
            rw [scan, List.length_cons, blocks_start _ longer marked, ← List.cons_append,
              List.take_append_of_le_length full, List.drop_append_of_le_length full, refuel]
            rw [List.length_append, List.length_append, List.length_drop, List.length_cons]
            omega
          have alone : scan size starts (b :: rest) =
              ((b :: rest).take size :: (scan size starts ((b :: rest).drop size)).1,
                (scan size starts ((b :: rest).drop size)).2) := by
            rw [scan, List.length_cons, blocks_start _ full marked, refuelRest]
            rw [List.length_drop, List.length_cons]
            omega
          rw [whole, alone, ih _ smaller _ rfl]
          rfl
        | false =>
          have whole : scan size starts (b :: (rest ++ second)) =
              scan size starts (rest ++ second) := by
            rw [scan, List.length_cons, blocks_skip _ longer marked]
            rfl
          have alone : scan size starts (b :: rest) = scan size starts rest := by
            rw [scan, List.length_cons, blocks_skip _ full marked]
            rfl
          rw [whole, alone, ih rest.length (by rw [← length]; exact Nat.lt_succ_self _) rest rfl]

theorem scanChunks_eq_scan (positive : 0 < size) (pending : List B)
    (short : pending.length < size) (chunks : List (List B)) :
    scanChunks size starts pending chunks = scan size starts (pending ++ chunks.flatten) := by
  induction chunks generalizing pending with
  | nil =>
    rw [scanChunks, List.flatten_nil, List.append_nil]
    exact (blocks_short _ short).symm
  | cons chunk chunks ih =>
    have left : (scan size starts (pending ++ chunk)).2.length < size :=
      blocks_rest_short positive (Nat.le_refl _)
    rw [List.flatten_cons, ← List.append_assoc, scan_append positive, ← ih _ left]
    rfl

theorem scan_flatten (positive : 0 < size) (found : List (List B)) (rest : List B)
    (short : rest.length < size)
    (framed : ∀ block ∈ found, block.length = size ∧ ∃ b ∈ block.head?, starts b = true) :
    scan size starts (found.flatten ++ rest) = (found, rest) := by
  induction found with
  | nil => exact blocks_short _ short
  | cons block found ih =>
    obtain ⟨length, b, first, marked⟩ := framed block List.mem_cons_self
    have later := ih fun other mem => framed other (List.mem_cons_of_mem block mem)
    cases block with
    | nil => cases first
    | cons head tail =>
      cases first
      have full : size ≤ (b :: (tail ++ (found.flatten ++ rest))).length := by
        rw [← length, List.length_cons, List.length_cons, List.length_append]
        omega
      have dropped : (b :: tail ++ (found.flatten ++ rest)).drop size = found.flatten ++ rest := by
        rw [← length, List.drop_left]
      have taken : (b :: tail ++ (found.flatten ++ rest)).take size = b :: tail := by
        rw [← length, List.take_left]
      rw [List.cons_append] at dropped taken
      rw [List.flatten_cons, List.append_assoc, List.cons_append, scan, List.length_cons,
        blocks_start _ full marked, dropped, taken,
        blocks_fuel positive _ (Nat.le_refl (found.flatten ++ rest).length)]
      · rw [scan] at later
        rw [later]
      · simp only [List.length_append]
        omega

end UnionpiTiger.Lib
