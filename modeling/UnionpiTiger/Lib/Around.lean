import Mathlib.Data.List.Rotate
import Mathlib.Data.List.Range

set_option autoImplicit false

namespace UnionpiTiger.Lib

variable {size start i : Nat} {before after : List Nat}

def around (size start : Nat) :
    List Nat := List.range' start (size - start) ++ List.range' 1 (start - 1)

def behind (size i : Nat) : Nat := if i + 1 < size then i + 1 else 1

theorem around_eq_rotate (positive : 1 ≤ start) (below : start < size) :
    around size start = (List.range' 1 (size - 1)).rotate (start - 1) := by
  have split : List.range' 1 (size - 1) = List.range' 1 (start - 1) ++
      List.range' start (size - start) := by
    have joined := List.range'_append_1 (s := 1) (m := start - 1) (n := size - start)
    rw [show 1 + (start - 1) =
      start by omega, show start - 1 + (size - start) = size - 1 by omega] at joined
    exact joined.symm
  have rotated := List.rotate_append_length_eq (List.range' 1 (start - 1))
    (List.range' start (size - start))
  rw [List.length_range'] at rotated
  rw [split, rotated, around]

theorem around_perm (positive : 1 ≤ start) (below : start < size) :
    (around size start).Perm (List.range' 1 (size - 1)) := by
  rw [around_eq_rotate positive below]
  exact List.rotate_perm _ _

theorem mem_around (positive : 1 ≤ start) (below : start < size) :
    i ∈ around size start ↔ 1 ≤ i ∧ i < size := by
  rw [(around_perm positive below).mem_iff, List.mem_range'_1]
  omega

theorem behind_bounds (below : i < size) (some_ : 1 < size) :
    1 ≤ behind size i ∧ behind size i < size := by
  unfold behind
  split_ifs <;> omega

theorem around_behind (positive : 1 ≤ start) (below : start < size)
    (split : around size start = before ++ i :: after) :
    around size (behind size i) = after ++ (before ++ [i]) := by
  have length : before.length + (after.length + 1) = size - 1 := by
    have lengths := congrArg List.length (split.symm.trans (around_eq_rotate positive below))
    simpa using lengths
  have inside := ((mem_around positive below).mp (show i ∈ around size start by simp [split])).2
  have bounds := behind_bounds inside (by omega)
  -- The place is as far around from 1 as there are places before it and before the start.
  have place : i = 1 + (before.length + (start - 1)) % (size - 1) := by
    have here : ((List.range' 1 (size - 1)).rotate (start - 1))[before.length]? = some i := by
      rw [← around_eq_rotate positive below, split]
      simp
    rw [List.getElem?_rotate (by simp; omega), List.length_range'] at here
    simpa [List.getElem?_range', Nat.mod_lt _ (show 0 < size - 1 by omega)] using here.symm
  have turned : (List.range' 1 (size - 1)).rotate (behind size i - 1) =
      (List.range' 1 (size - 1)).rotate (start - 1 + (before.length + 1)) := by
    have same : (behind size i - 1) % (size - 1) = (start - 1 + (before.length + 1)) % (size - 1) := by
      have next : behind size i - 1 = i % (size - 1) := by
        unfold behind
        split_ifs with more
        · exact (Nat.mod_eq_of_lt (by omega)).symm
        · have last : i = size - 1 := by omega
          simp [last]
      rw [next, Nat.mod_mod, place, Nat.add_mod_mod]
      congr 1
      omega
    rw [← List.rotate_mod _ (behind size i - 1),
      ← List.rotate_mod _ (start - 1 + (before.length + 1)), List.length_range', same]
  rw [around_eq_rotate bounds.1 bounds.2, turned, ← List.rotate_rotate,
    ← around_eq_rotate positive below, split]
  have rotated := List.rotate_append_length_eq (before ++ [i]) after
  simpa using rotated

end UnionpiTiger.Lib
