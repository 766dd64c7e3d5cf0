import Mathlib.Data.Nat.ModEq
import Mathlib.Logic.Function.Basic

set_option autoImplicit false

namespace UnionpiTiger.Lib

variable {size : Nat}

theorem mod_of_lt_twice {n : Nat} (below : n < 2 * size) :
    n % size = if size ≤ n then n - size else n := by
  split_ifs with wraps
  · rw [Nat.mod_eq_sub_mod wraps, Nat.mod_eq_of_lt (by omega)]
  · exact Nat.mod_eq_of_lt (by omega)

theorem add_mod_of_lt (n step : Nat) (positive : 0 < size) (below : step < size) :
    (n + step) % size = if size ≤ n % size + step then n % size + step - size else n % size + step := by
  have inside := Nat.mod_lt n positive
  rw [← Nat.mod_add_mod]
  exact mod_of_lt_twice (by omega)

theorem mod_ne_of_lt {m n : Nat} (before : m < n) (near : n < m + size) : m % size ≠ n % size := by
  intro same
  have step : (m + 0) % size = (m + (n - m)) % size := by
    rw [Nat.add_zero, Nat.add_sub_of_le (Nat.le_of_lt before)]
    exact same
  have zero : 0 ≡ n - m [MOD size] := Nat.ModEq.add_left_cancel' m step
  have none_ := Nat.ModEq.eq_of_lt_of_lt zero (by omega) (by omega)
  omega

end UnionpiTiger.Lib

namespace UnionpiTiger.Lib

variable {α : Type}

def items (pool : Nat → α) (size first n : Nat) : List α :=
  (List.range n).map fun k => pool ((first + k) % size)

variable {pool : Nat → α} {size first n : Nat}

@[simp] theorem items_length : (items pool size first n).length = n := by
  simp [items]

theorem items_succ :
    items pool size first (n + 1) = items pool size first n ++ [pool ((first + n) % size)] := by
  unfold items
  rw [List.range_succ, List.map_append]
  rfl

theorem items_cons (inside : first < size) :
    items pool size first (n + 1) = pool first :: items pool size ((first + 1) % size) n := by
  unfold items
  rw [List.range_succ_eq_map, List.map_cons, List.map_map, Nat.add_zero, Nat.mod_eq_of_lt inside]
  refine congrArg (pool first :: ·) (List.map_congr_left fun k _ => ?_)
  rw [Nat.mod_add_mod, Function.comp_apply, Nat.succ_eq_add_one, Nat.add_assoc, Nat.add_comm 1]

theorem items_update (room : n < size) (a : α) :
    items (Function.update pool ((first + n) % size) a) size first n = items pool size first n := by
  refine List.map_congr_left fun k below => ?_
  have apart : (first + k) % size ≠ (first + n) % size :=
    mod_ne_of_lt (Nat.add_lt_add_left (List.mem_range.mp below) first) (by omega)
  exact Function.update_of_ne apart _ _

structure Ring (α : Type) where
  size : Nat
  pool : Nat → α
  rp : Nat
  wp : Nat

namespace Ring

variable {r : Ring α}

def level (r : Ring α) : Nat := if r.rp ≤ r.wp then r.wp - r.rp else r.wp + r.size - r.rp

def content (r : Ring α) : List α := items r.pool r.size r.rp r.level

def next (r : Ring α) (place : Nat) : Nat := (place + 1) % r.size

def push (r : Ring α) (a : α) :
    Ring α := { r with pool := Function.update r.pool r.wp a, wp := r.next r.wp }

def drop (r : Ring α) : Ring α := { r with rp := r.next r.rp }

structure Ok (r : Ring α) : Prop where
  rp : r.rp < r.size
  wp : r.wp < r.size

theorem Ok.level_lt (ok : r.Ok) : r.level < r.size := by
  have rp := ok.rp
  have wp := ok.wp
  unfold level
  split <;> omega

theorem Ok.wp_eq (ok : r.Ok) : r.wp = (r.rp + r.level) % r.size := by
  have rp := ok.rp
  have wp := ok.wp
  unfold level
  split
  next le => rw [Nat.add_sub_of_le le, Nat.mod_eq_of_lt wp]
  next => rw [show r.rp + (r.wp + r.size - r.rp) =
    r.wp + r.size by omega, Nat.add_mod_right, Nat.mod_eq_of_lt wp]

theorem Ok.level_of (ok : r.Ok) {n : Nat} (room : n < r.size) (place : r.wp = (r.rp + n) % r.size) :
    r.level = n := by
  have rp := ok.rp
  have same := ok.wp_eq.symm.trans place
  have lt := ok.level_lt
  by_contra other
  rcases Nat.lt_or_gt_of_ne other with less | more
  · exact mod_ne_of_lt (Nat.add_lt_add_left less r.rp) (by omega) same
  · exact mod_ne_of_lt (Nat.add_lt_add_left more r.rp) (by omega) same.symm

theorem Ok.empty_iff (ok : r.Ok) : r.wp = r.rp ↔ r.level = 0 := by
  constructor
  · intro same
    exact ok.level_of (Nat.zero_lt_of_lt ok.rp) (by rw [same, Nat.add_zero, Nat.mod_eq_of_lt ok.rp])
  · intro none
    rw [ok.wp_eq, none, Nat.add_zero, Nat.mod_eq_of_lt ok.rp]

theorem Ok.full_iff (ok : r.Ok) : r.next r.wp = r.rp ↔ r.level + 1 = r.size := by
  have lt := ok.level_lt
  have place : r.next r.wp = (r.rp + (r.level + 1)) % r.size := by
    unfold next
    rw [ok.wp_eq, Nat.mod_add_mod, Nat.add_assoc]
  rw [place]
  constructor
  · intro same
    by_contra other
    have apart : r.rp % r.size ≠ (r.rp + (r.level + 1)) % r.size := mod_ne_of_lt (by omega) (by omega)
    exact apart ((Nat.mod_eq_of_lt ok.rp).trans same.symm)
  · intro full
    rw [full, Nat.add_mod_right, Nat.mod_eq_of_lt ok.rp]

theorem Ok.push (ok : r.Ok) (a : α) : (r.push a).Ok := ⟨ok.rp, Nat.mod_lt _ (Nat.zero_lt_of_lt ok.rp)⟩

theorem Ok.drop (ok : r.Ok) : r.drop.Ok := ⟨Nat.mod_lt _ (Nat.zero_lt_of_lt ok.rp), ok.wp⟩

theorem Ok.push_level (ok : r.Ok) (a : α) (room : r.level + 1 < r.size) :
    (r.push a).level = r.level + 1 :=
  (ok.push a).level_of room (by
    change (r.wp + 1) % r.size = _
    rw [ok.wp_eq, Nat.mod_add_mod, Nat.add_assoc]
    rfl)

theorem Ok.content_push (ok : r.Ok) (a : α) (room : r.level + 1 < r.size) :
    (r.push a).content = r.content ++ [a] := by
  unfold content
  rw [ok.push_level a room, items_succ]
  change items (Function.update r.pool r.wp a) r.size r.rp r.level ++
    [Function.update r.pool r.wp a ((r.rp + r.level) % r.size)] = _
  rw [ok.wp_eq, items_update ok.level_lt, Function.update_self]

theorem Ok.drop_level (ok : r.Ok) (some : r.level ≠ 0) : r.drop.level + 1 = r.level := by
  have lt := ok.level_lt
  have less : r.drop.level = r.level - 1 :=
    ok.drop.level_of (n := r.level - 1) (by change _ < r.size; omega) (by
    change r.wp = ((r.rp + 1) % r.size + (r.level - 1)) % r.size
    rw [Nat.mod_add_mod, Nat.add_assoc, Nat.add_sub_of_le (Nat.one_le_iff_ne_zero.mpr some)]
    exact ok.wp_eq)
  omega

theorem Ok.content_drop (ok : r.Ok) (some : r.level ≠ 0) :
    r.content = r.pool r.rp :: r.drop.content := by
  unfold content
  rw [← ok.drop_level some, items_cons ok.rp]
  rfl

theorem content_length (r : Ring α) : r.content.length = r.level := items_length

theorem content_eq_nil (r : Ring α) : r.content = [] ↔ r.level = 0 := by
  rw [← r.content_length, List.length_eq_zero_iff]

end Ring

end UnionpiTiger.Lib
