import Mathlib.Data.List.Basic
import Mathlib.Data.List.TakeWhile

set_option autoImplicit false

namespace UnionpiTiger.Lib

variable {α : Type}

def store (mem : List α) (place : Nat) (cells : List α) : Option (List α) :=
  if place + cells.length ≤ mem.length
    then some (mem.take place ++ (cells ++ mem.drop (place + cells.length))) else none

variable {mem stored cells : List α} {place i : Nat}

theorem store_some (inside : place + cells.length ≤ mem.length) :
    store mem place cells = some (mem.take place ++ (cells ++ mem.drop (place + cells.length))) :=
      if_pos inside

theorem store_none (outside : mem.length < place + cells.length) : store mem place cells = none :=
  if_neg (Nat.not_le.mpr outside)

theorem store_inside (done : store mem place cells = some stored) :
    place + cells.length ≤ mem.length := by
  by_contra outside
  simp [store, outside] at done

theorem store_eq (done : store mem place cells = some stored) :
    stored = mem.take place ++ (cells ++ mem.drop (place + cells.length)) := by
  rw [store_some (store_inside done)] at done
  exact (Option.some.inj done).symm

theorem length_store (done : store mem place cells = some stored) : stored.length = mem.length := by
  have inside := store_inside done
  simp only [store_eq done, List.length_append, List.length_take, List.length_drop]
  omega

theorem store_before (done : store mem place cells = some stored) (before : i < place) :
    stored[i]? = mem[i]? := by
  have inside := store_inside done
  have short : i < (mem.take place).length := by
    rw [List.length_take]
    omega
  rw [store_eq done, List.getElem?_append_left short, List.getElem?_take_of_lt before]

theorem store_within (done : store mem place cells = some stored) (within : i < cells.length) :
    stored[place + i]? = cells[i]? := by
  have inside := store_inside done
  have first : (mem.take place).length = place := by
    rw [List.length_take]
    omega
  rw [store_eq done, List.getElem?_append_right (by omega), first, Nat.add_sub_cancel_left,
    List.getElem?_append_left within]

theorem store_after (done : store mem place cells = some stored) (after : place + cells.length ≤ i) :
    stored[i]? = mem[i]? := by
  have inside := store_inside done
  have first : (mem.take place).length = place := by
    rw [List.length_take]
    omega
  rw [store_eq done, List.getElem?_append_right (by omega), first,
    List.getElem?_append_right (by omega), List.getElem?_drop]
  congr 1
  omega

theorem store_append (first rest : List α) (cells : List α) (room : cells.length ≤ rest.length) :
    store (first ++ rest) first.length cells = some (first ++ (cells ++ rest.drop cells.length)) := by
  rw [store_some (by simp; omega), List.take_left, List.drop_append, List.drop_eq_nil_of_le (by omega)]
  simp

theorem store_bind (mem first second : List α) (place : Nat) :
    ((store mem place first).bind fun mem => store mem (place + first.length) second) =
      store mem place (first ++ second) := by
  by_cases fits : place + first.length ≤ mem.length
  · rw [store_some fits, Option.bind_some]
    have start : (mem.take place ++ first).length = place + first.length := by
      rw [List.length_append, List.length_take]
      omega
    by_cases both : place + (first ++ second).length ≤ mem.length
    · rw [List.length_append] at both
      rw [← List.append_assoc, ← start, store_append _ _ _ (by rw [List.length_drop]; omega),
        store_some (by simp; omega), start]
      simp [Nat.add_assoc]
    · rw [List.length_append] at both
      rw [store_none (by simp; omega), store_none (by simp; omega)]
  · rw [store_none (by omega), store_none (by simp; omega)]
    rfl

theorem store_over (mem : List α) {first second : List α} (place : Nat)
    (same : second.length = first.length) :
    ((store mem place first).bind fun mem => store mem place second) = store mem place second := by
  by_cases fits : place + first.length ≤ mem.length
  · have start : (mem.take place).length = place := by
      rw [List.length_take]
      omega
    have twice := store_append (mem.take place) (first ++ mem.drop (place + first.length)) second
      (by simp [same])
    rw [start] at twice
    rw [store_some fits, Option.bind_some, twice, store_some (by omega), same, List.drop_left]
  · rw [store_none (by omega), store_none (by omega)]
    rfl

end UnionpiTiger.Lib

namespace UnionpiTiger.Lib

def nul : Char := Char.ofNat 0

structure CString where
  text : List Char
  noNul : nul ∉ text

def strcat (mem : List Char) (place : Nat) (text : List Char) : Option (List Char) :=
  let length := (mem.drop place).findIdx fun c => c = nul
  if place + length < mem.length then store mem (place + length) (text ++ [nul]) else none

def snprintf (mem : List Char) (place : Nat) (size : Int) (text : List Char) :
    Option (List Char × Nat) :=
  if size < 0 then some (mem, 0)
  else if size = 0 then some (mem, text.length)
  else (store mem place (text.take (size.toNat - 1) ++ [nul])).map fun mem => (mem, text.length)

def Unended (mem : List Char) (place : Nat) : Prop := ∀ i < place, mem[i]? ≠ some nul

def Endless (mem : List Char) (place : Nat) : Prop := ∀ i, place ≤ i → mem[i]? ≠ some nul

structure Put (mem stored : List Char) (place count : Nat) : Prop where
  length : stored.length = mem.length
  unended : Unended mem place → Unended stored (place + count)
  ended : stored[place + count]? = some nul
  after : ∀ i, place + count < i → stored[i]? = mem[i]?

section Strings

variable {mem stored bytes text : List Char} {place start i : Nat} {size : Int}

theorem getElem?_noNul (noNul : nul ∉ text) : text[i]? ≠ some nul :=
  fun there => noNul (List.mem_of_getElem? there)

theorem store_unended {more : List Char} (done : store mem place (text ++ more) = some stored)
    (noNul : nul ∉ text) (unended : Unended mem place) : Unended stored (place + text.length) := by
  intro i before
  by_cases old : i < place
  · rw [store_before done old]
    exact unended i old
  · obtain ⟨k, rfl⟩ := Nat.exists_eq_add_of_le (Nat.not_lt.mp old)
    have within : k < text.length := by omega
    rw [store_within done (by simp; omega), List.getElem?_append_left within]
    exact getElem?_noNul noNul

theorem store_put (done : store mem place (text ++ [nul]) = some stored) (noNul : nul ∉ text) :
    Put mem stored place text.length where
  length := length_store done
  unended := store_unended done noNul
  ended := by
    rw [store_within done (by simp), List.getElem?_append_right (Nat.le_refl _)]
    simp
  after i after := store_after done (by simp; omega)

theorem snprintf_fits (room : place + text.length < mem.length) (noNul : nul ∉ text) :
    ∃ stored, snprintf mem place (mem.length - place) text = some (stored, text.length) ∧
      Put mem stored place text.length := by
  have whole : text.take (((mem.length : Int) - place).toNat - 1) = text :=
    List.take_of_length_le (by omega)
  have done := (@store_some _ mem (text ++ [nul]) place) (by simp; omega)
  refine ⟨_, ?_, store_put done noNul⟩
  rw [snprintf, if_neg (by omega), if_neg (by omega), whole, done]
  rfl

theorem snprintf_cut (inside : place < mem.length) (long : mem.length ≤ place + text.length)
    (noNul : nul ∉ text) :
    ∃ stored, snprintf mem place (mem.length - place) text = some (stored, text.length) ∧
      Put mem stored place (mem.length - 1 - place) := by
  have cut : (text.take (((mem.length : Int) - place).toNat - 1)).length = mem.length - 1 - place := by
    rw [List.length_take]
    omega
  have done := (@store_some _ mem (text.take (((mem.length : Int) - place).toNat - 1) ++ [nul])
    place) (by simp only [List.length_append, cut]; simp; omega)
  refine ⟨_, ?_, by simpa only [cut] using store_put done fun there => noNul (List.mem_of_mem_take there)⟩
  rw [snprintf, if_neg (by omega), if_neg (by omega), done]
  rfl

theorem snprintf_full (text : List Char) : snprintf mem place 0 text = some (mem, text.length) := by
  simp [snprintf]

theorem findIdx_drop (unended : Unended mem place) (ended : mem[place]? = some nul)
    (before : start ≤ place) :
    (mem.drop start).findIdx (fun c => c = nul) = place - start := by
  obtain ⟨inside, there⟩ := List.getElem?_eq_some_iff.mp ended
  have long : place - start < (mem.drop start).length := by
    rw [List.length_drop]
    omega
  rw [List.findIdx_eq long]
  refine ⟨?_, fun j less => ?_⟩
  · simp only [List.getElem_drop, Nat.add_sub_cancel' before, there, decide_true]
  · have other := unended (start + j) (by omega)
    rw [List.getElem?_eq_getElem (by omega)] at other
    simpa using other

theorem strcat_at (unended : Unended mem place) (ended : mem[place]? = some nul)
    (before : start ≤ place) :
    strcat mem start text = store mem place (text ++ [nul]) := by
  obtain ⟨inside, -⟩ := List.getElem?_eq_some_iff.mp ended
  simp only [strcat, findIdx_drop unended ended before, Nat.add_sub_cancel' before, inside, if_true]

theorem strcat_endless (endless : Endless mem start) : strcat mem start text = none := by
  have none_ : (mem.drop start).findIdx (fun c => c = nul) = (mem.drop start).length := by
    refine List.findIdx_eq_length_of_false fun c member => ?_
    obtain ⟨i, there⟩ := List.mem_iff_getElem?.mp member
    rw [List.getElem?_drop] at there
    simpa using fun same : c = nul => endless (start + i) (by omega) (there.trans (congrArg some same))
  simp only [strcat, none_, List.length_drop]
  split_ifs with short
  · omega
  · rfl

end Strings

end UnionpiTiger.Lib
