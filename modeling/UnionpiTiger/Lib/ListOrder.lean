import Mathlib.Data.List.Perm.Basic

set_option autoImplicit false

namespace UnionpiTiger.Lib

variable {α : Type}

def alternated : List α → List α → List α
  | [], ys => ys
  | x :: xs, [] => x :: xs
  | x :: xs, y :: ys => x :: y :: alternated xs ys

theorem alternated_nil (xs : List α) : alternated xs [] = xs := by
  cases xs <;> rfl

theorem alternated_perm (xs ys : List α) : (alternated xs ys).Perm (xs ++ ys) := by
  induction xs generalizing ys with
  | nil => exact List.Perm.refl _
  | cons x rest ih =>
    cases ys with
    | nil => rw [alternated_nil, List.append_nil]
    | cons y others =>
      have moved : (x :: y :: alternated rest others).Perm (x :: y :: (rest ++ others)) :=
        ((ih others).cons y).cons x
      exact moved.trans (List.perm_middle.symm.cons x)

theorem alternated_length (xs ys : List α) : (alternated xs ys).length = xs.length + ys.length := by
  rw [(alternated_perm xs ys).length_eq, List.length_append]

theorem split_perm (first second : α → Bool) (rest : ∀ x, second x = !first x) (xs : List α) :
    (xs.filter first ++ xs.filter second).Perm xs := by
  rw [show second = fun x => !first x from funext rest]
  exact List.filter_append_perm first xs

section

variable {β : Type} {f g : α → Option β}

theorem filterMap_lengths (apart : ∀ x, f x = none ∨ g x = none) (xs : List α) :
    (xs.filterMap f).length + (xs.filterMap g).length ≤ xs.length := by
  induction xs with
  | nil => exact Nat.le_refl 0
  | cons x rest ih =>
    simp only [List.filterMap_cons, List.length_cons]
    rcases apart x with none_ | none_
    · rw [none_]
      cases g x <;> simp <;> omega
    · rw [none_]
      cases f x <;> simp <;> omega

end

end UnionpiTiger.Lib
