import Mathlib.Data.List.Basic

set_option autoImplicit false

namespace UnionpiTiger.Lib

section

variable {A K : Type} [DecidableEq K] (key : A → K) {list : List A} {a : A}

theorem find?_key (numbered : list.Pairwise fun a b => key a ≠ key b) (mem : a ∈ list) :
    list.find? (fun b => key b = key a) = some a := by
  induction list with
  | nil => cases mem
  | cons b rest ih =>
    obtain ⟨apart, later⟩ := List.pairwise_cons.mp numbered
    rcases List.mem_cons.mp mem with rfl | there
    · exact List.find?_cons_of_pos (decide_eq_true rfl)
    · rw [List.find?_cons_of_neg (by simpa using apart a there)]
      exact ih later there

theorem perm_remove_key (numbered : list.Pairwise fun a b => key a ≠ key b) (mem : a ∈ list) :
    list.Perm (a :: list.filter fun b => key b ≠ key a) := by
  induction list with
  | nil => cases mem
  | cons b rest ih =>
    obtain ⟨apart, later⟩ := List.pairwise_cons.mp numbered
    rw [List.filter_cons]
    rcases List.mem_cons.mp mem with rfl | there
    · have all : (rest.filter fun c => key c ≠ key a) = rest :=
        List.filter_eq_self.mpr fun c here => decide_eq_true (apart c here).symm
      rw [all, if_neg (by simp)]
    · rw [if_pos (decide_eq_true (apart a there))]
      exact ((ih later there).cons b).trans (List.Perm.swap _ _ _)

end

end UnionpiTiger.Lib
