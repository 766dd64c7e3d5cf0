import Mathlib.Algebra.BigOperators.Group.Finset.Basic
import Mathlib.Algebra.BigOperators.Ring.Finset
import Mathlib.Data.Fintype.Basic

set_option autoImplicit false

namespace UnionpiTiger.Lib

variable {I A : Type} [Fintype I]

def entries (table : I → A) (p : A → Prop) [DecidablePred p] : Finset I :=
  Finset.univ.filter fun i => p (table i)

@[simp] theorem mem_entries {table : I → A} {p : A → Prop} [DecidablePred p] {i : I} :
    i ∈ entries table p ↔ p (table i) := by
  unfold entries
  rw [Finset.mem_filter]
  exact and_iff_right (Finset.mem_univ i)

theorem entries_const_neg {entry : A} {p : A → Prop} [DecidablePred p] (fails : ¬p entry) :
    entries (fun _ : I => entry) p = ∅ :=
  Finset.eq_empty_of_forall_notMem fun _ there => fails (mem_entries.mp there)

def one (c : Prop) [Decidable c] : Int := if c then 1 else 0

@[simp] theorem one_pos {c : Prop} [Decidable c] (holds : c) : one c = 1 := if_pos holds

@[simp] theorem one_neg {c : Prop} [Decidable c] (fails : ¬c) : one c = 0 := if_neg fails

theorem one_nonneg (c : Prop) [Decidable c] : 0 ≤ one c := by
  unfold one
  split <;> decide

theorem card_entries_eq_sum (table : I → A) (p : A → Prop) [DecidablePred p] :
    ((entries table p).card : Int) = ∑ i, one (p (table i)) := by
  unfold entries one
  rw [Finset.card_filter]
  push_cast
  rfl

theorem sum_table_update [DecidableEq I] (table : I → A) (weight : A → Int) (i : I) (entry : A) :
    ∑ j, weight (Function.update table i entry j) = ∑ j,
      weight (table j) - weight (table i) + weight entry := by
  have point : (fun j => weight (Function.update table i entry j)) =
      Function.update (fun j => weight (table j)) i (weight entry) :=
        Function.comp_update weight table i entry
  have split := Finset.add_sum_erase Finset.univ (fun j => weight (table j)) (Finset.mem_univ i)
  rw [point, Finset.sum_update_of_mem (Finset.mem_univ i), Finset.sdiff_singleton_eq_erase, ← split]
  omega

theorem card_entries_update [DecidableEq I] (table : I → A) (p : A → Prop) [DecidablePred p]
    (i : I) (entry : A) :
    ((entries (Function.update table i entry) p).card : Int) =
      (entries table p).card - one (p (table i)) + one (p entry) := by
  rw [card_entries_eq_sum, card_entries_eq_sum]
  exact sum_table_update table (fun a => one (p a)) i entry

end UnionpiTiger.Lib
