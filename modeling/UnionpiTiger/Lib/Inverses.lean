import Mathlib.Data.List.Basic

set_option autoImplicit false

namespace UnionpiTiger.Lib

structure Inverses {A : Type} (holds : A → Prop) (act undo : A → A) : Prop where
  acts : ∀ a, holds a → holds (act a)
  undoes : ∀ a, holds a → holds (undo a)
  back : ∀ a, holds a → undo (act a) = a
  forth : ∀ a, holds a → act (undo a) = a

namespace Inverses

variable {A K : Type} {holds : A → Prop} {act undo later before : A → A}

theorem symm (inverses : Inverses holds act undo) : Inverses holds undo act :=
  ⟨inverses.undoes, inverses.acts, inverses.forth, inverses.back⟩

theorem refl : Inverses holds id id :=
  ⟨fun _ here => here, fun _ here => here, fun _ _ => rfl, fun _ _ => rfl⟩

theorem trans (first : Inverses holds act undo) (second : Inverses holds later before) :
    Inverses holds (later ∘ act) (undo ∘ before) where
  acts := fun a here => second.acts _ (first.acts a here)
  undoes := fun a here => first.undoes _ (second.undoes a here)
  back := fun a here => by
    have between := second.back _ (first.acts a here)
    exact (congrArg undo between).trans (first.back a here)
  forth := fun a here => by
    have between := first.forth _ (second.undoes a here)
    exact (congrArg later between).trans (second.forth a here)

theorem congr {other undoOther : A → A} (inverses : Inverses holds act undo)
    (same : ∀ a, holds a → other a = act a) (sameUndo : ∀ a, holds a → undoOther a = undo a) :
    Inverses holds other undoOther where
  acts := fun a here => by
    rw [same a here]
    exact inverses.acts a here
  undoes := fun a here => by
    rw [sameUndo a here]
    exact inverses.undoes a here
  back := fun a here => by
    rw [same a here, sameUndo _ (inverses.acts a here)]
    exact inverses.back a here
  forth := fun a here => by
    rw [sameUndo a here, same _ (inverses.undoes a here)]
    exact inverses.forth a here

theorem loop {act undo : K → A → A} (list : List K)
    (each : ∀ k ∈ list, Inverses holds (act k) (undo k)) :
    Inverses holds (fun a => list.foldl (fun a k => act k a) a) (fun a => list.foldr undo a) := by
  induction list with
  | nil => exact refl
  | cons k rest ih =>
    have first := each k List.mem_cons_self
    have later := ih fun other mem => each other (List.mem_cons_of_mem k mem)
    exact first.trans later

end Inverses

theorem foldl_turns {A : Type} (first second : Nat → A → A) (count : Nat) (a : A) :
    (List.range count).foldl (fun a i => first (i + 1) (second i a)) (first 0 a) =
      first count ((List.range count).foldl (fun a i => second i (first i a)) a) := by
  induction count with
  | zero => rfl
  | succ count ih =>
    rw [List.range_succ, List.foldl_append, List.foldl_append, ih]
    rfl

end UnionpiTiger.Lib
