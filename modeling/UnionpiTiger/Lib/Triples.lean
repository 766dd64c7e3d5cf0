import Mathlib.Logic.Basic

set_option autoImplicit false

namespace UnionpiTiger.Lib

variable {S E α β π : Type}

def Prog (S E α : Type) : Type := S → Except E α × S

namespace Prog

def bind (f : Prog S E α) (g : α → Prog S E β) : Prog S E β := fun s =>
  match f s with
  | (.ok a, s) => g a s
  | (.error e, s) => (.error e, s)

instance : Monad (Prog S E) where
  pure a := fun s => (.ok a, s)
  bind := bind

def stop (e : E) : Prog S E α := fun s => (.error e, s)

def stopIf (c : Prop) [Decidable c] (e : E) : Prog S E Unit := if c then stop e else pure ()

def when (c : Prop) [Decidable c] (f : Prog S E Unit) : Prog S E Unit := if c then f else pure ()

def modify (f : S → S) : Prog S E Unit := fun s => (.ok (), f s)

def gets (f : S → α) : Prog S E α := fun s => (.ok (f s), s)

def loop (body : Nat → Prog S E Unit) : Nat → Nat → Prog S E Unit
  | _, 0 => pure ()
  | first, k + 1 => do
    body first
    loop body (first + 1) k

def Triple (P : S → Prop) (f : Prog S E α) (Q : α → S → Prop) (R : E → S → Prop) : Prop :=
  ∀ s, P s → match f s with
    | (.ok a, t) => Q a t
    | (.error e, t) => R e t

def Keeps (part : S → π) (f : Prog S E α) : Prop := ∀ s, part (f s).2 = part s

section Rules

variable {P P' : S → Prop} {Q Q' : α → S → Prop} {R : E → S → Prop} {f : Prog S E α}
  {g : α → Prog S E β} {part : S → π}

theorem bind_ok {s t : S} {a : α} (done : f s = (.ok a, t)) : (f >>= g) s = g a t := by
  change Prog.bind f g s = g a t
  rw [Prog.bind, done]

theorem bind_error {s t : S} {e : E} (stops : f s = (.error e, t)) : (f >>= g) s = (.error e, t) := by
  change Prog.bind f g s = (.error e, t)
  rw [Prog.bind, stops]

theorem Triple.ok (triple : Triple P f Q R) {s t : S} {a : α} (before : P s)
    (done : f s = (.ok a, t)) : Q a t := by
  have after := triple s before
  rw [done] at after
  exact after

theorem Triple.error (triple : Triple P f Q R) {s t : S} {e : E} (before : P s)
    (stops : f s = (.error e, t)) : R e t := by
  have after := triple s before
  rw [stops] at after
  exact after

theorem bind_pure_bind {γ : Type} (f : Prog S E α) (view : α → β) (g : β → Prog S E γ) :
    ((f >>= fun a => pure (view a)) >>= g) = f >>= fun a => g (view a) := by
  funext s
  change Prog.bind (Prog.bind f _) g s = Prog.bind f _ s
  unfold Prog.bind
  match f s with
  | (.ok a, t) => rfl
  | (.error e, t) => rfl

theorem Triple.bind {T : β → S → Prop} (first : Triple P f Q R) (second : ∀ a, Triple (Q a) (g a) T R) :
    Triple P (f >>= g) T R := by
  intro s before
  have middle := first s before
  change match Prog.bind f g s with
    | (.ok a, t) => T a t
    | (.error e, t) => R e t
  unfold Prog.bind
  match f s, middle with
  | (.ok a, t), middle => exact second a t middle
  | (.error e, t), middle => exact middle

theorem Triple.pure {a : α} (after : ∀ s, P s → Q a s) : Triple P (pure a : Prog S E α) Q R := after

theorem Triple.stop {e : E} (after : ∀ s, P s → R e s) : Triple P (stop e : Prog S E α) Q R := after

theorem Triple.stopIf {c : Prop} [Decidable c] {e : E} (after : c → ∀ s, P s → R e s) :
    Triple P (stopIf c e : Prog S E Unit) (fun _ s => P s ∧ ¬c) R := by
  intro s before
  unfold Prog.stopIf
  by_cases holds : c
  · rw [if_pos holds]
    exact after holds s before
  · rw [if_neg holds]
    exact ⟨before, holds⟩

theorem Triple.modify {change : S → S} {Q : Unit → S → Prop} (after : ∀ s, P s → Q () (change s)) :
    Triple P (modify change : Prog S E Unit) Q R := after

theorem Triple.gets {get : S → α} : Triple P (gets get : Prog S E α) (fun a s => P s ∧ a = get s) R :=
  fun _ before => ⟨before, rfl⟩

theorem Triple.conseq (triple : Triple P f Q R) (stronger : ∀ s, P' s → P s)
    (weaker : ∀ a s, Q a s → Q' a s) :
    Triple P' f Q' R := by
  intro s before
  have after := triple s (stronger s before)
  match f s, after with
  | (.ok a, t), after => exact weaker a t after
  | (.error e, t), after => exact after

theorem Triple.ite {c : Prop} [Decidable c] {f f' : Prog S E α} (yes : c → Triple P f Q R)
    (no : ¬c → Triple P f' Q R) :
    Triple P (if c then f else f') Q R := by
  by_cases holds : c
  · rw [if_pos holds]
    exact yes holds
  · rw [if_neg holds]
    exact no holds

theorem Keeps.bind (first : Keeps part f) (second : ∀ a, Keeps part (g a)) : Keeps part (f >>= g) := by
  intro s
  have middle := first s
  change part (Prog.bind f g s).2 = part s
  unfold Prog.bind
  match f s, middle with
  | (.ok a, t), middle => exact (second a t).trans middle
  | (.error e, t), middle => exact middle

theorem Keeps.pure (a : α) : Keeps part (pure a : Prog S E α) := fun _ => rfl

theorem Keeps.stop (e : E) : Keeps part (stop e : Prog S E α) := fun _ => rfl

theorem Keeps.stopIf (c : Prop) [Decidable c] (e : E) : Keeps part (stopIf c e : Prog S E Unit) := by
  unfold Prog.stopIf
  split
  · exact Keeps.stop e
  · exact Keeps.pure ()

theorem Keeps.gets (get : S → α) : Keeps part (gets get : Prog S E α) := fun _ => rfl

theorem Keeps.modify {change : S → S} (same : ∀ s, part (change s) = part s) :
    Keeps part (modify change : Prog S E Unit) := same

theorem Keeps.triple (keeps : Keeps part f) (holds : π → Prop) :
    Triple (fun s => holds (part s)) f (fun _ s => holds (part s)) (fun _ _ => True) := by
  intro s before
  have same := keeps s
  match f s, same with
  | (.ok a, t), same => exact (congrArg holds same).mpr before
  | (.error e, t), same => trivial

end Rules

end Prog

end UnionpiTiger.Lib
