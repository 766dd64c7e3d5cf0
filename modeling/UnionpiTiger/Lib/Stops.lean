import Mathlib.Logic.Basic

set_option autoImplicit false

namespace UnionpiTiger.Lib

-- The ways in which a call does not come back: a loop that does not end, an access outside an
-- array, and a process that is stopped by a failed assertion or a free of what was not allocated.
inductive Stop where
  | loops
  | overruns
  | aborts
deriving DecidableEq, Repr

abbrev Result (α : Type) := Except Stop α

namespace Result

variable {α β γ : Type}

@[simp] theorem map_ok (f : α → β) (a : α) : Except.map f (.ok a : Result α) = .ok (f a) := rfl

@[simp] theorem map_error (f : α → β) (stop : Stop) :
    Except.map f (.error stop : Result α) = .error stop := rfl

@[simp] theorem bind_ok (a : α) (f : α → Result β) : Except.bind (.ok a : Result α) f = f a := rfl

@[simp] theorem bind_error (stop : Stop) (f : α → Result β) :
    Except.bind (.error stop : Result α) f = .error stop := rfl

def stop? : Result α → Option Stop
  | .ok _ => none
  | .error stop => some stop

theorem eq_error_of_stop {x : Result α} {stop : Stop} (stops : x.stop? = some stop) :
    x = .error stop := by
  cases x with
  | ok a => cases stops
  | error other => rw [Option.some.inj stops]

theorem map_eq_ok {x : Result α} {f : α → β} {b : β} :
    x.map f = .ok b ↔ ∃ a, x = .ok a ∧ f a = b := by
  cases x with
  | error stop => simp
  | ok a => simp

theorem bind_eq_ok {x : Result α} {f : α → Result β} {b : β} :
    x.bind f = .ok b ↔ ∃ a, x = .ok a ∧ f a = .ok b := by
  cases x with
  | error stop => simp
  | ok a => simp

theorem mem_toOption {x : Result α} {a : α} : a ∈ x.toOption ↔ x = .ok a := by
  cases x with
  | error stop => simp [Except.toOption]
  | ok b => simp [Except.toOption]

theorem map_map (x : Result α) (f : α → β) (g : β → γ) : (x.map f).map g = x.map (g ∘ f) := by
  cases x with
  | error stop => rfl
  | ok a => rfl

theorem map_id_fun (x : Result α) : (x.map fun a => a) = x := by
  cases x with
  | error stop => rfl
  | ok a => rfl

end Result

end UnionpiTiger.Lib
