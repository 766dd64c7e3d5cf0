import Mathlib.Data.List.Basic

set_option autoImplicit false

namespace UnionpiTiger.Lib

variable {S A R V : Type}

def tryRun (step : S → A → Option S) : S → List A → Option S
  | s, [] => some s
  | s, a :: acts => (step s a).bind fun s => tryRun step s acts

theorem tryRun_isSome (step : S → A → Option S) (ok : S → A → Prop)
    (exact : ∀ s a, (step s a).isSome ↔ ok s a) (s : S) (acts : List A) :
    (tryRun step s acts).isSome ↔
      ∀ before a after, acts = before ++ a :: after → ∀ t ∈ tryRun step s before, ok t a := by
  induction acts generalizing s with
  | nil => simp [tryRun]
  | cons a rest ih =>
    cases next : step s a with
    | none =>
      have unfit : ¬ok s a := by simp [← exact, next]
      simp only [tryRun, next, Option.bind_none, Option.isSome_none, Bool.false_eq_true, false_iff]
      exact fun all => unfit (all [] a rest rfl s rfl)
    | some t =>
      have fit : ok s a := by simp [← exact, next]
      simp only [tryRun, next, Option.bind_some, ih]
      constructor
      · rintro all before b after same u reached
        cases before with
        | nil =>
          obtain ⟨rfl, -⟩ := List.cons.inj same
          cases reached
          exact fit
        | cons c before =>
          obtain ⟨rfl, rest_⟩ := List.cons.inj same
          simp only [tryRun, next, Option.bind_some] at reached
          exact all before b after rest_ u reached
      · rintro all before b after rfl u reached
        exact all (a :: before) b after rfl u (by simpa [tryRun, next] using reached)

inductive Pass (S R : Type) where
  | again (s : S)
  | stop (r : R)
deriving DecidableEq

def passes (body : S → Option (Pass S R)) (through : S → R) : Nat → S → Option R
  | 0, s => some (through s)
  | n + 1, s =>
    (body s).bind fun pass =>
      match pass with
      | .again s => passes body through n s
      | .stop r => some r

def walk (next : V → Option V) : Nat → V → Option V
  | 0, v => some v
  | k + 1, v => (next v).bind fun w => walk next k w

def Follows (abstracts : S → V → Prop) : Option V → Pass S R → Prop
  | some w, .again t => abstracts t w
  | none, .stop _ => True
  | _, _ => False

theorem passes_isSome (body : S → Option (Pass S R)) (through : S → R) (abstracts : S → V → Prop)
    (next : V → Option V) (ok : V → Prop)
    (fit : ∀ s v, abstracts s v → ok v → ∃ pass, body s = some pass ∧ Follows abstracts (next v) pass)
    (unfit : ∀ s v, abstracts s v → ¬ok v → body s = none) (n : Nat) (s : S) (v : V)
    (from_ : abstracts s v) :
    (passes body through n s).isSome ↔ ∀ k < n, ∀ w ∈ walk next k v, ok w := by
  induction n generalizing s v with
  | zero => simp [passes]
  | succ n ih =>
    have first : (∀ k < n + 1, ∀ w ∈ walk next k v, ok w) ↔
        ok v ∧ ∀ k < n, ∀ w ∈ walk next (k + 1) v, ok w := by
      constructor
      · exact fun all => ⟨all 0 (Nat.succ_pos n) v rfl,
          fun k less => all (k + 1) (Nat.succ_lt_succ less)⟩
      · rintro ⟨now, later⟩ k less w there
        cases k with
        | zero =>
          cases there
          exact now
        | succ k => exact later k (Nat.lt_of_succ_lt_succ less) w there
    rw [first]
    by_cases now : ok v
    case neg => simp [passes, unfit s v from_ now, now]
    obtain ⟨pass, result, follows⟩ := fit s v from_ now
    cases step : next v with
    | none =>
      rw [step] at follows
      cases pass with
      | again t => exact follows.elim
      | stop r => simp [passes, result, walk, step, now]
    | some w =>
      rw [step] at follows
      cases pass with
      | again t => simp [passes, result, walk, step, now, ih t w follows]
      | stop r => exact follows.elim

end UnionpiTiger.Lib
