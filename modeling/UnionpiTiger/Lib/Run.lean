import Mathlib.Data.List.Basic

set_option autoImplicit false

namespace UnionpiTiger.Lib

variable {S A : Type}

def run (step : S → A → S) (s : S) (acts : List A) : S := acts.foldl step s

@[simp] theorem run_nil (step : S → A → S) (s : S) : run step s [] = s := rfl

@[simp] theorem run_cons (step : S → A → S) (s : S) (a : A) (acts : List A) :
    run step s (a :: acts) = run step (step s a) acts := rfl

theorem run_append (step : S → A → S) (s : S) (first second : List A) :
    run step s (first ++ second) = run step (run step s first) second :=
  List.foldl_append

def Along (step : S → A → S) (ok : S → A → Prop) : S → List A → Prop
  | _, [] => True
  | s, a :: acts => ok s a ∧ Along step ok (step s a) acts

instance Along.decidable (step : S → A → S) (ok : S → A → Prop) [∀ s a, Decidable (ok s a)] :
    (s : S) → (acts : List A) → Decidable (Along step ok s acts)
  | _, [] => isTrue trivial
  | s, a :: acts =>
    have := Along.decidable step ok (step s a) acts
    inferInstanceAs (Decidable (_ ∧ _))

theorem run_invariant (step : S → A → S) (ok : S → A → Prop) (Inv : S → Prop)
    (keeps : ∀ s a, Inv s → ok s a → Inv (step s a)) (s : S) (init : Inv s) (acts : List A)
    (along : Along step ok s acts) : Inv (run step s acts) := by
  induction acts generalizing s with
  | nil => exact init
  | cons a rest ih => exact ih (step s a) (keeps s a init along.1) along.2

theorem run_always (step : S → A → S) (Inv : S → Prop)
    (keeps : ∀ s a, Inv s → Inv (step s a)) (s : S) (init : Inv s) (acts : List A) :
    Inv (run step s acts) := by
  induction acts generalizing s with
  | nil => exact init
  | cons a rest ih => exact ih (step s a) (keeps s a init)

theorem Along.take {step : S → A → S} {ok : S → A → Prop} {s : S} {acts more : List A}
    (along : Along step ok s (acts ++ more)) : Along step ok s acts := by
  induction acts generalizing s with
  | nil => trivial
  | cons a rest ih => exact ⟨along.1, ih along.2⟩

theorem Along.drop {step : S → A → S} {ok : S → A → Prop} {s : S} {acts more : List A}
    (along : Along step ok s (acts ++ more)) : Along step ok (run step s acts) more := by
  induction acts generalizing s with
  | nil => exact along
  | cons a rest ih => exact ih along.2

theorem Along.and {step : S → A → S} {ok also : S → A → Prop} {s : S} {acts : List A}
    (first : Along step ok s acts) (second : Along step also s acts) :
    Along step (fun s a => ok s a ∧ also s a) s acts := by
  induction acts generalizing s with
  | nil => trivial
  | cons a rest ih => exact ⟨⟨first.1, second.1⟩, ih first.2 second.2⟩

theorem Along.last {step : S → A → S} {ok : S → A → Prop} {s : S} {acts : List A} {a : A}
    (along : Along step ok s (acts ++ [a])) : ok (run step s acts) a := by
  induction acts generalizing s with
  | nil => exact along.1
  | cons first rest ih => exact ih along.2

theorem Along.of_invariant {step : S → A → S} {ok good : S → A → Prop} (Inv : S → Prop)
    (keeps : ∀ s a, Inv s → ok s a → Inv (step s a)) (gives : ∀ s a, Inv s → ok s a → good s a) {s : S}
    (init : Inv s) {acts : List A} (along : Along step ok s acts) : Along step good s acts := by
  induction acts generalizing s with
  | nil => trivial
  | cons a rest ih => exact ⟨gives s a init along.1, ih (keeps s a init along.1) along.2⟩

theorem along_iff_forall (step : S → A → S) (ok : A → Prop) (s : S) (acts : List A) :
    Along step (fun _ a => ok a) s acts ↔ ∀ a ∈ acts, ok a := by
  induction acts generalizing s with
  | nil => exact iff_of_true trivial nofun
  | cons a rest ih =>
    rw [List.forall_mem_cons]
    exact and_congr Iff.rfl (ih (step s a))

theorem along_iff_along (step : S → A → S) (met ok keep : S → A → Prop) (Inv : S → Prop)
    (exact : ∀ s a, Inv s → met s a → (ok s a ↔ keep s a))
    (keeps : ∀ s a, Inv s → met s a → ok s a → Inv (step s a)) (s : S) (init : Inv s) (acts : List A)
    (along : Along step met s acts) : Along step ok s acts ↔ Along step keep s acts := by
  induction acts generalizing s with
  | nil => exact Iff.rfl
  | cons a rest ih =>
    have same := exact s a init along.1
    constructor
    · rintro ⟨now, later⟩
      exact ⟨same.mp now, (ih (step s a) (keeps s a init along.1 now) along.2).mp later⟩
    · rintro ⟨now, later⟩
      have now := same.mpr now
      exact ⟨now, (ih (step s a) (keeps s a init along.1 now) along.2).mpr later⟩

theorem along_iff_always (step : S → A → S) (ok : S → A → Prop) (Inv Good : S → Prop)
    (sound : ∀ s, Inv s → Good s) (keeps : ∀ s a, Inv s → ok s a → Inv (step s a))
    (needed : ∀ s a, Inv s → Good (step s a) → ok s a) (s : S) (init : Inv s) (acts : List A) :
    Along step ok s acts ↔ ∀ first, first <+: acts → Good (run step s first) := by
  induction acts generalizing s with
  | nil =>
    constructor
    · intro _ first within
      rw [List.prefix_nil.mp within]
      exact sound s init
    · intro _
      trivial
  | cons a rest ih =>
    constructor
    · rintro ⟨now, later⟩ first within
      cases first with
      | nil => exact sound s init
      | cons b first =>
        obtain ⟨rfl, shorter⟩ := List.cons_prefix_cons.mp within
        exact (ih (step s b) (keeps s b init now)).mp later first shorter
    · intro always
      have next : Good (step s a) := always [a] (List.cons_prefix_cons.mpr ⟨rfl, List.nil_prefix⟩)
      have now := needed s a init next
      refine ⟨now, (ih (step s a) (keeps s a init now)).mpr ?_⟩
      intro first within
      exact always (a :: first) (List.cons_prefix_cons.mpr ⟨rfl, within⟩)

theorem along_iff_invariant (step : S → A → S) (ok : S → A → Prop) (Inv : S → Prop)
    (exact : ∀ s a, Inv s → (ok s a ↔ Inv (step s a))) (s : S) (init : Inv s) (acts : List A) :
    Along step ok s acts ↔ ∀ first, first <+: acts → Inv (run step s first) :=
  along_iff_always step ok Inv Inv (fun _ inv => inv) (fun s a inv => (exact s a inv).mp)
    (fun s a inv => (exact s a inv).mpr) s init acts

end UnionpiTiger.Lib
