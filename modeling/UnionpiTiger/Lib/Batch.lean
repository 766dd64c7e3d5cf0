import Mathlib.Data.List.Basic

set_option autoImplicit false

namespace UnionpiTiger.Lib

variable {A B K S T : Type} [DecidableEq K]

def lastOfRun (key : A → K) (a : A) : List A → Bool
  | [] => true
  | next :: _ => key a ≠ key next

section

variable (skips : A → Bool) (key : A → K)

def batchLoop (store : S → A → S) (flush : S → K → S) : S → List A → S
  | s, [] => s
  | s, a :: rest =>
    if skips a then batchLoop store flush s rest
    else if lastOfRun key a rest then batchLoop store flush (flush (store s a) (key a)) rest
    else batchLoop store flush (store s a) rest

def batches : List A → List A → List (K × List A)
  | _, [] => []
  | pending, a :: rest =>
    if skips a then batches pending rest
    else if lastOfRun key a rest then (key a, pending ++ [a]) :: batches [] rest
    else batches (pending ++ [a]) rest

def leftover : List A → List A → List A
  | pending, [] => pending
  | pending, a :: rest =>
    if skips a then leftover pending rest
    else if lastOfRun key a rest then leftover [] rest
    else leftover (pending ++ [a]) rest

end

variable {skips : A → Bool} {key : A → K}

variable (skips key) in
theorem batches_flatten (pending list : List A) :
    ((batches skips key pending list).flatMap Prod.snd) ++ leftover skips key pending list =
      pending ++ list.filter fun a => !skips a := by
  induction list generalizing pending with
  | nil => simp [batches, leftover]
  | cons a rest ih =>
    cases skip : skips a with
    | true => simp [batches, leftover, skip, ih]
    | false =>
      cases last : lastOfRun key a rest with
      | true => simp [batches, leftover, skip, last, ih]
      | false => simp [batches, leftover, skip, last, ih]

theorem getElem?_concat_ne (list : List A) (a : A) {place : Nat} (other : place ≠ list.length) :
    (list ++ [a])[place]? = list[place]? := by
  rcases Nat.lt_or_gt_of_ne other with before | behind
  · exact List.getElem?_append_left before
  · rw [List.getElem?_eq_none (by simp; omega), List.getElem?_eq_none (by omega)]

theorem batches_of_skips (pending : List A) {list : List A} (all : ∀ a ∈ list, skips a = true) :
    batches skips key pending list = [] := by
  induction list with
  | nil => rfl
  | cons a rest ih =>
    rw [batches, if_pos (all a List.mem_cons_self)]
    exact ih fun b there => all b (List.mem_cons_of_mem a there)

theorem forall_split_cons (P : List A → A → List A → Prop) (a : A) (rest : List A) :
    (∀ front b back, a :: rest = front ++ b :: back → P front b back) ↔
      P [] a rest ∧ ∀ front b back, rest = front ++ b :: back → P (a :: front) b back := by
  constructor
  · intro all
    refine ⟨all [] a rest rfl, fun front b back split => all (a :: front) b back ?_⟩
    rw [split, List.cons_append]
  · rintro ⟨first, later⟩ front b back split
    cases front with
    | nil =>
      obtain ⟨rfl, rfl⟩ := List.cons.inj split
      exact first
    | cons c front =>
      obtain ⟨rfl, rest⟩ := List.cons.inj split
      exact later front b back rest

variable (skips key) in
theorem leftover_eq_nil_iff (pending list : List A) :
    leftover skips key pending list = [] ↔
      (∀ front a back, list = front ++ a :: back → skips a = false → (∀ b ∈ back, skips b = true) →
        lastOfRun key a back = true) ∧ (pending = [] ∨ ∃ a ∈ list, skips a = false) := by
  induction list generalizing pending with
  | nil => simp [leftover]
  | cons a rest ih =>
    rw [forall_split_cons (fun _ a back => skips a = false → (∀ b ∈ back, skips b = true) →
      lastOfRun key a back = true),
      leftover]
    cases skip : skips a with
    | true =>
      simp only [if_true, ih, List.exists_mem_cons_iff, skip]
      simp
    | false =>
      have some : pending = [] ∨ ∃ b ∈ a :: rest, skips b = false := .inr ⟨a, List.mem_cons_self, skip⟩
      rw [if_neg Bool.false_ne_true, and_iff_left some]
      cases last : lastOfRun key a rest with
      | true => simp [ih]
      | false =>
        have kept : (∃ b ∈ rest, skips b = false) ↔ ¬ ∀ b ∈ rest, skips b = true := by
          push Not
          simp
        rw [if_neg Bool.false_ne_true, ih, kept]
        simp [and_comm]

theorem batchLoop_simulates {store : S → A → S} {flush : S → K → S} {flushed : T → K × List A → T}
    {Rel : S → List A → T → Prop} {bound : Nat}
    (stored : ∀ s pending t a, pending.length < bound → Rel s pending t →
      Rel (store s a) (pending ++ [a]) t)
    (sent : ∀ s pending t k, Rel s pending t → Rel (flush s k) [] (flushed t (k, pending))) {s : S}
    {pending : List A} {t : T} (rel : Rel s pending t) (list : List A)
    (fits : pending.length + list.length ≤ bound) :
    Rel (batchLoop skips key store flush s list) (leftover skips key pending list)
      ((batches skips key pending list).foldl flushed t) := by
  induction list generalizing s pending t with
  | nil => exact rel
  | cons a rest ih =>
    rw [List.length_cons] at fits
    have next : pending.length < bound → Rel (store s a) (pending ++ [a]) t :=
      fun room => stored s pending t a room rel
    rw [batchLoop, batches, leftover]
    split_ifs
    · exact ih rel (by omega)
    · exact ih (sent _ _ _ _ (next (by omega))) (by simp; omega)
    · exact ih (next (by omega)) (by simp; omega)

theorem lastOfRun_map (f : B → A) (b : B) (list : List B) :
    lastOfRun key (f b) (list.map f) = lastOfRun (fun b => key (f b)) b list := by
  cases list <;> rfl

theorem batchLoop_map (f : B → A) (store : S → A → S) (flush : S → K → S) (s : S) (list : List B) :
    batchLoop skips key store flush s (list.map f) =
      batchLoop (fun b => skips (f b)) (fun b => key (f b)) (fun s b => store s (f b))
        flush s list := by
  induction list generalizing s with
  | nil => rfl
  | cons b rest ih =>
    rw [List.map_cons, batchLoop, batchLoop, lastOfRun_map]
    simp only [ih]

end UnionpiTiger.Lib
