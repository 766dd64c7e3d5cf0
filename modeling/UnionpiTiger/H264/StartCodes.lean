import UnionpiTiger.H264.HeaderCache
import UnionpiTiger.Lib.Confined
import UnionpiTiger.Lib.Words

set_option autoImplicit false

namespace UnionpiTiger.H264

open Lib

def scan {σ ρ : Type} (hit : (Nat → Byte) → Nat → Nat → Int → σ → Except ρ σ) (size : Int)
    (m : Nat → Byte) :
    Nat → Nat → Int → σ → Except ρ σ
  | 0, _, _, s => .ok s
  | passes + 1, p, len, s =>
    match findStartCode m p len.toNat with
    | none => scan hit size m passes (p + 1) len s
    | some j =>
      match hit m p j (s32 (size - p)) s with
      | .error r => .error r
      | .ok s => scan hit size m passes (p + j + 1) (s32 (size - p)) s

def OpenEnd (n : Nat) (m : Nat → Byte) (p : Nat) (len : Int) : Prop :=
  (n < p + 3 ∧ 3 < len ∨ n < p + 4 ∧ 4 < len) ∧ ∀ k, p ≤ k → k < n → m k = 0

def Closed {σ ρ : Type} (hit : (Nat → Byte) → Nat → Nat → Int → σ → Except ρ σ)
    (inside : (Nat → Byte) → Nat → Nat → σ → Prop) (n : Nat) (size : Int) (m : Nat → Byte) :
    Nat → Nat → Int → σ → Prop
  | 0, _, _, _ => True
  | passes + 1, p, len, s =>
    ¬OpenEnd n m p len ∧
      match findStartCode m p len.toNat with
      | none => Closed hit inside n size m passes (p + 1) len s
      | some j =>
        inside m p j s ∧
          match hit m p j (s32 (size - p)) s with
          | .error _ => True
          | .ok s => Closed hit inside n size m passes (p + j + 1) (s32 (size - p)) s

section Find

variable {n p j : Nat} {len : Int} {m m' : Nat → Byte}

theorem find_eq_some_iff : findStartCode m p len.toNat = some j ↔
    (j = 3 ∧ 3 < len ∧ m (p + 2) = 1 ∨ j = 4 ∧ 4 < len ∧ m (p + 2) = 0 ∧ m (p + 3) = 1) ∧ m p = 0 ∧
      m (p + 1) = 0 := by
  constructor
  · intro found
    unfold findStartCode at found
    split_ifs at found with short long
    · obtain rfl : 3 = j := Option.some.inj found
      exact ⟨.inl ⟨rfl, by omega, short.2.2.2⟩, short.2.1, short.2.2.1⟩
    · obtain rfl : 4 = j := Option.some.inj found
      exact ⟨.inr ⟨rfl, by omega, long.2.2.2.1, long.2.2.2.2⟩, long.2.1, long.2.2.1⟩
  · rintro ⟨⟨rfl, long, one⟩ | ⟨rfl, long, third, one⟩, first, second⟩
    · exact if_pos ⟨by omega, first, second, one⟩
    · have other : ¬(len.toNat > 3 ∧ m p = 0 ∧ m (p + 1) = 0 ∧ m (p + 2) = 1) := by
        rintro ⟨-, -, -, one⟩
        rw [third] at one
        cases one
      exact (if_neg other).trans (if_pos ⟨by omega, first, second, third, one⟩)

theorem find_inside (settled : ¬OpenEnd n m p len) (found : findStartCode m p len.toNat = some j) :
    p + j ≤ n ∧ 3 ≤ j ∧ j ≤ 4 := by
  obtain ⟨code, first, second⟩ := find_eq_some_iff.mp found
  by_contra outside
  refine settled ⟨?_, fun k above below => ?_⟩
  · omega
  · obtain ⟨rfl, -, -⟩ | ⟨rfl, -, third, -⟩ := code
    · obtain rfl | rfl : k = p ∨ k = p + 1 := by omega
      · exact first
      · exact second
    · obtain rfl | rfl | rfl : k = p ∨ k = p + 1 ∨ k = p + 2 := by omega
      · exact first
      · exact second
      · exact third

theorem openEnd_same (same : SameBelow n m m') : OpenEnd n m' p len ↔ OpenEnd n m p len :=
  and_congr_right fun _ => forall₃_congr fun k _ below => by rw [same k below]

theorem find_transfer (same : SameBelow n m m') (settled : ¬OpenEnd n m p len)
    (found : findStartCode m p len.toNat = some j) : findStartCode m' p len.toNat = some j := by
  obtain ⟨within, -, -⟩ := find_inside settled found
  obtain ⟨code, first, second⟩ := find_eq_some_iff.mp found
  refine find_eq_some_iff.mpr ⟨?_,
    by rw [same p (by omega), first], by rw [same (p + 1) (by omega), second]⟩
  obtain ⟨rfl, long, one⟩ | ⟨rfl, long, third, one⟩ := code
  · exact .inl ⟨rfl, long, by rw [same (p + 2) (by omega), one]⟩
  · exact .inr ⟨rfl, long, by rw [same (p + 2) (by omega), third], by rw [same (p + 3) (by omega), one]⟩

theorem find_same (same : SameBelow n m m') (settled : ¬OpenEnd n m p len) :
    findStartCode m' p len.toNat = findStartCode m p len.toNat := by
  refine Option.ext fun j => ⟨fun found => ?_, find_transfer same settled⟩
  exact find_transfer (fun k below => (same k below).symm) (mt (openEnd_same same).mp settled) found

def completion (p j : Nat) (type : Byte) (k : Nat) : Byte :=
  if k + 1 < p + j then 0 else if k + 1 = p + j then 1 else type

theorem find_completed (open_ : OpenEnd n m p len) (type : Byte) : ∃ j, 3 ≤ j ∧ j ≤ 4 ∧ n < p + j ∧
    findStartCode (followedBy n m (completion p j type)) p len.toNat = some j ∧
    followedBy n m (completion p j type) (p + j) = type := by
  obtain ⟨short, zeros⟩ := open_
  have zero : ∀ j k, p ≤ k → k + 1 < p + j → followedBy n m (completion p j type) k = 0 := by
    intro j k above before
    by_cases below : k < n
    · rw [followedBy_below _ _ below, zeros k above below]
    · rw [followedBy_behind _ _ (Nat.le_of_not_lt below), completion, if_pos before]
  have one : ∀ j k, k + 1 = p + j → n ≤ k → followedBy n m (completion p j type) k = 1 := by
    intro j k last behind
    rw [followedBy_behind _ _ behind, completion, if_neg (by omega), if_pos last]
  have after : ∀ j, n ≤ p + j → followedBy n m (completion p j type) (p + j) = type := by
    intro j behind
    rw [followedBy_behind _ _ behind, completion, if_neg (by omega), if_neg (by omega)]
  by_cases three : n < p + 3 ∧ 3 < len
  · refine ⟨3, by omega, by omega, three.1, find_eq_some_iff.mpr ⟨.inl ⟨rfl, three.2,
      one 3 _ (by omega) (by omega)⟩, ?_, ?_⟩,
      after 3 (by omega)⟩
    · exact zero 3 _ (by omega) (by omega)
    · exact zero 3 _ (by omega) (by omega)
  · have four : n = p + 3 ∧ 4 < len := by omega
    refine ⟨4, by omega, by omega, by omega, find_eq_some_iff.mpr ⟨.inr ⟨rfl, four.2,
      zero 4 _ (by omega) (by omega),
      one 4 _ (by omega) (by omega)⟩, ?_, ?_⟩, after 4 (by omega)⟩
    · exact zero 4 _ (by omega) (by omega)
    · exact zero 4 _ (by omega) (by omega)

theorem open_silent (open_ : OpenEnd n m p len) {k : Nat} (above : p ≤ k) :
    followedBy n m (fun _ => 255) k ≠ 1 := by
  by_cases below : k < n
  · rw [followedBy_below _ _ below, open_.2 k above below]
    decide
  · rw [followedBy_behind _ _ (Nat.le_of_not_lt below)]
    decide

theorem find_silent (silent : ∀ k, p ≤ k → m k ≠ 1) : findStartCode m p len.toNat = none := by
  unfold findStartCode
  rw [if_neg fun short => silent (p + 2) (by omega) short.2.2.2,
    if_neg fun long => silent (p + 3) (by omega) long.2.2.2.2]

end Find

section Scan

variable {σ ρ β : Type} {hit : (Nat → Byte) → Nat → Nat → Int → σ → Except ρ σ}
  {inside : (Nat → Byte) → Nat → Nat → σ → Prop}
  {n : Nat} {size : Int} {m : Nat → Byte}

theorem scan_none {passes p : Nat} {len : Int} {s : σ} (missed : findStartCode m p len.toNat = none) :
    scan hit size m (passes + 1) p len s = scan hit size m passes (p + 1) len s := by
  rw [scan, missed]

theorem scan_ok {passes p j : Nat} {len : Int} {s s' : σ} (found : findStartCode m p len.toNat = some j)
    (on : hit m p j (s32 (size - p)) s = .ok s') :
    scan hit size m (passes + 1) p len s = scan hit size m passes (p + j + 1) (s32 (size - p)) s' := by
  rw [scan, found]
  simp only [on]

theorem scan_error {passes p j : Nat} {len : Int} {s : σ} {r : ρ}
    (found : findStartCode m p len.toNat = some j) (out : hit m p j (s32 (size - p)) s = .error r) :
    scan hit size m (passes + 1) p len s = .error r := by
  rw [scan, found]
  simp only [out]

theorem scan_silent (passes : Nat) (len : Int) (s : σ) {p : Nat} (silent : ∀ k, p ≤ k → m k ≠ 1) :
    scan hit size m passes p len s = .ok s := by
  induction passes generalizing p with
  | zero => rfl
  | succ passes ih =>
    rw [scan_none (find_silent silent)]
    exact ih fun k above => silent k (by omega)

theorem find_short {p : Nat} {len : Int} (short : len ≤ 3) : findStartCode m p len.toNat = none := by
  refine Option.eq_none_iff_forall_ne_some.mpr fun j found => ?_
  have bounds := (find_eq_some_iff.mp found).1
  omega

theorem scan_short (passes p : Nat) {len : Int} (s : σ) (short : len ≤ 3) :
    scan hit size m passes p len s = .ok s := by
  induction passes generalizing p with
  | zero => rfl
  | succ passes ih => rw [scan_none (find_short short), ih]

theorem closed_short (passes p : Nat) {len : Int} (s : σ) (short : len ≤ 3) :
    Closed hit inside n size m passes p len s := by
  induction passes generalizing p with
  | zero => trivial
  | succ passes ih =>
    refine ⟨fun open_ => ?_, ?_⟩
    · have bounds := open_.1
      omega
    · rw [find_short short]
      exact ih (p + 1)

def Settles (hit : (Nat → Byte) → Nat → Nat → Int → σ → Except ρ σ)
    (inside : (Nat → Byte) → Nat → Nat → σ → Prop) (n : Nat) (size : Int) (m : Nat → Byte) : Prop :=
  ∀ p j len s, findStartCode m p (Int.toNat len) = some j → p + j ≤ n → inside m p j s →
    Confined n (fun m => hit m p j (s32 (size - p)) s) m

-- The result tells a start code that is completed behind the data, and what is done outside.
structure Tells (g : Except ρ σ → β) (hit : (Nat → Byte) → Nat → Nat → Int → σ → Except ρ σ)
    (inside : (Nat → Byte) → Nat → Nat → σ → Prop) (n : Nat) (size : Int) (m : Nat → Byte) : Prop where
  completed : ∀ m' p j s, p ≤ n + 1 → n < p + j → 3 ≤ j → j ≤ 4 → m' (p + j) = 7 →
    ∃ r, hit m' p j (s32 (size - p)) s = .error r ∧ g (.error r) ≠ g (.ok s)
  outside : ∀ p j s, p + j ≤ n → 3 ≤ j → j ≤ 4 → ¬inside m p j s →
    ∃ m₁ m₂ r₁ r₂, SameBelow n m m₁ ∧ SameBelow n m m₂ ∧
    hit m₁ p j (s32 (size - p)) s = .error r₁ ∧ hit m₂ p j (s32 (size - p)) s = .error r₂ ∧
      g (.error r₁) ≠ g (.error r₂)

theorem scan_confined (settles : Settles hit inside n size m) (passes p : Nat) (len : Int) (s : σ)
    (closed : Closed hit inside n size m passes p len s) :
    Confined n (fun m => scan hit size m passes p len s) m := by
  intro m' same
  induction passes generalizing p len s with
  | zero => rfl
  | succ passes ih =>
    obtain ⟨settled, rest⟩ := closed
    have search := find_same same settled
    match found : findStartCode m p len.toNat with
    | none =>
      rw [found] at rest search
      exact (scan_none search).trans ((ih _ _ _ rest).trans (scan_none found).symm)
    | some j =>
      rw [found] at rest search
      have within := (find_inside settled found).1
      have alike := settles p j len s found within rest.1 m' same
      dsimp only at alike
      match done : hit m p j (s32 (size - p)) s with
      | .error r => exact (scan_error search (alike.trans done)).trans (scan_error found done).symm
      | .ok s' =>
        have rest := rest.2
        rw [done] at rest
        exact (scan_ok search (alike.trans done)).trans
          ((ih _ _ _ rest).trans (scan_ok found done).symm)

theorem scan_apart {g : Except ρ σ → β} (settles : Settles hit inside n size m)
    (tells : Tells g hit inside n size m) (passes p : Nat) (len : Int) (s : σ)
    (start : p ≤ n + 1 ∨ len ≤ 3) (open_ : ¬Closed hit inside n size m passes p len s) :
    ∃ m₁ m₂, SameBelow n m m₁ ∧ SameBelow n m m₂ ∧
      g (scan hit size m₁ passes p len s) ≠ g (scan hit size m₂ passes p len s) := by
  induction passes generalizing p len s with
  | zero => exact absurd trivial open_
  | succ passes ih =>
    by_cases settled : OpenEnd n m p len
    · have near : p ≤ n + 1 := by
        have bounds := settled.1
        omega
      obtain ⟨j, least, most, behind, found, type⟩ := find_completed settled 7
      obtain ⟨r, out, differ⟩ := tells.completed _ p j s near behind least most type
      refine ⟨_, _, sameBelow_followedBy n m (completion p j 7),
        sameBelow_followedBy n m fun _ => 255, ?_⟩
      rw [scan_error found out, scan_silent _ _ _ fun k above => open_silent settled above]
      exact differ
    · match found : findStartCode m p len.toNat with
      | none =>
        have rest : ¬Closed hit inside n size m passes (p + 1) len s := by
          intro rest
          refine open_ ⟨settled, ?_⟩
          rw [found]
          exact rest
        have next : p + 1 ≤ n + 1 ∨ len ≤ 3 := by
          by_contra far
          exact settled ⟨.inl (by omega), fun k above below => by omega⟩
        obtain ⟨m₁, m₂, same₁, same₂, differ⟩ := ih _ _ _ next rest
        refine ⟨m₁, m₂, same₁, same₂, ?_⟩
        rw [scan_none ((find_same same₁ settled).trans found),
          scan_none ((find_same same₂ settled).trans found)]
        exact differ
      | some j =>
        obtain ⟨within, least, most⟩ := find_inside settled found
        by_cases reads : inside m p j s
        · match done : hit m p j (s32 (size - p)) s with
          | .error r =>
            refine absurd ⟨settled, ?_⟩ open_
            rw [found]
            refine ⟨reads, ?_⟩
            rw [done]
            trivial
          | .ok s' =>
            have rest : ¬Closed hit inside n size m passes (p + j + 1) (s32 (size - p)) s' := by
              intro rest
              refine open_ ⟨settled, ?_⟩
              rw [found]
              refine ⟨reads, ?_⟩
              rw [done]
              exact rest
            obtain ⟨m₁, m₂, same₁, same₂, differ⟩ := ih _ _ _ (.inl (by omega)) rest
            have alike := settles p j len s found within reads
            refine ⟨m₁, m₂, same₁, same₂, ?_⟩
            rw [scan_ok ((find_same same₁ settled).trans found) ((alike m₁ same₁).trans done),
              scan_ok ((find_same same₂ settled).trans found) ((alike m₂ same₂).trans done)]
            exact differ
        · obtain ⟨m₁, m₂, r₁, r₂, same₁, same₂, out₁, out₂, differ⟩ :=
            tells.outside p j s within least most reads
          refine ⟨m₁, m₂, same₁, same₂, ?_⟩
          rw [scan_error ((find_same same₁ settled).trans found) out₁,
            scan_error ((find_same same₂ settled).trans found) out₂]
          exact differ

theorem scan_confined_iff {g : Except ρ σ → β} (settles : Settles hit inside n size m)
    (tells : Tells g hit inside n size m) (passes p : Nat) (len : Int) (s : σ)
    (start : p ≤ n + 1 ∨ len ≤ 3) :
    Confined n (fun m => g (scan hit size m passes p len s)) m ↔
      Closed hit inside n size m passes p len s := by
  constructor
  · intro confined
    by_contra open_
    obtain ⟨m₁, m₂, same₁, same₂, differ⟩ := scan_apart settles tells passes p len s start open_
    exact differ ((confined m₁ same₁).trans (confined m₂ same₂).symm)
  · intro closed m' same
    exact congrArg g (scan_confined settles passes p len s closed m' same)

theorem closed_error {p j : Nat} {len : Int} {s : σ} {r : ρ} (settled : ¬OpenEnd n m p len)
    (found : findStartCode m p len.toNat = some j) (reads : inside m p j s)
    (out : hit m p j (s32 (size - p)) s = .error r) (passes : Nat) :
    Closed hit inside n size m passes p len s := by
  cases passes with
  | zero => trivial
  | succ passes =>
    refine ⟨settled, ?_⟩
    rw [found]
    refine ⟨reads, ?_⟩
    rw [out]
    trivial

theorem closed_ahead (leaves : ∀ p j len s, ∃ r, hit m p j len s = .error r)
    (reads : ∀ p j s, p + 4 < n → findStartCode m p (7 : Int).toNat = some j → inside m p j s)
    (passes p : Nat) (s : σ) (ahead : passes ≠ 0 → p + passes + 4 ≤ n) :
    Closed hit inside n size m passes p 7 s := by
  induction passes generalizing p with
  | zero => trivial
  | succ passes ih =>
    have ahead := ahead (Nat.succ_ne_zero passes)
    refine ⟨fun open_ => ?_, ?_⟩
    · have bounds := open_.1
      omega
    · match found : findStartCode m p (7 : Int).toNat with
      | none => exact ih (p + 1) fun _ => by omega
      | some j =>
        obtain ⟨r, out⟩ := leaves p j (s32 (size - p)) s
        refine ⟨reads p j s (by omega) found, ?_⟩
        rw [out]
        trivial

end Scan

end UnionpiTiger.H264
