import UnionpiTiger.Scatter.LifeSteps

set_option autoImplicit false

namespace UnionpiTiger.Scatter

open Lib

namespace Managers

structure Fine (s : Managers) (handed : Finset Nat) : Prop where
  ok : ∀ tvp, (s tvp).Ok handed
  apart : ∀ tvp a, a ∈ (s tvp).made → a ∉ (s (!tvp)).made

def Same (s n : Managers) (a : Nat) : Prop := ∀ tvp, Life.Same (s tvp) (n tvp) a

variable {s n last : Managers} {handed : Finset Nat} {istvp tvp : Bool} {life : Life} {a mms : Nat}

theorem Same.refl (s : Managers) (a : Nat) : Same s s a := fun _ => .refl _ _

theorem Same.trans (first : Same s n a) (second : Same n last a) : Same s last a :=
  fun tvp => (first tvp).trans (second tvp)

theorem Same.update (same : Life.Same (s istvp) life a) : Same s (Function.update s istvp life) a := by
  intro tvp
  by_cases here : tvp = istvp
  · rw [here, Function.update_self]
    exact same
  · rw [Function.update_of_ne here]
    exact .refl _ _

theorem Fine.update (fine : s.Fine handed) (ok : life.Ok handed)
    (new : ∀ a ∈ life.made, a ∈ (s istvp).made ∨ a ∉ (s (!istvp)).made) :
    Fine (Function.update s istvp life) handed where
  ok tvp := by
    by_cases here : tvp = istvp
    · rw [here, Function.update_self]
      exact ok
    · rw [Function.update_of_ne here]
      exact fine.ok tvp
  apart tvp a there := by
    by_cases here : tvp = istvp
    · subst here
      rw [Function.update_self] at there
      rw [Function.update_of_ne (Bool.not_ne_self tvp)]
      exact (new a there).elim (fine.apart tvp a) id
    · have opposite : istvp = !tvp := Bool.eq_not.mpr (Ne.symm here)
      subst opposite
      rw [Function.update_of_ne here] at there
      rw [Function.update_self]
      intro back
      rw [Bool.not_not] at new
      rcases new a back with old | gone
      · exact fine.apart tvp a there old
      · exact gone there

theorem Fine.fewer (fine : s.Fine handed) (ok : life.Ok handed) (fewer : life.made ⊆ (s istvp).made) :
    Fine (Function.update s istvp life) handed := fine.update ok fun _ there => Or.inl (fewer there)

theorem room_fresh {given : Option Nat} (here : s.room given = some mms) : mms ∉ (s tvp).made := by
  obtain ⟨-, fresh⟩ := Option.filter_eq_some_iff.mp here
  obtain ⟨first, second⟩ := of_decide_eq_true fresh
  cases tvp
  · exact first
  · exact second

theorem Fine.decUserIn (fine : s.Fine handed) (mms : Nat) (cnt : Int) (tofree : Nat) :
    (s.decUserIn mms cnt tofree).1.Fine handed := by
  have step : ∀ {s : Managers} (tvp : Bool), s.Fine handed →
      Fine (Function.update s tvp ((s tvp).decUserIn1 mms cnt tofree).1) handed := fun tvp fine =>
    fine.fewer ((fine.ok tvp).decUserIn1 mms cnt tofree)
      (Finset.Subset.antisymm_iff.mp (Life.decUserIn1_fields _ mms cnt tofree).1).1
  unfold Managers.decUserIn
  dsimp only
  split
  · exact step true (step false fine)
  · exact step false fine

theorem decUserIn_same (other : a ≠ mms) (cnt : Int) (tofree : Nat) :
    Same s (s.decUserIn mms cnt tofree).1 a := by
  unfold decUserIn
  dsimp only
  split
  · exact (Same.update (Life.decUserIn1_same other cnt tofree)).trans
      (Same.update (Life.decUserIn1_same other cnt tofree))
  · exact Same.update (Life.decUserIn1_same other cnt tofree)

theorem decUserIn_caches (s : Managers) (mms : Nat) (cnt : Int) (tofree : Nat) (tvp : Bool) :
    ((s.decUserIn mms cnt tofree).1 tvp).cacheSc0 = (s tvp).cacheSc0 ∧
      ((s.decUserIn mms cnt tofree).1 tvp).cacheSc1 = (s tvp).cacheSc1 := by
  unfold decUserIn
  dsimp only
  have first := (Life.decUserIn1_fields (s false) mms cnt tofree).2
  have second := (Life.decUserIn1_fields (s true) mms cnt tofree).2
  split <;> cases tvp <;> simp [first, second]

theorem freeCache_same (fine : s.Fine handed) {jiffies : Nat} {cache : Option Nat}
    (other : ∀ mms, cache = some mms → a ≠ mms) :
    Same s (s.freeCache istvp jiffies cache) a := by
  cases cache with
  | none => exact .refl _ _
  | some mms =>
    have fine' := fine.decUserIn mms 1000 jiffies
    exact (decUserIn_same (other mms rfl) 1000 jiffies).trans
      (Same.update (Life.freeOnNouser_same (fine'.ok istvp) (other mms rfl)))

theorem Fine.freeCache (fine : s.Fine handed) {jiffies : Nat} {cache : Option Nat}
    (uncached : ∀ mms, cache = some mms → (s istvp).cacheSc0 ≠ some mms ∧
      (s istvp).cacheSc1 ≠ some mms) :
    (s.freeCache istvp jiffies cache).Fine handed := by
  cases cache with
  | none => exact fine
  | some mms =>
    have fine' := fine.decUserIn mms 1000 jiffies
    have caches := decUserIn_caches s mms 1000 jiffies istvp
    refine fine'.fewer ((fine'.ok istvp).freeOnNouser ?_) Life.freeOnNouser_made_subset
    rw [caches.1, caches.2]
    exact uncached mms rfl

theorem Fine.add (fine : s.Fine handed) {given : Option Nat} (here : s.room given = some mms)
    (made : life.made = insert mms (s istvp).made) (ok : life.Ok handed) :
    Fine (Function.update s istvp life) handed := by
  refine fine.update ok fun a there => ?_
  rw [made] at there
  rcases Finset.mem_insert.mp there with rfl | old
  · exact Or.inr (room_fresh here)
  · exact Or.inl old

theorem newCache_kept (fine : s.Fine handed) (known : ∀ a ∈ handed, ∃ tvp, a ∈ (s tvp).made)
    (given : Option Nat)
    (with_ : Life → Option Nat → Life) (nothing : with_ (s istvp) none = s istvp)
    (some_ : ∀ mms new, mms ∉ (s istvp).made → mms ∉ handed →
      (with_ ((s istvp).created mms new) (some mms)).Ok handed ∧
      (with_ ((s istvp).created mms new) (some mms)).made = insert mms (s istvp).made ∧
      ∀ a, a ≠ mms → Life.Same (s istvp) (with_ ((s istvp).created mms new) (some mms)) a) :
    let got := (s istvp).newCache (s.room given)
    Fine (Function.update s istvp (with_ got.1 got.2)) handed ∧
      ∀ a ∈ handed, Same s (Function.update s istvp (with_ got.1 got.2)) a := by
  have unlisted : ∀ mms, s.room given = some mms → mms ∉ (s istvp).scatterList := fun mms here there =>
    room_fresh here ((fine.ok istvp).listed mms there)
  rcases Life.newCache_cases unlisted with none_ | ⟨mms, here, new⟩
  · rw [none_]
    dsimp only
    rw [nothing, Function.update_eq_self]
    exact ⟨fine, fun a _ => .refl _ _⟩
  · rw [new]
    have unhanded : mms ∉ handed := fun there => by
      obtain ⟨tvp, made⟩ := known mms there
      exact room_fresh here made
    obtain ⟨ok, made, same⟩ :=
      some_ mms { userCnt := 1000, pageMaxCnt := 16384 } (room_fresh here) unhanded
    refine ⟨fine.add here made ok, fun a there => .update (same a ?_)⟩
    rintro rfl
    exact unhanded there

theorem known_of_same (known : ∀ a ∈ handed, ∃ tvp, a ∈ (s tvp).made)
    (same : ∀ a ∈ handed, Same s n a) :
    ∀ a ∈ handed, ∃ tvp, a ∈ (n tvp).made := by
  intro a there
  obtain ⟨tvp, made⟩ := known a there
  exact ⟨tvp, (same a there tvp).made.mpr made⟩

theorem freeCache_caches (jiffies : Nat) (cache : Option Nat) :
    ((s.freeCache istvp jiffies cache) istvp).cacheSc0 = (s istvp).cacheSc0 ∧
      ((s.freeCache istvp jiffies cache) istvp).cacheSc1 = (s istvp).cacheSc1 := by
  cases cache with
  | none => exact ⟨rfl, rfl⟩
  | some mms =>
    unfold freeCache
    dsimp only
    rw [Function.update_self]
    have caches := decUserIn_caches s mms 1000 jiffies istvp
    unfold Life.freeOnNouser
    split <;> exact caches

theorem Fine.scatterArrange_kept (fine : s.Fine handed) (known : ∀ a ∈ handed, ∃ tvp, a ∈ (s tvp).made)
    (delayFreeOn late : Bool) (jiffies : Nat) (given0 given1 : Option Nat) :
    (s.scatterArrange istvp delayFreeOn late jiffies given0 given1).Fine handed ∧
      ∀ a ∈ handed, Same s (s.scatterArrange istvp delayFreeOn late jiffies given0 given1) a := by
  unfold scatterArrange
  split
  · split
    · dsimp only
      obtain ⟨fine0, same0⟩ := newCache_kept fine known given0
        (fun life mms => { life with cacheSc0 := mms.or life.cacheSc0 }) rfl
        fun mms new fresh unhanded => ⟨(fine.ok istvp).cache0 fresh unhanded new, rfl, fun a other =>
          { Life.created_same other new with }⟩
      obtain ⟨fine1, same1⟩ := newCache_kept fine0 (known_of_same known same0) given1
        (fun life mms => { life with cacheSc1 := mms.or life.cacheSc1 }) rfl
        fun mms new fresh unhanded => ⟨(fine0.ok istvp).cache1 fresh unhanded new, rfl, fun a other =>
          { Life.created_same other new with }⟩
      exact ⟨fine1, fun a there => (same0 a there).trans (same1 a there)⟩
    · exact ⟨fine, fun a _ => .refl _ _⟩
  · split
    · dsimp only
      have ok : Life.Ok { s istvp with cacheSc0 := none, cacheSc1 := none } handed :=
        { fine.ok istvp with
          cached := fun a here => here.elim nofun nofun
          apart := nofun }
      have start := fine.fewer ok (Finset.Subset.refl _)
      have moved : ∀ a, Same s (Function.update s istvp { s istvp with cacheSc0 := none, cacheSc1 := none }) a :=
        fun a => .update ⟨Iff.rfl, Iff.rfl, rfl, Iff.rfl⟩
      have unhanded : ∀ mms, (s istvp).cacheSc0 = some mms ∨ (s istvp).cacheSc1 = some mms →
          mms ∉ handed :=
        fun mms here => ((fine.ok istvp).cached mms here).2.1
      have first : Fine (Managers.freeCache
          (Function.update s istvp { s istvp with cacheSc0 := none, cacheSc1 := none })
          istvp jiffies (s istvp).cacheSc0) handed := start.freeCache fun mms _ => by
        rw [Function.update_self]
        exact ⟨nofun, nofun⟩
      refine ⟨first.freeCache fun mms _ => ?_, fun a there => ?_⟩
      · rw [(freeCache_caches _ _).1, (freeCache_caches _ _).2, Function.update_self]
        exact ⟨nofun, nofun⟩
      · refine (moved a).trans ((freeCache_same start fun mms here => ?_).trans
          (freeCache_same first fun mms here => ?_))
        · rintro rfl
          exact unhanded a (Or.inl here) there
        · rintro rfl
          exact unhanded a (Or.inr here) there
    · exact ⟨fine, fun a _ => .refl _ _⟩

theorem Fine.dropCache_kept (fine : s.Fine handed) (jiffies : Nat) :
    (s.dropCache istvp jiffies).Fine handed ∧ ∀ a ∈ handed, Same s (s.dropCache istvp jiffies) a := by
  unfold dropCache
  dsimp only
  have ok : Life.Ok { s istvp with cacheSc0 := (s istvp).cacheSc1, cacheSc1 := none } handed :=
    { fine.ok istvp with
      cached := fun a here => (fine.ok istvp).cached a (Or.inr (here.resolve_right nofun))
      apart := nofun }
  have start := fine.fewer ok (Finset.Subset.refl _)
  refine ⟨start.freeCache fun mms here => ?_, fun a there => ?_⟩
  · rw [Function.update_self]
    exact ⟨(fine.ok istvp).apart mms here, nofun⟩
  · have moved : Same s (Function.update s istvp
        { s istvp with cacheSc0 := (s istvp).cacheSc1, cacheSc1 := none }) a :=
      .update ⟨Iff.rfl, Iff.rfl, rfl, Iff.rfl⟩
    refine moved.trans (freeCache_same start fun mms here => ?_)
    rintro rfl
    exact ((fine.ok istvp).cached a (Or.inl here)).2.1 there

theorem Fine.scatterClear_kept (fine : s.Fine handed) (force delayFreeOn : Bool) (jiffies : Nat)
    (less : Nat → Bool) :
    (s.scatterClear istvp force delayFreeOn jiffies less).1.Fine handed ∧ ∀ a ∈ handed,
      Same s (s.scatterClear istvp force delayFreeOn jiffies less).1 a ∨
        (∀ tvp, a ∉ ((s.scatterClear istvp force delayFreeOn jiffies less).1 tvp).made) ∧
          a ∈ (s istvp).made ∧
          ((s istvp).mms a).userCnt = 0 := by
  unfold scatterClear
  dsimp only
  rcases Life.scatterClear_cases (s istvp) force delayFreeOn jiffies less with same | ⟨mms,
    there, zero, freed⟩
  · rw [same, Function.update_eq_self]
    exact ⟨fine, fun a _ => Or.inl (.refl _ _)⟩
  · have ok : Life.Ok { (s istvp).setUserCnt mms (-100000) with
        scatterList := (s istvp).scatterList.erase mms } handed :=
      { fine.ok istvp with
        nodup := (fine.ok istvp).nodup.erase mms
        listed := fun a here => (fine.ok istvp).listed a (List.mem_of_mem_erase here)
        cached := fun a here => by
          obtain ⟨made, unhanded, unlisted⟩ := (fine.ok istvp).cached a here
          exact ⟨made, unhanded, fun there => unlisted (List.mem_of_mem_erase there)⟩ }
    have uncached : (s istvp).cacheSc0 ≠ some mms ∧ (s istvp).cacheSc1 ≠ some mms :=
      ⟨fun here => ((fine.ok istvp).cached mms (Or.inl here)).2.2 there,
        fun here => ((fine.ok istvp).cached mms (Or.inr here)).2.2 there⟩
    rw [freed]
    refine ⟨fine.fewer (ok.freeOnNouser uncached) Life.freeOnNouser_made_subset, fun a _ => ?_⟩
    by_cases other : a = mms
    · have made := (fine.ok istvp).listed mms there
      refine Or.inr ⟨fun tvp => ?_, other ▸ made, other ▸ zero⟩
      by_cases own : tvp = istvp
      · rw [own, Function.update_self, Life.freeOnNouser, if_neg (by simp [Life.setUserCnt]), other]
        exact Finset.notMem_erase _ _
      · rw [Function.update_of_ne own, other, Bool.eq_not.mpr own]
        exact fine.apart istvp mms made
    · refine Or.inl (.update (Life.Same.trans ?_ (Life.freeOnNouser_same ok other)))
      exact ⟨Iff.rfl, Iff.rfl, Function.update_of_ne other _ _, List.mem_erase_of_ne other⟩

theorem alloc_eq {maxPage pageNum got : Int} {given returned : Option Nat}
    (alloc : (s istvp).alloc maxPage pageNum (s.room given) got = (life, returned)) :
    s.alloc istvp maxPage pageNum given got = (Function.update s istvp life, returned) := by
  unfold Managers.alloc
  rw [alloc]

theorem Fine.unregistered (fine : s.Fine handed) (there : (s tvp).valid mms) :
    ¬ (s (!tvp)).valid mms := by
  intro back
  have made := (fine.ok tvp).mapped mms (Life.valid_iff.mp there)
  exact fine.apart tvp mms made ((fine.ok (!tvp)).mapped mms (Life.valid_iff.mp back))

theorem Fine.incUserIn_eq (fine : s.Fine handed) (there : (s tvp).valid mms)
    (positive : 0 ≤ ((s tvp).mms mms).userCnt) (cnt : Int) (jiffies : Nat) :
    ∃ new : MmScatter, new.userCnt = s32 (((s tvp).mms mms).userCnt + cnt) ∧
      (0 ≤ new.userCnt → s.incUserIn mms cnt jiffies =
        (Function.update s tvp { s tvp with mms := Function.update (s tvp).mms mms new }, 0)) ∧
      (new.userCnt < 0 → (s.incUserIn mms cnt jiffies).2 < 0) := by
  have gone := fine.unregistered there
  have here : ∃ new : MmScatter, new.userCnt = s32 (((s tvp).mms mms).userCnt + cnt) ∧
      (s tvp).incUserIn1 mms cnt jiffies = ({ s tvp with mms := Function.update (s tvp).mms mms new },
        if new.userCnt ≤ 0 then new.userCnt else 0) := by
    unfold Life.incUserIn1
    rw [if_pos there]
    exact ⟨_, rfl, if_pos positive⟩
  obtain ⟨new, userCnt, here⟩ := here
  refine ⟨new, userCnt, ?_⟩
  have zero : 0 ≤ new.userCnt → (if new.userCnt ≤ 0 then new.userCnt else 0) = 0 := by
    intro nonneg
    split <;> omega
  unfold Managers.incUserIn
  cases tvp with
  | false =>
    have not_there : ∀ life : Managers, life true = s true →
        (life true).incUserIn1 mms cnt jiffies = (s true, -1) := by
      intro life same
      rw [same]
      exact if_neg gone
    rw [here]
    constructor
    · intro nonneg
      dsimp only
      rw [zero nonneg]
      exact if_neg (by decide)
    · intro negative
      dsimp only
      rw [if_pos (show (if new.userCnt ≤ 0 then new.userCnt else 0) <
        0 by rw [if_pos (by omega)]; exact negative),
        not_there _ (Function.update_of_ne (by decide) _ _)]
      exact (by decide : (-1 : Int) < 0)
  | true =>
    have not_here : (s false).incUserIn1 mms cnt jiffies = (s false, -1) := if_neg gone
    rw [not_here]
    dsimp only
    rw [if_pos (by decide), Function.update_eq_self, here]
    constructor
    · intro nonneg
      dsimp only
      rw [zero nonneg]
    · intro negative
      dsimp only
      rw [if_pos (by omega)]
      exact negative

theorem Fine.decUserIn_eq (fine : s.Fine handed) (there : (s tvp).valid mms)
    (used : 1 ≤ ((s tvp).mms mms).userCnt) (cnt : Int) (tofree : Nat) :
    ∃ new : MmScatter, new.userCnt = s32 (((s tvp).mms mms).userCnt - cnt) ∧
      s.decUserIn mms cnt tofree =
        (Function.update s tvp { s tvp with mms := Function.update (s tvp).mms mms new }, 0) := by
  have gone := fine.unregistered there
  have here : ∃ new : MmScatter, new.userCnt = s32 (((s tvp).mms mms).userCnt - cnt) ∧
      (s tvp).decUserIn1 mms cnt tofree =
        ({ s tvp with mms := Function.update (s tvp).mms mms new }, 0) := by
    unfold Life.decUserIn1
    rw [if_pos there, if_pos used]
    exact ⟨_, rfl, rfl⟩
  obtain ⟨new, userCnt, here⟩ := here
  refine ⟨new, userCnt, ?_⟩
  unfold Managers.decUserIn
  cases tvp with
  | false =>
    rw [here]
    exact if_neg (by decide)
  | true =>
    have not_here : (s false).decUserIn1 mms cnt tofree = (s false, -1) := if_neg gone
    rw [not_here]
    dsimp only
    rw [if_pos (by decide), Function.update_eq_self, here]

end Managers

end UnionpiTiger.Scatter
