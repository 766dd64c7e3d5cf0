import Mathlib.Data.Finset.Option
import UnionpiTiger.Scatter.Life

set_option autoImplicit false

namespace UnionpiTiger.Scatter

section

variable {old new : Option Nat} {scmap : List (Option Nat)} {mms other : Nat}

theorem replaceFirst_perm (there : old ∈ scmap) :
    (replaceFirst old new scmap).Perm (new :: scmap.erase old) := by
  induction scmap with
  | nil => cases there
  | cons entry rest ih =>
    unfold replaceFirst
    by_cases same : entry = old
    · rw [if_pos same, same, List.erase_cons_head]
    · rw [if_neg same, List.erase_cons_tail (by simpa using same)]
      have later := (List.mem_cons.mp there).resolve_left (Ne.symm same)
      exact ((ih later).cons entry).trans (List.Perm.swap _ _ _)

theorem replaceFirst_of_not_mem (gone : old ∉ scmap) : replaceFirst old new scmap = scmap := by
  induction scmap with
  | nil => rfl
  | cons entry rest ih =>
    obtain ⟨other, later⟩ := not_or.mp (List.mem_cons.not.mp gone)
    unfold replaceFirst
    rw [if_neg (Ne.symm other), ih later]

theorem mem_mapAdd :
    some other ∈ mapAdd scmap mms ↔ some other ∈ scmap ∨ other = mms ∧ none ∈ scmap := by
  by_cases room : none ∈ scmap
  · rw [mapAdd, (replaceFirst_perm room).mem_iff, List.mem_cons, Option.some_inj,
      List.mem_erase_of_ne (Option.some_ne_none other)]
    simp only [room, and_true]
    exact or_comm
  · rw [mapAdd, replaceFirst_of_not_mem room]
    simp only [room, and_false, or_false]

theorem count_mapAdd (fresh : some mms ∉ scmap) (once : ∀ a, scmap.count (some a) ≤ 1) (a : Nat) :
    (mapAdd scmap mms).count (some a) ≤ 1 := by
  by_cases room : none ∈ scmap
  · rw [mapAdd, (replaceFirst_perm room).count_eq, List.count_cons,
      List.count_erase_of_ne (Option.some_ne_none a)]
    have before := once a
    split
    · next same =>
      rw [← beq_iff_eq.mp same, List.count_eq_zero.mpr fresh]
    · exact before
  · rw [mapAdd, replaceFirst_of_not_mem room]
    exact once a

theorem mem_mapDel (once : ∀ a, scmap.count (some a) ≤ 1) :
    some other ∈ mapDel scmap mms ↔ some other ∈ scmap ∧ other ≠ mms := by
  by_cases there : some mms ∈ scmap
  · rw [mapDel, (replaceFirst_perm there).mem_iff, List.mem_cons,
      or_iff_right (Option.some_ne_none other)]
    by_cases same : other = mms
    · rw [same, ← List.count_pos_iff, List.count_erase_self]
      have before := once mms
      exact iff_of_false (by omega) fun both => both.2 rfl
    · rw [List.mem_erase_of_ne fun eq => same (Option.some.inj eq)]
      exact (and_iff_left same).symm
  · rw [mapDel, replaceFirst_of_not_mem there]
    exact (and_iff_left_of_imp fun (here : some other ∈ scmap) (same : other = mms) =>
      there (same ▸ here)).symm

theorem count_mapDel (once : ∀ a, scmap.count (some a) ≤ 1) (a : Nat) :
    (mapDel scmap mms).count (some a) ≤ 1 := by
  by_cases there : some mms ∈ scmap
  · rw [mapDel, (replaceFirst_perm there).count_eq, List.count_cons, if_neg (by simp)]
    exact (List.Sublist.count_le _ List.erase_sublist).trans (once a)
  · rw [mapDel, replaceFirst_of_not_mem there]
    exact once a

end

structure Life.Lives (life : Life) (mms owners keepers : Nat) : Prop where
  made : mms ∈ life.made
  registered : life.valid mms
  userCnt : (life.mms mms).userCnt = 1000 * owners + 100 * keepers
  reached : (life.mms mms).userCnt = 0 → mms ∈ life.scatterList

namespace Life

structure Ok (life : Life) (handed : Finset Nat) : Prop where
  mapped : ∀ a, some a ∈ life.scmap → a ∈ life.made
  once : ∀ a, life.scmap.count (some a) ≤ 1
  nodup : life.scatterList.Nodup
  listed : ∀ a ∈ life.scatterList, a ∈ life.made
  cached : ∀ a, life.cacheSc0 = some a ∨ life.cacheSc1 = some a →
    a ∈ life.made ∧ a ∉ handed ∧ a ∉ life.scatterList
  apart : ∀ a, life.cacheSc0 = some a → life.cacheSc1 ≠ some a

structure Same (life next : Life) (a : Nat) : Prop where
  made : a ∈ next.made ↔ a ∈ life.made
  scmap : some a ∈ next.scmap ↔ some a ∈ life.scmap
  mms : next.mms a = life.mms a
  listed : a ∈ next.scatterList ↔ a ∈ life.scatterList

variable {life next last : Life} {handed : Finset Nat} {a b mms owners keepers : Nat}

theorem Same.refl (life : Life) (a : Nat) : Same life life a := ⟨Iff.rfl, Iff.rfl, rfl, Iff.rfl⟩

theorem Same.trans (first : Same life next a) (second : Same next last a) : Same life last a :=
  ⟨second.made.trans first.made, second.scmap.trans first.scmap, second.mms.trans first.mms,
    second.listed.trans first.listed⟩

theorem valid_iff : life.valid a ↔ some a ∈ life.scmap := decide_eq_true_iff

theorem Lives.same (lives : life.Lives a owners keepers) (same : Same life next a) :
    next.Lives a owners keepers where
  made := same.made.mpr lives.made
  registered := valid_iff.mpr (same.scmap.mpr (valid_iff.mp lives.registered))
  userCnt := same.mms ▸ lives.userCnt
  reached zero := same.listed.mpr (lives.reached (same.mms ▸ zero))

theorem same_of_mms (other : a ≠ mms) (new : MmScatter) :
    Same life { life with mms := Function.update life.mms mms new } a :=
  ⟨Iff.rfl, Iff.rfl, Function.update_of_ne other _ _, Iff.rfl⟩

theorem decUserIn1_same (other : a ≠ mms) (cnt : Int) (tofree : Nat) :
    Same life (life.decUserIn1 mms cnt tofree).1 a := by
  unfold decUserIn1
  split
  · split
    · exact same_of_mms other _
    · exact .refl _ _
  · exact .refl _ _

theorem Ok.decUserIn1 (ok : life.Ok handed) (mms : Nat) (cnt : Int) (tofree : Nat) :
    (life.decUserIn1 mms cnt tofree).1.Ok handed := by
  unfold Life.decUserIn1
  split
  · split
    · exact { ok with }
    · exact ok
  · exact ok

theorem decUserIn1_fields (life : Life) (mms : Nat) (cnt : Int) (tofree : Nat) :
    (life.decUserIn1 mms cnt tofree).1.made = life.made ∧
      (life.decUserIn1 mms cnt tofree).1.cacheSc0 = life.cacheSc0 ∧
      (life.decUserIn1 mms cnt tofree).1.cacheSc1 = life.cacheSc1 := by
  unfold decUserIn1
  split
  · split <;> exact ⟨rfl, rfl, rfl⟩
  · exact ⟨rfl, rfl, rfl⟩

theorem freeOnNouser_same (ok : life.Ok handed) (other : a ≠ mms) :
    Same life (life.freeOnNouser mms) a := by
  unfold freeOnNouser
  split
  · exact .refl _ _
  · exact ⟨Finset.mem_erase.trans (and_iff_right other),
      (mem_mapDel ok.once).trans (and_iff_left other), rfl,
      List.mem_erase_of_ne other⟩

theorem freeOnNouser_made_subset : (life.freeOnNouser mms).made ⊆ life.made := by
  unfold freeOnNouser
  split
  · exact Finset.Subset.refl _
  · exact Finset.erase_subset _ _

theorem Ok.freeOnNouser (ok : life.Ok handed)
    (uncached : life.cacheSc0 ≠ some mms ∧ life.cacheSc1 ≠ some mms) :
    (life.freeOnNouser mms).Ok handed := by
  unfold Life.freeOnNouser
  split
  · exact ok
  · exact
      { mapped := fun b there => by
          obtain ⟨there, other⟩ := (mem_mapDel ok.once).mp there
          exact Finset.mem_erase.mpr ⟨other, ok.mapped b there⟩
        once := count_mapDel ok.once
        nodup := ok.nodup.erase _
        listed := fun b there => by
          refine Finset.mem_erase.mpr ⟨?_, ok.listed b (List.mem_of_mem_erase there)⟩
          rintro rfl
          exact ok.nodup.not_mem_erase there
        cached := fun b cached => by
          obtain ⟨made, unhanded, unlisted⟩ := ok.cached b cached
          refine ⟨Finset.mem_erase.mpr ⟨?_, made⟩, unhanded,
            fun there => unlisted (List.mem_of_mem_erase there)⟩
          rintro rfl
          exact cached.elim uncached.1 uncached.2
        apart := ok.apart }

def created (life : Life) (mms : Nat) (new : MmScatter) : Life :=
  { life with
    mms := Function.update life.mms mms new
    made := insert mms life.made
    scattersCnt := life.scattersCnt + 1
    scmap := mapAdd life.scmap mms }

theorem created_same (other : a ≠ mms) (new : MmScatter) : Same life (life.created mms new) a :=
  ⟨Finset.mem_insert.trans (or_iff_right other),
    mem_mapAdd.trans (or_iff_left fun both => other both.1),
    Function.update_of_ne other _ _, Iff.rfl⟩

theorem Ok.created (ok : life.Ok handed) (fresh : mms ∉ life.made) (new : MmScatter) :
    (life.created mms new).Ok handed where
  mapped b there := by
    rcases mem_mapAdd.mp there with old | ⟨rfl, -⟩
    · exact Finset.mem_insert_of_mem (ok.mapped b old)
    · exact Finset.mem_insert_self _ _
  once := count_mapAdd (fun there => fresh (ok.mapped mms there)) ok.once
  nodup := ok.nodup
  listed b there := Finset.mem_insert_of_mem (ok.listed b there)
  cached b cached := by
    obtain ⟨made, rest⟩ := ok.cached b cached
    exact ⟨Finset.mem_insert_of_mem made, rest⟩
  apart := ok.apart

theorem allocNew_cases (life : Life) (maxPage : Int) (room : Option Nat) :
    (life.allocNew maxPage room = (life, none) ∧ (room = none ∨ maxPage < 0)) ∨
      ∃ mms, room = some mms ∧ 0 ≤ maxPage ∧ life.allocNew maxPage room =
        ({ life.created mms { userCnt := 1000, pageMaxCnt := maxPage } with
            scatterList := life.scatterList ++ [mms] }, some mms) := by
  cases room with
  | none => exact Or.inl ⟨rfl, Or.inl rfl⟩
  | some mms =>
    unfold allocNew
    by_cases negative : maxPage < 0
    · exact Or.inl ⟨if_pos negative, Or.inr negative⟩
    · exact Or.inr ⟨mms, rfl, Int.not_lt.mp negative, if_neg negative⟩

theorem newCache_cases {room : Option Nat}
    (unlisted : ∀ mms, room = some mms → mms ∉ life.scatterList) :
    life.newCache room = (life, none) ∨ ∃ mms, room = some mms ∧
      life.newCache room = (life.created mms { userCnt := 1000, pageMaxCnt := 16384 }, some mms) := by
  unfold newCache
  rcases allocNew_cases life 16384 room with ⟨new, -⟩ | ⟨mms, here, -, new⟩
  · rw [new]
    exact Or.inl rfl
  · rw [new]
    refine Or.inr ⟨mms, here, ?_⟩
    dsimp only
    rw [List.erase_append_right _ (unlisted mms here), List.erase_cons_head, List.append_nil]
    rfl

end Life

namespace Life

variable {life : Life} {handed : Finset Nat} {a b mms : Nat} {maxPage pageNum got : Int}

theorem scan_mem {less : Nat → Bool} {toFree : Option Nat} {cnt : Nat} {list : List Nat}
    (found : (life.scan less toFree cnt list).1 = some a) : toFree = some a ∨ a ∈ list := by
  induction list generalizing toFree cnt with
  | nil => exact Or.inl found
  | cons head rest ih =>
    unfold scan at found
    dsimp only at found
    have now : ∀ {next : Option Nat} {n : Nat}, (if (life.mms head).userCnt = 0 then
        (if (toFree.all fun other => (life.mms head).tofreeJiffies <
          (life.mms other).tofreeJiffies) = true
          then some head else toFree, cnt + 1) else (toFree, cnt)) = (next, n) →
        next = some a → toFree = some a ∨ a ∈ head :: rest := by
      intro next n same here
      split at same
      · split at same
        · cases same
          cases here
          exact Or.inr List.mem_cons_self
        · cases same
          exact Or.inl here
      · cases same
        exact Or.inl here
    split at found
    · exact now rfl found
    · rcases ih found with here | later
      · exact now rfl here
      · exact Or.inr (List.mem_cons_of_mem _ later)

theorem setUserCnt_same (other : a ≠ mms) (userCnt : Int) : Same life (life.setUserCnt mms userCnt) a :=
  same_of_mms other _

theorem scatterClear_cases (life : Life) (force delayFreeOn : Bool) (jiffies : Nat)
    (less : Nat → Bool) :
    (life.scatterClear force delayFreeOn jiffies less).1 = life ∨
      ∃ mms ∈ life.scatterList, (life.mms mms).userCnt = 0 ∧
        (life.scatterClear force delayFreeOn jiffies less).1 =
          ({ life.setUserCnt mms (-100000) with scatterList := life.scatterList.erase mms }.freeOnNouser mms) := by
  unfold scatterClear
  split
  · exact Or.inl rfl
  · next mms cnt lessPage found =>
    split
    · dsimp only
      split
      · exact Or.inl rfl
      · next zero =>
        have none_ : (life.mms mms).userCnt = 0 := by omega
        have first : (life.scan less none 0 life.scatterList).1 = some mms := by rw [found]
        have there := (scan_mem first).resolve_left nofun
        refine Or.inr ⟨mms, there, none_, ?_⟩
        rw [none_]
        rfl
    · exact Or.inl rfl

theorem wantPagesIn_neg : life.wantPagesIn mms pageNum got < 0 ↔
    (life.mms mms).pageMaxCnt < pageNum ∨ got < 0 := by
  unfold wantPagesIn
  split
  · next exceeds => exact iff_of_true (by decide) (Or.inl exceeds)
  · next within =>
    rw [or_iff_right within]
    split
    · exact Iff.rfl
    · next some_ => exact iff_of_false (by decide) (by omega)

theorem findFree_spec (found : life.findFree maxPage = some mms) :
    mms ∈ life.scatterList ∧ maxPage ≤ (life.mms mms).pageMaxCnt ∧ (life.mms mms).userCnt = 0 :=
  ⟨List.mem_reverse.mp (List.mem_of_find?_eq_some found),
    of_decide_eq_true (List.find?_some (p := fun mms => decide (maxPage ≤ (life.mms mms).pageMaxCnt ∧
      (life.mms mms).userCnt = 0)) found)⟩

theorem alloc_again (pageNum got : Int) (room : Option Nat) (found : life.findFree maxPage = some mms) :
    life.alloc maxPage pageNum room got =
    if (life.mms mms).pageMaxCnt < pageNum ∨ got < 0 then (life.setUserCnt mms 0, none)
    else (life.setUserCnt mms 1000, some mms) := by
  unfold alloc pick
  rw [found]
  dsimp only
  have same : (((life.setUserCnt mms 1000).mms mms).pageMaxCnt < pageNum ∨ got < 0) ↔
      ((life.mms mms).pageMaxCnt < pageNum ∨ got < 0) := by
    simp [setUserCnt]
  by_cases lost : (life.mms mms).pageMaxCnt < pageNum ∨ got < 0
  · rw [if_pos (wantPagesIn_neg.mpr (same.mpr lost)), if_pos lost]
    simp [setUserCnt]
  · rw [if_neg fun negative => lost (same.mp (wantPagesIn_neg.mp negative)), if_neg lost]

theorem setUserCnt_zero (zero : (life.mms mms).userCnt = 0) : life.setUserCnt mms 0 = life := by
  have same : ({ life.mms mms with userCnt := 0 } : MmScatter) = life.mms mms := by
    rw [← zero]
  unfold setUserCnt
  rw [same, Function.update_eq_self]

theorem alloc_new (pageNum got : Int) (room : Option Nat) (found : life.findFree maxPage = none) :
    (life.alloc maxPage pageNum room got = (life, none) ∧ (room = none ∨ maxPage < 0)) ∨
      ∃ mms, room = some mms ∧ 0 ≤ maxPage ∧ life.alloc maxPage pageNum room got =
        if maxPage < pageNum ∨ got < 0 then
          ({ life.created mms { pageMaxCnt := maxPage } with scatterList :=
            life.scatterList ++ [mms] }, none)
        else
          ({ life.created mms { userCnt := 1000, pageMaxCnt := maxPage } with
              scatterList := life.scatterList ++ [mms] }, some mms) := by
  unfold alloc pick
  rw [found]
  dsimp only
  rcases allocNew_cases life maxPage room with ⟨new, why⟩ | ⟨mms, here, fits, new⟩
  · rw [new]
    exact Or.inl ⟨rfl, why⟩
  · rw [new]
    refine Or.inr ⟨mms, here, fits, ?_⟩
    dsimp only
    have same : ∀ {life : Life}, (life.mms mms).pageMaxCnt = maxPage →
        (life.wantPagesIn mms pageNum got < 0 ↔ maxPage < pageNum ∨ got < 0) := by
      intro life cnt
      rw [wantPagesIn_neg, cnt]
    by_cases lost : maxPage < pageNum ∨ got < 0
    · rw [if_pos ((same (by simp [created])).mpr lost), if_pos lost]
      simp [setUserCnt, created]
    · rw [if_neg fun negative => lost ((same (by simp [created])).mp negative), if_neg lost]

theorem Ok.listed_new (ok : life.Ok handed) (made : mms ∈ life.made) (fresh : mms ∉ life.scatterList)
    (uncached : life.cacheSc0 ≠ some mms ∧ life.cacheSc1 ≠ some mms) :
    { life with scatterList := life.scatterList ++ [mms] }.Ok handed :=
  { ok with
    nodup := List.nodup_append.mpr ⟨ok.nodup, List.nodup_singleton mms, by
      rintro a there _ here rfl
      exact fresh (List.mem_singleton.mp here ▸ there)⟩
    listed := fun a there => by
      rcases List.mem_append.mp there with old | new
      · exact ok.listed a old
      · exact List.mem_singleton.mp new ▸ made
    cached := fun a cached => by
      obtain ⟨made, unhanded, unlisted⟩ := ok.cached a cached
      refine ⟨made, unhanded, fun there => ?_⟩
      rcases List.mem_append.mp there with old | new
      · exact unlisted old
      · exact (List.mem_singleton.mp new ▸ cached).elim uncached.1 uncached.2 }

theorem Ok.joined (ok : life.Ok handed) (fresh : mms ∉ life.made) (new : MmScatter) :
    { life.created mms new with scatterList := life.scatterList ++ [mms] }.Ok handed :=
  (ok.created fresh new).listed_new (Finset.mem_insert_self _ _) (fun there =>
    fresh (ok.listed mms there))
    ⟨fun cached => fresh (ok.cached mms (Or.inl cached)).1,
      fun cached => fresh (ok.cached mms (Or.inr cached)).1⟩

theorem joined_same (other : a ≠ mms) (new : MmScatter) :
    Same life { life.created mms new with scatterList := life.scatterList ++ [mms] } a :=
  { created_same other new with
    listed := by rw [List.mem_append, List.mem_singleton, or_iff_left other] }

theorem Ok.cache0 (ok : life.Ok handed) (fresh : mms ∉ life.made) (unhanded : mms ∉ handed)
    (new : MmScatter) :
    { life.created mms new with cacheSc0 := some mms }.Ok handed :=
  { ok.created fresh new with
    cached := fun a cached => by
      rcases cached with here | other
      · cases here
        exact ⟨Finset.mem_insert_self _ _, unhanded, fun there => fresh (ok.listed mms there)⟩
      · exact (ok.created fresh new).cached a (Or.inr other)
    apart := fun a here other => by
      cases here
      exact fresh (ok.cached mms (Or.inr other)).1 }

theorem Ok.cache1 (ok : life.Ok handed) (fresh : mms ∉ life.made) (unhanded : mms ∉ handed)
    (new : MmScatter) :
    { life.created mms new with cacheSc1 := some mms }.Ok handed :=
  { ok.created fresh new with
    cached := fun a cached => by
      rcases cached with other | here
      · exact (ok.created fresh new).cached a (Or.inl other)
      · cases here
        exact ⟨Finset.mem_insert_self _ _, unhanded, fun there => fresh (ok.listed mms there)⟩
    apart := fun a other here => by
      cases here
      exact fresh (ok.cached mms (Or.inl other)).1 }

end Life
theorem Life.Ok.mono {life : Life} {big small : Finset Nat} (ok : life.Ok big) (sub : small ⊆ big) :
    life.Ok small :=
  { ok with cached := fun a cached =>
      ⟨(ok.cached a cached).1, fun there => (ok.cached a cached).2.1 (sub there),
        (ok.cached a cached).2.2⟩ }

end UnionpiTiger.Scatter
