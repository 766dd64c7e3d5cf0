import Mathlib.Data.Finset.Basic
import Mathlib.Data.List.Basic
import UnionpiTiger.Lib.Words

set_option autoImplicit false

namespace UnionpiTiger.Scatter

open Lib

def maxScList : Nat := 64

structure MmScatter where
  userCnt : Int := 0
  pageMaxCnt : Int := 0
  tofreeJiffies : Nat := 0

structure Life where
  mms : Nat → MmScatter := fun _ => {}
  made : Finset Nat := ∅
  scatterList : List Nat := []
  scmap : List (Option Nat) := List.replicate maxScList none
  scattersCnt : Int := 0
  cacheSc0 : Option Nat := none
  cacheSc1 : Option Nat := none

def replaceFirst (old new : Option Nat) : List (Option Nat) → List (Option Nat)
  | [] => []
  | entry :: rest => if entry = old then new :: rest else entry :: replaceFirst old new rest

def mapAdd (scmap : List (Option Nat)) (mms : Nat) : List (Option Nat) :=
  replaceFirst none (some mms) scmap

def mapDel (scmap : List (Option Nat)) (mms : Nat) : List (Option Nat) :=
  replaceFirst (some mms) none scmap

namespace Life

def valid (s : Life) (mms : Nat) : Bool := some mms ∈ s.scmap

def setUserCnt (s : Life) (mms : Nat) (userCnt : Int) : Life :=
  { s with mms := Function.update s.mms mms { s.mms mms with userCnt } }

def incUserIn1 (s : Life) (mms : Nat) (cnt : Int) (jiffies : Nat) : Life × Int :=
  if s.valid mms then
    let oldUser := (s.mms mms).userCnt
    if oldUser ≥ 0 then
      let ret := s32 (oldUser + cnt)
      let tofreeJiffies := if oldUser = 1 then jiffies else (s.mms mms).tofreeJiffies
      ({ s with mms := Function.update s.mms mms { s.mms mms with userCnt := ret, tofreeJiffies } },
        if ret ≤ 0 then ret else 0)
    else (s, -1)
  else (s, -1)

def decUserIn1 (s : Life) (mms : Nat) (cnt : Int) (tofree : Nat) : Life × Int :=
  if s.valid mms then
    if (s.mms mms).userCnt ≥ 1 then
      let afterUsers := s32 ((s.mms mms).userCnt - cnt)
      let tofreeJiffies := if afterUsers = 0 then tofree else (s.mms mms).tofreeJiffies
      ({ s with mms := Function.update s.mms mms { s.mms mms with userCnt := afterUsers, tofreeJiffies } }, 0)
    else (s, 0)
  else (s, -1)

def freeOnNouser (s : Life) (mms : Nat) : Life :=
  if (s.mms mms).userCnt > 0 then s
  else
    { s with
      made := s.made.erase mms
      scatterList := s.scatterList.erase mms
      scattersCnt := s.scattersCnt - 1
      scmap := mapDel s.scmap mms }

-- codec_mm_scatter_alloc_new for no pages. `room` is what vmalloc gives. A full map is not reported.
def allocNew (s : Life) (maxPage : Int) (room : Option Nat) : Life × Option Nat :=
  match room with
  | none => (s, none)
  | some mms =>
    if maxPage < 0 then (s, none)
    else
      ({ s with
          mms := Function.update s.mms mms { userCnt := 1000, pageMaxCnt := maxPage }
          made := insert mms s.made
          scatterList := s.scatterList ++ [mms]
          scattersCnt := s.scattersCnt + 1
          scmap := mapAdd s.scmap mms }, some mms)

def findFree (s : Life) (maxPage : Int) : Option Nat :=
  s.scatterList.reverse.find? fun mms => maxPage ≤ (s.mms mms).pageMaxCnt ∧ (s.mms mms).userCnt = 0

def pick (s : Life) (maxPage : Int) (room : Option Nat) : Life × Option Nat :=
  match s.findFree maxPage with
  | some mms => (s.setUserCnt mms 1000, some mms)
  | none => s.allocNew maxPage room

-- The answer of codec_mm_scatter_alloc_want_pages_in. `got` is that of the page allocation.
def wantPagesIn (s : Life) (mms : Nat) (wantPages got : Int) : Int :=
  if wantPages > (s.mms mms).pageMaxCnt then -1100 else if got ≤ 0 then got else 0

def alloc (s : Life) (maxPage pageNum : Int) (room : Option Nat) (got : Int) : Life × Option Nat :=
  match s.pick maxPage room with
  | (s, none) => (s, none)
  | (s, some mms) =>
    if s.wantPagesIn mms pageNum got < 0 then (s.setUserCnt mms ((s.mms mms).userCnt - 1000), none)
    else (s, some mms)

def scan (s : Life) (less : Nat → Bool) : Option Nat → Nat → List Nat → Option Nat × Nat × Option Nat
  | toFree, cnt, [] => (toFree, cnt, none)
  | toFree, cnt, mms :: rest =>
    let earlier := toFree.all fun other => (s.mms mms).tofreeJiffies < (s.mms other).tofreeJiffies
    let (toFree, cnt) :=
      if (s.mms mms).userCnt = 0 then (if earlier then some mms else toFree, cnt + 1) else (toFree, cnt)
    if less mms then (toFree, cnt, some mms) else scan s less toFree cnt rest

def scatterClear (s : Life) (force delayFreeOn : Bool) (jiffies : Nat) (less : Nat → Bool) :
    Life × Option Nat :=
  match s.scan less none 0 s.scatterList with
  | (none, _, lessPage) => (s, lessPage)
  | (some mms, cnt, lessPage) =>
    if (decide (cnt > 1) || !delayFreeOn) && decide ((s.mms mms).tofreeJiffies < jiffies) || force then
      let cnt := (s.mms mms).userCnt - 100000
      if cnt ≠ -100000 then (s, lessPage)
      else
        ({ s.setUserCnt mms cnt with scatterList := s.scatterList.erase mms }.freeOnNouser mms,
          lessPage.filter fun other => other ≠ mms)
    else (s, lessPage)

def newCache (s : Life) (room : Option Nat) : Life × Option Nat :=
  match s.allocNew 16384 room with
  | (s, none) => (s, none)
  | (s, some mms) => ({ s with scatterList := s.scatterList.erase mms }, some mms)

end Life

abbrev Managers : Type := Bool → Life

namespace Managers

def initial : Managers := fun _ => {}

def room (s : Managers) (given : Option Nat) : Option Nat :=
  given.filter fun mms => mms ∉ (s false).made ∧ mms ∉ (s true).made

def incUserIn (s : Managers) (mms : Nat) (cnt : Int) (jiffies : Nat) : Managers × Int :=
  let (life, ret) := (s false).incUserIn1 mms cnt jiffies
  let s := Function.update s false life
  if ret < 0 then
    let (life, ret) := (s true).incUserIn1 mms cnt jiffies
    (Function.update s true life, ret)
  else (s, ret)

def decUserIn (s : Managers) (mms : Nat) (cnt : Int) (tofree : Nat) : Managers × Int :=
  let (life, ret) := (s false).decUserIn1 mms cnt tofree
  let s := Function.update s false life
  if ret < 0 then
    let (life, ret) := (s true).decUserIn1 mms cnt tofree
    (Function.update s true life, ret)
  else (s, ret)

def incForKeeper (s : Managers) (mms : Nat) (jiffies : Nat) : Managers × Int :=
  s.incUserIn mms 100 jiffies

def decKeeperUser (s : Managers) (mms : Nat) (tofree : Nat) : Managers × Int :=
  s.decUserIn mms 100 tofree

def decOwnerUser (s : Managers) (mms : Nat) (tofree : Nat) : Managers × Int :=
  s.decUserIn mms 1000 tofree

def alloc (s : Managers) (istvp : Bool) (maxPage pageNum : Int) (given : Option Nat) (got : Int) :
    Managers × Option Nat :=
  let (life, mms) := (s istvp).alloc maxPage pageNum (s.room given) got
  (Function.update s istvp life, mms)

def scatterClear (s : Managers) (istvp force delayFreeOn : Bool) (jiffies : Nat) (less : Nat → Bool) :
    Managers × Option Nat :=
  let (life, lessPage) := (s istvp).scatterClear force delayFreeOn jiffies less
  (Function.update s istvp life, lessPage)

def freeCache (s : Managers) (istvp : Bool) (jiffies : Nat) : Option Nat → Managers
  | none => s
  | some mms =>
    let s := (s.decOwnerUser mms jiffies).1
    Function.update s istvp ((s istvp).freeOnNouser mms)

-- The caches of codec_mm_scatter_scatter_arrange. The list_move_tail at its end moves the last entry.
def scatterArrange (s : Managers) (istvp delayFreeOn late : Bool) (jiffies : Nat)
    (given0 given1 : Option Nat) :
    Managers :=
  if delayFreeOn then
    if (s istvp).cacheSc0 = none then
      let (life, mms) := (s istvp).newCache (s.room given0)
      let s := Function.update s istvp { life with cacheSc0 := mms.or life.cacheSc0 }
      let (life, mms) := (s istvp).newCache (room s given1)
      Function.update s istvp { life with cacheSc1 := mms.or life.cacheSc1 }
    else s
  else if (s istvp).cacheSc0 ≠ none ∧ late then
    let mms0 := (s istvp).cacheSc0
    let mms1 := (s istvp).cacheSc1
    let s : Managers := Function.update s istvp { s istvp with cacheSc0 := none, cacheSc1 := none }
    (s.freeCache istvp jiffies mms0).freeCache istvp jiffies mms1
  else s

-- A round of the loop of codec_mm_scatter_free_all_ignorecache_in that frees the caches.
def dropCache (s : Managers) (istvp : Bool) (jiffies : Nat) : Managers :=
  let mms := (s istvp).cacheSc0
  let s : Managers := Function.update s istvp
    { s istvp with cacheSc0 := (s istvp).cacheSc1, cacheSc1 := none }
  s.freeCache istvp jiffies mms

end Managers

end UnionpiTiger.Scatter
