import Mathlib.Data.Fintype.Card
import Mathlib.Data.List.FinRange
import UnionpiTiger.Lib.Run
import UnionpiTiger.Lib.Tables

set_option autoImplicit false

namespace UnionpiTiger.Keeper

open Lib

def maxKeepFrame : Nat := 16

def startKeepId : Int := 9

def maxKeepId : Int := 2147483646

inductive MemType where
  | codecMm
  | scatter
deriving DecidableEq

structure Mem where
  handle : Nat
  type : MemType
deriving DecidableEq

structure KeepMemInfo where
  handle : Option Nat := none
  keepId : Int := 0
  type : MemType := .codecMm
  user : Int := 0
  delayOn : Nat := 0
deriving DecidableEq

def KeepMemInfo.occupied (info : KeepMemInfo) : Bool := info.handle.isSome

def KeepMemInfo.mem (info : KeepMemInfo) : Option Mem :=
  info.handle.map fun handle => { handle, type := info.type }

def KeepMemInfo.keep (info : KeepMemInfo) (handle : Nat) (keepId : Int) (type : MemType) :
    KeepMemInfo :=
  { info with handle := some handle, keepId, type, user := 1 }

def KeepMemInfo.drop (info : KeepMemInfo) : KeepMemInfo := { info with handle := none, delayOn := 0 }

structure Mgr where
  num : Int := 0
  keepList : Fin maxKeepFrame → KeepMemInfo := fun _ => {}
  nextId : Int := startKeepId

namespace Mgr

def find (mgr : Mgr) (p : KeepMemInfo → Bool) : Option (Fin maxKeepFrame) :=
  (List.finRange maxKeepFrame).find? fun i => p (mgr.keepList i)

def put (mgr : Mgr) (i : Fin maxKeepFrame) (info : KeepMemInfo) : Mgr :=
  { mgr with keepList := Function.update mgr.keepList i info }

def slotOf (mgr : Mgr) (handle : Nat) : Option (Fin maxKeepFrame) :=
  mgr.find fun info => info.handle = some handle

def spare (mgr : Mgr) : Option (Fin maxKeepFrame) := mgr.find fun info => info.handle = none

def advance (mgr : Mgr) : Mgr :=
  { mgr with nextId := if mgr.nextId + 1 ≥ maxKeepId then startKeepId else mgr.nextId + 1 }

def enter (mgr : Mgr) (i : Fin maxKeepFrame) (handle : Nat) (type : MemType) : Mgr :=
  { mgr.advance.put i ((mgr.keepList i).keep handle mgr.nextId type) with num := mgr.num + 1 }

-- The section of codec_mm_keeper_mask_keep_mem: the id, and whether it gives its reference back.
def mask (mgr : Mgr) (handle : Nat) (type : MemType) : Mgr × Int × Bool :=
  match mgr.slotOf handle with
  | some i => (mgr.advance, (mgr.keepList i).keepId, true)
  | none =>
    match mgr.spare with
    | some i => (mgr.enter i handle type, mgr.nextId, false)
    | none => (mgr.advance, -1, true)

def unmask (mgr : Mgr) (keepId : Int) (until_ : Nat) : Mgr :=
  if keepId < startKeepId ∨ keepId ≥ maxKeepId then mgr
  else
    match mgr.find fun info => info.keepId = keepId with
    | none => mgr
    | some i => mgr.put i { mgr.keepList i with user := (mgr.keepList i).user - 1, delayOn := until_ }

def freeKeep (mgr : Mgr) (i : Fin maxKeepFrame) : Mgr :=
  { mgr.put i (mgr.keepList i).drop with num := mgr.num - 1 }

end Mgr

-- Where a thread is between two sections, or between two of the reads without the lock.
inductive Pc where
  | idle
  | masking (mem : Mem)
  | scan (force : Int) (i : Fin maxKeepFrame)
  | readId (force : Int) (i : Fin maxKeepFrame)
  | readDelay (force : Int) (i : Fin maxKeepFrame)
  | readUser (force : Int) (i : Fin maxKeepFrame) (late : Bool)
  | readAgain (force : Int) (i : Fin maxKeepFrame) (late : Bool)
  | free (force : Int) (i : Fin maxKeepFrame)
  | release (force : Int) (i : Fin maxKeepFrame) (mem : Mem)
deriving DecidableEq

namespace Pc

def next (force : Int) (i : Fin maxKeepFrame) : Pc :=
  if more : i.val + 1 < maxKeepFrame then .scan force ⟨i.val + 1, more⟩ else .idle

-- The memory that the thread owes a reference of: not yet in a slot, or no longer.
def holds : Pc → Option Mem
  | .masking mem => some mem
  | .release _ _ mem => some mem
  | _ => none

end Pc

structure Keeping (n : Nat) where
  mgr : Mgr := {}
  pc : Fin n → Pc := fun _ => .idle
  refs : Mem → Int := fun _ => 0
  others : Mem → Nat := fun _ => 0
  out : Int → Int := fun _ => 0

inductive KeepAct (n : Nat) where
  | mask (t : Fin n) (mem : Mem) (took : Bool)
  | unmask (keepId : Int) (until_ : Nat)
  | freeAllKeep (t : Fin n) (force : Int)
  | go (t : Fin n) (jiffies : Nat)
  | others (mem : Mem) (cnt : Nat)

namespace Keeping

variable {n : Nat}

def goTo (s : Keeping n) (t : Fin n) (pc : Pc) : Keeping n := { s with pc := Function.update s.pc t pc }

def addRef (s : Keeping n) (mem : Mem) (cnt : Int) : Keeping n :=
  { s with refs := Function.update s.refs mem (s.refs mem + cnt) }

def useCnt (s : Keeping n) (mem : Mem) : Int := s.refs mem + s.others mem

def Requested (s : Keeping n) (mem : Mem) : Prop := 0 < s.useCnt mem ∧ s.useCnt mem ≤ 7

instance (s : Keeping n) (mem : Mem) : Decidable (s.Requested mem) :=
  inferInstanceAs (Decidable (_ ∧ _))

-- It answers 0 in every case, also where the block is not in the list or has no room for an owner.
def requestSharedMem (s : Keeping n) (mem : Mem) : Keeping n :=
  if s.Requested mem then s.addRef mem 1 else s

-- codec_mm_release_with_check and codec_mm_scatter_dec_keeper_user: only of memory that is in use.
def giveBack (s : Keeping n) (mem : Mem) : Keeping n :=
  if 0 < s.useCnt mem then s.addRef mem (-1) else s

def addOut (s : Keeping n) (keepId : Int) (cnt : Int) : Keeping n :=
  { s with out := Function.update s.out keepId (s.out keepId + cnt) }

def go (s : Keeping n) (t : Fin n) (jiffies : Nat) : Keeping n :=
  match s.pc t with
  | .idle => s
  | .masking mem =>
    match s.mgr.mask mem.handle mem.type with
    | (mgr, keepId, back) =>
      let s := { s with mgr }.goTo t .idle
      let s := if back then s.giveBack mem else s
      if keepId < 0 then s else s.addOut keepId 1
  | .scan force i => s.goTo t (if (s.mgr.keepList i).occupied then .readId force i else .next force i)
  | .readId force i => s.goTo t (if (s.mgr.keepList i).keepId < 0 then .next force i
      else .readDelay force i)
  | .readDelay force i =>
    s.goTo t (if force = 1 then .free force i
      else .readUser force i ((s.mgr.keepList i).delayOn < jiffies))
  | .readUser force i late =>
    s.goTo t (
      if force = 2 then (if (s.mgr.keepList i).user ≤ 0 then .free force i else .readAgain force i late)
      else if (s.mgr.keepList i).user ≤ 0 && late then .free force i else .next force i)
  | .readAgain force i late =>
    s.goTo t (if (s.mgr.keepList i).user ≤ 0 && late then .free force i else .next force i)
  | .free force i =>
    { s with mgr := s.mgr.freeKeep i }.goTo t
      (match (s.mgr.keepList i).mem with
      | none => .next force i
      | some mem => .release force i mem)
  | .release force i mem => (s.goTo t (.next force i)).giveBack mem

def step (s : Keeping n) : KeepAct n → Keeping n
  | .mask t mem took =>
    if s.pc t = .idle then
      match mem.type with
      | .codecMm => (s.goTo t (.masking mem)).requestSharedMem mem
      | .scatter => if took then (s.goTo t (.masking mem)).addRef mem 1 else s
    else s
  | .unmask keepId until_ =>
    if s.out keepId > 0 then { s with mgr := s.mgr.unmask keepId until_ }.addOut keepId (-1) else s
  | .freeAllKeep t force => if s.pc t = .idle then s.goTo t (.scan force ⟨0, by decide⟩) else s
  | .go t jiffies => s.go t jiffies
  | .others mem cnt => { s with others := Function.update s.others mem cnt }

def occupied (s : Keeping n) : Finset (Fin maxKeepFrame) :=
  entries s.mgr.keepList fun info => info.occupied = true

def slotsOf (s : Keeping n) (handle : Nat) : Finset (Fin maxKeepFrame) :=
  entries s.mgr.keepList fun info => info.handle = some handle

def kept (s : Keeping n) (mem : Mem) : Finset (Fin maxKeepFrame) :=
  entries s.mgr.keepList fun info => info.mem = some mem

def underWay (s : Keeping n) (mem : Mem) : Finset (Fin n) := entries s.pc fun pc => pc.holds = some mem

-- One reference for the slot of a buffer, and one for each thread that is about to enter the buffer
-- in a slot or to give its reference back.
structure Balanced (s : Keeping n) : Prop where
  num : s.mgr.num = s.occupied.card
  once : ∀ handle, (s.slotsOf handle).card ≤ 1
  refs : ∀ mem, s.refs mem = (s.kept mem).card + (s.underWay mem).card

-- The section of codec_mm_keeper_free_keep, unless forced, finds no mask of the slot unmatched.
def Matched (s : Keeping n) : KeepAct n → Prop
  | .go t _ => ∀ force i, s.pc t = .free force i → (s.mgr.keepList i).occupied = true → force ≠ 1 →
    s.out (s.mgr.keepList i).keepId = 0
  | _ => True

structure Safe (s : Keeping n) (act : KeepAct n) : Prop where
  balanced : (s.step act).Balanced
  matched : s.Matched act

def Fits (s : Keeping n) : KeepAct n → Prop
  | .go t _ =>
    match s.pc t with
    | .masking mem => s.mgr.slotOf mem.handle = none ∧ (s.mgr.spare ≠ none →
      s.out s.mgr.nextId = 0 ∧ ∀ i ∈ s.occupied, (s.mgr.keepList i).keepId ≠ s.mgr.nextId)
    | .free force i => (s.mgr.keepList i).occupied = true ∧ (force ≠ 1 → (s.mgr.keepList i).user ≤ 0)
    | _ => True
  | .mask t mem _ => s.pc t = .idle → mem.type = .codecMm → s.Requested mem
  | _ => True

instance (s : Keeping n) : DecidablePred s.Fits
  | .go t _ => by
    unfold Fits
    dsimp only
    split <;> infer_instance
  | .mask t mem _ =>
      inferInstanceAs (Decidable (s.pc t = .idle → mem.type = .codecMm → s.Requested mem))
  | .unmask .. | .freeAllKeep .. | .others .. => isTrue trivial

end Keeping

end UnionpiTiger.Keeper

namespace UnionpiTiger.Keeper

open Lib

namespace Mgr

variable {mgr : Mgr} {i : Fin maxKeepFrame}

theorem find_some {p : KeepMemInfo → Bool} (found : mgr.find p = some i) : p (mgr.keepList i) = true :=
  List.find?_some (p := fun i => p (mgr.keepList i)) found

theorem find_none {p : KeepMemInfo → Bool} (missing : mgr.find p = none) (i : Fin maxKeepFrame) :
    p (mgr.keepList i) = false :=
  Bool.eq_false_iff.mpr (List.find?_eq_none.mp missing i (List.mem_finRange i))

theorem slotOf_none {handle : Nat} (missing : mgr.slotOf handle = none) (i : Fin maxKeepFrame) :
    (mgr.keepList i).handle ≠ some handle :=
  of_decide_eq_false (find_none missing i)

theorem spare_some (found : mgr.spare = some i) : (mgr.keepList i).handle = none :=
  of_decide_eq_true (find_some found)

@[simp] theorem put_keepList (info : KeepMemInfo) : (mgr.put i info).keepList i = info :=
  Function.update_self ..

theorem put_keepList_of_ne {info : KeepMemInfo} {j : Fin maxKeepFrame} (apart : j ≠ i) :
    (mgr.put i info).keepList j = mgr.keepList j := Function.update_of_ne apart ..

end Mgr

namespace Keeping

variable {n : Nat} {s : Keeping n} {t : Fin n} {pc : Pc} {i : Fin maxKeepFrame}

structure Inv (s : Keeping n) : Prop where
  balanced : s.Balanced
  users : ∀ i ∈ s.occupied, s.out (s.mgr.keepList i).keepId ≤ (s.mgr.keepList i).user
  out : ∀ keepId, 0 ≤ s.out keepId

theorem mem_occupied : i ∈ s.occupied ↔ (s.mgr.keepList i).occupied = true := mem_entries

theorem mem_slotsOf {handle : Nat} :
    i ∈ s.slotsOf handle ↔ (s.mgr.keepList i).handle = some handle := mem_entries

theorem underWay_goTo (s : Keeping n) (t : Fin n) (pc : Pc) (mem : Mem) :
    (((s.goTo t pc).underWay mem).card : Int) =
      (s.underWay mem).card - one ((s.pc t).holds = some mem) + one (pc.holds = some mem) :=
  card_entries_update s.pc (fun pc => pc.holds = some mem) t pc

theorem addRef_refs (s : Keeping n) (mem other : Mem) (cnt : Int) :
    (s.addRef mem cnt).refs other = s.refs other + cnt * one (some mem = some other) := by
  change Function.update s.refs mem (s.refs mem + cnt) other = _
  by_cases same : other = mem
  · rw [same, Function.update_self, one_pos rfl, Int.mul_one]
  · rw [Function.update_of_ne same, one_neg fun eq => same (Option.some.inj eq).symm,
      Int.mul_zero, Int.add_zero]

theorem addOut_out (s : Keeping n) (keepId cnt id : Int) :
    (s.addOut keepId cnt).out id = s.out id + cnt * one (id = keepId) := by
  change Function.update s.out keepId (s.out keepId + cnt) id = _
  by_cases same : id = keepId
  · rw [same, Function.update_self, one_pos rfl, Int.mul_one]
  · rw [Function.update_of_ne same, one_neg same, Int.mul_zero, Int.add_zero]

theorem Balanced.goTo (balanced : s.Balanced) (same : pc.holds = (s.pc t).holds) :
    (s.goTo t pc).Balanced where
  num := balanced.num
  once := balanced.once
  refs mem := by
    have refs := balanced.refs mem
    have after := underWay_goTo s t pc mem
    change s.refs mem = (s.kept mem).card + ((s.goTo t pc).underWay mem).card
    rw [same] at after
    omega

theorem Balanced.takes (balanced : s.Balanced) (mem : Mem) (pc : Pc) (before : (s.pc t).holds = none)
    (after : pc.holds = some mem) : ((s.goTo t pc).addRef mem 1).Balanced where
  num := balanced.num
  once := balanced.once
  refs other := by
    have refs := balanced.refs other
    have way := underWay_goTo s t pc other
    have ref := addRef_refs (s.goTo t pc) mem other 1
    rw [before, after, one_neg (show ¬ none = some other from nofun)] at way
    change ((s.goTo t pc).addRef mem 1).refs other =
      (s.kept other).card + ((s.goTo t pc).underWay other).card
    change _ = s.refs other + _ at ref
    omega

-- The memory is in use as long as the reference of the thread under way is not given back.
theorem Balanced.useCnt_pos (balanced : s.Balanced) {mem : Mem} (holds : (s.pc t).holds = some mem) :
    0 < s.useCnt mem := by
  have refs := balanced.refs mem
  have way : 0 < (s.underWay mem).card := Finset.card_pos.mpr ⟨t, mem_entries.mpr holds⟩
  unfold useCnt
  omega

theorem Balanced.givesBack (balanced : s.Balanced) {mem : Mem} (pc : Pc)
    (before : (s.pc t).holds = some mem) (after : pc.holds = none) :
    ((s.goTo t pc).addRef mem (-1)).Balanced where
  num := balanced.num
  once := balanced.once
  refs other := by
    have refs := balanced.refs other
    have way := underWay_goTo s t pc other
    have ref := addRef_refs (s.goTo t pc) mem other (-1)
    rw [before, after, one_neg (show ¬ none = some other from nofun)] at way
    change ((s.goTo t pc).addRef mem (-1)).refs other =
      (s.kept other).card + ((s.goTo t pc).underWay other).card
    change _ = s.refs other + _ at ref
    omega

theorem occupied_put (s : Keeping n) (mgr : Mgr) (info : KeepMemInfo)
    (keepList : mgr.keepList = Function.update s.mgr.keepList i info) :
    ((Keeping.occupied { s with mgr }).card : Int) =
      s.occupied.card - one ((s.mgr.keepList i).occupied = true) + one (info.occupied = true) := by
  unfold occupied
  rw [keepList]
  exact card_entries_update s.mgr.keepList (fun info => info.occupied = true) i info

theorem slotsOf_put (s : Keeping n) (mgr : Mgr) (info : KeepMemInfo)
    (keepList : mgr.keepList = Function.update s.mgr.keepList i info) (handle : Nat) :
    ((Keeping.slotsOf { s with mgr } handle).card : Int) =
      (s.slotsOf handle).card - one ((s.mgr.keepList i).handle = some handle) +
        one (info.handle = some handle) := by
  unfold slotsOf
  rw [keepList]
  exact card_entries_update s.mgr.keepList (fun info => info.handle = some handle) i info

theorem kept_put (s : Keeping n) (mgr : Mgr) (info : KeepMemInfo)
    (keepList : mgr.keepList = Function.update s.mgr.keepList i info) (mem : Mem) :
    ((Keeping.kept { s with mgr } mem).card : Int) =
      (s.kept mem).card - one ((s.mgr.keepList i).mem = some mem) + one (info.mem = some mem) := by
  unfold kept
  rw [keepList]
  exact card_entries_update s.mgr.keepList (fun info => info.mem = some mem) i info

theorem slotsOf_eq_empty {handle : Nat} (missing : s.mgr.slotOf handle = none) :
    (s.slotsOf handle).card = 0 := by
  rw [Finset.card_eq_zero, Finset.eq_empty_iff_forall_notMem]
  exact fun i there => Mgr.slotOf_none missing i (mem_slotsOf.mp there)

theorem Balanced.puts (balanced : s.Balanced) (t : Fin n) (pc : Pc) (i : Fin maxKeepFrame) (mgr : Mgr)
    (info : KeepMemInfo) (keepList : mgr.keepList = Function.update s.mgr.keepList i info)
    (num : mgr.num = s.mgr.num - one ((s.mgr.keepList i).occupied = true) + one (info.occupied = true))
    (fresh : ∀ handle, info.handle = some handle → (s.slotsOf handle).card = 0)
    (moves : ∀ mem, one (info.mem = some mem) + one (pc.holds = some mem) =
      one ((s.mgr.keepList i).mem = some mem) + one ((s.pc t).holds = some mem)) :
    (Keeping.goTo { s with mgr } t pc).Balanced where
  num := by
    have after := occupied_put s mgr info keepList
    have before := balanced.num
    change mgr.num = (Keeping.occupied { s with mgr }).card
    omega
  once handle := by
    have after := slotsOf_put s mgr info keepList handle
    have before := balanced.once handle
    change (Keeping.slotsOf { s with mgr } handle).card ≤ 1
    by_cases mine : info.handle = some handle
    · have none_ := fresh handle mine
      rw [one_pos mine] at after
      by_cases old : (s.mgr.keepList i).handle = some handle
      · rw [one_pos old] at after
        omega
      · rw [one_neg old] at after
        omega
    · rw [one_neg mine] at after
      by_cases old : (s.mgr.keepList i).handle = some handle
      · rw [one_pos old] at after
        omega
      · rw [one_neg old] at after
        omega
  refs mem := by
    have slots := kept_put s mgr info keepList mem
    have way := underWay_goTo { s with mgr } t pc mem
    have refs := balanced.refs mem
    have moves := moves mem
    change s.refs mem = (Keeping.kept { s with mgr } mem).card +
      ((Keeping.goTo { s with mgr } t pc).underWay mem).card
    change _ = (s.underWay mem).card - one ((s.pc t).holds = some mem) + _ at way
    omega

theorem Balanced.relabels (balanced : s.Balanced) (i : Fin maxKeepFrame) (info : KeepMemInfo)
    (handle : info.handle = (s.mgr.keepList i).handle) (type : info.type = (s.mgr.keepList i).type) :
    Balanced { s with mgr := s.mgr.put i info } := by
  have occ : info.occupied = (s.mgr.keepList i).occupied := congrArg Option.isSome handle
  have mem : info.mem = (s.mgr.keepList i).mem := by
    unfold KeepMemInfo.mem
    rw [handle, type]
  have slots := slotsOf_put s (s.mgr.put i info) info rfl
  have kept := kept_put s (s.mgr.put i info) info rfl
  have num := occupied_put s (s.mgr.put i info) info rfl
  rw [occ] at num
  simp only [handle] at slots
  simp only [mem] at kept
  exact
    { num := by
        have before := balanced.num
        change s.mgr.num = _
        omega
      once := fun handle => by
        have before := balanced.once handle
        have slots := slots handle
        omega
      refs := fun mem => by
        have before := balanced.refs mem
        have kept := kept mem
        change s.refs mem = _ + (s.underWay mem).card
        omega }

theorem Inv.unmask (inv : s.Inv) (keepId : Int) (until_ : Nat) :
    (s.step (.unmask keepId until_)).Inv := by
  change Inv (if s.out keepId > 0 then _ else s)
  split
  case isFalse => exact inv
  next more =>
  have lowered : ∀ id, (s.addOut keepId (-1)).out id = s.out id - one (id = keepId) := fun id => by
    rw [addOut_out]
    omega
  have out : ∀ id, 0 ≤ s.out id - one (id = keepId) := fun id => by
    by_cases same : id = keepId
    · rw [same, one_pos rfl]
      omega
    · rw [one_neg same, Int.sub_zero]
      exact inv.out id
  have stays : (s.addOut keepId (-1)).Inv :=
    { balanced := { num := inv.balanced.num, once := inv.balanced.once, refs := inv.balanced.refs }
      users := fun i there => by
        have users := inv.users i there
        have nonneg := one_nonneg ((s.mgr.keepList i).keepId = keepId)
        rw [lowered]
        change s.out (s.mgr.keepList i).keepId - one ((s.mgr.keepList i).keepId = keepId) ≤
          (s.mgr.keepList i).user
        omega
      out := fun id => by
        rw [lowered]
        exact out id }
  unfold Mgr.unmask
  split
  · exact stays
  split
  · exact stays
  next i found =>
    have mine : (s.mgr.keepList i).keepId = keepId := of_decide_eq_true (Mgr.find_some found)
    have relabels := inv.balanced.relabels i { s.mgr.keepList i with
      user := (s.mgr.keepList i).user - 1, delayOn := until_ } rfl rfl
    exact
      { balanced := { num := relabels.num, once := relabels.once, refs := relabels.refs }
        users := fun j there => by
          rw [mem_occupied] at there
          change ((s.mgr.put i _).keepList j).occupied = true at there
          refine (lowered _).le.trans ?_
          change s.out ((s.mgr.put i _).keepList j).keepId -
            one (((s.mgr.put i _).keepList j).keepId = keepId) ≤
            ((s.mgr.put i _).keepList j).user
          by_cases here : j = i
          · rw [here, Mgr.put_keepList] at there ⊢
            have users := inv.users i (mem_occupied.mpr there)
            rw [one_pos mine]
            exact Int.sub_le_sub_right users 1
          · rw [Mgr.put_keepList_of_ne here] at there ⊢
            have users := stays.users j (mem_occupied.mpr there)
            rw [lowered] at users
            exact users
        out := stays.out }

theorem Inv.goTo (inv : s.Inv) (same : pc.holds = (s.pc t).holds) : (s.goTo t pc).Inv where
  balanced := inv.balanced.goTo same
  users := inv.users
  out := inv.out

theorem next_holds (force : Int) (i : Fin maxKeepFrame) : (Pc.next force i).holds = none := by
  unfold Pc.next
  split <;> rfl

theorem Inv.masking (inv : s.Inv) {mem : Mem} {jiffies : Nat} (at_ : s.pc t = .masking mem)
    (fits : s.Fits (.go t jiffies)) : (s.go t jiffies).Inv := by
  have fits : s.mgr.slotOf mem.handle = none ∧ (s.mgr.spare ≠ none →
      s.out s.mgr.nextId = 0 ∧ ∀ i ∈ s.occupied, (s.mgr.keepList i).keepId ≠ s.mgr.nextId) := by
    unfold Fits at fits
    dsimp only at fits
    rw [at_] at fits
    exact fits
  obtain ⟨missing, fresh⟩ := fits
  have before : (s.pc t).holds = some mem := by
    rw [at_]
    rfl
  unfold go
  rw [at_]
  dsimp only
  unfold Mgr.mask
  rw [missing]
  dsimp only
  cases spare : s.mgr.spare with
  | none =>
    have back := inv.balanced.givesBack .idle before rfl
    have used : 0 < (Keeping.goTo { s with mgr := s.mgr.advance } t .idle).useCnt mem :=
      inv.balanced.useCnt_pos before
    dsimp only
    rw [if_pos rfl]
    unfold giveBack
    rw [if_pos used]
    exact
      { balanced := { num := back.num, once := back.once, refs := back.refs }
        users := inv.users
        out := inv.out }
  | some i =>
    obtain ⟨unused, others⟩ := fresh (by rw [spare]; exact nofun)
    have free := Mgr.spare_some spare
    have vacant : (s.mgr.keepList i).occupied = false := by
      unfold KeepMemInfo.occupied
      rw [free]
      rfl
    dsimp only
    rw [if_neg Bool.false_ne_true]
    have unkept : (s.mgr.keepList i).mem = none := by
      unfold KeepMemInfo.mem
      rw [free]
      rfl
    have puts := inv.balanced.puts t .idle i (s.mgr.enter i mem.handle mem.type)
      ((s.mgr.keepList i).keep mem.handle s.mgr.nextId mem.type) rfl
      (by
        rw [vacant, one_neg Bool.false_ne_true, Int.sub_zero]
        rfl)
      (fun other same => by cases same; exact slotsOf_eq_empty missing)
      (fun other => by
        rw [unkept, before, one_neg (show ¬ none = some other from nofun), Int.zero_add]
        exact Int.add_zero _)
    have users : ∀ j ∈
        (Keeping.goTo { s with mgr := s.mgr.enter i mem.handle mem.type } t .idle).occupied,
        s.out ((s.mgr.enter i mem.handle mem.type).keepList j).keepId +
          one (((s.mgr.enter i mem.handle mem.type).keepList j).keepId = s.mgr.nextId) ≤
            ((s.mgr.enter i mem.handle mem.type).keepList j).user := fun j there => by
      rw [mem_occupied] at there
      change ((s.mgr.put i _).keepList j).occupied = true at there
      change s.out ((s.mgr.put i _).keepList j).keepId + one (((s.mgr.put i _).keepList j).keepId = _) ≤
        ((s.mgr.put i _).keepList j).user
      by_cases here : j = i
      · rw [here, Mgr.put_keepList]
        change s.out s.mgr.nextId + one (s.mgr.nextId = s.mgr.nextId) ≤ 1
        rw [unused, one_pos rfl]
        exact Int.le_refl 1
      · rw [Mgr.put_keepList_of_ne here] at there ⊢
        rw [one_neg (others j (mem_occupied.mpr there)), Int.add_zero]
        exact inv.users j (mem_occupied.mpr there)
    have entered : (Keeping.goTo { s with mgr := s.mgr.enter i mem.handle mem.type } t .idle).Inv :=
      { balanced := puts
        users := fun j there => by
          have users := users j there
          have nonneg := one_nonneg
            (((s.mgr.enter i mem.handle mem.type).keepList j).keepId = s.mgr.nextId)
          change s.out ((s.mgr.enter i mem.handle mem.type).keepList j).keepId ≤
            ((s.mgr.enter i mem.handle mem.type).keepList j).user
          omega
        out := inv.out }
    split
    · exact entered
    · exact
        { balanced := { num := puts.num, once := puts.once, refs := puts.refs }
          users := fun j there => by
            rw [addOut_out, Int.one_mul]
            exact users j there
          out := fun id => by
            rw [addOut_out, Int.one_mul]
            exact Int.add_nonneg (inv.out id) (one_nonneg _) }

theorem Inv.free (inv : s.Inv) {force : Int} {jiffies : Nat} (at_ : s.pc t = .free force i)
    (fits : s.Fits (.go t jiffies)) : (s.go t jiffies).Inv := by
  have fits : (s.mgr.keepList i).occupied = true ∧ (force ≠ 1 → (s.mgr.keepList i).user ≤ 0) := by
    unfold Fits at fits
    dsimp only at fits
    rw [at_] at fits
    exact fits
  obtain ⟨handle, here⟩ := Option.isSome_iff_exists.mp fits.1
  have mem : (s.mgr.keepList i).mem = some { handle, type := (s.mgr.keepList i).type } := by
    unfold KeepMemInfo.mem
    rw [here]
    rfl
  have before : (s.pc t).holds = none := by
    rw [at_]
    rfl
  unfold go
  rw [at_]
  dsimp only
  rw [mem]
  have puts := inv.balanced.puts t (.release force i { handle, type := (s.mgr.keepList i).type }) i
    (s.mgr.freeKeep i) (s.mgr.keepList i).drop rfl
    (by
      rw [fits.1, one_pos rfl]
      exact (Int.add_zero _).symm)
    nofun
    (fun other => by
      rw [mem, before, one_neg (show ¬ none = some other from nofun), Int.add_zero]
      exact Int.zero_add _)
  exact
    { balanced := puts
      users := fun j there => by
        rw [mem_occupied] at there
        change ((s.mgr.put i _).keepList j).occupied = true at there
        change s.out ((s.mgr.put i _).keepList j).keepId ≤ ((s.mgr.put i _).keepList j).user
        by_cases same : j = i
        · rw [same, Mgr.put_keepList] at there
          cases there
        · rw [Mgr.put_keepList_of_ne same] at there ⊢
          exact inv.users j (mem_occupied.mpr there)
      out := inv.out }

theorem Inv.go (inv : s.Inv) {jiffies : Nat} (fits : s.Fits (.go t jiffies)) :
    (s.go t jiffies).Inv := by
  cases at_ : s.pc t with
  | masking => exact inv.masking at_ fits
  | free => exact inv.free at_ fits
  | idle =>
    unfold Keeping.go
    rw [at_]
    exact inv
  | scan force i =>
    unfold Keeping.go
    rw [at_]
    refine inv.goTo ?_
    rw [at_]
    split
    · rfl
    · exact next_holds force i
  | readId force i =>
    unfold Keeping.go
    rw [at_]
    refine inv.goTo ?_
    rw [at_]
    split
    · exact next_holds force i
    · rfl
  | readDelay force i =>
    unfold Keeping.go
    rw [at_]
    refine inv.goTo ?_
    rw [at_]
    split <;> rfl
  | readUser force i late =>
    unfold Keeping.go
    rw [at_]
    refine inv.goTo ?_
    rw [at_]
    split
    · split <;> rfl
    · split
      · rfl
      · exact next_holds force i
  | readAgain force i late =>
    unfold Keeping.go
    rw [at_]
    refine inv.goTo ?_
    rw [at_]
    split
    · rfl
    · exact next_holds force i
  | release force i mem =>
    have holds : (s.pc t).holds = some mem := by
      rw [at_]
      rfl
    have used : 0 < (s.goTo t (.next force i)).useCnt mem := inv.balanced.useCnt_pos holds
    have back := inv.balanced.givesBack (.next force i) holds (next_holds force i)
    unfold Keeping.go
    rw [at_]
    dsimp only
    unfold giveBack
    rw [if_pos used]
    exact { balanced := back, users := inv.users, out := inv.out }

theorem Inv.step (inv : s.Inv) (act : KeepAct n) (fits : s.Fits act) : (s.step act).Inv := by
  cases act with
  | unmask keepId until_ => exact inv.unmask keepId until_
  | go t jiffies => exact inv.go fits
  | mask t mem took =>
    change Inv (if s.pc t = .idle then _ else s)
    split
    case isFalse => exact inv
    next idle =>
      have takes := inv.balanced.takes mem (.masking mem) (by rw [idle]; rfl) rfl
      have taken : ((s.goTo t (.masking mem)).addRef mem 1).Inv :=
        { balanced := takes, users := inv.users, out := inv.out }
      split
      next codec =>
        have requested : (s.goTo t (.masking mem)).Requested mem := fits idle codec
        unfold requestSharedMem
        rw [if_pos requested]
        exact taken
      · split
        · exact taken
        · exact inv
  | others mem cnt =>
    exact
      { balanced := { num := inv.balanced.num, once := inv.balanced.once, refs := inv.balanced.refs }
        users := inv.users
        out := inv.out }
  | freeAllKeep t force =>
    change Inv (if s.pc t = .idle then _ else s)
    split
    next idle => exact inv.goTo (by rw [idle]; rfl)
    · exact inv

theorem Inv.matched (inv : s.Inv) (act : KeepAct n) (fits : s.Fits act) : s.Matched act := by
  cases act with
  | mask | unmask | freeAllKeep | others => trivial
  | go t jiffies =>
    intro force i at_ occupied unforced
    unfold Fits at fits
    dsimp only at fits
    rw [at_] at fits
    have users := inv.users i (mem_occupied.mpr occupied)
    have out := inv.out (s.mgr.keepList i).keepId
    have free := fits.2 unforced
    omega

theorem initial_inv : Inv (n := n) {} where
  balanced :=
    { num := rfl
      once := fun handle => by
        change (entries (fun _ => ({} : KeepMemInfo)) fun info => info.handle = some handle).card ≤ 1
        rw [entries_const_neg nofun]
        exact Nat.zero_le 1
      refs := fun mem => by
        change 0 = ((entries (fun _ => ({} : KeepMemInfo)) fun info => info.mem =
          some mem).card : Int) +
          (entries (fun _ => Pc.idle) fun pc => pc.holds = some mem).card
        rw [entries_const_neg nofun, entries_const_neg nofun]
        rfl }
  users := nofun
  out _ := Int.le_refl 0

end Keeping

theorem keeper_balanced (n : Nat) (acts : List (KeepAct n))
    (fits : Along Keeping.step Keeping.Fits {} acts) :
    Along Keeping.step Keeping.Safe {} acts :=
  fits.of_invariant Keeping.Inv (fun _ act inv fits => inv.step act fits)
    (fun _ act inv fits => ⟨(inv.step act fits).balanced, inv.matched act fits⟩) Keeping.initial_inv

def frame : Mem := { handle := 7, type := .codecMm }

def scattered : Mem := { handle := 8, type := .scatter }

-- Two threads mask a buffer each; the monitor empties the slot of the unmasked one and passes by
-- the other.
theorem keeper_balanced_of_two : Along Keeping.step Keeping.Safe ({} : Keeping 2)
    ([.others frame 1, .others scattered 2, .mask 0 frame true, .mask 1 scattered true,
      .go 1 0, .go 0 0,
      .others frame 0, .unmask 10 5, .freeAllKeep 1 0] ++ List.replicate 12 (.go 1 10)) :=
  keeper_balanced 2 _ (by decide +kernel)

def maskedTwice : List (KeepAct 1) :=
  [.others frame 1, .mask 0 frame true, .go 0 0, .mask 0 frame true, .go 0 0, .unmask 9 5,
    .freeAllKeep 0 0] ++
    List.replicate 4 (.go 0 10)

theorem freed_while_masked : ¬ Along Keeping.step Keeping.Safe {} (maskedTwice ++ [.go 0 10]) := by
  intro along
  have matched := along.last.matched 0 ⟨0, by decide⟩ (by decide +kernel)
    (by decide +kernel) (by decide)
  revert matched
  decide +kernel

end UnionpiTiger.Keeper
