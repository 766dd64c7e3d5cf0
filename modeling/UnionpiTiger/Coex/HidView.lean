import Mathlib.Data.List.Basic
import UnionpiTiger.Coex.Channels

set_option autoImplicit false

namespace UnionpiTiger.Coex

open Lib

-- The hid bit of `profile_status`, the count of active intervals, and the interval bit of each
-- connection.
@[ext] structure HidView where
  status : Bool
  active : Int8
  bits : List Bool

def hidView (prof : RtkProf) : HidView where
  status := isSet prof.profileStatus .hid
  active := prof.profileRefcount .hidInterval
  bits := prof.connHash.map fun conn => isSet conn.profileBitmap .hidInterval

namespace HidView

structure Agrees (view : HidView) : Prop where
  status : view.status = true ↔ 0 < view.active.toInt
  count : view.active.toInt = view.bits.count true

def raise (view : HidView) (place : Nat) : HidView where
  status := view.status || decide (view.active + 1 = 1)
  active := view.active + 1
  bits := view.bits.set place true

def lower (view : HidView) (place : Nat) : HidView where
  status := view.status && !decide (view.active - 1 = 0)
  active := view.active - 1
  bits := view.bits.set place false

def removed (view : HidView) (place : Nat) (last lastHere : Bool) : HidView where
  status := view.status && !last
  active := if lastHere = true ∧ view.bits[place]? = some true then view.active - 1 else view.active
  bits := if lastHere then view.bits.set place false else view.bits

def withBits (view : HidView) (bits : List Bool) : HidView := { view with bits := bits }

variable {view : HidView} {place : Nat}

theorem count_at (bits : List Bool) {b : Bool} (here : bits[place]? = some b) :
    bits.count true = (bits.eraseIdx place).count true + if b then 1 else 0 := by
  induction bits generalizing place with
  | nil => cases here
  | cons c bits ih =>
    cases place with
    | zero =>
      cases here
      cases b <;> simp
    | succ place =>
      have rest := ih (by simpa using here)
      rw [List.eraseIdx_cons_succ, List.count_cons, List.count_cons, rest]
      omega

theorem count_set (bits : List Bool) {b : Bool} (here : bits[place]? = some b) (next : Bool) :
    (bits.set place next).count true + (if b then 1 else 0) = bits.count true + if next
      then 1 else 0 := by
  have inside := (List.getElem?_eq_some_iff.mp here).1
  have set : (bits.set place next)[place]? = some next := by simp [inside]
  have before := count_at bits here
  have after := count_at (bits.set place next) set
  rw [List.eraseIdx_set_eq] at after
  omega

theorem Agrees.nonneg (agrees : view.Agrees) : 0 ≤ view.active.toInt := by
  rw [agrees.count]
  omega

theorem Agrees.positive (agrees : view.Agrees) (here : view.bits[place]? = some true) :
    0 < view.active.toInt := by
  have count := count_at view.bits here
  rw [if_pos rfl] at count
  rw [agrees.count]
  omega

theorem Agrees.raise_iff (agrees : view.Agrees) (here : view.bits[place]? = some false) :
    (view.raise place).Agrees ↔ view.active.toInt < 127 := by
  have count := agrees.count
  have next := count_set view.bits here true
  have nonneg := agrees.nonneg
  rw [if_neg Bool.false_ne_true, if_pos rfl] at next
  constructor
  · intro after
    have total := after.count
    have high := view.active.toInt_lt
    by_contra full
    have top : view.active = 127 := Int8.toInt_inj.mp (by
      change view.active.toInt = 127
      omega)
    have wrapped : ((127 : Int8) + 1).toInt = -128 := by decide
    simp only [raise] at total
    rw [top, wrapped] at total
    omega
  · intro room
    have added := toInt_add_one view.active room
    have first : view.active + 1 = 1 ↔ view.active.toInt = 0 := by
      rw [← Int8.toInt_inj, added, Int8.toInt_one]
      omega
    refine ⟨?_, ?_⟩
    · simp only [raise, Bool.or_eq_true, decide_eq_true_eq, agrees.status, first, added]
      omega
    · simp only [raise, added]
      omega

theorem Agrees.lower (agrees : view.Agrees) (here : view.bits[place]? = some true) :
    (view.lower place).Agrees := by
  have count := agrees.count
  have next := count_set view.bits here false
  have positive := agrees.positive here
  have less := toInt_sub_one view.active positive
  rw [if_pos rfl, if_neg Bool.false_ne_true] at next
  refine ⟨?_, ?_⟩
  · simp only [HidView.lower, Bool.and_eq_true, Bool.not_eq_true', decide_eq_false_iff_not,
      agrees.status, eq_zero_iff_toInt, less]
    omega
  · simp only [HidView.lower, less]
    omega

theorem Agrees.withBits_iff (agrees : view.Agrees) {bits : List Bool} {b : Bool}
    (less : view.bits.count true = bits.count true + if b then 1 else 0) :
    (view.withBits bits).Agrees ↔ b = false := by
  have count := agrees.count
  constructor
  · intro after
    have total := after.count
    cases b with
    | false => rfl
    | true =>
      simp only [withBits] at total
      rw [if_pos rfl] at less
      omega
  · rintro rfl
    rw [if_neg Bool.false_ne_true] at less
    exact ⟨agrees.status, by simp only [withBits]; omega⟩

def Fits (view : HidView) (place : Nat) (last lastHere : Bool) : Prop :=
  0 < view.active.toInt →
  (last = true ↔ lastHere = true ∧ view.bits[place]? = some true ∧ view.active.toInt = 1)

theorem Agrees.removed_counts (agrees : view.Agrees) {b : Bool} (here : view.bits[place]? = some b)
    (last lastHere : Bool) :
    (view.removed place last lastHere).active.toInt =
      view.active.toInt - (if lastHere && b then 1 else 0) ∧
      ((view.removed place last lastHere).bits.count true : Int) =
        view.bits.count true - if lastHere && b then 1 else 0 := by
  have next := count_set view.bits here false
  rw [if_neg Bool.false_ne_true] at next
  cases lastHere with
  | false => exact ⟨by simp [removed], by simp [removed]⟩
  | true =>
    cases b with
    | false =>
      rw [if_neg Bool.false_ne_true] at next
      exact ⟨by simp [removed, here], by simp only [removed, if_true, Bool.and_false]; simp; omega⟩
    | true =>
      rw [if_pos rfl] at next
      have less := toInt_sub_one view.active (agrees.positive here)
      exact ⟨by simp [removed, here, less], by simp only [removed, if_true, Bool.and_true]; omega⟩

theorem Agrees.removed_iff (agrees : view.Agrees) {b : Bool} (here : view.bits[place]? = some b)
    (last lastHere : Bool) :
    (view.removed place last lastHere).Agrees ↔ view.Fits place last lastHere := by
  have count := agrees.count
  have nonneg := agrees.nonneg
  obtain ⟨active, bits⟩ := agrees.removed_counts here last lastHere
  have status : (view.removed place last lastHere).status = true ↔
      0 < view.active.toInt ∧ last = false := by
    rw [removed, Bool.and_eq_true, agrees.status, Bool.not_eq_true']
  have taken : (lastHere = true ∧ view.bits[place]? = some true ∧ view.active.toInt = 1) ↔
      (lastHere && b) = true ∧ view.active.toInt = 1 := by
    rw [here, Option.some.injEq, Bool.and_eq_true, and_assoc]
  have whole : (view.removed place last lastHere).Agrees ↔
      ((view.removed place last lastHere).status = true ↔
        0 < (view.removed place last lastHere).active.toInt) :=
    ⟨Agrees.status, fun agreed => ⟨agreed, by rw [active, bits, count]⟩⟩
  rw [whole, status, active, Fits, taken]
  cases went : (lastHere && b) with
  | false =>
    rw [if_neg Bool.false_ne_true]
    cases last <;> simp
  | true =>
    rw [Bool.and_eq_true] at went
    have positive : 0 < view.active.toInt := agrees.positive (went.2 ▸ here)
    rw [if_pos rfl]
    cases last
    · simp [positive]
      omega
    · simp [positive]
      omega

theorem Agrees.erased_iff (agrees : view.Agrees) {b : Bool} (here : view.bits[place]? = some b)
    (last lastHere : Bool) :
    ((view.removed place last lastHere).withBits
      ((view.removed place last lastHere).bits.eraseIdx place)).Agrees ↔
      (b = true → lastHere = true) ∧ view.Fits place last lastHere := by
  rw [← agrees.removed_iff here last lastHere]
  obtain ⟨active, bits⟩ := agrees.removed_counts here last lastHere
  have count := agrees.count
  have inside := (List.getElem?_eq_some_iff.mp here).1
  have left : (view.removed place last lastHere).bits[place]? = some (b && !lastHere) := by
    cases lastHere with
    | false => simpa [removed] using here
    | true => simp [removed, inside]
  have erased := count_at (view.removed place last lastHere).bits left
  constructor
  · intro after
    have total := after.count
    simp only [withBits] at total
    refine ⟨fun set => ?_, after.status, by omega⟩
    by_contra kept
    have stays : (b && !lastHere) = true := by rw [set, Bool.eq_false_of_not_eq_true kept]; rfl
    rw [stays, if_pos rfl] at erased
    omega
  · rintro ⟨gone, agreed⟩
    have none : (b && !lastHere) = false := by
      cases b with
      | false => rfl
      | true => rw [gone rfl]; rfl
    rw [none, if_neg Bool.false_ne_true] at erased
    exact ⟨agreed.status, by simp only [withBits]; omega⟩

theorem removed_removed (last lastHere nextLast nextHere : Bool) :
    (view.removed place last lastHere).removed place nextLast nextHere =
      view.removed place (last || nextLast) (lastHere || nextHere) := by
  cases lastHere with
  | false => cases last <;> cases nextLast <;> simp [removed]
  | true =>
    have gone : (view.bits.set place false)[place]? ≠ some true := by
      intro here
      have inside := (List.getElem?_eq_some_iff.mp here).1
      rw [List.length_set] at inside
      rw [List.getElem?_set_self inside] at here
      cases here
    have set_again : (view.bits.set place false).set place false = view.bits.set place false :=
      List.set_set ..
    cases nextHere <;> cases last <;> cases nextLast <;> simp [removed, gone, set_again]

end HidView

section Status

variable (prof : RtkProf)

@[simp] theorem malloc_status : prof.malloc.2.profileStatus = prof.profileStatus := by
  unfold RtkProf.malloc
  split <;> rfl

@[simp] theorem vendorCmdToFw_status (opcode : UInt16) (parameter : List UInt8) :
    (prof.vendorCmdToFw opcode parameter).profileStatus = prof.profileStatus := by
  have first := malloc_status prof
  simp only [RtkProf.vendorCmdToFw]
  split_ifs
  · exact first
  · exact first
  · exact (malloc_status prof.malloc.2).trans first

@[simp] theorem rtkNotifyProfileinfoToFw_status :
    (rtkNotifyProfileinfoToFw prof).profileStatus = prof.profileStatus := by
  simp only [rtkNotifyProfileinfoToFw]
  split_ifs
  · exact malloc_status prof
  · rw [vendorCmdToFw_status]
    exact malloc_status prof

@[simp] theorem ifNeedUpadte_status (needUpdate : Bool) :
    (ifNeedUpadte prof needUpdate).profileStatus = prof.profileStatus := by
  cases needUpdate with
  | false => rfl
  | true => exact rtkNotifyProfileinfoToFw_status prof

@[simp] theorem rtkCheckSetupTimer_status (index : Profile) :
    (rtkCheckSetupTimer prof index).profileStatus = prof.profileStatus := by
  cases index <;> simp only [rtkCheckSetupTimer] <;> try rfl
  all_goals split_ifs <;> rfl

@[simp] theorem rtkCheckDelTimer_status (index : Profile) :
    (rtkCheckDelTimer prof index).profileStatus = prof.profileStatus := by
  cases index <;> simp only [rtkCheckDelTimer] <;> try rfl
  all_goals split_ifs <;> rfl

def hidBusy : Bool := isSet prof.profileStatus .hid

theorem updateProfileState_hidBusy {index : Profile} (other : index ≠ .hid) (isBusy : Bool) :
    hidBusy (updateProfileState prof index isBusy) = hidBusy prof := by
  unfold updateProfileState hidBusy
  split_ifs <;> simp [other]

theorem globalAdd_hidBusy (index : Profile) : hidBusy (globalAdd prof index) = hidBusy prof := by
  unfold globalAdd hidBusy
  dsimp only
  split_ifs with first sco
  · rw [rtkCheckSetupTimer_status]
    simp [sco]
  · rw [rtkCheckSetupTimer_status]
  · rfl

theorem globalRemove_hidBusy (index : Profile) :
    hidBusy (globalRemove prof index) = (hidBusy prof &&
      !(decide (index = .hid) && decide (prof.profileRefcount .hid - 1 = 0))) := by
  unfold globalRemove hidBusy
  dsimp only
  by_cases hid : index = .hid
  · subst hid
    simp only [decrement, Function.update_self]
    split_ifs with last <;> simp [last]
  · split_ifs <;> simp [hid]

theorem updateProfileConnection_add_hidBusy (place : Nat) (index : Profile) :
    hidBusy (updateProfileConnection prof place index true) = hidBusy prof := by
  unfold updateProfileConnection
  split
  · rfl
  · simp only [if_true, hidBusy, ifNeedUpadte_status]
    exact globalAdd_hidBusy prof index

theorem updateProfileConnection_remove_hidBusy {place : Nat} {conn : ConnProf}
    (found : prof.connHash[place]? = some conn) (index : Profile) :
    hidBusy (updateProfileConnection prof place index false) =
      (hidBusy prof && !(decide (index = .hid) && decide (prof.profileRefcount .hid - 1 = 0))) := by
  rw [← globalRemove_hidBusy]
  simp only [updateProfileConnection, found, Bool.false_eq_true, if_false, hidBusy, ifNeedUpadte_status]
  split_ifs <;> rfl

end Status

section Views

variable {prof : RtkProf} {place : Nat} {conn : ConnProf} {index : Profile}

theorem hidView_of_accounts {next : RtkProf} (same : next.accounts = prof.accounts)
    (busy : hidBusy next = hidBusy prof) :
    hidView next = hidView prof := by
  have conns : next.connHash = prof.connHash := congrArg Accounts.connHash same
  have refcount : next.profileRefcount = prof.profileRefcount := congrArg Accounts.profileRefcount same
  unfold hidBusy at busy
  simp only [hidView, conns, refcount, busy]

def intervalBit (conn : ConnProf) : Bool := isSet conn.profileBitmap .hidInterval

theorem hidView_bits (found : prof.connHash[place]? = some conn) :
    (hidView prof).bits[place]? = some (intervalBit conn) := by
  simp [hidView, found, intervalBit]

theorem map_bits_set (prof : RtkProf) (place : Nat) (next : ConnProf) :
    ((prof.connHash.set place next).map fun conn => isSet conn.profileBitmap .hidInterval) =
      (hidView prof).bits.set place (intervalBit next) := List.map_set

theorem set_bit_self (found : prof.connHash[place]? = some conn) :
    (hidView prof).bits.set place (intervalBit conn) = (hidView prof).bits := by
  have here := hidView_bits found
  obtain ⟨inside, same⟩ := List.getElem?_eq_some_iff.mp here
  rw [← same, List.set_getElem_self]

theorem update_conns (found : prof.connHash[place]? = some conn) (isAdd : Bool) :
    (updateProfileConnection prof place index isAdd).connHash =
      prof.connHash.set place (if isAdd then conn.add index else conn.remove index) := by
  have after := congrArg Accounts.connHash (updateProfileConnection_accounts prof place index isAdd)
  cases isAdd <;> simpa [Accounts.update, Accounts.add, Accounts.remove, RtkProf.accounts,
    found] using after

theorem update_add_refcount (found : prof.connHash[place]? = some conn) :
    (updateProfileConnection prof place index true).profileRefcount =
      increment prof.profileRefcount index := by
  have after := congrArg Accounts.profileRefcount
    (updateProfileConnection_accounts prof place index true)
  simpa [Accounts.update, Accounts.add, RtkProf.accounts, found] using after

theorem update_remove_refcount (found : prof.connHash[place]? = some conn) :
    (updateProfileConnection prof place index false).profileRefcount =
      if conn.dropsInterval index then decrement (decrement prof.profileRefcount index) .hidInterval
      else decrement prof.profileRefcount index := by
  have after := congrArg Accounts.profileRefcount
    (updateProfileConnection_accounts prof place index false)
  simpa [Accounts.update, Accounts.remove, RtkProf.accounts, found] using after

theorem update_missing (missing : prof.connHash[place]? = none) (isAdd : Bool) :
    updateProfileConnection prof place index isAdd = prof := by
  rw [updateProfileConnection, missing]

theorem hidView_add (proper : index ≠ .hidInterval) :
    hidView (updateProfileConnection prof place index true) = hidView prof := by
  cases found : prof.connHash[place]? with
  | none => rw [update_missing found]
  | some conn =>
    have busy := updateProfileConnection_add_hidBusy prof place index
    have bit : intervalBit (conn.add index) = intervalBit conn := by
      rw [intervalBit, conn.isSet_add]
      simp [intervalBit, proper]
    have count : increment prof.profileRefcount index .hidInterval =
        prof.profileRefcount .hidInterval := by
      rw [increment, Function.update_of_ne (Ne.symm proper)]
    unfold hidBusy at busy
    rw [hidView, busy, update_add_refcount found, count, update_conns found, if_pos rfl,
      map_bits_set, bit, set_bit_self found]
    rfl

theorem intervalBit_remove (proper : index ≠ .hidInterval) :
    intervalBit (conn.remove index) =
      (intervalBit conn && !(decide (index = .hid) && decide (conn.profileRefcount .hid - 1 = 0))) := by
  unfold intervalBit ConnProf.remove ConnProf.dropsInterval
  by_cases hid : index = .hid
  · subst hid
    by_cases last : conn.profileRefcount .hid - 1 = 0
    · cases set : isSet conn.profileBitmap .hidInterval <;> simp [last, set]
    · simp [last]
  · by_cases last : conn.profileRefcount index - 1 = 0 <;> simp [hid, last, proper]

theorem hidView_remove_other (found : prof.connHash[place]? = some conn) (proper : index ≠ .hidInterval)
    (other : index ≠ .hid) :
    hidView (updateProfileConnection prof place index false) = hidView prof ∧
      (updateProfileConnection prof place index false).profileRefcount .hid =
        prof.profileRefcount .hid ∧
      (conn.remove index).profileRefcount .hid = conn.profileRefcount .hid := by
  have busy := updateProfileConnection_remove_hidBusy prof found index
  have bit : intervalBit (conn.remove index) = _ := intervalBit_remove proper
  have kept : conn.dropsInterval index = false := by simp [ConnProf.dropsInterval, other]
  have refcount : (updateProfileConnection prof place index false).profileRefcount = _ :=
    update_remove_refcount found
  rw [kept, if_neg Bool.false_ne_true] at refcount
  rw [decide_eq_false other, Bool.false_and, Bool.not_false, Bool.and_true] at busy bit
  refine ⟨?_, ?_, ?_⟩
  · unfold hidBusy at busy
    rw [hidView, busy, refcount, decrement, Function.update_of_ne (Ne.symm proper), update_conns found,
      if_neg Bool.false_ne_true, map_bits_set, bit, set_bit_self found]
    rfl
  · rw [refcount, decrement, Function.update_of_ne (Ne.symm other)]
  · exact Function.update_of_ne (Ne.symm other) _ _

theorem hidView_remove_hid (found : prof.connHash[place]? = some conn) :
    hidView (updateProfileConnection prof place .hid false) =
        (hidView prof).removed place (prof.profileRefcount .hid - 1 = 0)
          (conn.profileRefcount .hid - 1 = 0) ∧
      (updateProfileConnection prof place .hid false).profileRefcount .hid =
        prof.profileRefcount .hid - 1 ∧
      (conn.remove .hid).profileRefcount .hid = conn.profileRefcount .hid - 1 := by
  have busy := updateProfileConnection_remove_hidBusy prof found .hid
  have bit : intervalBit (conn.remove .hid) = _ := intervalBit_remove (by decide)
  have refcount : (updateProfileConnection prof place .hid false).profileRefcount = _ :=
    update_remove_refcount found
  have here := hidView_bits found
  rw [decide_eq_true rfl, Bool.true_and] at busy bit
  have drops : conn.dropsInterval .hid = true ↔
      decide (conn.profileRefcount .hid - 1 = 0) = true ∧ (hidView prof).bits[place]? = some true := by
    rw [here, Option.some.injEq]
    simp [ConnProf.dropsInterval, intervalBit]
  refine ⟨?_, ?_, ?_⟩
  · have bits : (hidView (updateProfileConnection prof place .hid false)).bits =
        ((hidView prof).removed place (prof.profileRefcount .hid - 1 = 0)
          (conn.profileRefcount .hid - 1 = 0)).bits := by
      rw [hidView, update_conns found, if_neg Bool.false_ne_true, map_bits_set, bit, HidView.removed]
      by_cases last : conn.profileRefcount .hid - 1 = 0
      · simp [last]
      · simp only [last, decide_false, Bool.not_false, Bool.and_true, Bool.false_eq_true, if_false]
        exact set_bit_self found
    have active : (hidView (updateProfileConnection prof place .hid false)).active =
        ((hidView prof).removed place (prof.profileRefcount .hid - 1 = 0)
          (conn.profileRefcount .hid - 1 = 0)).active := by
      rw [hidView, refcount, HidView.removed]
      by_cases last : conn.dropsInterval .hid = true
      · rw [if_pos last, if_pos (drops.mp last)]
        rfl
      · rw [if_neg last, if_neg (mt drops.mpr last)]
        rfl
    have status : (hidView (updateProfileConnection prof place .hid false)).status =
        ((hidView prof).removed place (prof.profileRefcount .hid - 1 = 0)
          (conn.profileRefcount .hid - 1 = 0)).status :=
      busy
    exact HidView.ext status active bits
  · rw [refcount]
    split_ifs
    · rw [decrement, Function.update_of_ne (by decide), decrement, Function.update_self]
    · rw [decrement, Function.update_self]
  · change decrement conn.profileRefcount .hid .hid = _
    rw [decrement, Function.update_self]

end Views

end UnionpiTiger.Coex
