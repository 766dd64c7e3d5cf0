import Mathlib.Data.Fintype.Basic
import UnionpiTiger.Coex.VendorCmd

set_option autoImplicit false

namespace UnionpiTiger.Coex

inductive Profile where
  | sco
  | hid
  | a2dp
  | pan
  | hidInterval
  | hogp
  | voice
  | sink
deriving DecidableEq, Repr

instance : Fintype Profile where
  elems := {.sco, .hid, .a2dp, .pan, .hidInterval, .hogp, .voice, .sink}
  complete := by
    intro profile
    cases profile <;> decide

def Profile.index : Profile → Nat
  | sco => 0
  | hid => 1
  | a2dp => 2
  | pan => 3
  | hidInterval => 4
  | hogp => 5
  | voice => 6
  | sink => 7

theorem Profile.index_lt (profile : Profile) : profile.index < 8 := by
  cases profile <;> decide

def bit (profile : Profile) : UInt8 := 1 <<< profile.index.toUInt8

def isSet (bitmap : UInt8) (profile : Profile) : Bool := bitmap &&& bit profile != 0

theorem isSet_eq (bitmap : UInt8) (profile : Profile) :
    isSet bitmap profile = bitmap.toBitVec.getLsbD profile.index := by
  have all : ∀ (byte : Fin 256) (index : Fin 8),
      (UInt8.ofNat byte &&& (1 <<< index.val.toUInt8) != 0) =
        (UInt8.ofNat byte).toBitVec.getLsbD index := by decide +kernel
  have here := all ⟨bitmap.toNat, bitmap.toNat_lt⟩ ⟨profile.index, profile.index_lt⟩
  simpa [isSet, bit] using here

theorem getLsbD_bit (profile other : Profile) :
    (bit profile).toBitVec.getLsbD other.index = decide (profile = other) := by
  cases profile <;> cases other <;> decide

@[simp] theorem isSet_or_bit (bitmap : UInt8) (profile other : Profile) :
    isSet (bitmap ||| bit profile) other = (isSet bitmap other || decide (profile = other)) := by
  simp [isSet_eq, getLsbD_bit]

@[simp] theorem isSet_and_not_bit (bitmap : UInt8) (profile other : Profile) :
    isSet (bitmap &&& ~~~ bit profile) other =
      (isSet bitmap other && !decide (profile = other)) := by
  simp only [isSet_eq, UInt8.toBitVec_and, UInt8.toBitVec_not, BitVec.getLsbD_and,
    BitVec.getLsbD_not, getLsbD_bit, other.index_lt, decide_true, Bool.true_and]

@[simp] theorem isSet_zero (profile : Profile) : isSet 0 profile = false := by
  cases profile <;> decide

inductive ConnType where
  | l2cap
  | sco
  | le
deriving DecidableEq, Repr

structure ConnProf where
  handle : UInt16
  type : ConnType
  profileBitmap : UInt8 := 0
  profileRefcount : Profile → Int8 := fun _ => 0

structure ProfInfo where
  handle : UInt16
  psm : UInt16
  dcid : UInt16
  scid : UInt16
  profileIndex : Profile
deriving DecidableEq, Repr

inductive BtOperation where
  | inquiryStart
  | inquiryEnd
  | pageStart
  | pageSuccessEnd
  | pageUnsuccessEnd
  | pairStart
  | pairEnd
deriving DecidableEq, Repr

-- `rtk_prof` with the vendor command pipe. The timers are known by whether they run, `toWifi`
-- lists the calls of `rtk_notify_btoperation_to_wifi`, and `mem` says which of the coming
-- allocations succeed (all of them once it is empty).
structure RtkProf where
  connHash : List ConnProf := []
  profileList : List ProfInfo := []
  a2dpPacketCount : UInt32 := 0
  panPacketCount : UInt32 := 0
  hogpPacketCount : UInt32 := 0
  voicePacketCount : UInt32 := 0
  timerA2dpPacketCount : Bool := false
  timerPanPacketCount : Bool := false
  timerHogpPacketCount : Bool := false
  profileBitmap : UInt8 := 0
  profileStatus : UInt8 := 0
  profileRefcount : Profile → Int8 := fun _ => 0
  ispairing : Bool := false
  isinquirying : Bool := false
  ispaging : Bool := false
  toWifi : List BtOperation := []
  pipe : CoexPipe := {}
  mem : List Bool := []

namespace RtkProf

def malloc (prof : RtkProf) : Bool × RtkProf :=
  match prof.mem with
  | [] => (true, prof)
  | outcome :: rest => (outcome, { prof with mem := rest })

def vendorCmdToFw (prof : RtkProf) (opcode : UInt16) (parameter : List UInt8) : RtkProf :=
  let cmd : VendorCmd := { opcode := opcode, parameter := parameter, pCback := none }
  let (buffer, prof) := prof.malloc
  if !buffer then prof
  else if !prof.pipe.coexCmdSend then
    { prof with pipe := rtkVendorCmdToFw prof.pipe cmd true true }
  else
    let (info, prof) := prof.malloc
    { prof with pipe := rtkVendorCmdToFw prof.pipe cmd true info }

def isProfileConnected (prof : RtkProf) (profile : Profile) : Bool :=
  isSet prof.profileBitmap profile

def isProfileBusy (prof : RtkProf) (profile : Profile) : Bool :=
  isSet prof.profileStatus profile

end RtkProf

-- The second loop of `rtk_notify_profileinfo_to_fw`, with its `uint8_t` countdown.
def reportedHandles : List ConnProf → UInt8 → List UInt8
  | [], _ => []
  | conn :: rest, handleNumber =>
    if conn.profileBitmap ≠ 0 then
      let entry := [conn.handle.toUInt8, (conn.handle >>> 8).toUInt8, conn.profileBitmap]
      if handleNumber - 1 = 0 then entry else entry ++ reportedHandles rest (handleNumber - 1)
    else if handleNumber = 0 then []
    else reportedHandles rest handleNumber

def rtkNotifyProfileinfoToFw (prof : RtkProf) : RtkProf :=
  let handleNumber := (prof.connHash.filter (fun conn => conn.profileBitmap ≠ 0)).length.toUInt8
  let bufferSize := 1 + handleNumber.toNat * 3 + 1
  let buffer := [handleNumber] ++ reportedHandles prof.connHash handleNumber ++ [prof.profileStatus]
  let (allocated, prof) := prof.malloc
  if !allocated then prof
  else prof.vendorCmdToFw hciVendorSetProfileReportCommand (buffer.take (bufferSize % 256))

def updateProfileState (prof : RtkProf) (index : Profile) (isBusy : Bool) : RtkProf :=
  if !isSet prof.profileBitmap index then prof
  else if isBusy then
    if !isSet prof.profileStatus index then
      rtkNotifyProfileinfoToFw { prof with profileStatus := prof.profileStatus ||| bit index }
    else prof
  else
    if isSet prof.profileStatus index then
      rtkNotifyProfileinfoToFw { prof with profileStatus := prof.profileStatus &&& ~~~ bit index }
    else prof

def rtkCheckSetupTimer (prof : RtkProf) : Profile → RtkProf
  | .a2dp => { prof with a2dpPacketCount := 0, timerA2dpPacketCount := true }
  | .pan => { prof with panPacketCount := 0, timerPanPacketCount := true }
  | .hogp | .voice =>
    if prof.profileRefcount .hogp = 0 ∧ prof.profileRefcount .voice = 0 then
      { prof with hogpPacketCount := 0, voicePacketCount := 0, timerHogpPacketCount := true }
    else prof
  | _ => prof

def rtkCheckDelTimer (prof : RtkProf) : Profile → RtkProf
  | .a2dp => { prof with a2dpPacketCount := 0, timerA2dpPacketCount := false }
  | .pan => { prof with panPacketCount := 0, timerPanPacketCount := false }
  | .hogp =>
    let prof := { prof with hogpPacketCount := 0 }
    if prof.profileRefcount .voice = 0 then { prof with timerHogpPacketCount := false } else prof
  | .voice =>
    let prof := { prof with voicePacketCount := 0 }
    if prof.profileRefcount .hogp = 0 then { prof with timerHogpPacketCount := false } else prof
  | _ => prof

def ifNeedUpadte (prof : RtkProf) (needUpdate : Bool) : RtkProf :=
  if needUpdate then rtkNotifyProfileinfoToFw prof else prof

def increment (refcount : Profile → Int8) (index : Profile) : Profile → Int8 :=
  Function.update refcount index (refcount index + 1)

def decrement (refcount : Profile → Int8) (index : Profile) : Profile → Int8 :=
  Function.update refcount index (refcount index - 1)

def ConnProf.add (conn : ConnProf) (index : Profile) : ConnProf :=
  { conn with
    profileBitmap :=
      if conn.profileRefcount index = 0 then conn.profileBitmap ||| bit index
      else conn.profileBitmap
    profileRefcount := increment conn.profileRefcount index }

def ConnProf.dropsInterval (conn : ConnProf) (index : Profile) : Bool :=
  index = .hid ∧ conn.profileRefcount index - 1 = 0 ∧ isSet conn.profileBitmap .hidInterval

def ConnProf.remove (conn : ConnProf) (index : Profile) : ConnProf :=
  let cleared :=
    if conn.profileRefcount index - 1 = 0 then conn.profileBitmap &&& ~~~ bit index
    else conn.profileBitmap
  { conn with
    profileBitmap := if conn.dropsInterval index then cleared &&& ~~~ bit .hidInterval else cleared
    profileRefcount := decrement conn.profileRefcount index }

def globalAdd (prof : RtkProf) (index : Profile) : RtkProf :=
  let prof :=
    if prof.profileRefcount index = 0 then
      rtkCheckSetupTimer
        { prof with
          profileBitmap := prof.profileBitmap ||| bit index
          profileStatus :=
            if index = .sco then prof.profileStatus ||| bit index else prof.profileStatus } index
    else prof
  { prof with profileRefcount := increment prof.profileRefcount index }

def globalRemove (prof : RtkProf) (index : Profile) : RtkProf :=
  let prof := { prof with profileRefcount := decrement prof.profileRefcount index }
  if prof.profileRefcount index = 0 then
    rtkCheckDelTimer
      { prof with
        profileBitmap := prof.profileBitmap &&& ~~~ bit index
        profileStatus := prof.profileStatus &&& ~~~ bit index } index
  else prof

-- Connections are pointed at by their place in `conn_hash`. An index below zero never comes here:
-- `list_allocate_add` refuses it.
def updateProfileConnection (prof : RtkProf) (hciConn : Nat) (index : Profile) (isAdd : Bool) :
    RtkProf :=
  match prof.connHash[hciConn]? with
  | none => prof
  | some conn =>
    if isAdd then
      let needUpdate := prof.profileRefcount index = 0 ∨ conn.profileRefcount index = 0
      let prof := globalAdd prof index
      ifNeedUpadte { prof with connHash := prof.connHash.set hciConn (conn.add index) } needUpdate
    else
      let needUpdate := prof.profileRefcount index - 1 = 0 ∨ conn.profileRefcount index - 1 = 0
      let prof := globalRemove prof index
      let prof := { prof with connHash := prof.connHash.set hciConn (conn.remove index) }
      let prof :=
        if conn.dropsInterval index then
          { prof with profileRefcount := decrement prof.profileRefcount .hidInterval }
        else prof
      ifNeedUpadte prof needUpdate

def findConnectionByHandle (prof : RtkProf) (handle : UInt16) : Option Nat :=
  prof.connHash.findIdx? (fun desc => handle &&& 0xEFF = desc.handle)

def updateHidActiveState (prof : RtkProf) (handle interval : UInt16) : RtkProf :=
  match findConnectionByHandle prof handle with
  | none => prof
  | some hciConn =>
    match prof.connHash[hciConn]? with
    | none => prof
    | some conn =>
      if !isSet conn.profileBitmap .hid then prof
      else if interval < 60 then
        if !isSet conn.profileBitmap .hidInterval then
          let refcount := increment prof.profileRefcount .hidInterval
          rtkNotifyProfileinfoToFw
            { prof with
              connHash := prof.connHash.set hciConn
                { conn with profileBitmap := conn.profileBitmap ||| bit .hidInterval }
              profileRefcount := refcount
              profileStatus :=
                if refcount .hidInterval = 1 then prof.profileStatus ||| bit .hid
                else prof.profileStatus }
        else prof
      else
        if isSet conn.profileBitmap .hidInterval then
          let refcount := decrement prof.profileRefcount .hidInterval
          rtkNotifyProfileinfoToFw
            { prof with
              connHash := prof.connHash.set hciConn
                { conn with profileBitmap := conn.profileBitmap &&& ~~~ bit .hidInterval }
              profileRefcount := refcount
              profileStatus :=
                if refcount .hidInterval = 0 then prof.profileStatus &&& ~~~ bit .hid
                else prof.profileStatus }
        else prof

end UnionpiTiger.Coex
