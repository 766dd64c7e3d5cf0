import Mathlib.Algebra.BigOperators.Group.List.Basic
import Mathlib.Algebra.Order.BigOperators.Group.List
import Mathlib.Algebra.Ring.Int.Defs
import UnionpiTiger.Coex.Profile

set_option autoImplicit false

namespace UnionpiTiger.Coex

def psmToProfileIndex (psm : UInt16) : Option Profile :=
  if psm = 0x0017 ∨ psm = 0x0001 then none
  else if psm = 0x0011 ∨ psm = 0x0013 then some .hid
  else if psm = 0x0019 then some .a2dp
  else some .pan

def findProfileByHandleScid (prof : RtkProf) (handle scid : UInt16) : Option Nat :=
  prof.profileList.findIdx? (fun desc => handle &&& 0xFFF = desc.handle ∧ scid = desc.scid)

def findProfileByHandleDcid (prof : RtkProf) (handle dcid : UInt16) : Option Nat :=
  prof.profileList.findIdx? (fun desc => handle &&& 0xFFF = desc.handle ∧ dcid = desc.dcid)

def findProfileByHandleDcidScid (prof : RtkProf) (handle dcid scid : UInt16) : Option Nat :=
  prof.profileList.findIdx? (fun desc =>
    handle &&& 0xFFF = desc.handle ∧ dcid = desc.dcid ∧ scid = desc.scid)

def listAllocateAdd (prof : RtkProf) (handle psm : UInt16) (profileIndex : Profile)
    (dcid scid : UInt16) : RtkProf :=
  let (allocated, prof) := prof.malloc
  if !allocated then prof
  else
    { prof with
      profileList := prof.profileList ++
        [{ handle := handle, psm := psm, dcid := dcid, scid := scid, profileIndex := profileIndex }] }

inductive Direction where
  | inbound
  | outbound
deriving DecidableEq, Repr

def handleL2capConReq (prof : RtkProf) (handle psm scid : UInt16) (direction : Direction) :
    RtkProf :=
  match psmToProfileIndex psm with
  | none => prof
  | some profileIndex =>
    match direction with
    | .outbound =>
      if (findProfileByHandleScid prof handle scid).isSome then prof
      else listAllocateAdd prof handle psm profileIndex 0 scid
    | .inbound =>
      if (findProfileByHandleDcid prof handle scid).isSome then prof
      else listAllocateAdd prof handle psm profileIndex scid 0

def findAnswered (prof : RtkProf) (handle scid : UInt16) : Direction → Option Nat
  | .inbound => findProfileByHandleScid prof handle scid
  | .outbound => findProfileByHandleDcid prof handle scid

def ProfInfo.answer (info : ProfInfo) (dcid : UInt16) : Direction → ProfInfo
  | .inbound => { info with dcid := dcid }
  | .outbound => { info with scid := dcid }

def handleL2capConRsp (prof : RtkProf) (handle dcid scid : UInt16) (direction : Direction)
    (result : UInt8) : RtkProf :=
  match findAnswered prof handle scid direction with
  | none => prof
  | some place =>
    match prof.profileList[place]? with
    | none => prof
    | some info =>
      if result ≠ 0 then prof
      else
        let prof := { prof with
          profileList := prof.profileList.set place (info.answer dcid direction) }
        match findConnectionByHandle prof handle with
        | none => prof
        | some hciConn => updateProfileConnection prof hciConn info.profileIndex true

def findDisconnected (prof : RtkProf) (handle dcid scid : UInt16) : Direction → Option Nat
  | .inbound => findProfileByHandleDcidScid prof handle scid dcid
  | .outbound => findProfileByHandleDcidScid prof handle dcid scid

def connHas (prof : RtkProf) (hciConn : Nat) (profile : Profile) : Bool :=
  match prof.connHash[hciConn]? with
  | none => false
  | some conn => isSet conn.profileBitmap profile

def handleL2capDisconReq (prof : RtkProf) (handle dcid scid : UInt16) (direction : Direction) :
    RtkProf :=
  match findDisconnected prof handle dcid scid direction with
  | none => prof
  | some place =>
    match prof.profileList[place]?, findConnectionByHandle prof handle with
    | some info, some hciConn =>
      let prof := updateProfileConnection prof hciConn info.profileIndex false
      let prof :=
        if info.profileIndex = .a2dp ∧ connHas prof hciConn .sink then
          updateProfileConnection prof hciConn .sink false
        else prof
      { prof with profileList := prof.profileList.eraseIdx place }
    | _, _ => prof

-- The bit pool of the SBC frame behind the RTP header, its contributing sources and the media
-- payload header.
def sbcBitpool (userData : List UInt8) : UInt8 :=
  userData.getD (12 + (userData.getD 0 0 &&& 0x0F).toNat * 4 + 1 + 2) 0

def a2dpBusy (prof : RtkProf) (hciConn : Nat) (direction : Direction) (userData : List UInt8) :
    RtkProf :=
  let prof := updateProfileState prof .a2dp true
  let prof :=
    match direction with
    | .inbound => updateProfileState (updateProfileConnection prof hciConn .sink true) .sink true
    | .outbound => prof
  prof.vendorCmdToFw hciVendorAddBitpoolFw [sbcBitpool userData]

def packetsCount (prof : RtkProf) (handle scid length : UInt16) (direction : Direction)
    (userData : List UInt8) : RtkProf :=
  match findConnectionByHandle prof handle with
  | none => prof
  | some hciConn =>
    match prof.connHash[hciConn]? with
    | some { type := .l2cap, .. } =>
      match (findAnswered prof handle scid direction).bind (prof.profileList[·]?) with
      | none => prof
      | some info =>
        if info.profileIndex = .a2dp ∧ length > 100 then
          let prof :=
            if !prof.isProfileBusy .a2dp then a2dpBusy prof hciConn direction userData else prof
          { prof with a2dpPacketCount := prof.a2dpPacketCount + 1 }
        else if info.profileIndex = .pan then
          { prof with panPacketCount := prof.panPacketCount + 1 }
        else prof
    | _ => prof

def timerA2dpPacketCount (prof : RtkProf) : RtkProf :=
  let prof :=
    if prof.a2dpPacketCount = 0 ∧ prof.isProfileBusy .a2dp then
      let prof := updateProfileState prof .a2dp false
      if prof.isProfileBusy .sink then updateProfileState prof .sink false else prof
    else prof
  { prof with a2dpPacketCount := 0 }

def timerHogpPacketCount (prof : RtkProf) : RtkProf :=
  let prof :=
    if prof.hogpPacketCount = 0 ∧ prof.isProfileBusy .hogp then updateProfileState prof .hogp false
    else prof
  let prof := { prof with hogpPacketCount := 0 }
  let prof :=
    if prof.voicePacketCount = 0 ∧ prof.isProfileBusy .voice then updateProfileState prof .voice false
    else prof
  { prof with voicePacketCount := 0 }

def panPacketCountLimit : UInt32 := 5

def timerPanPacketCount (prof : RtkProf) : RtkProf :=
  let prof :=
    if prof.panPacketCount < panPacketCountLimit then
      if prof.isProfileBusy .pan then updateProfileState prof .pan false else prof
    else if !prof.isProfileBusy .pan then updateProfileState prof .pan true
    else prof
  { prof with panPacketCount := 0 }

def RtkProf.notifyWifi (prof : RtkProf) (operation : BtOperation) : RtkProf :=
  { prof with toWifi := prof.toWifi ++ [operation] }

def endPaging (prof : RtkProf) (operation : BtOperation) : RtkProf :=
  if prof.ispaging then { prof with ispaging := false }.notifyWifi operation else prof

def endPairing (prof : RtkProf) : RtkProf :=
  if prof.ispairing then { prof with ispairing := false }.notifyWifi .pairEnd else prof

def startPairing (prof : RtkProf) : RtkProf :=
  if !prof.ispairing then { prof with ispairing := true }.notifyWifi .pairStart else prof

def endInquiry (prof : RtkProf) : RtkProf :=
  if prof.isinquirying then { prof with isinquirying := false }.notifyWifi .inquiryEnd else prof

def resetConnection (prof : RtkProf) (hciConn : Nat) (handle : UInt16) (type : ConnType) : RtkProf :=
  { prof with connHash := prof.connHash.set hciConn { handle := handle, type := type } }

-- The place `allocate_connection_by_handle` and `add_connection_to_hash` give the new entry.
def allocateConnection (prof : RtkProf) (handle : UInt16) (type : ConnType) : Option Nat × RtkProf :=
  let (allocated, prof) := prof.malloc
  if !allocated then (none, prof)
  else (some prof.connHash.length,
    { prof with connHash := prof.connHash ++ [{ handle := handle, type := type }] })

def openConnection (prof : RtkProf) (handle : UInt16) (type : ConnType) : Option Nat × RtkProf :=
  match findConnectionByHandle prof handle with
  | none => allocateConnection prof handle type
  | some hciConn =>
    match prof.connHash[hciConn]? with
    | none => (none, prof)
    | some conn => (some hciConn, resetConnection prof hciConn conn.handle type)

def scoLink (linkType : UInt8) : Bool := linkType = 0 ∨ linkType = 2

def rtkHandleConnectionCompleteEvt (prof : RtkProf) (status : UInt8) (handle : UInt16)
    (linkType : UInt8) : RtkProf :=
  if status = 0 then
    let prof := endPaging prof .pageSuccessEnd
    if scoLink linkType then
      match openConnection prof handle .sco with
      | (none, prof) => prof
      | (some hciConn, prof) => updateProfileConnection prof hciConn .sco true
    else (openConnection prof handle .l2cap).2
  else endPaging prof .pageUnsuccessEnd

def rtkHandleLeConnectionCompleteEvt (prof : RtkProf) (status : UInt8) (handle interval : UInt16) :
    RtkProf :=
  if status = 0 then
    match openConnection (endPaging prof .pageSuccessEnd) handle .le with
    | (none, prof) => prof
    | (some hciConn, prof) =>
      updateHidActiveState (updateProfileConnection prof hciConn .hid true) handle interval
  else endPaging prof .pageUnsuccessEnd

def ProfInfo.establishedOn (info : ProfInfo) (handle : UInt16) : Bool :=
  handle = info.handle ∧ info.scid ≠ 0 ∧ info.dcid ≠ 0

def removeEstablished (hciConn : Nat) (handle : UInt16) : RtkProf → List ProfInfo → RtkProf
  | prof, [] => prof
  | prof, info :: rest =>
    if info.establishedOn handle then
      removeEstablished hciConn handle
        (updateProfileConnection prof hciConn info.profileIndex false) rest
    else removeEstablished hciConn handle prof rest

def handleDisconnectHciConnTypeZero (prof : RtkProf) (hciConn : Nat) (handle : UInt16) : RtkProf :=
  let removed := removeEstablished hciConn handle prof prof.profileList
  { removed with profileList := prof.profileList.filter (fun info => !info.establishedOn handle) }

def disconnectProfiles (prof : RtkProf) (hciConn : Nat) (handle : UInt16) : ConnType → RtkProf
  | .l2cap => handleDisconnectHciConnTypeZero prof hciConn handle
  | .sco => updateProfileConnection prof hciConn .sco false
  | .le =>
    let prof :=
      if connHas prof hciConn .hogp then updateProfileConnection prof hciConn .hogp false else prof
    let prof :=
      if connHas prof hciConn .voice then updateProfileConnection prof hciConn .voice false else prof
    updateProfileConnection prof hciConn .hid false

def rtkHandleDisconnectCompleteEvt (prof : RtkProf) (status : UInt8) (handle : UInt16) : RtkProf :=
  let prof := endPairing prof
  if status = 0 then
    match findConnectionByHandle prof handle with
    | none => prof
    | some hciConn =>
      match prof.connHash[hciConn]? with
      | none => prof
      | some conn =>
        let prof := disconnectProfiles prof hciConn handle conn.type
        { prof with connHash := prof.connHash.eraseIdx hciConn }
  else prof

def hogpMapped (profileMap : UInt8) : Bool := profileMap &&& 0x01 ≠ 0 ∨ profileMap &&& 0x02 ≠ 0

def voiceMapped (profileMap : UInt8) : Bool := profileMap &&& 0x04 ≠ 0

-- `rtk_add_le_profile` and `rtk_delete_le_profile` differ in what they pass on.
def updateLeProfile (prof : RtkProf) (handle : UInt16) (profileMap : UInt8) (isAdd : Bool) : RtkProf :=
  match findConnectionByHandle prof handle with
  | none => prof
  | some hciConn =>
    let prof :=
      if hogpMapped profileMap then updateProfileConnection prof hciConn .hogp isAdd else prof
    if voiceMapped profileMap then updateProfileConnection prof hciConn .voice isAdd else prof

def rtkAddLeProfile (prof : RtkProf) (handle : UInt16) (profileMap : UInt8) : RtkProf :=
  updateLeProfile prof handle profileMap true

def rtkDeleteLeProfile (prof : RtkProf) (handle : UInt16) (profileMap : UInt8) : RtkProf :=
  updateLeProfile prof handle profileMap false

def rtkAddLeDataCount (prof : RtkProf) (dataType : UInt8) : RtkProf :=
  if dataType = 1 ∨ dataType = 2 then
    let prof := { prof with hogpPacketCount := prof.hogpPacketCount + 1 }
    if !prof.isProfileBusy .hogp then updateProfileState prof .hogp true else prof
  else if dataType = 3 then
    let prof := { prof with voicePacketCount := prof.voicePacketCount + 1 }
    if !prof.isProfileBusy .voice then updateProfileState prof .voice true else prof
  else prof

end UnionpiTiger.Coex

namespace UnionpiTiger.Coex

open Lib

inductive HciEvent where
  | inquiryComplete
  | pairingStart
  | pairingEnd
  | modeChange (handle interval : UInt16)
  | commandComplete (opcode : UInt16) (status : UInt8)
  | commandStatus (status : UInt8) (opcode : UInt16)
  | connectionComplete (status : UInt8) (handle : UInt16) (linkType : UInt8)
  | disconnectionComplete (status : UInt8) (handle : UInt16)
  | leConnectionComplete (status : UInt8) (handle interval : UInt16)
  | leConnectionUpdate (handle interval : UInt16)
  | other
deriving DecidableEq, Repr

def decodeLeMeta (p : List UInt8) : HciEvent :=
  let complete (interval : Nat) : HciEvent :=
    .leConnectionComplete (p.getD 1 0) (streamToUint16 p 2) (streamToUint16 p interval)
  match p.getD 0 0 with
  | 0x01 => complete 12
  | 0x0A => complete 24
  | 0x03 => .leConnectionUpdate (streamToUint16 p 2) (streamToUint16 p 4)
  | _ => .other

def decodeEvent (msg : List UInt8) : HciEvent :=
  let p := msg.drop 2
  match msg.getD 0 0 with
  | 0x01 => .inquiryComplete
  | 0x16 | 0x31 => .pairingStart
  | 0x06 | 0x18 => .pairingEnd
  | 0x14 => .modeChange (streamToUint16 p 1) (streamToUint16 p 4)
  | 0x0E => .commandComplete (streamToUint16 p 1) (p.getD 3 0)
  | 0x0F => .commandStatus (p.getD 0 0) (streamToUint16 p 2)
  | 0x03 | 0x2C => .connectionComplete (p.getD 0 0) (streamToUint16 p 1) (p.getD 9 0)
  | 0x05 => .disconnectionComplete (p.getD 0 0) (streamToUint16 p 1)
  | 0x3E => decodeLeMeta p
  | _ => .other

def hciInquiry : UInt16 := 0x0401
def hciInquiryCancel : UInt16 := 0x0402
def hciPeriodicInquiryMode : UInt16 := 0x0403
def hciExitPeriodicInquiryMode : UInt16 := 0x0404
def hciCreateConnection : UInt16 := 0x0405
def hciAcceptConnectionRequest : UInt16 := 0x0409

def startPaging (prof : RtkProf) : RtkProf :=
  if !prof.ispaging then { prof with ispaging := true }.notifyWifi .pageStart else prof

def startInquiry (prof : RtkProf) : RtkProf :=
  if !prof.isinquirying then { prof with isinquirying := true }.notifyWifi .inquiryStart else prof

def handleEvent (prof : RtkProf) : HciEvent → RtkProf
  | .inquiryComplete => endInquiry prof
  | .pairingStart => startPairing prof
  | .pairingEnd => endPairing prof
  | .modeChange handle interval => updateHidActiveState prof handle interval
  | .commandComplete opcode status =>
    if opcode = hciPeriodicInquiryMode ∧ status ≠ 0 then endInquiry prof else prof
  | .commandStatus status opcode =>
    if opcode = hciInquiry ∧ status ≠ 0 then endInquiry prof
    else if opcode = hciCreateConnection ∧ status = 0 then startPaging prof
    else prof
  | .connectionComplete status handle linkType =>
    rtkHandleConnectionCompleteEvt prof status handle linkType
  | .disconnectionComplete status handle => rtkHandleDisconnectCompleteEvt prof status handle
  | .leConnectionComplete status handle interval =>
    rtkHandleLeConnectionCompleteEvt prof status handle interval
  | .leConnectionUpdate handle interval => updateHidActiveState prof handle interval
  | .other => prof

def rtkParseInternalEventIntercept (prof : RtkProf) (msg : List UInt8) : RtkProf :=
  handleEvent prof (decodeEvent msg)

def rtkParseCommand (prof : RtkProf) (pp : List UInt8) : RtkProf :=
  let cmd := streamToUint16 pp 0
  if cmd = hciInquiry ∨ cmd = hciPeriodicInquiryMode then startInquiry prof
  else if cmd = hciInquiryCancel ∨ cmd = hciExitPeriodicInquiryMode then endInquiry prof
  else if cmd = hciAcceptConnectionRequest then startPaging prof
  else prof

inductive L2capPdu where
  | connectionReq (handle psm scid : UInt16)
  | connectionRsp (handle dcid scid : UInt16) (result : UInt8)
  | disconnectionReq (handle dcid scid : UInt16)
  | data (handle channel pduLen : UInt16) (userData : List UInt8)
  | ignored
deriving DecidableEq, Repr

def rtkStartPacketBoundary : UInt16 := 2

def decodeL2cap (pp : List UInt8) : L2capPdu :=
  let flag := (streamToUint16 pp 0 >>> 12) &&& 3
  let handle := streamToUint16 pp 0 &&& 0x0FFF
  if flag ≠ rtkStartPacketBoundary then .ignored
  else if streamToUint16 pp 6 = 0x0001 then
    match pp.getD 8 0 with
    | 0x02 => .connectionReq handle (streamToUint16 pp 12) (streamToUint16 pp 14)
    | 0x03 =>
      .connectionRsp handle (streamToUint16 pp 12) (streamToUint16 pp 14)
        (streamToUint16 pp 16).toUInt8
    | 0x06 => .disconnectionReq handle (streamToUint16 pp 12) (streamToUint16 pp 14)
    | _ => .ignored
  else .data handle (streamToUint16 pp 6) (streamToUint16 pp 4) (pp.drop 8)

def handleL2cap (prof : RtkProf) (direction : Direction) : L2capPdu → RtkProf
  | .connectionReq handle psm scid => handleL2capConReq prof handle psm scid direction
  | .connectionRsp handle dcid scid result => handleL2capConRsp prof handle dcid scid direction result
  | .disconnectionReq handle dcid scid => handleL2capDisconReq prof handle dcid scid direction
  | .data handle channel pduLen userData =>
    if prof.isProfileConnected .a2dp || prof.isProfileConnected .pan then
      packetsCount prof handle channel pduLen direction userData
    else prof
  | .ignored => prof

def rtkParseL2capData (prof : RtkProf) (pp : List UInt8) (direction : Direction) : RtkProf :=
  handleL2cap prof direction (decodeL2cap pp)

inductive CoexEvent where
  | hci (msg : List UInt8)
  | acl (pp : List UInt8) (direction : Direction)
  | command (pp : List UInt8)
  | a2dpTimer
  | hogpTimer
  | panTimer
  | addLeProfile (handle : UInt16) (profileMap : UInt8)
  | deleteLeProfile (handle : UInt16) (profileMap : UInt8)
  | addLeDataCount (dataType : UInt8)
  | vendorCommandComplete (pBuf : List UInt8)
  | memory (mem : List Bool)
deriving DecidableEq, Repr

def coexStep (prof : RtkProf) : CoexEvent → RtkProf
  | .hci msg => rtkParseInternalEventIntercept prof msg
  | .acl pp direction => rtkParseL2capData prof pp direction
  | .command pp => rtkParseCommand prof pp
  | .a2dpTimer => timerA2dpPacketCount prof
  | .hogpTimer => timerHogpPacketCount prof
  | .panTimer => timerPanPacketCount prof
  | .addLeProfile handle profileMap => rtkAddLeProfile prof handle profileMap
  | .deleteLeProfile handle profileMap => rtkDeleteLeProfile prof handle profileMap
  | .addLeDataCount dataType => rtkAddLeDataCount prof dataType
  | .vendorCommandComplete pBuf => { prof with pipe := hwProcessEvent prof.pipe pBuf }
  | .memory mem => { prof with mem := mem }

def rtkParseInit : RtkProf := {}

end UnionpiTiger.Coex

namespace UnionpiTiger.Coex

-- The part of `rtk_prof` that keeps count of who uses which profile. Reports to the firmware and
-- to Wi-Fi, busy states, packet counts and timers leave it alone.
structure Accounts where
  connHash : List ConnProf
  profileList : List ProfInfo
  profileBitmap : UInt8
  profileRefcount : Profile → Int8

def RtkProf.accounts (prof : RtkProf) : Accounts :=
  { connHash := prof.connHash
    profileList := prof.profileList
    profileBitmap := prof.profileBitmap
    profileRefcount := prof.profileRefcount }

namespace Accounts

def add (accounts : Accounts) (place : Nat) (index : Profile) : Accounts :=
  match accounts.connHash[place]? with
  | none => accounts
  | some conn =>
    { accounts with
      connHash := accounts.connHash.set place (conn.add index)
      profileBitmap :=
        if accounts.profileRefcount index = 0 then accounts.profileBitmap ||| bit index
        else accounts.profileBitmap
      profileRefcount := increment accounts.profileRefcount index }

def remove (accounts : Accounts) (place : Nat) (index : Profile) : Accounts :=
  match accounts.connHash[place]? with
  | none => accounts
  | some conn =>
    let refcount := decrement accounts.profileRefcount index
    { accounts with
      connHash := accounts.connHash.set place (conn.remove index)
      profileBitmap :=
        if refcount index = 0 then accounts.profileBitmap &&& ~~~ bit index
        else accounts.profileBitmap
      profileRefcount :=
        if conn.dropsInterval index then decrement refcount .hidInterval else refcount }

def update (accounts : Accounts) (place : Nat) (index : Profile) (isAdd : Bool) : Accounts :=
  if isAdd then accounts.add place index else accounts.remove place index

end Accounts

@[simp] theorem malloc_accounts (prof : RtkProf) : prof.malloc.2.accounts = prof.accounts := by
  unfold RtkProf.malloc
  split <;> rfl

@[simp] theorem vendorCmdToFw_accounts (prof : RtkProf) (opcode : UInt16) (parameter : List UInt8) :
    (prof.vendorCmdToFw opcode parameter).accounts = prof.accounts := by
  have first := malloc_accounts prof
  simp only [RtkProf.vendorCmdToFw]
  split_ifs
  · exact first
  · exact first
  · exact (malloc_accounts prof.malloc.2).trans first

@[simp] theorem rtkNotifyProfileinfoToFw_accounts (prof : RtkProf) :
    (rtkNotifyProfileinfoToFw prof).accounts = prof.accounts := by
  simp only [rtkNotifyProfileinfoToFw]
  split_ifs
  · exact malloc_accounts prof
  · rw [vendorCmdToFw_accounts]
    exact malloc_accounts prof

@[simp] theorem updateProfileState_accounts (prof : RtkProf) (index : Profile) (isBusy : Bool) :
    (updateProfileState prof index isBusy).accounts = prof.accounts := by
  unfold updateProfileState
  split_ifs <;> simp only [rtkNotifyProfileinfoToFw_accounts] <;> rfl

@[simp] theorem rtkCheckSetupTimer_accounts (prof : RtkProf) (index : Profile) :
    (rtkCheckSetupTimer prof index).accounts = prof.accounts := by
  cases index <;> simp only [rtkCheckSetupTimer] <;> try rfl
  all_goals split_ifs <;> rfl

@[simp] theorem rtkCheckDelTimer_accounts (prof : RtkProf) (index : Profile) :
    (rtkCheckDelTimer prof index).accounts = prof.accounts := by
  cases index <;> simp only [rtkCheckDelTimer] <;> try rfl
  all_goals split_ifs <;> rfl

@[simp] theorem ifNeedUpadte_accounts (prof : RtkProf) (needUpdate : Bool) :
    (ifNeedUpadte prof needUpdate).accounts = prof.accounts := by
  cases needUpdate with
  | false => rfl
  | true => exact rtkNotifyProfileinfoToFw_accounts prof

theorem globalAdd_accounts (prof : RtkProf) (index : Profile) :
    (globalAdd prof index).accounts =
      { prof.accounts with
        profileBitmap :=
          if prof.profileRefcount index = 0 then prof.profileBitmap ||| bit index
          else prof.profileBitmap
        profileRefcount := increment prof.profileRefcount index } := by
  unfold globalAdd
  by_cases first : prof.profileRefcount index = 0
  · rw [if_pos first, if_pos first]
    have started := rtkCheckSetupTimer_accounts
      { prof with
        profileBitmap := prof.profileBitmap ||| bit index
        profileStatus :=
          if index = .sco then prof.profileStatus ||| bit index else prof.profileStatus } index
    simp only [RtkProf.accounts, Accounts.mk.injEq] at started ⊢
    obtain ⟨conns, profiles, bitmap, refcount⟩ := started
    exact ⟨conns, profiles, bitmap, by rw [refcount]⟩
  · rw [if_neg first, if_neg first]
    rfl

theorem globalRemove_accounts (prof : RtkProf) (index : Profile) :
    (globalRemove prof index).accounts =
      { prof.accounts with
        profileBitmap :=
          if decrement prof.profileRefcount index index = 0 then
            prof.profileBitmap &&& ~~~ bit index
          else prof.profileBitmap
        profileRefcount := decrement prof.profileRefcount index } := by
  unfold globalRemove
  dsimp only
  split_ifs
  · rw [rtkCheckDelTimer_accounts]
    rfl
  · rfl

@[simp] theorem updateProfileConnection_accounts (prof : RtkProf) (place : Nat) (index : Profile)
    (isAdd : Bool) :
    (updateProfileConnection prof place index isAdd).accounts =
      prof.accounts.update place index isAdd := by
  have added := globalAdd_accounts prof index
  have removed := globalRemove_accounts prof index
  simp only [RtkProf.accounts, Accounts.mk.injEq] at added removed
  obtain ⟨addConns, addList, addBitmap, addCount⟩ := added
  obtain ⟨remConns, remList, remBitmap, remCount⟩ := removed
  cases found : prof.connHash[place]? with
  | none =>
    cases isAdd <;>
      simp [updateProfileConnection, found, Accounts.update, Accounts.add, Accounts.remove,
        RtkProf.accounts]
  | some conn =>
    cases isAdd with
    | true =>
      simp only [updateProfileConnection, found, if_true, ifNeedUpadte_accounts]
      simp only [RtkProf.accounts, Accounts.update, Accounts.add, found, if_true, addConns, addList,
        addBitmap, addCount]
      rfl
    | false =>
      simp only [updateProfileConnection, found, ifNeedUpadte_accounts, Bool.false_eq_true, if_false]
      cases drops : conn.dropsInterval index <;>
        simp only [RtkProf.accounts, Accounts.update, Accounts.remove, found, drops, remConns, remList,
          remBitmap, remCount, Bool.false_eq_true, if_true, if_false] <;>
        rfl

end UnionpiTiger.Coex
