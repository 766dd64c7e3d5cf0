import UnionpiTiger.Coex.Profiles

set_option autoImplicit false

namespace UnionpiTiger.Coex

open Lib

-- The parser with the handles for which a connection request came since their last Disconnection
-- Complete.
structure Channels where
  prof : RtkProf := rtkParseInit
  asked : UInt16 → Bool := fun _ => false

def requested : CoexEvent → Option UInt16
  | .acl pp _ =>
    match decodeL2cap pp with
    | .connectionReq handle _ _ => some handle
    | _ => none
  | _ => none

def disconnected : CoexEvent → Option UInt16
  | .hci msg =>
    match decodeEvent msg with
    | .disconnectionComplete status handle => if status = 0 then some handle else none
    | _ => none
  | _ => none

def handleBits (handle : UInt16) : UInt16 := handle &&& 0xFFF

def Channels.step (channels : Channels) (event : CoexEvent) : Channels where
  prof := coexStep channels.prof event
  asked :=
    match requested event, disconnected event with
    | some handle, _ => Function.update channels.asked handle true
    | none, some handle => Function.update channels.asked (handleBits handle) false
    | none, none => channels.asked

def Channels.Clean (channels : Channels) : Prop :=
  ∀ info ∈ channels.prof.profileList, channels.asked info.handle = true

def Answered (channels : Channels) (event : CoexEvent) : Prop :=
  ∀ handle ∈ disconnected event, ∀ info ∈ channels.prof.profileList, info.handle = handleBits handle →
    (∃ conn ∈ foundConnection channels.prof handle, conn.type = .l2cap) ∧
      info.establishedOn handle = true

section Lists

variable (prof : RtkProf)

@[simp] theorem updateProfileConnection_profileList (place : Nat) (index : Profile) (isAdd : Bool) :
    (updateProfileConnection prof place index isAdd).profileList = prof.profileList := by
  have same := congrArg Accounts.profileList (updateProfileConnection_accounts prof place index isAdd)
  refine Eq.trans same ?_
  cases isAdd with
  | true =>
    rw [Accounts.update, if_pos rfl, Accounts.add]
    split <;> rfl
  | false =>
    rw [Accounts.update, if_neg Bool.false_ne_true, Accounts.remove]
    split <;> rfl

theorem updateHidActiveState_profileList (handle interval : UInt16) :
    (updateHidActiveState prof handle interval).profileList = prof.profileList := by
  rcases updateHidActiveState_cases prof handle interval with same | ⟨place, conn, -, -,
    ⟨-, -, -, same⟩ | ⟨-, same⟩⟩
  · exact congrArg Accounts.profileList same
  · exact congrArg Accounts.profileList same
  · exact congrArg Accounts.profileList same

theorem malloc_profileList : prof.malloc.2.profileList = prof.profileList :=
  congrArg Accounts.profileList (malloc_accounts prof)

theorem openConnection_profileList (handle : UInt16) (type : ConnType) :
    (openConnection prof handle type).2.profileList = prof.profileList := by
  unfold openConnection
  split
  · have kept := malloc_profileList prof
    simp only [allocateConnection]
    split <;> exact kept
  · split <;> rfl

theorem disconnectProfiles_profileList (place : Nat) (handle : UInt16) (type : ConnType) :
    (disconnectProfiles prof place handle type).profileList =
      if type = .l2cap then prof.profileList.filter fun info => !info.establishedOn handle
        else prof.profileList := by
  cases type with
  | l2cap => rfl
  | sco => exact updateProfileConnection_profileList prof place .sco false
  | le =>
    have optional (prof : RtkProf) (index : Profile) : (if connHas prof place index then
        updateProfileConnection prof place index false else prof).profileList = prof.profileList := by
      split_ifs
      · exact updateProfileConnection_profileList prof place index false
      · rfl
    rw [if_neg (by decide), disconnectProfiles, updateProfileConnection_profileList, optional, optional]

theorem disconnectComplete_profileList (handle : UInt16) :
    ((∃ conn ∈ foundConnection prof handle, conn.type = .l2cap) ∧
        (rtkHandleDisconnectCompleteEvt prof 0 handle).profileList =
          prof.profileList.filter fun info => !info.establishedOn handle) ∨
      (¬ (∃ conn ∈ foundConnection prof handle, conn.type = .l2cap) ∧
        (rtkHandleDisconnectCompleteEvt prof 0 handle).profileList = prof.profileList) := by
  have ended := endPairing_accounts prof
  have list : (endPairing prof).profileList = prof.profileList := congrArg Accounts.profileList ended
  rw [← foundConnection_of_accounts ended]
  simp only [rtkHandleDisconnectCompleteEvt, if_true, foundConnection]
  cases search : findConnectionByHandle (endPairing prof) handle with
  | none =>
    refine .inr ⟨?_, list⟩
    rintro ⟨conn, there, -⟩
    cases there
  | some place =>
    obtain ⟨conn, found, -⟩ := find_spec handle search
    have closed := disconnectProfiles_profileList (endPairing prof) place handle conn.type
    rw [list] at closed
    simp only [Option.bind_some, found, Option.mem_some_iff]
    by_cases l2cap : conn.type = .l2cap
    · rw [if_pos l2cap] at closed
      exact .inl ⟨⟨conn, rfl, l2cap⟩, closed⟩
    · rw [if_neg l2cap] at closed
      refine .inr ⟨?_, closed⟩
      rintro ⟨_, rfl, same⟩
      exact l2cap same

def Kept (before after : List ProfInfo) : Prop :=
  ∀ info ∈ after, ∃ old ∈ before, old.handle = info.handle ∧ old.profileIndex = info.profileIndex

theorem Kept.of_eq {before after : List ProfInfo} (same : after = before) : Kept before after :=
  fun info there => ⟨info, same ▸ there, rfl, rfl⟩

theorem handleL2capConReq_list (handle psm scid : UInt16) (direction : Direction) :
    ∀ info ∈ (handleL2capConReq prof handle psm scid direction).profileList,
      info ∈ prof.profileList ∨ info.handle = handle ∧ info.profileIndex ≠ .hidInterval := by
  have added {profileIndex : Profile} (proper : profileIndex ≠ .hidInterval) (dcid scid : UInt16) :
      ∀ info ∈ (listAllocateAdd prof handle psm profileIndex dcid scid).profileList,
        info ∈ prof.profileList ∨ info.handle = handle ∧ info.profileIndex ≠ .hidInterval := by
    intro info there
    have kept := malloc_profileList prof
    simp only [listAllocateAdd] at there
    split_ifs at there
    · rw [kept] at there
      exact .inl there
    · rw [kept] at there
      rcases List.mem_append.mp there with old | new
      · exact .inl old
      · rw [List.mem_singleton.mp new]
        exact .inr ⟨rfl, proper⟩
  unfold handleL2capConReq
  cases mapped : psmToProfileIndex psm with
  | none => exact fun info there => .inl there
  | some profileIndex =>
    have proper := psmToProfileIndex_proper psm mapped
    cases direction <;> dsimp only <;> split_ifs
    · exact fun info there => .inl there
    · exact added proper scid 0
    · exact fun info there => .inl there
    · exact added proper 0 scid

theorem handleL2capConRsp_kept (handle dcid scid : UInt16) (direction : Direction) (result : UInt8) :
    Kept prof.profileList (handleL2capConRsp prof handle dcid scid direction result).profileList := by
  unfold handleL2capConRsp
  split
  · exact .of_eq rfl
  · next place search =>
    split
    · exact .of_eq rfl
    · next info found =>
      split_ifs
      · exact .of_eq rfl
      · have answered : Kept prof.profileList
          (prof.profileList.set place (info.answer dcid direction)) := by
          intro other there
          rcases List.mem_or_eq_of_mem_set there with old | rfl
          · exact ⟨other, old, rfl, rfl⟩
          · exact ⟨info, List.mem_of_getElem? found,
              by cases direction <;> rfl, (answer_profileIndex info dcid direction).symm⟩
        dsimp only
        split
        · exact answered
        · rw [updateProfileConnection_profileList]
          exact answered

theorem handleL2capDisconReq_kept (handle dcid scid : UInt16) (direction : Direction) :
    Kept prof.profileList (handleL2capDisconReq prof handle dcid scid direction).profileList := by
  unfold handleL2capDisconReq
  split
  · exact .of_eq rfl
  · split
    · intro info there
      dsimp only at there
      split_ifs at there
      · rw [updateProfileConnection_profileList, updateProfileConnection_profileList] at there
        exact ⟨info, List.mem_of_mem_eraseIdx there, rfl, rfl⟩
      · rw [updateProfileConnection_profileList] at there
        exact ⟨info, List.mem_of_mem_eraseIdx there, rfl, rfl⟩
    · exact .of_eq rfl

theorem list_of_accounts {next : RtkProf} (same : next.accounts = prof.accounts) :
    next.profileList = prof.profileList :=
  congrArg Accounts.profileList same

theorem a2dpBusy_profileList (place : Nat) (direction : Direction) (userData : List UInt8) :
    (a2dpBusy prof place direction userData).profileList = prof.profileList := by
  have busy := list_of_accounts _ (updateProfileState_accounts prof .a2dp true)
  cases direction with
  | inbound =>
    simp only [a2dpBusy]
    rw [list_of_accounts _ (vendorCmdToFw_accounts _ _ _),
      list_of_accounts _ (updateProfileState_accounts _ _ _), updateProfileConnection_profileList,
      busy]
  | outbound =>
    simp only [a2dpBusy]
    rw [list_of_accounts _ (vendorCmdToFw_accounts _ _ _), busy]

theorem packetsCount_profileList (handle scid length : UInt16) (direction : Direction)
    (userData : List UInt8) :
    (packetsCount prof handle scid length direction userData).profileList = prof.profileList := by
  unfold packetsCount
  split
  · rfl
  · split
    · split
      · rfl
      · dsimp only
        split_ifs
        · exact a2dpBusy_profileList prof _ direction userData
        · rfl
        · rfl
        · rfl
    · rfl

theorem updateLeProfile_profileList (handle : UInt16) (profileMap : UInt8) (isAdd : Bool) :
    (updateLeProfile prof handle profileMap isAdd).profileList = prof.profileList := by
  unfold updateLeProfile
  split
  · rfl
  · dsimp only
    split_ifs <;> simp only [updateProfileConnection_profileList]

theorem connectionComplete_profileList (status : UInt8) (handle : UInt16) (linkType : UInt8) :
    (rtkHandleConnectionCompleteEvt prof status handle linkType).profileList = prof.profileList := by
  have paged (operation : BtOperation) := list_of_accounts _ (endPaging_accounts prof operation)
  unfold rtkHandleConnectionCompleteEvt
  split_ifs
  · have opened := openConnection_profileList (endPaging prof .pageSuccessEnd) handle .sco
    dsimp only
    split
    · next same => rw [same, paged] at opened; exact opened
    · next same =>
      rw [same, paged] at opened
      rw [updateProfileConnection_profileList]
      exact opened
  · rw [openConnection_profileList, paged]
  · exact paged .pageUnsuccessEnd

theorem leConnectionComplete_profileList (status : UInt8) (handle interval : UInt16) :
    (rtkHandleLeConnectionCompleteEvt prof status handle interval).profileList = prof.profileList := by
  have paged (operation : BtOperation) := list_of_accounts _ (endPaging_accounts prof operation)
  have opened := openConnection_profileList (endPaging prof .pageSuccessEnd) handle .le
  unfold rtkHandleLeConnectionCompleteEvt
  split_ifs
  · split
    · next same => rw [same, paged] at opened; exact opened
    · next same =>
      rw [same, paged] at opened
      rw [updateHidActiveState_profileList, updateProfileConnection_profileList]
      exact opened
  · exact paged .pageUnsuccessEnd

theorem disconnectComplete_failed (handle : UInt16) {status : UInt8} (failed : status ≠ 0) :
    (rtkHandleDisconnectCompleteEvt prof status handle).profileList = prof.profileList := by
  simp only [rtkHandleDisconnectCompleteEvt, if_neg failed]
  exact list_of_accounts _ (endPairing_accounts prof)

theorem handleEvent_profileList {event : HciEvent}
    (up : ∀ status handle, event = .disconnectionComplete status handle → status ≠ 0) :
    (handleEvent prof event).profileList = prof.profileList := by
  cases event with
  | inquiryComplete => exact list_of_accounts _ (endInquiry_accounts prof)
  | pairingStart => exact list_of_accounts _ (startPairing_accounts prof)
  | pairingEnd => exact list_of_accounts _ (endPairing_accounts prof)
  | modeChange handle interval => exact updateHidActiveState_profileList prof handle interval
  | commandComplete opcode status =>
    simp only [handleEvent]
    split_ifs
    · exact list_of_accounts _ (endInquiry_accounts prof)
    · rfl
  | commandStatus status opcode =>
    simp only [handleEvent]
    split_ifs
    · exact list_of_accounts _ (endInquiry_accounts prof)
    · exact list_of_accounts _ (startPaging_accounts prof)
    · rfl
  | connectionComplete status handle linkType =>
      exact connectionComplete_profileList prof status handle linkType
  | disconnectionComplete status handle =>
      exact disconnectComplete_failed prof handle (up status handle rfl)
  | leConnectionComplete status handle interval =>
      exact leConnectionComplete_profileList prof status handle interval
  | leConnectionUpdate handle interval => exact updateHidActiveState_profileList prof handle interval
  | other => rfl

theorem handleL2cap_list (direction : Direction) (pdu : L2capPdu) :
    ∀ info ∈ (handleL2cap prof direction pdu).profileList,
      (∃ old ∈ prof.profileList, old.handle = info.handle ∧ old.profileIndex = info.profileIndex) ∨
        (∃ psm scid, pdu = .connectionReq info.handle psm scid) ∧ info.profileIndex ≠ .hidInterval := by
  cases pdu with
  | connectionReq handle psm scid =>
    intro info there
    rcases handleL2capConReq_list prof handle psm scid direction info there with old | ⟨rfl, proper⟩
    · exact .inl ⟨info, old, rfl, rfl⟩
    · exact .inr ⟨⟨psm, scid, rfl⟩, proper⟩
  | connectionRsp handle dcid scid result =>
    exact fun info there =>
      .inl (handleL2capConRsp_kept prof handle dcid scid direction result info there)
  | disconnectionReq handle dcid scid =>
    exact fun info there => .inl (handleL2capDisconReq_kept prof handle dcid scid direction info there)
  | data handle channel pduLen userData =>
    intro info there
    simp only [handleL2cap] at there
    split_ifs at there
    · rw [packetsCount_profileList] at there
      exact .inl ⟨info, there, rfl, rfl⟩
    · exact .inl ⟨info, there, rfl, rfl⟩
  | ignored => exact fun info there => .inl ⟨info, there, rfl, rfl⟩

theorem coexStep_list {event : CoexEvent} (up : disconnected event = none) :
    ∀ info ∈ (coexStep prof event).profileList,
      (∃ old ∈ prof.profileList, old.handle = info.handle ∧ old.profileIndex = info.profileIndex) ∨
        requested event = some info.handle ∧ info.profileIndex ≠ .hidInterval := by
  have same {next : RtkProf} (list : next.profileList = prof.profileList) : ∀ info ∈ next.profileList,
      (∃ old ∈ prof.profileList, old.handle = info.handle ∧ old.profileIndex = info.profileIndex) ∨
        requested event = some info.handle ∧ info.profileIndex ≠ .hidInterval :=
    fun info there => .inl ⟨info, list ▸ there, rfl, rfl⟩
  cases event with
  | hci msg =>
    refine same (handleEvent_profileList prof fun status handle decoded good => ?_)
    simp [disconnected, decoded, good] at up
  | acl pp direction =>
    intro info there
    rcases handleL2cap_list prof direction (decodeL2cap pp) info there with old
      | ⟨⟨psm, scid, decoded⟩, proper⟩
    · exact .inl old
    · exact .inr ⟨by rw [requested, decoded], proper⟩
  | command pp => exact same (list_of_accounts _ (rtkParseCommand_accounts prof pp))
  | a2dpTimer => exact same (list_of_accounts _ (timerA2dpPacketCount_accounts prof))
  | hogpTimer => exact same (list_of_accounts _ (timerHogpPacketCount_accounts prof))
  | panTimer => exact same (list_of_accounts _ (timerPanPacketCount_accounts prof))
  | addLeProfile handle profileMap =>
      exact same (updateLeProfile_profileList prof handle profileMap true)
  | deleteLeProfile handle profileMap =>
      exact same (updateLeProfile_profileList prof handle profileMap false)
  | addLeDataCount dataType =>
      exact same (list_of_accounts _ (rtkAddLeDataCount_accounts prof dataType))
  | vendorCommandComplete pBuf => exact same rfl
  | memory mem => exact same rfl

end Lists

theorem disconnected_cases {event : CoexEvent} {handle : UInt16}
    (down : disconnected event = some handle) :
    ∃ msg, event = .hci msg ∧ decodeEvent msg = .disconnectionComplete 0 handle := by
  cases event with
  | hci msg =>
    refine ⟨msg, rfl, ?_⟩
    simp only [disconnected] at down
    split at down
    · next status other decoded =>
      split_ifs at down with good
      rw [decoded, good, Option.some.inj down]
    · cases down
  | _ => cases down

theorem Channels.Clean.step_iff {channels : Channels} (clean : channels.Clean) (event : CoexEvent) :
    Answered channels event ↔ (channels.step event).Clean := by
  cases down : disconnected event with
  | none =>
    refine iff_of_true (by simp [Answered, down]) fun info there => ?_
    simp only [Channels.step, down]
    rcases coexStep_list channels.prof down info there with ⟨old, before, same, -⟩ | ⟨asked, -⟩
    · have asked := clean old before
      rw [same] at asked
      cases requested event with
      | none => exact asked
      | some handle =>
        dsimp only
        by_cases new : info.handle = handle
        · rw [new, Function.update_self]
        · rw [Function.update_of_ne new, asked]
    · rw [asked]
      exact Function.update_self ..
  | some handle =>
    obtain ⟨msg, rfl, decoded⟩ := disconnected_cases down
    have next : (channels.step (.hci msg)).asked =
        Function.update channels.asked (handleBits handle) false := by
      simp only [Channels.step, down, requested]
    have list : (coexStep channels.prof (.hci msg)).profileList =
        (rtkHandleDisconnectCompleteEvt channels.prof 0 handle).profileList := by
      rw [coexStep, rtkParseInternalEventIntercept, decoded, handleEvent]
    have answered : Answered channels (.hci msg) ↔
        ∀ info ∈ channels.prof.profileList, info.handle = handleBits handle →
        (∃ conn ∈ foundConnection channels.prof handle, conn.type = .l2cap) ∧
          info.establishedOn handle = true := by
      simp only [Answered, down, Option.mem_some_iff, forall_eq']
    have cleared : (channels.step (.hci msg)).Clean ↔
        ∀ info ∈ (rtkHandleDisconnectCompleteEvt channels.prof 0 handle).profileList,
          info.handle ≠ handleBits handle := by
      unfold Channels.Clean
      rw [next]
      change (∀ info ∈ (coexStep channels.prof (.hci msg)).profileList, _) ↔ _
      rw [list]
      refine forall₂_congr fun info there => ?_
      by_cases same : info.handle = handleBits handle
      · simp [same]
      · rw [Function.update_of_ne same]
        refine iff_of_true ?_ same
        rcases disconnectComplete_profileList channels.prof handle with ⟨-, kept⟩ | ⟨-, kept⟩
        · rw [kept] at there
          exact clean info (List.mem_of_mem_filter there)
        · rw [kept] at there
          exact clean info there
    rw [answered, cleared]
    rcases disconnectComplete_profileList channels.prof handle with ⟨l2cap, kept⟩ | ⟨other, kept⟩
    · rw [kept]
      constructor
      · intro all info there same
        obtain ⟨member, left⟩ := List.mem_filter.mp there
        rw [(all info member same).2] at left
        cases left
      · intro all info member same
        refine ⟨l2cap, ?_⟩
        by_contra pending
        refine all info (List.mem_filter.mpr ⟨member, ?_⟩) same
        rw [Bool.eq_false_of_not_eq_true pending]
        rfl
    · rw [kept]
      exact ⟨fun all info there same => other (all info there same).1,
        fun all info there same => absurd same (all info there)⟩

theorem Channels.Clean.gone {channels : Channels} {event : CoexEvent} {handle : UInt16}
    (clean : (channels.step event).Clean) (down : disconnected event = some handle) :
    ∀ info ∈ (channels.step event).prof.profileList, info.handle ≠ handleBits handle := by
  intro info there same
  have asked := clean info there
  obtain ⟨msg, rfl, -⟩ := disconnected_cases down
  simp [Channels.step, down, requested, same] at asked

theorem channels_clean_iff (events : List CoexEvent) :
    Along Channels.step Answered {} events ↔ ∀ first, first <+: events →
      (run Channels.step {} first).Clean :=
  along_iff_invariant Channels.step Answered Channels.Clean (fun _ event clean =>
    clean.step_iff event) {} nofun events

theorem channels_not_clean :
    ¬ (run Channels.step {} [connectionCompleteEvt 0x0B 1,
      signalling 0x0B .inbound 0x02 [0x19, 0, 0x40, 0],
      disconnectionCompleteEvt 0x0B]).Clean := by
  unfold Channels.Clean
  decide

end UnionpiTiger.Coex
