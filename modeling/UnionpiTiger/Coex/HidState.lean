import UnionpiTiger.Coex.HidActive

set_option autoImplicit false

namespace UnionpiTiger.Coex

open Lib

variable {prof : RtkProf}

theorem HidActive.of_view {next : RtkProf} (active : HidActive prof)
    (same : hidView next = hidView prof) : HidActive next := by
  rwa [HidActive, same]

theorem endPaging_mem (prof : RtkProf) (operation : BtOperation) :
    (endPaging prof operation).mem = prof.mem := by
  unfold endPaging
  split_ifs <;> rfl

theorem HidActive.leConnectionComplete_iff (active : HidActive prof) (status : UInt8)
    (handle interval : UInt16) :
    HidEvent prof (.leConnectionComplete status handle interval) ↔
      HidActive (rtkHandleLeConnectionCompleteEvt prof status handle interval) := by
  change (status = 0 → (∀ conn ∈ foundConnection prof handle, intervalBit conn = false) ∧
    (interval < 60 → Opened prof handle → prof.Room .hidInterval)) ↔ _
  have paged (operation : BtOperation) : HidActive (endPaging prof operation) :=
    active.of_view (hidView_endPaging prof operation)
  unfold rtkHandleLeConnectionCompleteEvt
  by_cases good : status = 0
  · have opened := (paged .pageSuccessEnd).openedLe_iff handle interval
    rw [Opened, foundConnection_of_accounts (endPaging_accounts prof .pageSuccessEnd) handle,
      malloc_fst, endPaging_mem, ← malloc_fst,
      room_of_view (congrArg HidView.active (hidView_endPaging prof .pageSuccessEnd))] at opened
    rw [if_pos good]
    simp only [good, forall_const]
    exact opened
  · rw [if_neg good]
    exact iff_of_true (fun zero => absurd zero good) (paged .pageUnsuccessEnd)

section Views

variable (prof : RtkProf)

theorem hidView_endPairing : hidView (endPairing prof) = hidView prof := by
  unfold endPairing
  split_ifs <;> rfl

theorem hidView_endInquiry : hidView (endInquiry prof) = hidView prof := by
  unfold endInquiry
  split_ifs <;> rfl

theorem hidView_startPairing : hidView (startPairing prof) = hidView prof := by
  unfold startPairing
  split_ifs <;> rfl

theorem hidView_startPaging : hidView (startPaging prof) = hidView prof := by
  unfold startPaging
  split_ifs <;> rfl

theorem hidView_startInquiry : hidView (startInquiry prof) = hidView prof := by
  unfold startInquiry
  split_ifs <;> rfl

theorem hidView_command (pp : List UInt8) : hidView (rtkParseCommand prof pp) = hidView prof := by
  simp only [rtkParseCommand]
  split_ifs
  · exact hidView_startInquiry prof
  · exact hidView_endInquiry prof
  · exact hidView_startPaging prof
  · rfl

theorem hidView_updateProfileState {index : Profile} (other : index ≠ .hid) (isBusy : Bool) :
    hidView (updateProfileState prof index isBusy) = hidView prof :=
  hidView_of_accounts (updateProfileState_accounts prof index isBusy)
    (updateProfileState_hidBusy prof other isBusy)

theorem hidView_other {index : Profile} (proper : index ≠ .hidInterval) (other : index ≠ .hid)
    (place : Nat) (isAdd : Bool) :
    hidView (updateProfileConnection prof place index isAdd) = hidView prof := by
  cases isAdd with
  | true => exact hidView_add proper
  | false =>
    cases found : prof.connHash[place]? with
    | none => rw [update_missing found]
    | some conn => exact (hidView_remove_other found proper other).1

theorem hidView_a2dpTimer : hidView (timerA2dpPacketCount prof) = hidView prof := by
  have busy : hidView (updateProfileState prof .a2dp false) = hidView prof :=
    hidView_updateProfileState prof (by decide) false
  simp only [timerA2dpPacketCount]
  split_ifs
  · exact (hidView_updateProfileState _ (by decide) false).trans busy
  · exact busy
  · rfl

theorem hidView_hogpTimer : hidView (timerHogpPacketCount prof) = hidView prof := by
  have first : hidView (updateProfileState prof .hogp false) = hidView prof :=
    hidView_updateProfileState prof (by decide) false
  simp only [timerHogpPacketCount]
  split_ifs
  · exact (hidView_updateProfileState _ (by decide) false).trans first
  · exact first
  · exact hidView_updateProfileState _ (by decide) false
  · rfl

theorem hidView_panTimer : hidView (timerPanPacketCount prof) = hidView prof := by
  simp only [timerPanPacketCount]
  split_ifs
  · exact hidView_updateProfileState prof (by decide) false
  · rfl
  · exact hidView_updateProfileState prof (by decide) true
  · rfl

theorem hidView_addLeDataCount (dataType : UInt8) :
    hidView (rtkAddLeDataCount prof dataType) = hidView prof := by
  simp only [rtkAddLeDataCount]
  split_ifs
  · exact hidView_updateProfileState _ (by decide) true
  · rfl
  · exact hidView_updateProfileState _ (by decide) true
  · rfl
  · rfl

theorem hidView_updateLeProfile (handle : UInt16) (profileMap : UInt8) (isAdd : Bool) :
    hidView (updateLeProfile prof handle profileMap isAdd) = hidView prof := by
  unfold updateLeProfile
  split
  · rfl
  · next place _ =>
    have first : hidView (updateProfileConnection prof place .hogp isAdd) = hidView prof :=
      hidView_other prof (by decide) (by decide) place isAdd
    dsimp only
    split_ifs
    · exact (hidView_other _ (by decide) (by decide) place isAdd).trans first
    · exact hidView_other prof (by decide) (by decide) place isAdd
    · exact first
    · rfl

theorem hidView_vendorCmdToFw (opcode : UInt16) (parameter : List UInt8) :
    hidView (prof.vendorCmdToFw opcode parameter) = hidView prof :=
  hidView_of_accounts (vendorCmdToFw_accounts prof opcode parameter)
    (by rw [hidBusy, vendorCmdToFw_status, hidBusy])

theorem hidView_a2dpBusy (place : Nat) (direction : Direction) (userData : List UInt8) :
    hidView (a2dpBusy prof place direction userData) = hidView prof := by
  have busy : hidView (updateProfileState prof .a2dp true) = hidView prof :=
    hidView_updateProfileState prof (by decide) true
  unfold a2dpBusy
  dsimp only
  rw [hidView_vendorCmdToFw]
  cases direction with
  | inbound => exact ((hidView_updateProfileState _ (by decide) true).trans
      (hidView_add (by decide))).trans busy
  | outbound => exact busy

theorem hidView_packetsCount (handle scid length : UInt16) (direction : Direction)
    (userData : List UInt8) :
    hidView (packetsCount prof handle scid length direction userData) = hidView prof := by
  unfold packetsCount
  split
  · rfl
  · split
    · split
      · rfl
      · dsimp only
        split_ifs
        · exact hidView_a2dpBusy prof _ direction userData
        · rfl
        · rfl
        · rfl
    · rfl

theorem hidView_conReq (handle psm scid : UInt16) (direction : Direction) :
    hidView (handleL2capConReq prof handle psm scid direction) = hidView prof := by
  have added (profileIndex : Profile) (dcid scid : UInt16) :
      hidView (listAllocateAdd prof handle psm profileIndex dcid scid) = hidView prof := by
    simp only [listAllocateAdd]
    split_ifs
    · exact hidView_malloc prof
    · exact hidView_malloc prof
  unfold handleL2capConReq
  split
  · rfl
  · cases direction <;> dsimp only <;> split_ifs
    · rfl
    · exact added _ _ _
    · rfl
    · exact added _ _ _

theorem hidView_conRsp (mapped : ∀ info ∈ prof.profileList, info.profileIndex ≠ .hidInterval)
    (handle dcid scid : UInt16) (direction : Direction) (result : UInt8) :
    hidView (handleL2capConRsp prof handle dcid scid direction result) = hidView prof := by
  unfold handleL2capConRsp
  split
  · rfl
  · split
    · rfl
    · next info found =>
      have proper := mapped info (List.mem_of_getElem? found)
      dsimp only
      split_ifs
      · rfl
      · split
        · rfl
        · exact hidView_add proper

end Views

theorem removalFits_iff {place : Nat} {conn : ConnProf}
    (found : prof.connHash[place]? = some conn) (k : Nat) :
    RemovalFits prof conn k ↔
      (hidView prof).Fits place (hits (prof.profileRefcount .hid) k)
        (hits (conn.profileRefcount .hid) k) := by
  rw [HidView.Fits, hidView_bits found, Option.some.injEq]
  rfl

theorem HidActive.disconnectComplete_iff (active : HidActive prof)
    (mapped : ∀ info ∈ prof.profileList, info.profileIndex ≠ .hidInterval) (status : UInt8)
    (handle : UInt16) :
    HidEvent prof (.disconnectionComplete status handle) ↔
      HidActive (rtkHandleDisconnectCompleteEvt prof status handle) := by
  change (status = 0 → ∀ conn ∈ foundConnection prof handle,
    (intervalBit conn = true → hits (conn.profileRefcount .hid) (hidRemovals prof conn handle) = true) ∧
      RemovalFits prof conn (hidRemovals prof conn handle)) ↔ _
  have accounts := endPairing_accounts prof
  have list : (endPairing prof).profileList = prof.profileList := list_of_accounts prof accounts
  have refcount : (endPairing prof).profileRefcount = prof.profileRefcount :=
    congrArg Accounts.profileRefcount accounts
  have view := hidView_endPairing prof
  have ended : HidActive (endPairing prof) := active.of_view view
  rw [← foundConnection_of_accounts accounts handle]
  unfold rtkHandleDisconnectCompleteEvt
  by_cases good : status = 0
  · simp only [good, if_true, forall_const]
    cases search : findConnectionByHandle (endPairing prof) handle with
    | none =>
      have none : foundConnection (endPairing prof) handle = none := by simp [foundConnection, search]
      rw [none]
      exact iff_of_true (fun conn there => absurd there (Option.not_mem_none conn)) ended
    | some place =>
      obtain ⟨conn, found, -⟩ := find_spec handle search
      have here : foundConnection (endPairing prof) handle = some conn := by
        simp [foundConnection, search, found]
      have removals : hidRemovals (endPairing prof) conn handle = hidRemovals prof conn handle := by
        simp only [hidRemovals, list]
      have removed := disconnectProfiles_hidView handle found (by rwa [list])
      rw [removals, refcount] at removed
      have fits := removalFits_iff found (hidRemovals prof conn handle)
      rw [refcount] at fits
      have same : RemovalFits (endPairing prof) conn (hidRemovals prof conn handle) ↔
          RemovalFits prof conn (hidRemovals prof conn handle) := by rw [RemovalFits, refcount]; rfl
      have erased : hidView { disconnectProfiles (endPairing prof) place handle conn.type with
          connHash := (disconnectProfiles (endPairing prof) place handle
            conn.type).connHash.eraseIdx place } =
          (hidView (disconnectProfiles (endPairing prof) place handle conn.type)).withBits
            ((hidView (disconnectProfiles (endPairing prof) place handle conn.type)).bits.eraseIdx
              place) := by
        apply HidView.ext
        · rfl
        · rfl
        · simp [hidView, HidView.withBits, List.eraseIdx_map]
      rw [here]
      simp only [found, Option.mem_some_iff, forall_eq']
      rw [HidActive, erased, removed, ended.erased_iff (hidView_bits found), ← same, fits]
  · rw [if_neg good]
    exact iff_of_true (fun zero => absurd zero good) ended

theorem hits_one (count : Int8) : hits count 1 = decide (count - 1 = 0) := by
  simp [hits]

theorem HidActive.handleL2capDisconReq_iff (active : HidActive prof)
    (mapped : ∀ info ∈ prof.profileList, info.profileIndex ≠ .hidInterval) (handle dcid scid : UInt16)
    (direction : Direction) :
    HidPdu prof direction (.disconnectionReq handle dcid scid) ↔
      HidActive (handleL2capDisconReq prof handle dcid scid direction) := by
  change (∀ info ∈ (findDisconnected prof handle dcid scid direction).bind (prof.profileList[·]?),
    info.profileIndex = .hid → ∀ conn ∈ foundConnection prof handle, RemovalFits prof conn 1) ↔ _
  unfold handleL2capDisconReq
  cases search : findDisconnected prof handle dcid scid direction with
  | none => exact iff_of_true (fun info there => absurd there (Option.not_mem_none info)) active
  | some at_ =>
    cases entry : prof.profileList[at_]? with
    | none =>
      simp only [Option.bind_some, entry]
      exact iff_of_true (fun info there => absurd there (Option.not_mem_none info)) active
    | some info =>
      simp only [Option.bind_some, entry, Option.mem_some_iff, forall_eq']
      cases owner : findConnectionByHandle prof handle with
      | none =>
        have none : foundConnection prof handle = none := by simp [foundConnection, owner]
        rw [none]
        exact iff_of_true (fun _ conn there => absurd there (Option.not_mem_none conn)) active
      | some place =>
        obtain ⟨conn, found, -⟩ := find_spec handle owner
        have here : foundConnection prof handle = some conn := by simp [foundConnection, owner, found]
        have proper := mapped info (List.mem_of_getElem? entry)
        simp only [here, Option.mem_some_iff, forall_eq']
        by_cases hid : info.profileIndex = .hid
        · obtain ⟨view, -, -⟩ := hidView_remove_hid found
          have fits := removalFits_iff found 1
          rw [hits_one, hits_one] at fits
          simp only [hid, forall_const, reduceCtorEq, false_and, if_false]
          rw [fits, ← active.removed_iff (hidView_bits found), ← view]
          exact Iff.rfl
        · obtain ⟨view, -, -⟩ := hidView_remove_other found proper hid
          have removed : (updateProfileConnection prof place info.profileIndex false).connHash[place]? =
              some (conn.remove info.profileIndex) := connHash_remove found
          obtain ⟨-, -, sink, -⟩ := optional_other .sink removed (by decide) (by decide)
          refine iff_of_true (fun yes => absurd yes hid) ?_
          split_ifs with both
          · rw [if_pos both.2] at sink
            exact active.of_view (sink.trans view)
          · exact active.of_view view

def Mapped (prof : RtkProf) : Prop := ∀ info ∈ prof.profileList, info.profileIndex ≠ .hidInterval

theorem Mapped.step (mapped : Mapped prof) (event : CoexEvent) : Mapped (coexStep prof event) := by
  intro info there
  cases down : disconnected event with
  | none =>
    rcases coexStep_list prof down info there with ⟨old, before, -, same⟩ | ⟨-, proper⟩
    · exact same ▸ mapped old before
    · exact proper
  | some handle =>
    obtain ⟨msg, rfl, decoded⟩ := disconnected_cases down
    rw [coexStep, rtkParseInternalEventIntercept, decoded, handleEvent] at there
    rcases disconnectComplete_profileList prof handle with ⟨-, list⟩ | ⟨-, list⟩
    · rw [list] at there
      exact mapped info (List.mem_of_mem_filter there)
    · rw [list] at there
      exact mapped info there

theorem HidActive.step_iff (active : HidActive prof) (mapped : Mapped prof) (event : CoexEvent) :
    HidSafe prof event ↔ HidActive (coexStep prof event) := by
  have same {next : RtkProf} (view : hidView next = hidView prof) : True ↔ HidActive next :=
    iff_of_true trivial (active.of_view view)
  cases event with
  | hci msg =>
    change HidEvent prof (decodeEvent msg) ↔ HidActive (handleEvent prof (decodeEvent msg))
    cases decodeEvent msg with
    | inquiryComplete => exact same (hidView_endInquiry prof)
    | pairingStart => exact same (hidView_startPairing prof)
    | pairingEnd => exact same (hidView_endPairing prof)
    | modeChange handle interval => exact active.updateHidActiveState_iff handle interval
    | commandComplete opcode status =>
      refine same ?_
      simp only [handleEvent]
      split_ifs
      · exact hidView_endInquiry prof
      · rfl
    | commandStatus status opcode =>
      refine same ?_
      simp only [handleEvent]
      split_ifs
      · exact hidView_endInquiry prof
      · exact hidView_startPaging prof
      · rfl
    | connectionComplete status handle linkType =>
        exact active.connectionComplete_iff status handle linkType
    | disconnectionComplete status handle => exact active.disconnectComplete_iff mapped status handle
    | leConnectionComplete status handle interval =>
        exact active.leConnectionComplete_iff status handle interval
    | leConnectionUpdate handle interval => exact active.updateHidActiveState_iff handle interval
    | other => exact same rfl
  | acl pp direction =>
    change HidPdu prof direction (decodeL2cap pp) ↔
      HidActive (handleL2cap prof direction (decodeL2cap pp))
    cases decodeL2cap pp with
    | connectionReq handle psm scid => exact same (hidView_conReq prof handle psm scid direction)
    | connectionRsp handle dcid scid result =>
        exact same (hidView_conRsp prof mapped handle dcid scid direction result)
    | disconnectionReq handle dcid scid =>
        exact active.handleL2capDisconReq_iff mapped handle dcid scid direction
    | data handle channel pduLen userData =>
      refine same ?_
      simp only [handleL2cap]
      split_ifs
      · exact hidView_packetsCount prof handle channel pduLen direction userData
      · rfl
    | ignored => exact same rfl
  | command pp => exact same (hidView_command prof pp)
  | a2dpTimer => exact same (hidView_a2dpTimer prof)
  | hogpTimer => exact same (hidView_hogpTimer prof)
  | panTimer => exact same (hidView_panTimer prof)
  | addLeProfile handle profileMap => exact same (hidView_updateLeProfile prof handle profileMap true)
  | deleteLeProfile handle profileMap =>
      exact same (hidView_updateLeProfile prof handle profileMap false)
  | addLeDataCount dataType => exact same (hidView_addLeDataCount prof dataType)
  | vendorCommandComplete pBuf => exact same rfl
  | memory mem => exact same rfl

theorem hid_active_iff (events : List CoexEvent) :
    Along coexStep HidSafe rtkParseInit events ↔
      ∀ first, first <+: events → HidActive (run coexStep rtkParseInit first) := by
  refine along_iff_always coexStep HidSafe (fun prof => HidActive prof ∧
    Mapped prof) HidActive (fun _ inv => inv.1) ?_ ?_
    rtkParseInit ⟨⟨?_, rfl⟩, nofun⟩ events
  · exact fun prof event inv safe => ⟨(inv.1.step_iff inv.2 event).mp safe, inv.2.step event⟩
  · exact fun prof event inv good => (inv.1.step_iff inv.2 event).mpr good
  · decide

theorem hid_not_active :
    ¬ HidActive (run coexStep rtkParseInit [leConnectionCompleteEvt 0x10 24,
      leConnectionCompleteEvt 0x11 100,
      disconnectionCompleteEvt 0x10]) := by
  intro active
  exact absurd active.status (by decide)

end UnionpiTiger.Coex
