import UnionpiTiger.Coex.ConnTable

set_option autoImplicit false

namespace UnionpiTiger.Coex

open Lib

variable {prof : RtkProf} {handle : UInt16}

inductive TableAction where
  | opens (handle : UInt16)
  | closes (handle : UInt16)
  | uses (handle : UInt16)
  | none
deriving DecidableEq, Repr

def eventAction : HciEvent → TableAction
  | .connectionComplete status handle _ => if status = 0 then .opens handle else .none
  | .leConnectionComplete status handle _ => if status = 0 then .opens handle else .none
  | .disconnectionComplete status handle => if status = 0 then .closes handle else .none
  | .modeChange handle _ => .uses handle
  | .leConnectionUpdate handle _ => .uses handle
  | _ => .none

def pduAction : L2capPdu → TableAction
  | .connectionReq handle _ _ => .uses handle
  | .connectionRsp handle _ _ _ => .uses handle
  | .disconnectionReq handle _ _ => .uses handle
  | .data handle _ _ _ => .uses handle
  | .ignored => .none

def tableAction : CoexEvent → TableAction
  | .hci msg => eventAction (decodeEvent msg)
  | .acl pp _ => pduAction (decodeL2cap pp)
  | .addLeProfile handle _ => .uses handle
  | .deleteLeProfile handle _ => .uses handle
  | _ => .none

def TableAction.handle? : TableAction → Option UInt16
  | opens handle => some handle
  | closes handle => some handle
  | uses handle => some handle
  | none => .none

def Opens (prof : RtkProf) (handle : UInt16) (after : List ConnProf) : Prop :=
  match findConnectionByHandle prof handle with
  | some place => EditsAt place prof.connHash after
  | .none =>
    if prof.malloc.1 then ∃ conn, conn.handle = handle ∧ after = prof.connHash ++ [conn]
    else after = prof.connHash

def Closes (prof : RtkProf) (handle : UInt16) (after : List ConnProf) : Prop :=
  match findConnectionByHandle prof handle with
  | some place => after = prof.connHash.eraseIdx place
  | .none => after = prof.connHash

def Performs (prof : RtkProf) (after : List ConnProf) : TableAction → Prop
  | .opens handle => Opens prof handle after
  | .closes handle => Closes prof handle after
  | .uses handle => EditsFound prof handle after
  | .none => after = prof.connHash

theorem removeEstablished_edits (place : Nat) (handle : UInt16) (prof : RtkProf)
    (infos : List ProfInfo) :
    EditsAt place prof.connHash (removeEstablished place handle prof infos).connHash := by
  induction infos generalizing prof with
  | nil => exact EditsAt.refl place prof.connHash
  | cons info rest ih =>
    simp only [removeEstablished]
    split_ifs
    · exact (updateProfileConnection_edits prof place info.profileIndex false).trans (ih _)
    · exact ih prof

theorem disconnectProfiles_edits (prof : RtkProf) (place : Nat) (handle : UInt16)
    (type : ConnType) :
    EditsAt place prof.connHash (disconnectProfiles prof place handle type).connHash := by
  cases type with
  | l2cap => exact removeEstablished_edits place handle prof prof.profileList
  | sco => exact updateProfileConnection_edits prof place .sco false
  | le =>
    have removed (next : RtkProf) (index : Profile) : EditsAt place next.connHash
        (if connHas next place index then updateProfileConnection next place index false
          else next).connHash := by
      split_ifs
      · exact updateProfileConnection_edits next place index false
      · exact EditsAt.refl place next.connHash
    exact ((removed prof .hogp).trans (removed _ .voice)).trans
      (updateProfileConnection_edits _ place .hid false)

theorem closes_disconnect (prof : RtkProf) (handle : UInt16) :
    Closes prof handle (rtkHandleDisconnectCompleteEvt prof 0 handle).connHash := by
  have ended := connHash_of_accounts (endPairing_accounts prof)
  have search : findConnectionByHandle (endPairing prof) handle =
      findConnectionByHandle prof handle := by
    simp only [findConnectionByHandle, ended]
  unfold Closes rtkHandleDisconnectCompleteEvt
  simp only [if_true, search]
  cases here : findConnectionByHandle prof handle with
  | none => exact ended
  | some place =>
    obtain ⟨conn, found, _⟩ := find_spec handle here
    rw [← ended] at found
    simp only [found]
    rw [(disconnectProfiles_edits _ place handle conn.type).eraseIdx, ended]

theorem openConnection_cases (prof : RtkProf) (handle : UInt16) (type : ConnType) :
    (∃ place next, openConnection prof handle type = (some place, next) ∧
      findConnectionByHandle prof handle = some place ∧ EditsAt place prof.connHash next.connHash) ∨
    (findConnectionByHandle prof handle = none ∧ prof.malloc.1 = true ∧
      ∃ next, openConnection prof handle type = (some prof.connHash.length, next) ∧
        next.connHash = prof.connHash ++ [{ handle := handle, type := type }]) ∨
    (findConnectionByHandle prof handle = none ∧ prof.malloc.1 = false ∧
      ∃ next, openConnection prof handle type = (none, next) ∧ next.connHash = prof.connHash) := by
  have kept := connHash_of_accounts (malloc_accounts prof)
  unfold openConnection
  cases search : findConnectionByHandle prof handle with
  | some place =>
    obtain ⟨conn, found, _⟩ := find_spec handle search
    simp only [found]
    exact Or.inl ⟨place, _, rfl, rfl, EditsAt.set found rfl⟩
  | none =>
    right
    simp only [allocateConnection]
    cases allocated : prof.malloc.1 with
    | true =>
      simp only [Bool.not_true, Bool.false_eq_true, if_false, kept]
      exact Or.inl ⟨trivial, trivial, _, rfl, rfl⟩
    | false =>
      simp only [Bool.not_false, if_true]
      exact Or.inr ⟨trivial, trivial, _, rfl, kept⟩

theorem EditsAt.last {conns after : List ConnProf} {conn : ConnProf}
    (edits : EditsAt conns.length (conns ++ [conn]) after) :
    ∃ next, next.handle = conn.handle ∧ after = conns ++ [next] := by
  obtain ⟨edit, keeps, rfl⟩ := edits
  refine ⟨edit conn, keeps conn, ?_⟩
  rw [List.modify_eq_take_drop, List.take_left, List.drop_left, List.modifyHead_cons]

theorem opens_of_edits (prof : RtkProf) (handle : UInt16) (type : ConnType)
    (update : RtkProf → Nat → RtkProf)
    (edits : ∀ place next, openConnection prof handle type = (some place, next) →
      EditsAt place next.connHash (update next place).connHash) :
    Opens prof handle (match openConnection prof handle type with
      | (none, next) => next
      | (some place, next) => update next place).connHash := by
  unfold Opens
  obtain ⟨place, next, opened, search, first⟩ | ⟨search, allocated, next, opened, conns⟩ |
    ⟨search, refused, next, opened, conns⟩ := openConnection_cases prof handle type
  · simp only [opened, search]
    exact first.trans (edits place next opened)
  · have last := edits _ next opened
    simp only [opened, search, allocated, if_true]
    rw [conns] at last
    obtain ⟨conn, same, after⟩ := last.last
    exact ⟨conn, same, after⟩
  · simp only [opened, search, refused, Bool.false_eq_true, if_false]
    exact conns

theorem findConnectionByHandle_of_handles {next : RtkProf}
    (same : handles next.connHash = handles prof.connHash) (handle : UInt16) :
    findConnectionByHandle next handle = findConnectionByHandle prof handle := by
  rw [findConnectionByHandle_eq, findConnectionByHandle_eq, same]

theorem findConnectionByHandle_append {next : RtkProf} {conn : ConnProf}
    (appended : next.connHash = prof.connHash ++ [conn]) (handle : UInt16) :
    findConnectionByHandle next handle =
      (findConnectionByHandle prof handle).or
        (if handle &&& 0xEFF = conn.handle then some prof.connHash.length else none) := by
  simp only [findConnectionByHandle, appended, List.findIdx?_append]
  by_cases here : handle &&& 0xEFF = conn.handle <;> simp [here]

theorem find_opened {place other : Nat} {next : RtkProf} {type : ConnType}
    (opened : openConnection prof handle type = (some place, next))
    (found : findConnectionByHandle next handle = some other) : other = place := by
  obtain ⟨_, _, eq, search, edits⟩ | ⟨search, _, _, eq, conns⟩ | ⟨_, _, _, eq, _⟩ :=
    openConnection_cases prof handle type
  · rw [opened] at eq
    cases eq
    rw [findConnectionByHandle_of_handles edits.handles, search] at found
    exact (Option.some.inj found).symm
  · rw [opened] at eq
    cases eq
    rw [findConnectionByHandle_append conns, search] at found
    split_ifs at found
    · exact (Option.some.inj found).symm
    · cases found
  · rw [opened] at eq
    cases eq

theorem malloc_fst (prof : RtkProf) : prof.malloc.1 = prof.mem.headD true := by
  unfold RtkProf.malloc
  cases prof.mem <;> rfl

theorem Opens.of_endPaging {operation : BtOperation} {after : List ConnProf}
    (opens : Opens (endPaging prof operation) handle after) : Opens prof handle after := by
  have conns := connHash_of_accounts (endPaging_accounts prof operation)
  have memory : (endPaging prof operation).mem = prof.mem := by
    unfold endPaging
    split_ifs <;> rfl
  unfold Opens at opens ⊢
  rw [findConnectionByHandle_of_handles (congrArg handles conns), conns, malloc_fst, memory,
    ← malloc_fst] at opens
  exact opens

theorem opens_connect (prof : RtkProf) (handle : UInt16) (linkType : UInt8) :
    Opens prof handle (rtkHandleConnectionCompleteEvt prof 0 handle linkType).connHash := by
  apply Opens.of_endPaging
  unfold rtkHandleConnectionCompleteEvt
  simp only [if_true]
  split_ifs
  · exact opens_of_edits _ handle .sco
      (fun next place => updateProfileConnection next place .sco true)
      (fun place next _ => updateProfileConnection_edits next place .sco true)
  · have opened := opens_of_edits (endPaging prof .pageSuccessEnd) handle .l2cap
      (fun next _ => next) (fun place next _ => EditsAt.refl place next.connHash)
    rcases result : openConnection (endPaging prof .pageSuccessEnd) handle .l2cap with
      ⟨_ | place, next⟩ <;>
      · rw [result] at opened
        exact opened

theorem opens_leConnect (prof : RtkProf) (handle interval : UInt16) :
    Opens prof handle (rtkHandleLeConnectionCompleteEvt prof 0 handle interval).connHash := by
  apply Opens.of_endPaging
  unfold rtkHandleLeConnectionCompleteEvt
  simp only [if_true]
  apply opens_of_edits _ handle .le (fun next place =>
    updateHidActiveState (updateProfileConnection next place .hid true) handle interval)
  intro place next opened
  have added := updateProfileConnection_edits next place .hid true
  obtain same | ⟨other, found, edits⟩ := updateHidActiveState_edits
    (updateProfileConnection next place .hid true) handle interval
  · rw [same]
    exact added
  · rw [findConnectionByHandle_of_handles added.handles] at found
    rw [find_opened opened found] at edits
    exact added.trans edits

theorem handleEvent_performs (prof : RtkProf) (event : HciEvent) :
    Performs prof (handleEvent prof event).connHash (eventAction event) := by
  cases event with
  | inquiryComplete => exact connHash_of_accounts (endInquiry_accounts prof)
  | pairingStart => exact connHash_of_accounts (startPairing_accounts prof)
  | pairingEnd => exact connHash_of_accounts (endPairing_accounts prof)
  | modeChange handle interval => exact updateHidActiveState_edits prof handle interval
  | commandComplete opcode status =>
    simp only [handleEvent]
    split_ifs
    · exact connHash_of_accounts (endInquiry_accounts prof)
    · rfl
  | commandStatus status opcode =>
    simp only [handleEvent]
    split_ifs
    · exact connHash_of_accounts (endInquiry_accounts prof)
    · exact connHash_of_accounts (startPaging_accounts prof)
    · rfl
  | connectionComplete status handle linkType =>
    by_cases accepted : status = 0
    · subst accepted
      exact opens_connect prof handle linkType
    · simp only [handleEvent, rtkHandleConnectionCompleteEvt, eventAction, if_neg accepted]
      exact connHash_of_accounts (endPaging_accounts prof .pageUnsuccessEnd)
  | disconnectionComplete status handle =>
    by_cases accepted : status = 0
    · subst accepted
      exact closes_disconnect prof handle
    · simp only [handleEvent, rtkHandleDisconnectCompleteEvt, eventAction, if_neg accepted]
      exact connHash_of_accounts (endPairing_accounts prof)
  | leConnectionComplete status handle interval =>
    by_cases accepted : status = 0
    · subst accepted
      exact opens_leConnect prof handle interval
    · simp only [handleEvent, rtkHandleLeConnectionCompleteEvt, eventAction, if_neg accepted]
      exact connHash_of_accounts (endPaging_accounts prof .pageUnsuccessEnd)
  | leConnectionUpdate handle interval => exact updateHidActiveState_edits prof handle interval
  | other => rfl

theorem handleL2cap_performs (prof : RtkProf) (direction : Direction) (pdu : L2capPdu) :
    Performs prof (handleL2cap prof direction pdu).connHash (pduAction pdu) := by
  cases pdu with
  | connectionReq handle psm scid =>
    exact Or.inl (handleL2capConReq_conns prof handle psm scid direction)
  | connectionRsp handle dcid scid result =>
    exact handleL2capConRsp_edits prof handle dcid scid direction result
  | disconnectionReq handle dcid scid =>
    exact handleL2capDisconReq_edits prof handle dcid scid direction
  | data handle channel pduLen userData =>
    simp only [handleL2cap]
    split_ifs
    · exact packetsCount_edits prof handle channel pduLen direction userData
    · exact Or.inl rfl
  | ignored => rfl

theorem coexStep_performs (prof : RtkProf) (event : CoexEvent) :
    Performs prof (coexStep prof event).connHash (tableAction event) := by
  cases event with
  | hci msg => exact handleEvent_performs prof (decodeEvent msg)
  | acl pp direction => exact handleL2cap_performs prof direction (decodeL2cap pp)
  | command pp => exact connHash_of_accounts (rtkParseCommand_accounts prof pp)
  | a2dpTimer => exact connHash_of_accounts (timerA2dpPacketCount_accounts prof)
  | hogpTimer => exact connHash_of_accounts (timerHogpPacketCount_accounts prof)
  | panTimer => exact connHash_of_accounts (timerPanPacketCount_accounts prof)
  | addLeProfile handle profileMap => exact updateLeProfile_edits prof handle profileMap true
  | deleteLeProfile handle profileMap => exact updateLeProfile_edits prof handle profileMap false
  | addLeDataCount dataType => exact connHash_of_accounts (rtkAddLeDataCount_accounts prof dataType)
  | vendorCommandComplete pBuf => rfl
  | memory mem => rfl

end UnionpiTiger.Coex
