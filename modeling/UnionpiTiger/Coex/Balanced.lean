import UnionpiTiger.Coex.RefCount

set_option autoImplicit false

namespace UnionpiTiger.Coex

open Lib

def foundConnection (prof : RtkProf) (handle : UInt16) : Option ConnProf :=
  (findConnectionByHandle prof handle).bind (prof.connHash[·]?)

def RtkProf.Room (prof : RtkProf) (index : Profile) : Prop := prof.accounts.count index < 127

def takenBack (profiles : List ProfInfo) (handle : UInt16) (index : Profile) (count : Int) :
    ConnType → Bool
  | .l2cap => count =
      profiles.countP (fun info => info.establishedOn handle ∧ info.profileIndex = index)
  | .sco => count = if index = .sco then 1 else 0
  | .le =>
    if index = .hid then count = 1
    else if index = .hogp ∨ index = .voice then count ≤ 1
    else count = 0

def ConnProf.Settled (conn : ConnProf) (profiles : List ProfInfo) (handle : UInt16) : Prop :=
  ∀ index, takenBack profiles handle index (conn.count index) conn.type

def BalancedEvent (prof : RtkProf) : HciEvent → Prop
  | .modeChange _ interval | .leConnectionUpdate _ interval =>
    interval < 60 → prof.Room .hidInterval
  | .connectionComplete status handle linkType => status = 0 →
    (∀ conn ∈ foundConnection prof handle, conn.Unused) ∧ (scoLink linkType → prof.Room .sco)
  | .disconnectionComplete status handle => status = 0 →
    ∀ conn ∈ foundConnection prof handle, conn.Settled prof.profileList handle
  | .leConnectionComplete status handle interval => status = 0 →
    (∀ conn ∈ foundConnection prof handle, conn.Unused) ∧ prof.Room .hid ∧
      (interval < 60 → prof.Room .hidInterval)
  | _ => True

def BalancedPdu (prof : RtkProf) (direction : Direction) : L2capPdu → Prop
  | .connectionRsp handle _ scid result => result = 0 →
    ∀ info ∈ (findAnswered prof handle scid direction).bind (prof.profileList[·]?),
      prof.Room info.profileIndex
  | .disconnectionReq handle dcid scid =>
    ∀ info ∈ (findDisconnected prof handle dcid scid direction).bind (prof.profileList[·]?),
      ∀ conn ∈ foundConnection prof handle, 0 < conn.count info.profileIndex
  | .data _ _ _ _ => prof.isProfileBusy .a2dp = false → prof.Room .sink
  | _ => True

def Balanced (prof : RtkProf) : CoexEvent → Prop
  | .hci msg => BalancedEvent prof (decodeEvent msg)
  | .acl pp direction => BalancedPdu prof direction (decodeL2cap pp)
  | .addLeProfile _ profileMap =>
    (hogpMapped profileMap → prof.Room .hogp) ∧ (voiceMapped profileMap → prof.Room .voice)
  | .deleteLeProfile handle profileMap =>
    ∀ conn ∈ foundConnection prof handle,
      (hogpMapped profileMap → 0 < conn.count .hogp) ∧
      (voiceMapped profileMap → 0 < conn.count .voice)
  | _ => True

def RtkProf.Counted (prof : RtkProf) : Prop := RefCounts prof.accounts

variable {prof : RtkProf} {place : Nat} {conn : ConnProf} {index : Profile}

theorem RtkProf.Counted.of_accounts (inv : prof.Counted) {next : RtkProf}
    (same : next.accounts = prof.accounts) : next.Counted := by
  unfold RtkProf.Counted
  rw [same]
  exact inv

theorem find_spec (handle : UInt16) (found : findConnectionByHandle prof handle = some place) :
    ∃ conn, prof.connHash[place]? = some conn ∧ handle &&& 0xEFF = conn.handle := by
  obtain ⟨bound, holds, _⟩ := List.findIdx?_eq_some_iff_getElem.mp found
  exact ⟨_, List.getElem?_eq_getElem bound, of_decide_eq_true holds⟩

theorem foundConnection_mem (handle : UInt16)
    (found : findConnectionByHandle prof handle = some place)
    (entry : prof.connHash[place]? = some conn) : conn ∈ foundConnection prof handle := by
  simp [foundConnection, found, entry]

theorem RtkProf.Counted.add (inv : prof.Counted) (place : Nat) (proper : index ≠ .hidInterval)
    (room : prof.Room index) : (updateProfileConnection prof place index true).Counted := by
  unfold RtkProf.Counted
  rw [updateProfileConnection_accounts, Accounts.update, if_pos rfl]
  cases found : prof.accounts.connHash[place]? with
  | none =>
    simp only [Accounts.add, found]
    exact inv
  | some conn => exact RefCounts.add inv found proper room

theorem RtkProf.Counted.remove (inv : prof.Counted) (proper : index ≠ .hidInterval)
    (found : prof.connHash[place]? = some conn) (positive : 0 < conn.count index) :
    (updateProfileConnection prof place index false).Counted := by
  unfold RtkProf.Counted
  rw [updateProfileConnection_accounts]
  exact RefCounts.remove inv found proper positive

theorem connHash_remove (found : prof.connHash[place]? = some conn) :
    (updateProfileConnection prof place index false).connHash[place]? = some (conn.remove index) := by
  have after := congrArg Accounts.connHash (updateProfileConnection_accounts prof place index false)
  simp only [Accounts.update, Bool.false_eq_true, if_false, Accounts.remove, RtkProf.accounts,
    found] at after
  rw [after]
  simp [(List.getElem?_eq_some_iff.mp found).1]

def Accounts.withInterval (accounts : Accounts) (place : Nat) (conn : ConnProf) (bitmap : UInt8)
    (refcount : Profile → Int8) : Accounts :=
  { accounts with
    connHash := accounts.connHash.set place { conn with profileBitmap := bitmap }
    profileRefcount := refcount }

theorem updateHidActiveState_cases (prof : RtkProf) (handle interval : UInt16) :
    (updateHidActiveState prof handle interval).accounts = prof.accounts ∨
    ∃ place conn, findConnectionByHandle prof handle = some place ∧
      prof.connHash[place]? = some conn ∧
      ((isSet conn.profileBitmap .hid = true ∧ interval < 60 ∧
          isSet conn.profileBitmap .hidInterval = false ∧
          (updateHidActiveState prof handle interval).accounts =
            prof.accounts.withInterval place conn (conn.profileBitmap ||| bit .hidInterval)
              (increment prof.profileRefcount .hidInterval)) ∨
        (isSet conn.profileBitmap .hidInterval = true ∧
          (updateHidActiveState prof handle interval).accounts =
            prof.accounts.withInterval place conn (conn.profileBitmap &&& ~~~ bit .hidInterval)
              (decrement prof.profileRefcount .hidInterval))) := by
  cases search : findConnectionByHandle prof handle with
  | none =>
    simp only [updateHidActiveState, search]
    exact Or.inl trivial
  | some place =>
    obtain ⟨conn, found, _⟩ := find_spec handle search
    simp only [updateHidActiveState, search, found]
    cases hid : isSet conn.profileBitmap .hid
    · exact Or.inl rfl
    cases set : isSet conn.profileBitmap .hidInterval <;> by_cases short : interval < 60
    · simp only [short, if_true, Bool.not_true, Bool.false_eq_true, if_false, Bool.not_false,
        rtkNotifyProfileinfoToFw_accounts]
      exact Or.inr ⟨place, conn, rfl, found, Or.inl ⟨hid, trivial, set, rfl⟩⟩
    · simp [short]
    · simp [short]
    · simp only [short, if_true, Bool.not_true, Bool.false_eq_true, if_false,
        rtkNotifyProfileinfoToFw_accounts]
      exact Or.inr ⟨place, conn, rfl, found, Or.inr ⟨set, rfl⟩⟩

theorem RtkProf.Counted.updateHidActiveState (inv : prof.Counted) (handle interval : UInt16)
    (room : interval < 60 → prof.Room .hidInterval) :
    (updateHidActiveState prof handle interval).Counted := by
  obtain same | ⟨place, conn, _, found, changed⟩ := updateHidActiveState_cases prof handle interval
  · exact inv.of_accounts same
  · obtain ⟨hid, short, clear, after⟩ | ⟨set, after⟩ := changed
    · unfold RtkProf.Counted
      rw [after]
      exact RefCounts.setInterval inv found hid clear (room short)
    · unfold RtkProf.Counted
      rw [after]
      exact RefCounts.clearInterval inv found set

theorem psmToProfileIndex_proper (psm : UInt16) (mapped : psmToProfileIndex psm = some index) :
    index ≠ .hidInterval := by
  unfold psmToProfileIndex at mapped
  split_ifs at mapped <;> cases mapped <;> decide

theorem RtkProf.Counted.listAllocateAdd (inv : prof.Counted) (handle psm dcid scid : UInt16)
    (proper : index ≠ .hidInterval) : (listAllocateAdd prof handle psm index dcid scid).Counted := by
  have kept : prof.malloc.2.Counted := inv.of_accounts (malloc_accounts prof)
  simp only [Coex.listAllocateAdd]
  split_ifs
  · exact kept
  · apply RefCounts.withProfiles kept
    intro info mem
    obtain old | new := List.mem_append.mp mem
    · exact kept.mapped info old
    · rw [List.mem_singleton.mp new]
      exact proper

theorem RtkProf.Counted.handleL2capConReq (inv : prof.Counted) (handle psm scid : UInt16)
    (direction : Direction) : (handleL2capConReq prof handle psm scid direction).Counted := by
  unfold Coex.handleL2capConReq
  cases mapped : psmToProfileIndex psm with
  | none => exact inv
  | some index =>
    have proper := psmToProfileIndex_proper psm mapped
    cases direction with
    | outbound =>
      simp only
      split_ifs
      · exact inv
      · exact inv.listAllocateAdd handle psm 0 scid proper
    | inbound =>
      simp only
      split_ifs
      · exact inv
      · exact inv.listAllocateAdd handle psm scid 0 proper

theorem answer_profileIndex (info : ProfInfo) (dcid : UInt16) (direction : Direction) :
    (info.answer dcid direction).profileIndex = info.profileIndex := by
  cases direction <;> rfl

theorem RtkProf.Counted.handleL2capConRsp (inv : prof.Counted) (handle dcid scid : UInt16)
    (direction : Direction) (result : UInt8)
    (room : BalancedPdu prof direction (.connectionRsp handle dcid scid result)) :
    (handleL2capConRsp prof handle dcid scid direction result).Counted := by
  unfold Coex.handleL2capConRsp
  cases search : findAnswered prof handle scid direction with
  | none => exact inv
  | some place =>
    cases entry : prof.profileList[place]? with
    | none =>
      simp only [entry]
      exact inv
    | some info =>
      simp only [entry]
      split_ifs with refused
      · exact inv
      · have proper := inv.mapped info (List.mem_of_getElem? entry)
        have answered : ({ prof with
            profileList := prof.profileList.set place (info.answer dcid direction) }).Counted := by
          apply RefCounts.withProfiles inv
          intro other mem
          obtain old | rfl := List.mem_or_eq_of_mem_set mem
          · exact inv.mapped other old
          · rw [answer_profileIndex]
            exact proper
        have accepted : result = 0 := by simpa using refused
        have fits : prof.Room info.profileIndex := room accepted info (by simp [search, entry])
        split
        · exact answered
        · exact answered.add _ proper fits

theorem RtkProf.Counted.handleL2capDisconReq (inv : prof.Counted) (handle dcid scid : UInt16)
    (direction : Direction)
    (counted : BalancedPdu prof direction (.disconnectionReq handle dcid scid)) :
    (handleL2capDisconReq prof handle dcid scid direction).Counted := by
  unfold Coex.handleL2capDisconReq
  cases search : findDisconnected prof handle dcid scid direction with
  | none => exact inv
  | some place =>
    cases entry : prof.profileList[place]? with
    | none =>
      simp only [entry]
      exact inv
    | some info =>
      cases owner : findConnectionByHandle prof handle with
      | none =>
        simp only [entry]
        exact inv
      | some hciConn =>
        obtain ⟨conn, found, _⟩ := find_spec handle owner
        have proper := inv.mapped info (List.mem_of_getElem? entry)
        have positive := counted info (by simp [search, entry]) conn
          (foundConnection_mem handle owner found)
        have removed := inv.remove proper found positive
        have after : (updateProfileConnection prof hciConn info.profileIndex false).connHash[hciConn]? =
            some (conn.remove info.profileIndex) := connHash_remove found
        simp only [entry]
        have erased (next : RtkProf) (kept : next.Counted) :
            ({ next with profileList := next.profileList.eraseIdx place }).Counted :=
          RefCounts.withProfiles kept _
            (fun other mem => kept.mapped other (List.mem_of_mem_eraseIdx mem))
        apply erased
        split_ifs with sink
        · have sinkSet : isSet (conn.remove info.profileIndex).profileBitmap .sink = true := by
            simpa [connHas, after] using sink.2
          have sinkCounted := removed.conns _ (List.mem_of_getElem? after)
          exact removed.remove (by decide) after ((sinkCounted.bits .sink (by decide)).mp sinkSet)
        · exact removed

theorem RtkProf.Counted.a2dpBusy (inv : prof.Counted) (place : Nat) (direction : Direction)
    (userData : List UInt8) (room : prof.Room .sink) :
    (a2dpBusy prof place direction userData).Counted := by
  have busy : (updateProfileState prof .a2dp true).Counted :=
    inv.of_accounts (updateProfileState_accounts prof .a2dp true)
  have fits : (updateProfileState prof .a2dp true).Room .sink := by
    unfold RtkProf.Room
    rw [updateProfileState_accounts]
    exact room
  unfold Coex.a2dpBusy
  cases direction with
  | outbound => exact busy.of_accounts (vendorCmdToFw_accounts _ _ _)
  | inbound =>
    have sink : (updateProfileConnection (updateProfileState prof .a2dp true) place .sink
        true).Counted :=
      busy.add place (by decide) fits
    apply sink.of_accounts
    rw [vendorCmdToFw_accounts, updateProfileState_accounts]

theorem RtkProf.Counted.packetsCount (inv : prof.Counted) (handle scid length : UInt16)
    (direction : Direction) (userData : List UInt8)
    (room : prof.isProfileBusy .a2dp = false → prof.Room .sink) :
    (packetsCount prof handle scid length direction userData).Counted := by
  unfold Coex.packetsCount
  split
  · exact inv
  split
  · split
    · exact inv
    · split_ifs with media idle
      · exact inv.a2dpBusy _ direction userData (room (by simpa using idle))
      · exact inv
      · exact inv
      · exact inv
  · exact inv

end UnionpiTiger.Coex

namespace UnionpiTiger.Coex

open Lib

variable {prof : RtkProf} {place : Nat} {conn : ConnProf} {index : Profile}

@[simp] theorem endPaging_accounts (prof : RtkProf) (operation : BtOperation) :
    (endPaging prof operation).accounts = prof.accounts := by
  unfold endPaging
  split_ifs <;> rfl

@[simp] theorem startPaging_accounts (prof : RtkProf) :
    (startPaging prof).accounts = prof.accounts := by
  unfold startPaging
  split_ifs <;> rfl

@[simp] theorem endPairing_accounts (prof : RtkProf) :
    (endPairing prof).accounts = prof.accounts := by
  unfold endPairing
  split_ifs <;> rfl

@[simp] theorem startPairing_accounts (prof : RtkProf) :
    (startPairing prof).accounts = prof.accounts := by
  unfold startPairing
  split_ifs <;> rfl

@[simp] theorem endInquiry_accounts (prof : RtkProf) :
    (endInquiry prof).accounts = prof.accounts := by
  unfold endInquiry
  split_ifs <;> rfl

@[simp] theorem startInquiry_accounts (prof : RtkProf) :
    (startInquiry prof).accounts = prof.accounts := by
  unfold startInquiry
  split_ifs <;> rfl

theorem foundConnection_of_accounts {next : RtkProf} (same : next.accounts = prof.accounts)
    (handle : UInt16) : foundConnection next handle = foundConnection prof handle := by
  have conns : next.connHash = prof.connHash := congrArg Accounts.connHash same
  simp only [foundConnection, findConnectionByHandle, conns]

theorem openConnection_refcount (prof : RtkProf) (handle : UInt16) (type : ConnType) :
    (openConnection prof handle type).2.profileRefcount = prof.profileRefcount := by
  have kept : prof.malloc.2.profileRefcount = prof.profileRefcount :=
    congrArg Accounts.profileRefcount (malloc_accounts prof)
  unfold openConnection
  split
  · simp only [allocateConnection]
    split_ifs <;> exact kept
  · split <;> rfl

theorem RtkProf.Counted.openConnection (inv : prof.Counted) (handle : UInt16) (type : ConnType)
    (unused : ∀ conn ∈ foundConnection prof handle, conn.Unused) :
    (openConnection prof handle type).2.Counted := by
  unfold Coex.openConnection
  cases search : findConnectionByHandle prof handle with
  | none =>
    have kept : prof.malloc.2.Counted := inv.of_accounts (malloc_accounts prof)
    simp only [allocateConnection]
    split_ifs
    · exact kept
    · exact RefCounts.append kept handle type
  | some place =>
    obtain ⟨conn, found, _⟩ := find_spec handle search
    simp only [found]
    exact RefCounts.reset inv found (unused conn (foundConnection_mem handle search found))
      conn.handle type

theorem RtkProf.Room.of_refcount {next : RtkProf} (room : prof.Room index)
    (same : next.profileRefcount index = prof.profileRefcount index) : next.Room index := by
  have count : (next.profileRefcount index).toInt < 127 := by
    rw [same]
    exact room
  exact count

theorem RtkProf.Room.openConnection (room : prof.Room index) (handle : UInt16) (type : ConnType) :
    (openConnection prof handle type).2.Room index :=
  room.of_refcount (congrFun (openConnection_refcount prof handle type) index)

theorem RtkProf.Counted.connectionComplete (inv : prof.Counted) (status : UInt8) (handle : UInt16)
    (linkType : UInt8)
    (balanced : BalancedEvent prof (.connectionComplete status handle linkType)) :
    (rtkHandleConnectionCompleteEvt prof status handle linkType).Counted := by
  unfold rtkHandleConnectionCompleteEvt
  split_ifs with accepted sco
  · obtain ⟨unused, room⟩ := balanced accepted
    have ended := endPaging_accounts prof .pageSuccessEnd
    rw [← foundConnection_of_accounts ended] at unused
    have kept := inv.of_accounts ended
    have opened := kept.openConnection handle .sco unused
    have endedRoom : (endPaging prof .pageSuccessEnd).Room .sco := by
      unfold RtkProf.Room
      rw [ended]
      exact room sco
    have openRoom := endedRoom.openConnection handle .sco
    simp only
    split
    next next refused =>
      rw [refused] at opened
      exact opened
    next hciConn next accepted =>
      rw [accepted] at opened openRoom
      exact opened.add hciConn (by decide) openRoom
  · obtain ⟨unused, _⟩ := balanced accepted
    have ended := endPaging_accounts prof .pageSuccessEnd
    rw [← foundConnection_of_accounts ended] at unused
    exact (inv.of_accounts ended).openConnection handle .l2cap unused
  · exact inv.of_accounts (endPaging_accounts prof .pageUnsuccessEnd)

theorem updateProfileConnection_interval (prof : RtkProf) (place : Nat) :
    (updateProfileConnection prof place .hid true).profileRefcount .hidInterval =
      prof.profileRefcount .hidInterval := by
  have after := congrArg Accounts.profileRefcount
    (updateProfileConnection_accounts prof place .hid true)
  refine (congrFun after .hidInterval).trans ?_
  cases found : prof.connHash[place]? <;>
    simp [Accounts.update, Accounts.add, RtkProf.accounts, found, increment]

theorem RtkProf.Counted.leConnectionComplete (inv : prof.Counted) (status : UInt8)
    (handle interval : UInt16)
    (balanced : BalancedEvent prof (.leConnectionComplete status handle interval)) :
    (rtkHandleLeConnectionCompleteEvt prof status handle interval).Counted := by
  unfold rtkHandleLeConnectionCompleteEvt
  split_ifs with accepted
  · obtain ⟨unused, room, intervalRoom⟩ := balanced accepted
    have ended := endPaging_accounts prof .pageSuccessEnd
    rw [← foundConnection_of_accounts ended] at unused
    have opened := (inv.of_accounts ended).openConnection handle .le unused
    have openRoom (index : Profile) (here : prof.Room index) :
        (Coex.openConnection (endPaging prof .pageSuccessEnd) handle .le).2.Room index := by
      apply RtkProf.Room.openConnection
      unfold RtkProf.Room
      rw [ended]
      exact here
    have hidRoom := openRoom .hid room
    have stillRoom := fun short => openRoom .hidInterval (intervalRoom short)
    split
    next next refused =>
      rw [refused] at opened
      exact opened
    next hciConn next accepted =>
      rw [accepted] at opened hidRoom stillRoom
      have added : (updateProfileConnection next hciConn .hid true).Counted :=
        opened.add hciConn (by decide) hidRoom
      apply added.updateHidActiveState
      intro short
      exact (stillRoom short).of_refcount (updateProfileConnection_interval next hciConn)
  · exact inv.of_accounts (endPaging_accounts prof .pageUnsuccessEnd)

structure Closing (prof : RtkProf) (place : Nat) (conn : ConnProf) : Prop where
  counted : prof.Counted
  found : prof.connHash[place]? = some conn

theorem Closing.remove (closing : Closing prof place conn) (proper : index ≠ .hidInterval)
    (positive : 0 < conn.count index) :
    Closing (updateProfileConnection prof place index false) place (conn.remove index) :=
  ⟨closing.counted.remove proper closing.found positive, connHash_remove closing.found⟩

def Closed (prof : RtkProf) (place : Nat) : Prop :=
  ∃ conn, Closing prof place conn ∧ conn.Unused

theorem Closing.removeEstablished (closing : Closing prof place conn) (handle : UInt16)
    (infos : List ProfInfo) (mapped : ∀ info ∈ infos, info.profileIndex ≠ .hidInterval)
    (settled : ∀ index, conn.count index =
      infos.countP (fun info => info.establishedOn handle ∧ info.profileIndex = index)) :
    Closed (removeEstablished place handle prof infos) place := by
  induction infos generalizing prof conn with
  | nil => exact ⟨conn, closing, settled⟩
  | cons info rest ih =>
    have restMapped : ∀ other ∈ rest, other.profileIndex ≠ .hidInterval :=
      fun other mem => mapped other (List.mem_cons_of_mem info mem)
    by_cases established : info.establishedOn handle = true
    · simp only [Coex.removeEstablished, established, if_true]
      have here := settled info.profileIndex
      simp only [List.countP_cons, established, true_and, decide_true, if_true] at here
      have positive : 0 < conn.count info.profileIndex := by omega
      apply ih (closing.remove (mapped info List.mem_cons_self) positive) restMapped
      intro index
      have before := settled index
      simp only [List.countP_cons, established, true_and, decide_eq_true_eq] at before
      rw [conn.count_remove _ _ positive, before]
      by_cases same : index = info.profileIndex
      · simp [same]
      · simp [same, Ne.symm same]
    · simp only [Coex.removeEstablished, established, Bool.false_eq_true, if_false]
      apply ih closing restMapped
      intro index
      simpa [List.countP_cons, established] using settled index

theorem connHas_of_found (found : prof.connHash[place]? = some conn) (index : Profile) :
    connHas prof place index = isSet conn.profileBitmap index := by
  simp [connHas, found]

theorem Closing.removeIfSet (closing : Closing prof place conn) (proper : index ≠ .hidInterval)
    (once : conn.count index ≤ 1) :
    ∃ next, Closing (if connHas prof place index then updateProfileConnection prof place index false
        else prof) place next ∧
      ∀ other, next.count other = if other = index then 0 else conn.count other := by
  have counted := closing.counted.conns conn (List.mem_of_getElem? closing.found)
  have bits := counted.bits index proper
  have nonneg := counted.nonneg index
  rw [connHas_of_found closing.found]
  by_cases set : isSet conn.profileBitmap index = true
  · have positive := bits.mp set
    rw [if_pos set]
    refine ⟨_, closing.remove proper positive, fun other => ?_⟩
    rw [conn.count_remove _ _ positive]
    by_cases same : other = index
    · subst same
      simp only [if_true]
      omega
    · simp [same]
  · rw [if_neg set]
    refine ⟨conn, closing, fun other => ?_⟩
    have zero := mt bits.mpr set
    by_cases same : other = index
    · subst same
      simp only [if_true]
      omega
    · simp [same]

theorem Closing.disconnectProfiles (closing : Closing prof place conn) (handle : UInt16)
    (settled : conn.Settled prof.profileList handle) :
    Closed (disconnectProfiles prof place handle conn.type) place := by
  unfold ConnProf.Settled at settled
  cases type : conn.type with
  | l2cap =>
    simp only [type, takenBack, decide_eq_true_eq] at settled
    obtain ⟨last, ⟨kept, found⟩, unused⟩ :=
      closing.removeEstablished handle prof.profileList closing.counted.mapped settled
    refine ⟨last, ⟨?_, found⟩, unused⟩
    apply RefCounts.withProfiles kept
    exact fun info mem => closing.counted.mapped info (List.mem_of_mem_filter mem)
  | sco =>
    simp only [type, takenBack, decide_eq_true_eq] at settled
    have positive : 0 < conn.count .sco := by
      rw [settled .sco]
      decide
    refine ⟨_, closing.remove (by decide) positive, fun index => ?_⟩
    rw [conn.count_remove _ _ positive, settled index]
    omega
  | le =>
    have hidOne : conn.count .hid = 1 := by simpa [type, takenBack] using settled .hid
    have hogpOnce : conn.count .hogp ≤ 1 := by simpa [type, takenBack] using settled .hogp
    have voiceOnce : conn.count .voice ≤ 1 := by simpa [type, takenBack] using settled .voice
    obtain ⟨noHogp, closingHogp, hogp⟩ := closing.removeIfSet (by decide) hogpOnce
    have stillOnce : noHogp.count .voice ≤ 1 := by
      rw [hogp .voice]
      exact voiceOnce
    obtain ⟨noVoice, closingVoice, voice⟩ := closingHogp.removeIfSet (by decide) stillOnce
    have one : noVoice.count .hid = 1 := by
      rw [voice .hid, if_neg (by decide), hogp .hid, if_neg (by decide)]
      exact hidOne
    have positive : 0 < noVoice.count .hid := by omega
    refine ⟨_, closingVoice.remove (by decide) positive, fun index => ?_⟩
    have before := settled index
    rw [type] at before
    rw [noVoice.count_remove _ _ positive, voice index, hogp index]
    cases index <;> simp_all [takenBack]

theorem RtkProf.Counted.disconnectComplete (inv : prof.Counted) (status : UInt8) (handle : UInt16)
    (balanced : BalancedEvent prof (.disconnectionComplete status handle)) :
    (rtkHandleDisconnectCompleteEvt prof status handle).Counted := by
  have ended := endPairing_accounts prof
  have kept := inv.of_accounts ended
  unfold rtkHandleDisconnectCompleteEvt
  simp only
  split_ifs with accepted
  · have settled := balanced accepted
    have profiles : (endPairing prof).profileList = prof.profileList :=
      congrArg Accounts.profileList ended
    rw [← foundConnection_of_accounts ended, ← profiles] at settled
    cases search : findConnectionByHandle (endPairing prof) handle with
    | none => exact kept
    | some place =>
      obtain ⟨conn, found, _⟩ := find_spec handle search
      have closing : Closing (endPairing prof) place conn := ⟨kept, found⟩
      obtain ⟨last, closed, unused⟩ := closing.disconnectProfiles handle
        (settled conn (foundConnection_mem handle search found))
      simp only [found]
      exact RefCounts.erase closed.counted closed.found unused
  · exact kept

end UnionpiTiger.Coex
