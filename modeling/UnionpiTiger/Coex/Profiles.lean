import UnionpiTiger.Coex.Balanced

set_option autoImplicit false

namespace UnionpiTiger.Coex

open Lib

variable {prof : RtkProf}

theorem timerA2dpPacketCount_accounts (prof : RtkProf) :
    (timerA2dpPacketCount prof).accounts = prof.accounts := by
  have idle := updateProfileState_accounts prof .a2dp false
  have sink := updateProfileState_accounts (updateProfileState prof .a2dp false) .sink false
  simp only [timerA2dpPacketCount]
  split_ifs
  · exact sink.trans idle
  · exact idle
  · rfl

theorem timerHogpPacketCount_accounts (prof : RtkProf) :
    (timerHogpPacketCount prof).accounts = prof.accounts := by
  have hogp := updateProfileState_accounts prof .hogp false
  simp only [timerHogpPacketCount]
  split_ifs
  · exact (updateProfileState_accounts _ .voice false).trans hogp
  · exact hogp
  · exact updateProfileState_accounts _ .voice false
  · rfl

theorem timerPanPacketCount_accounts (prof : RtkProf) :
    (timerPanPacketCount prof).accounts = prof.accounts := by
  simp only [timerPanPacketCount]
  split_ifs
  · exact updateProfileState_accounts prof .pan false
  · rfl
  · exact updateProfileState_accounts prof .pan true
  · rfl

theorem rtkAddLeDataCount_accounts (prof : RtkProf) (dataType : UInt8) :
    (rtkAddLeDataCount prof dataType).accounts = prof.accounts := by
  simp only [rtkAddLeDataCount]
  split_ifs
  · exact updateProfileState_accounts _ .hogp true
  · rfl
  · exact updateProfileState_accounts _ .voice true
  · rfl
  · rfl

theorem rtkParseCommand_accounts (prof : RtkProf) (pp : List UInt8) :
    (rtkParseCommand prof pp).accounts = prof.accounts := by
  simp only [rtkParseCommand]
  split_ifs <;> simp

theorem RtkProf.Counted.addLeProfile (inv : prof.Counted) (handle : UInt16) (profileMap : UInt8)
    (balanced : Balanced prof (.addLeProfile handle profileMap)) :
    (rtkAddLeProfile prof handle profileMap).Counted := by
  unfold rtkAddLeProfile updateLeProfile
  split
  · exact inv
  next place _ =>
    have hogp : (if hogpMapped profileMap then updateProfileConnection prof place .hogp true
        else prof).Counted := by
      split_ifs with mapped
      · exact inv.add place (by decide) (balanced.1 mapped)
      · exact inv
    have voiceRoom (mapped : voiceMapped profileMap = true) :
        (if hogpMapped profileMap then updateProfileConnection prof place .hogp true
          else prof).Room .voice := by
      split_ifs
      · apply (balanced.2 mapped).of_refcount
        have after := congrArg Accounts.profileRefcount
          (updateProfileConnection_accounts prof place .hogp true)
        refine (congrFun after .voice).trans ?_
        cases found : prof.connHash[place]? <;>
          simp [Accounts.update, Accounts.add, RtkProf.accounts, found, increment]
      · exact balanced.2 mapped
    simp only
    by_cases mapped : voiceMapped profileMap = true
    · rw [if_pos mapped]
      exact hogp.add place (by decide) (voiceRoom mapped)
    · rw [if_neg mapped]
      exact hogp

theorem RtkProf.Counted.deleteLeProfile (inv : prof.Counted) (handle : UInt16) (profileMap : UInt8)
    (balanced : Balanced prof (.deleteLeProfile handle profileMap)) :
    (rtkDeleteLeProfile prof handle profileMap).Counted := by
  unfold rtkDeleteLeProfile updateLeProfile
  cases search : findConnectionByHandle prof handle with
  | none => exact inv
  | some place =>
    obtain ⟨conn, found, _⟩ := find_spec handle search
    obtain ⟨hogpCounted, voiceCounted⟩ :=
      balanced conn (foundConnection_mem handle search found)
    have closing : Closing prof place conn := ⟨inv, found⟩
    have hogp : ∃ next, Closing (if hogpMapped profileMap then
        updateProfileConnection prof place .hogp false else prof) place next ∧
        next.count .voice = conn.count .voice := by
      split_ifs with mapped
      · have positive := hogpCounted mapped
        exact ⟨_, closing.remove (by decide) positive, by
          rw [conn.count_remove _ _ positive]
          simp⟩
      · exact ⟨conn, closing, rfl⟩
    obtain ⟨next, closed, same⟩ := hogp
    simp only
    by_cases mapped : voiceMapped profileMap = true
    · rw [if_pos mapped]
      have positive : 0 < next.count .voice := by
        rw [same]
        exact voiceCounted mapped
      exact (closed.remove (by decide) positive).counted
    · rw [if_neg mapped]
      exact closed.counted

theorem RtkProf.Counted.handleEvent (inv : prof.Counted) (event : HciEvent)
    (balanced : BalancedEvent prof event) : (handleEvent prof event).Counted := by
  cases event with
  | inquiryComplete => exact inv.of_accounts (endInquiry_accounts prof)
  | pairingStart => exact inv.of_accounts (startPairing_accounts prof)
  | pairingEnd => exact inv.of_accounts (endPairing_accounts prof)
  | modeChange handle interval => exact inv.updateHidActiveState handle interval balanced
  | commandComplete opcode status =>
    simp only [Coex.handleEvent]
    split_ifs
    · exact inv.of_accounts (endInquiry_accounts prof)
    · exact inv
  | commandStatus status opcode =>
    simp only [Coex.handleEvent]
    split_ifs
    · exact inv.of_accounts (endInquiry_accounts prof)
    · exact inv.of_accounts (startPaging_accounts prof)
    · exact inv
  | connectionComplete status handle linkType =>
    exact inv.connectionComplete status handle linkType balanced
  | disconnectionComplete status handle => exact inv.disconnectComplete status handle balanced
  | leConnectionComplete status handle interval =>
    exact inv.leConnectionComplete status handle interval balanced
  | leConnectionUpdate handle interval => exact inv.updateHidActiveState handle interval balanced
  | other => exact inv

theorem RtkProf.Counted.handleL2cap (inv : prof.Counted) (direction : Direction) (pdu : L2capPdu)
    (balanced : BalancedPdu prof direction pdu) : (handleL2cap prof direction pdu).Counted := by
  cases pdu with
  | connectionReq handle psm scid => exact inv.handleL2capConReq handle psm scid direction
  | connectionRsp handle dcid scid result =>
    exact inv.handleL2capConRsp handle dcid scid direction result balanced
  | disconnectionReq handle dcid scid =>
    exact inv.handleL2capDisconReq handle dcid scid direction balanced
  | data handle channel pduLen userData =>
    simp only [Coex.handleL2cap]
    split_ifs
    · exact inv.packetsCount handle channel pduLen direction userData balanced
    · exact inv
  | ignored => exact inv

theorem RtkProf.Counted.step (inv : prof.Counted) (event : CoexEvent)
    (balanced : Balanced prof event) : (coexStep prof event).Counted := by
  cases event with
  | hci msg => exact inv.handleEvent (decodeEvent msg) balanced
  | acl pp direction => exact inv.handleL2cap direction (decodeL2cap pp) balanced
  | command pp => exact inv.of_accounts (rtkParseCommand_accounts prof pp)
  | a2dpTimer => exact inv.of_accounts (timerA2dpPacketCount_accounts prof)
  | hogpTimer => exact inv.of_accounts (timerHogpPacketCount_accounts prof)
  | panTimer => exact inv.of_accounts (timerPanPacketCount_accounts prof)
  | addLeProfile handle profileMap => exact inv.addLeProfile handle profileMap balanced
  | deleteLeProfile handle profileMap => exact inv.deleteLeProfile handle profileMap balanced
  | addLeDataCount dataType => exact inv.of_accounts (rtkAddLeDataCount_accounts prof dataType)
  | vendorCommandComplete pBuf => exact inv
  | memory mem => exact inv

theorem rtkParseInit_counted : rtkParseInit.Counted := by
  constructor <;> simp [rtkParseInit, RtkProf.accounts, Accounts.count]

structure CountedFor (prof : RtkProf) (index : Profile) : Prop where
  total : (prof.profileRefcount index).toInt =
    (prof.connHash.map (fun conn => (conn.profileRefcount index).toInt)).sum
  nonneg : 0 ≤ (prof.profileRefcount index).toInt
  connNonneg : ∀ conn ∈ prof.connHash, 0 ≤ (conn.profileRefcount index).toInt
  bit : isSet prof.profileBitmap index ↔ 0 < (prof.profileRefcount index).toInt
  connBit : ∀ conn ∈ prof.connHash,
    isSet conn.profileBitmap index ↔ 0 < (conn.profileRefcount index).toInt

theorem RtkProf.Counted.countedFor (inv : prof.Counted) (index : Profile)
    (proper : index ≠ .hidInterval) : CountedFor prof index := by
  have same : tally index = fun conn => (conn.profileRefcount index).toInt := by
    funext conn
    simp only [tally, if_neg proper, ConnProf.count]
  refine ⟨?_, inv.nonneg index, fun conn mem => (inv.conns conn mem).nonneg index,
    inv.bits index proper, fun conn mem => (inv.conns conn mem).bits index proper⟩
  have total := inv.total index
  rw [same] at total
  exact total

theorem sum_tally_interval (conns : List ConnProf) :
    (conns.map (tally .hidInterval)).sum =
      conns.countP (fun conn => isSet conn.profileBitmap .hidInterval) := by
  induction conns with
  | nil => rfl
  | cons conn rest ih =>
    rw [List.map_cons, List.sum_cons, ih, List.countP_cons]
    by_cases set : isSet conn.profileBitmap .hidInterval = true
    · simp [tally, set, add_comm]
    · simp [tally, set]

theorem profile_refcounts (events : List CoexEvent)
    (balanced : Along coexStep Balanced rtkParseInit events) :
    (∀ index, index ≠ .hidInterval → CountedFor (run coexStep rtkParseInit events) index) ∧
    ((run coexStep rtkParseInit events).profileRefcount .hidInterval).toInt =
      (run coexStep rtkParseInit events).connHash.countP
        (fun conn => isSet conn.profileBitmap .hidInterval) ∧
    (∀ conn ∈ (run coexStep rtkParseInit events).connHash,
      conn.profileRefcount .hidInterval = 0) ∧
    isSet (run coexStep rtkParseInit events).profileBitmap .hidInterval = false := by
  have inv : (run coexStep rtkParseInit events).Counted :=
    run_invariant coexStep Balanced RtkProf.Counted (fun _ event inv ok => inv.step event ok)
      rtkParseInit rtkParseInit_counted events balanced
  refine ⟨inv.countedFor, ?_, ?_, inv.interval⟩
  · rw [← sum_tally_interval]
    exact inv.total .hidInterval
  · intro conn mem
    exact (eq_zero_iff_toInt _).mpr (inv.conns conn mem).uncounted

instance (conn : ConnProf) : Decidable conn.Unused :=
  inferInstanceAs (Decidable (∀ index, conn.count index = 0))

instance (conn : ConnProf) (profiles : List ProfInfo) (handle : UInt16) :
    Decidable (conn.Settled profiles handle) :=
  inferInstanceAs (Decidable (∀ index,
    takenBack profiles handle index (conn.count index) conn.type = true))

instance (prof : RtkProf) (index : Profile) : Decidable (prof.Room index) :=
  inferInstanceAs (Decidable (prof.accounts.count index < 127))

instance (prof : RtkProf) : (event : HciEvent) → Decidable (BalancedEvent prof event)
  | .modeChange _ _ | .leConnectionUpdate _ _ => inferInstanceAs (Decidable (_ → _))
  | .connectionComplete _ _ _ => inferInstanceAs (Decidable (_ → _ ∧ _))
  | .disconnectionComplete _ _ => inferInstanceAs (Decidable (_ → _))
  | .leConnectionComplete _ _ _ => inferInstanceAs (Decidable (_ → _ ∧ _ ∧ _))
  | .inquiryComplete | .pairingStart | .pairingEnd | .commandComplete _ _ | .commandStatus _ _
  | .other => inferInstanceAs (Decidable True)

instance (prof : RtkProf) (direction : Direction) :
    (pdu : L2capPdu) → Decidable (BalancedPdu prof direction pdu)
  | .connectionRsp _ _ _ _ | .disconnectionReq _ _ _ | .data _ _ _ _ =>
    inferInstanceAs (Decidable (∀ _, _))
  | .connectionReq _ _ _ | .ignored => inferInstanceAs (Decidable True)

instance (prof : RtkProf) : (event : CoexEvent) → Decidable (Balanced prof event)
  | .hci msg => inferInstanceAs (Decidable (BalancedEvent prof (decodeEvent msg)))
  | .acl pp direction => inferInstanceAs (Decidable (BalancedPdu prof direction (decodeL2cap pp)))
  | .addLeProfile _ _ => inferInstanceAs (Decidable (_ ∧ _))
  | .deleteLeProfile _ _ => inferInstanceAs (Decidable (∀ _, _))
  | .command _ | .a2dpTimer | .hogpTimer | .panTimer | .addLeDataCount _
  | .vendorCommandComplete _ | .memory _ => inferInstanceAs (Decidable True)

def connectionCompleteEvt (handle : UInt16) (linkType : UInt8) : CoexEvent :=
  .hci [0x03, 11, 0, handle.toUInt8, (handle >>> 8).toUInt8, 0, 0, 0, 0, 0, 0, linkType, 0]

def disconnectionCompleteEvt (handle : UInt16) : CoexEvent :=
  .hci [0x05, 4, 0, handle.toUInt8, (handle >>> 8).toUInt8, 0x13]

def leConnectionCompleteEvt (handle : UInt16) (interval : UInt8) : CoexEvent :=
  .hci [0x3E, 19, 0x01, 0, handle.toUInt8, (handle >>> 8).toUInt8, 0, 0, 0, 0, 0, 0, 0, 0,
    interval, 0, 0, 0, 100, 0, 0]

def signalling (handle : UInt16) (direction : Direction) (code : UInt8) (params : List UInt8) :
    CoexEvent :=
  .acl ([handle.toUInt8, (handle >>> 8).toUInt8 ||| 0x20, 16, 0, 12, 0, 1, 0, code, 1, 8, 0] ++ params)
    direction

def balancedRun : List CoexEvent :=
  [connectionCompleteEvt 0x0B 1, signalling 0x0B .inbound 0x02 [0x11, 0, 0x40, 0],
    signalling 0x0B .outbound 0x03 [0x41, 0, 0x40, 0, 0, 0, 0, 0], leConnectionCompleteEvt 0x10 24,
    .addLeProfile 0x10 0x01, connectionCompleteEvt 0x0C 2,
    signalling 0x0B .inbound 0x06 [0x41, 0, 0x40, 0], .addLeDataCount 2, .hogpTimer,
    disconnectionCompleteEvt 0x0C]

theorem profile_refcounts_mouse :
    CountedFor (run coexStep rtkParseInit balancedRun) .hogp ∧
    ((run coexStep rtkParseInit balancedRun).profileRefcount .hogp).toInt = 1 ∧
    ((run coexStep rtkParseInit balancedRun).profileRefcount .hidInterval).toInt = 1 := by
  have counted := profile_refcounts balancedRun (by decide +kernel)
  exact ⟨counted.1 .hogp (by decide), by decide +kernel, by decide +kernel⟩

-- The HID interval count of an LE link is kept globally only. Each of the other runs has one step
-- that is not balanced: an L2CAP channel closed before it was answered, an LE profile deleted that
-- was never added, a link opened again with counts on it, a link that goes down while its answer
-- was counted twice, and a count beyond the range of `int8_t`.
theorem profile_refcounts_unbalanced :
    ¬ CountedFor (run coexStep rtkParseInit [leConnectionCompleteEvt 0x10 24]) .hidInterval ∧
    ¬ CountedFor (run coexStep rtkParseInit
      [connectionCompleteEvt 0x0B 1, signalling 0x0B .inbound 0x02 [0x11, 0, 0x40, 0],
        signalling 0x0B .outbound 0x06 [0x40, 0, 0, 0]]) .hid ∧
    ¬ CountedFor (run coexStep rtkParseInit
      [leConnectionCompleteEvt 0x10 100, .deleteLeProfile 0x10 0x01]) .hogp ∧
    ¬ CountedFor (run coexStep rtkParseInit
      [connectionCompleteEvt 0x0C 0, connectionCompleteEvt 0x0C 0]) .sco ∧
    ¬ CountedFor (run coexStep rtkParseInit
      [connectionCompleteEvt 0x0B 1, signalling 0x0B .inbound 0x02 [0x19, 0, 0x40, 0],
        signalling 0x0B .outbound 0x03 [0x41, 0, 0x40, 0, 0, 0, 0, 0],
        signalling 0x0B .outbound 0x03 [0x41, 0, 0x40, 0, 0, 0, 0, 0],
        disconnectionCompleteEvt 0x0B]) .a2dp ∧
    ¬ CountedFor (run coexStep rtkParseInit
      (leConnectionCompleteEvt 0x10 100 :: List.replicate 128 (.addLeProfile 0x10 0x04))) .voice := by
  refine ⟨fun counted => absurd counted.total (by decide +kernel),
    fun counted => absurd counted.nonneg (by decide +kernel),
    fun counted => absurd counted.nonneg (by decide +kernel),
    fun counted => absurd counted.total (by decide +kernel),
    fun counted => absurd counted.total (by decide +kernel),
    fun counted => absurd counted.nonneg (by decide +kernel)⟩

end UnionpiTiger.Coex
