import UnionpiTiger.H5.Complete

set_option autoImplicit false

namespace UnionpiTiger.H5

open Bt Lib

-- A frame h5_complete_rx_pkt has for the host.
structure PassUpFrame where
  skb : RtkBuffer
  passes : passUp (h5HdrPktType skb) = true

def PassUpFrame.packet (frame : PassUpFrame) : RtkBuffer :=
  { frame.skb.pull h5HdrSize with packetType := h5HdrPktType frame.skb }

-- Whether hci_recv_frame keeps the packet back, a Command Complete of HCI_VSC_UPDATE_BAUDRATE.
def PassUpFrame.intercepted (frame : PassUpFrame) : Bool :=
  (hciRecvFrame {} frame.packet (h5HdrPktType frame.skb)).1

-- The receiving side with its packets numbered as they were accepted: the number of the packet in
-- internal_skb, and the numbers of what was queued to recv_data (`none` where that was NULL).
structure PassUp where
  h5 : HciH5Cb
  accepted : List RtkBuffer := []
  parked : Option Nat := none
  queued : List (Option Nat) := []

inductive PassUpAct where
  | frame (frame : PassUpFrame)
  | baudrateReady

def PassUp.accept (up : PassUp) (frame : PassUpFrame) : PassUp :=
  let next := { up with
    h5 := h5CompleteRxPkt up.h5 frame.skb
    accepted := up.accepted ++ [frame.packet] }
  if frame.intercepted then { next with parked := some up.accepted.length }
  else { next with queued := up.queued ++ [some up.accepted.length] }

def PassUp.baudrateReady (up : PassUp) : PassUp :=
  if up.h5.timerWaitCtBaudrateReady then
    { up with
      h5 := h5WaitControllerBaudrateReadyTimeout { up.h5 with timerWaitCtBaudrateReady := false }
      queued := up.queued ++ [up.h5.internalSkb.bind fun _ => up.parked]
      parked := none }
  else up

def PassUp.act (up : PassUp) : PassUpAct → PassUp
  | .frame frame => up.accept frame
  | .baudrateReady => up.baudrateReady

-- Every packet accepted so far was queued once, or waits for the timer, and nothing else was queued.
structure DeliveredOnce (before : List RtkBuffer) (up : PassUp) : Prop where
  present : none ∉ up.queued
  once : up.queued.Nodup
  each : ∀ n < up.accepted.length, some n ∈ up.queued ∨
    up.parked = some n ∧ up.h5.timerWaitCtBaudrateReady = true
  notYet : ∀ n, up.parked = some n → some n ∉ up.queued
  parked : up.h5.internalSkb = up.parked.bind fun n => up.accepted[n]?
  contents : up.h5.recvData =
    before ++ up.queued.filterMap fun entry => entry.bind fun n => up.accepted[n]?

def OneParked (up : PassUp) : PassUpAct → Prop
  | .frame frame => frame.intercepted = true → up.h5.internalSkb = none
  | .baudrateReady => True

theorem passUp_not_linkCtl (pktType : UInt8) (passes : passUp pktType = true) :
    pktType ≠ h5LinkCtlPkt := by
  rintro rfl
  revert passes
  decide

theorem hciRecvFrame_intercepts (h5 : HciH5Cb) (frame : PassUpFrame) :
    hciRecvFrame h5 frame.packet (h5HdrPktType frame.skb) =
      if frame.intercepted then
        (true, { h5 with internalSkb := some frame.packet, timerWaitCtBaudrateReady := true })
      else (false, h5) := by
  unfold PassUpFrame.intercepted hciRecvFrame
  by_cases event : h5HdrPktType frame.skb = hciEventPkt ∧
      frame.packet.byteAt 0 = hciCommandCompleteEvt ∧
      (frame.packet.byteAt 3).toUInt16 + ((frame.packet.byteAt 4).toUInt16 <<< 8) =
        hciVscUpdateBaudrate
  · rw [if_pos event, if_pos event]
    rfl
  · rw [if_neg event, if_neg event]
    rfl

structure HostView where
  cleanuping : Bool
  internalSkb : Option RtkBuffer
  timer : Bool
  recvData : List RtkBuffer

def hostView (h5 : HciH5Cb) : HostView where
  cleanuping := h5.cleanuping
  internalSkb := h5.internalSkb
  timer := h5.timerWaitCtBaudrateReady
  recvData := h5.recvData

def HostView.gets (view : HostView) (frame : PassUpFrame) : HostView :=
  if frame.intercepted then { view with internalSkb := some frame.packet, timer := true }
  else { view with recvData := view.recvData ++ [frame.packet] }

theorem h5RemoveAckedPkt_hostView (h5 : HciH5Cb) : hostView (h5RemoveAckedPkt h5) = hostView h5 :=
  field_of_withoutTx hostView (fun _ => rfl) (h5RemoveAckedPkt_withoutTx h5)

theorem h5WakeUp_hostView (h5 : HciH5Cb) : hostView (h5WakeUp h5) = hostView h5 :=
  field_of_withoutTx hostView (fun _ => rfl) (h5WakeUp_withoutTx h5)

theorem h5CompleteRxTail_hostView (h5 : HciH5Cb) (frame : PassUpFrame) :
    hostView (h5CompleteRxTail h5 frame.skb) = (hostView h5).gets frame := by
  have acked : hostView (h5RemoveAckedPkt { h5 with rxack := h5HdrAck frame.skb }) = hostView h5 :=
    h5RemoveAckedPkt_hostView _
  have intercepts := hciRecvFrame_intercepts
    (h5RemoveAckedPkt { h5 with rxack := h5HdrAck frame.skb }) frame
  rw [← acked]
  unfold PassUpFrame.packet at intercepts
  unfold h5CompleteRxTail HostView.gets
  simp only [if_neg (passUp_not_linkCtl _ frame.passes), frame.passes, if_true]
  rw [intercepts]
  split_ifs with kept
  · rfl
  · rfl

theorem h5CompleteRxPkt_hostView (h5 : HciH5Cb) (frame : PassUpFrame) :
    hostView (h5CompleteRxPkt h5 frame.skb) = (hostView h5).gets frame := by
  simp only [h5CompleteRxPkt, h5CompleteRxTail_hostView]
  split_ifs with reliable
  · have woken : hostView (h5WakeUp (h5CompleteRxSeq
        { h5 with log := { h5.log with completed := h5.log.completed ++ [frame.skb] } } frame.skb)) =
        hostView h5 := h5WakeUp_hostView _
    rw [woken]
  · rfl

structure PassUpInv (before : List RtkBuffer) (up : PassUp) : Prop extends
    DeliveredOnce before up where
  known : ∀ n, some n ∈ up.queued → n < up.accepted.length
  knownParked : ∀ n, up.parked = some n → n < up.accepted.length
  armed : up.h5.timerWaitCtBaudrateReady = up.parked.isSome
  running : up.h5.cleanuping = false

theorem filterMap_accepted (queued : List (Option Nat)) (accepted : List RtkBuffer)
    (packet : RtkBuffer) (known : ∀ n, some n ∈ queued → n < accepted.length) :
    (queued.filterMap fun entry => entry.bind fun n => (accepted ++ [packet])[n]?) =
      queued.filterMap fun entry => entry.bind fun n => accepted[n]? := by
  refine List.filterMap_congr ?_
  intro entry mem
  cases entry with
  | none => rfl
  | some n =>
    have bound := known n mem
    simp only [Option.bind_some]
    rw [List.getElem?_append_left bound]

theorem PassUpInv.accept_queued {before : List RtkBuffer} {up : PassUp}
    (inv : PassUpInv before up) (frame : PassUpFrame) (passes : frame.intercepted = false) :
    PassUpInv before (up.accept frame) := by
  have view := h5CompleteRxPkt_hostView up.h5 frame
  rw [HostView.gets, passes] at view
  have skb : (h5CompleteRxPkt up.h5 frame.skb).internalSkb = up.h5.internalSkb :=
    congrArg HostView.internalSkb view
  have timer : (h5CompleteRxPkt up.h5 frame.skb).timerWaitCtBaudrateReady =
      up.h5.timerWaitCtBaudrateReady := congrArg HostView.timer view
  have recvData : (h5CompleteRxPkt up.h5 frame.skb).recvData = up.h5.recvData ++ [frame.packet] :=
    congrArg HostView.recvData view
  have cleanuping : (h5CompleteRxPkt up.h5 frame.skb).cleanuping = up.h5.cleanuping :=
    congrArg HostView.cleanuping view
  have accepted : up.accept frame = { up with
      h5 := h5CompleteRxPkt up.h5 frame.skb
      accepted := up.accepted ++ [frame.packet]
      queued := up.queued ++ [some up.accepted.length] } := by
    rw [PassUp.accept, passes]
    rfl
  have new : some up.accepted.length ∉ up.queued :=
    fun mem => Nat.lt_irrefl _ (inv.known _ mem)
  rw [accepted]
  refine ⟨⟨?_, ?_, ?_, ?_, ?_, ?_⟩, ?_, ?_, timer.trans inv.armed, cleanuping.trans inv.running⟩
  · simp [inv.present]
  · rw [List.nodup_append]
    refine ⟨inv.once, by simp, ?_⟩
    rintro entry mem other last rfl
    rw [List.mem_singleton.mp last] at mem
    exact new mem
  · intro n bound
    rw [List.length_append, List.length_singleton] at bound
    rcases Nat.lt_succ_iff_lt_or_eq.mp bound with earlier | rfl
    · rcases inv.each n earlier with there | ⟨parked, on⟩
      · exact Or.inl (List.mem_append_left _ there)
      · exact Or.inr ⟨parked, timer.trans on⟩
    · exact Or.inl (by simp)
  · intro n parked mem
    rcases List.mem_append.mp mem with there | last
    · exact inv.notYet n parked there
    · have same : n = up.accepted.length := Option.some.inj (List.mem_singleton.mp last)
      have bound := inv.knownParked n parked
      omega
  · change (h5CompleteRxPkt up.h5 frame.skb).internalSkb =
      up.parked.bind fun n => (up.accepted ++ [frame.packet])[n]?
    rw [skb, inv.parked]
    cases parked : up.parked with
    | none => rfl
    | some n => exact (List.getElem?_append_left (inv.knownParked n parked)).symm
  · change (h5CompleteRxPkt up.h5 frame.skb).recvData = before ++ (up.queued ++
      [some up.accepted.length]).filterMap fun entry => entry.bind fun n =>
        (up.accepted ++ [frame.packet])[n]?
    rw [recvData, inv.contents, List.filterMap_append, filterMap_accepted _ _ _ inv.known]
    simp
  · intro n mem
    rw [List.length_append, List.length_singleton]
    rcases List.mem_append.mp mem with there | last
    · exact Nat.lt_succ_of_lt (inv.known n there)
    · have same : n = up.accepted.length := Option.some.inj (List.mem_singleton.mp last)
      omega
  · intro n parked
    rw [List.length_append, List.length_singleton]
    exact Nat.lt_succ_of_lt (inv.knownParked n parked)

theorem PassUpInv.internalSkb_none_iff {before : List RtkBuffer} {up : PassUp}
    (inv : PassUpInv before up) : up.h5.internalSkb = none ↔ up.parked = none := by
  rw [inv.parked]
  cases parked : up.parked with
  | none => simp
  | some n => simp [List.getElem?_eq_getElem (inv.knownParked n parked)]

theorem PassUpInv.accept_intercepted {before : List RtkBuffer} {up : PassUp}
    (inv : PassUpInv before up) (frame : PassUpFrame) (kept : frame.intercepted = true) :
    (up.h5.internalSkb = none → PassUpInv before (up.accept frame)) ∧
    (DeliveredOnce before (up.accept frame) → up.h5.internalSkb = none) := by
  have view := h5CompleteRxPkt_hostView up.h5 frame
  rw [HostView.gets, if_pos kept] at view
  have skb : (h5CompleteRxPkt up.h5 frame.skb).internalSkb = some frame.packet :=
    congrArg HostView.internalSkb view
  have timer : (h5CompleteRxPkt up.h5 frame.skb).timerWaitCtBaudrateReady = true :=
    congrArg HostView.timer view
  have recvData : (h5CompleteRxPkt up.h5 frame.skb).recvData = up.h5.recvData :=
    congrArg HostView.recvData view
  have cleanuping : (h5CompleteRxPkt up.h5 frame.skb).cleanuping = up.h5.cleanuping :=
    congrArg HostView.cleanuping view
  have accepted : up.accept frame = { up with
      h5 := h5CompleteRxPkt up.h5 frame.skb
      accepted := up.accepted ++ [frame.packet]
      parked := some up.accepted.length } := by
    rw [PassUp.accept, if_pos kept]
  rw [inv.internalSkb_none_iff, accepted]
  constructor
  · intro free
    refine ⟨⟨inv.present, inv.once, ?_, ?_, ?_, ?_⟩, ?_, ?_, timer,
      cleanuping.trans inv.running⟩
    · intro n bound
      rw [List.length_append, List.length_singleton] at bound
      rcases Nat.lt_succ_iff_lt_or_eq.mp bound with earlier | rfl
      · refine Or.inl ((inv.each n earlier).resolve_right ?_)
        rintro ⟨parked, _⟩
        rw [free] at parked
        cases parked
      · exact Or.inr ⟨rfl, timer⟩
    · rintro n parked mem
      rw [← Option.some.inj parked] at mem
      exact Nat.lt_irrefl _ (inv.known _ mem)
    · rw [skb]
      simp
    · change (h5CompleteRxPkt up.h5 frame.skb).recvData = before ++ up.queued.filterMap
        fun entry => entry.bind fun n => (up.accepted ++ [frame.packet])[n]?
      rw [recvData, inv.contents, filterMap_accepted _ _ _ inv.known]
    · intro n mem
      rw [List.length_append, List.length_singleton]
      exact Nat.lt_succ_of_lt (inv.known n mem)
    · rintro n parked
      rw [← Option.some.inj parked]
      simp
  · intro next
    cases parked : up.parked with
    | none => rfl
    | some n =>
      -- The packet that was kept back before is lost.
      have bound := inv.knownParked n parked
      have later : n < (up.accepted ++ [frame.packet]).length := by
        rw [List.length_append, List.length_singleton]
        omega
      rcases next.each n later with there | ⟨same, _⟩
      · exact absurd there (inv.notYet n parked)
      · have equal : up.accepted.length = n := Option.some.inj same
        omega

theorem PassUpInv.baudrateReady {before : List RtkBuffer} {up : PassUp}
    (inv : PassUpInv before up) : PassUpInv before up.baudrateReady := by
  unfold PassUp.baudrateReady
  split_ifs with armed
  · rw [inv.armed] at armed
    obtain ⟨n, parked⟩ := Option.isSome_iff_exists.mp armed
    have bound := inv.knownParked n parked
    have skb : up.h5.internalSkb = some (up.accepted.get ⟨n, bound⟩) := by
      rw [inv.parked, parked]
      exact List.getElem?_eq_getElem bound
    have expired : h5WaitControllerBaudrateReadyTimeout
        { up.h5 with timerWaitCtBaudrateReady := false } =
        { up.h5 with
          timerWaitCtBaudrateReady := false
          recvData := up.h5.recvData ++ [up.accepted.get ⟨n, bound⟩]
          internalSkb := none } := by
      rw [h5WaitControllerBaudrateReadyTimeout, if_neg (Bool.eq_false_iff.mp inv.running), skb]
      rfl
    rw [expired, skb, parked]
    have absent := inv.notYet n parked
    refine ⟨⟨?_, ?_, ?_, ?_, rfl, ?_⟩, ?_, ?_, rfl, inv.running⟩
    · simp [inv.present]
    · simp only [Option.bind_some]
      rw [List.nodup_append]
      refine ⟨inv.once, by simp, ?_⟩
      rintro entry mem other last rfl
      rw [List.mem_singleton.mp last] at mem
      exact absent mem
    · intro m below
      rcases inv.each m below with there | ⟨same, _⟩
      · exact Or.inl (List.mem_append_left _ there)
      · have here : m = n := Option.some.inj (same.symm.trans parked)
        exact Or.inl (by simp [here])
    · intro m none
      cases none
    · simp only [Option.bind_some, List.filterMap_append]
      rw [inv.contents]
      simp [List.getElem?_eq_getElem bound]
    · intro m mem
      rcases List.mem_append.mp mem with there | last
      · exact inv.known m there
      · have same : m = n := Option.some.inj (List.mem_singleton.mp last)
        rw [same]
        exact bound
    · intro m none
      cases none
  · exact inv

theorem PassUpInv.act {before : List RtkBuffer} {up : PassUp} (act : PassUpAct)
    (inv : PassUpInv before up) (one : OneParked up act) : PassUpInv before (up.act act) := by
  cases act with
  | frame frame =>
    cases kept : frame.intercepted with
    | true => exact (inv.accept_intercepted frame kept).1 (one kept)
    | false => exact inv.accept_queued frame kept
  | baudrateReady => exact inv.baudrateReady

theorem PassUpInv.one_needed {before : List RtkBuffer} {up : PassUp} (act : PassUpAct)
    (inv : PassUpInv before up) (next : DeliveredOnce before (up.act act)) : OneParked up act := by
  cases act with
  | frame frame => exact fun kept => (inv.accept_intercepted frame kept).2 next
  | baudrateReady => trivial

structure NothingParked (h5 : HciH5Cb) : Prop where
  running : h5.cleanuping = false
  internalSkb : h5.internalSkb = none
  timer : h5.timerWaitCtBaudrateReady = false

theorem delivered_once_iff (h5 : HciH5Cb) (nothing : NothingParked h5) (acts : List PassUpAct) :
    (∀ first, first <+: acts → DeliveredOnce h5.recvData (run PassUp.act { h5 := h5 } first)) ↔
      Along PassUp.act OneParked { h5 := h5 } acts := by
  have init : PassUpInv h5.recvData { h5 := h5 } := by
    refine ⟨⟨List.not_mem_nil, List.nodup_nil, ?_, ?_, nothing.internalSkb, ?_⟩, ?_, ?_,
      nothing.timer, nothing.running⟩
    · intro n impossible
      exact absurd impossible (Nat.not_lt_zero n)
    · intro n parked
      cases parked
    · exact (List.append_nil _).symm
    · intro n mem
      exact absurd mem List.not_mem_nil
    · intro n parked
      cases parked
  exact (along_iff_always PassUp.act OneParked (PassUpInv h5.recvData) (DeliveredOnce h5.recvData)
    (fun _ inv => inv.toDeliveredOnce) (fun _ act inv one => inv.act act one)
    (fun _ act inv next => inv.one_needed act next) { h5 := h5 } init acts).symm

def baudrateFrame : PassUpFrame where
  skb := { data := h5Hdr 0 0 false false 6 hciEventPkt ++ [0x0e, 0x04, 0x01, 0x17, 0xfc, 0x00] }
  passes := by decide

theorem delivered_once_baudrate :
    Along PassUp.act OneParked { h5 := hciH5IntInit }
      [.frame baudrateFrame, .baudrateReady, .frame baudrateFrame] ∧
    DeliveredOnce [] (run PassUp.act { h5 := hciH5IntInit }
      [.frame baudrateFrame, .baudrateReady, .frame baudrateFrame]) := by
  have one : Along PassUp.act OneParked { h5 := hciH5IntInit }
      [.frame baudrateFrame, .baudrateReady, .frame baudrateFrame] := by
    refine ⟨?_, trivial, ?_, trivial⟩
    · intro _
      rfl
    · intro _
      decide
  exact ⟨one, (delivered_once_iff hciH5IntInit ⟨rfl, rfl, rfl⟩ _).mpr one _ (List.prefix_refl _)⟩

theorem delivered_once_not_twice_intercepted : ¬ ∀ acts : List PassUpAct,
    DeliveredOnce [] (run PassUp.act { h5 := hciH5IntInit } acts) := by
  intro always
  have each := (always [.frame baudrateFrame, .frame baudrateFrame, .baudrateReady]).each 0
  revert each
  decide

end UnionpiTiger.H5
