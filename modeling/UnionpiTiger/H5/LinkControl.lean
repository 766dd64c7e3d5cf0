import UnionpiTiger.H5.Complete
import UnionpiTiger.H5.Wire

set_option autoImplicit false

namespace UnionpiTiger.H5

open Bt

section Forget

def forget (h5 : HciH5Cb) : HciH5Cb := { h5 with log := { h5.log with completed := [] } }

variable {α : Type} (h5 : HciH5Cb) (skb : RtkBuffer) (message : List UInt8)

def forgetNext (result : α × HciH5Cb) : α × HciH5Cb := (result.1, forget result.2)

@[simp] theorem forget_mem : (forget h5).mem = h5.mem := rfl
@[simp] theorem forget_isTxackReq : (forget h5).isTxackReq = h5.isTxackReq := rfl

theorem skbAlloc_forget (len : Nat) : skbAlloc (forget h5) len = forgetNext (skbAlloc h5 len) := by
  simp only [skbAlloc, forget_mem]
  split <;> rfl

theorem skbAllocAndInit_forget (pktType : UInt8) :
    skbAllocAndInit (forget h5) pktType message = forgetNext (skbAllocAndInit h5 pktType message) := by
  simp only [skbAllocAndInit, skbAlloc_forget]
  rcases skbAlloc h5 message.length with ⟨_ | skb, next⟩ <;> rfl

theorem h5PreparePkt_forget (pktType : UInt8) :
    h5PreparePkt (forget h5) message pktType = forgetNext (h5PreparePkt h5 message pktType) := by
  unfold h5PreparePkt
  cases pktReliable? pktType with
  | none => rfl
  | some rel =>
    simp only [skbAlloc_forget]
    rcases skbAlloc h5 ((message.length + 6) * 2 + 2) with ⟨_ | skb, next⟩ <;> rfl

theorem h5DequeueAck_forget : h5DequeueAck (forget h5) = forgetNext (h5DequeueAck h5) := by
  simp only [h5DequeueAck, h5PreparePkt_forget, forget_isTxackReq]
  split_ifs <;> rfl

theorem h5DequeueRel_forget : h5DequeueRel (forget h5) = forgetNext (h5DequeueRel h5) := by
  generalize same : forget h5 = forgot
  have owed : h5DequeueAck forgot = forgetNext (h5DequeueAck h5) := by rw [← same, h5DequeueAck_forget]
  have queue : forgot.rel = h5.rel := by rw [← same]; rfl
  have window : forgot.unack.length < forgot.slidingWindowSize.toNat ↔
      h5.unack.length < h5.slidingWindowSize.toNat := by
    rw [← same]
    rfl
  unfold h5DequeueRel
  rw [queue, owed]
  cases h5.rel with
  | nil => rfl
  | cons skb rel =>
    have prepared : h5PreparePkt { forgot with rel := rel } skb.data skb.packetType =
        forgetNext (h5PreparePkt { h5 with rel := rel } skb.data skb.packetType) := by
      subst same
      exact h5PreparePkt_forget { h5 with rel := rel } skb.data skb.packetType
    simp only [prepared, window]
    split_ifs
    · rcases h5PreparePkt { h5 with rel := rel } skb.data skb.packetType with ⟨_ | nskb, next⟩
      · exact h5DequeueAck_forget { next with rel := skb :: next.rel }
      · rfl
    · rfl

theorem h5Dequeue_forget : h5Dequeue (forget h5) = forgetNext (h5Dequeue h5) := by
  generalize same : forget h5 = forgot
  have reliable : h5DequeueRel forgot = forgetNext (h5DequeueRel h5) := by
    rw [← same, h5DequeueRel_forget]
  have queue : forgot.unrel = h5.unrel := by rw [← same]; rfl
  unfold h5Dequeue
  rw [queue, reliable]
  cases h5.unrel with
  | nil => rfl
  | cons skb unrel =>
    have prepared : h5PreparePkt { forgot with unrel := unrel } skb.data skb.packetType =
        forgetNext (h5PreparePkt { h5 with unrel := unrel } skb.data skb.packetType) := by
      subst same
      exact h5PreparePkt_forget { h5 with unrel := unrel } skb.data skb.packetType
    simp only [prepared]
    rcases h5PreparePkt { h5 with unrel := unrel } skb.data skb.packetType with ⟨_ | nskb, next⟩
    · exact h5DequeueRel_forget { next with unrel := skb :: next.unrel }
    · rfl

theorem h5WakeUpLoop_forget (fuel : Nat) :
    h5WakeUpLoop fuel (forget h5) = forget (h5WakeUpLoop fuel h5) := by
  induction fuel generalizing h5 with
  | zero => rfl
  | succ fuel ih =>
    simp only [h5WakeUpLoop, h5Dequeue_forget]
    rcases h5Dequeue h5 with ⟨_ | skb, next⟩
    · rfl
    · exact ih (h5IntTransmitDataCb next skb)

theorem h5WakeUp_forget : h5WakeUp (forget h5) = forget (h5WakeUp h5) :=
  h5WakeUpLoop_forget h5 (txPending h5 + 1)

theorem h5Enqueue_forget : h5Enqueue (forget h5) skb = forget (h5Enqueue h5 skb) := by
  unfold h5Enqueue
  split_ifs <;> rfl

theorem h5RemoveAckedPkt_forget : h5RemoveAckedPkt (forget h5) = forget (h5RemoveAckedPkt h5) := by
  simp only [h5RemoveAckedPkt, apply_ite forget]
  rfl

theorem hciH5SendLinkCtl_forget :
    hciH5SendLinkCtl (forget h5) message = forget (hciH5SendLinkCtl h5 message) := by
  simp only [hciH5SendLinkCtl, skbAllocAndInit_forget]
  rcases skbAllocAndInit h5 h5LinkCtlPkt message with ⟨_ | skb, next⟩
  · rfl
  · simp only [forgetNext, h5Enqueue_forget, h5WakeUp_forget]

theorem rtkNotifyHwH5InitResult_forget (status : UInt8) :
    rtkNotifyHwH5InitResult (forget h5) status = forget (rtkNotifyHwH5InitResult h5 status) := by
  simp only [rtkNotifyHwH5InitResult, skbAllocAndInit_forget]
  rcases skbAllocAndInit h5 hciEventPkt [0x0e, 0x04, 0x03, 0xee, 0xfc,
    status] with ⟨_ | skb, next⟩ <;> rfl

theorem h5ProcessCtlPkts_forget :
    h5ProcessCtlPkts (forget h5) skb = forget (h5ProcessCtlPkts h5 skb) := by
  have link : (forget h5).linkEstabState = h5.linkEstabState := rfl
  cases state : h5.linkEstabState with
  | uninitialized =>
    simp only [h5ProcessCtlPkts, link, state]
    split_ifs
    · exact hciH5SendLinkCtl_forget h5 h5syncresp
    · exact congrArg (fun next : HciH5Cb => { next with timerConfRetrans := true }) (hciH5SendLinkCtl_forget
        { h5 with timerSyncRetrans := false, syncRetransCount := 0, linkEstabState := .initialized } h5conf)
    · rfl
  | initialized =>
    simp only [h5ProcessCtlPkts, link, state]
    split_ifs
    · exact hciH5SendLinkCtl_forget h5 h5syncresp
    · exact hciH5SendLinkCtl_forget h5 h5confresp
    · exact rtkNotifyHwH5InitResult_forget
        (applyConfig { h5 with timerConfRetrans := false, confRetransCount := 0 } (skb.byteAt 2)) 0
    · rfl
  | active =>
    simp only [h5ProcessCtlPkts, link, state]
    split_ifs
    · have answered := hciH5SendLinkCtl_forget (rtkbtH5SendHwError h5) h5syncresp
      have asked := hciH5SendLinkCtl_forget
        { hciH5SendSyncResp (rtkbtH5SendHwError h5) with linkEstabState := .uninitialized } h5sync
      refine congrArg (fun next : HciH5Cb => { next with timerSyncRetrans := true }) (Eq.trans ?_ asked)
      exact congrArg (fun next : HciH5Cb =>
        hciH5SendSyncReq { next with linkEstabState := .uninitialized }) answered
    · exact hciH5SendLinkCtl_forget h5 h5confresp
    · rfl

end Forget

section Frames

-- A received link-control frame with this payload, whatever the memory behind it holds.
structure LinkCtlFrame (payload : List UInt8) (skb : RtkBuffer) : Prop where
  size : skb.data.length = h5HdrSize + payload.length
  rest : skb.data.drop h5HdrSize = payload
  kind : h5HdrPktType skb = h5LinkCtlPkt
  length : h5HdrLen skb = payload.length

def compared : LinkState → List (List UInt8)
  | .uninitialized => [h5sync, h5syncresp]
  | .initialized | .active => [h5sync, h5conf, h5confresp]

structure Outcome where
  sent : List (List UInt8)
  linkEstabState : LinkState
  slidingWindowSize : UInt8
  oofFlowControl : Bool
  useCrc : Bool

def outcome (h5 : HciH5Cb) : Outcome where
  sent := h5.log.transmitted
  linkEstabState := h5.linkEstabState
  slidingWindowSize := h5.slidingWindowSize
  oofFlowControl := h5.oofFlowControl
  useCrc := h5.useCrc

structure OnlyReceived (state : LinkState) (payload : List UInt8) : Prop where
  same : ∀ h5 skb skb', h5.linkEstabState = state → LinkCtlFrame payload skb →
    LinkCtlFrame payload skb' →
    skb.data = skb'.data → outcome (h5CompleteRxPkt h5 skb) = outcome (h5CompleteRxPkt h5 skb')
  short : payload.length < 2 → ∀ skb, LinkCtlFrame payload skb → ∀ message ∈ compared state,
    isLinkCtl (skb.pull h5HdrSize) message = false
  unconfigured : payload = h5confresp → ∀ h5 skb, h5.linkEstabState = state → LinkCtlFrame payload skb →
    (h5CompleteRxPkt h5 skb).slidingWindowSize = h5.slidingWindowSize ∧
      (h5CompleteRxPkt h5 skb).oofFlowControl = h5.oofFlowControl ∧
        (h5CompleteRxPkt h5 skb).useCrc = h5.useCrc

variable {payload : List UInt8} {skb skb' : RtkBuffer} {h5 : HciH5Cb}

theorem LinkCtlFrame.pull_data (frame : LinkCtlFrame payload skb) :
    (skb.pull h5HdrSize).data = payload := by
  have room : h5HdrSize ≤ skb.data.length := by rw [frame.size]; exact Nat.le_add_right _ _
  simp [RtkBuffer.pull, room, frame.rest]

theorem LinkCtlFrame.byteAt_eq (frame : LinkCtlFrame payload skb)
    (frame' : LinkCtlFrame payload skb') {index : Nat} (within : index < payload.length) :
    (skb.pull h5HdrSize).byteAt index = (skb'.pull h5HdrSize).byteAt index := by
  rw [RtkBuffer.byteAt_of_lt _ _ (by rwa [frame.pull_data]),
    RtkBuffer.byteAt_of_lt _ _ (by rwa [frame'.pull_data]), frame.pull_data, frame'.pull_data]

theorem LinkCtlFrame.header_eq (frame : LinkCtlFrame payload skb) (same : skb.data = skb'.data)
    {index : Nat} (within : index < h5HdrSize) : skb.byteAt index = skb'.byteAt index := by
  have inside : index < skb.data.length := by rw [frame.size]; exact Nat.lt_add_right _ within
  rw [RtkBuffer.byteAt_of_lt _ _ inside, RtkBuffer.byteAt_of_lt _ _ (by rwa [← same]), same]

theorem h5ProcessCtlPkts_congr
    (messages : ∀ message ∈ compared h5.linkEstabState, isLinkCtl skb message = isLinkCtl skb' message)
    (config : h5.linkEstabState = .initialized → isLinkCtl skb h5confresp = true →
      skb.byteAt 2 = skb'.byteAt 2) :
    h5ProcessCtlPkts h5 skb = h5ProcessCtlPkts h5 skb' := by
  cases state : h5.linkEstabState with
  | uninitialized =>
    simp only [state, compared, List.mem_cons, List.not_mem_nil, or_false, forall_eq_or_imp,
      forall_eq] at messages
    simp only [h5ProcessCtlPkts, state, messages.1, messages.2]
  | initialized =>
    simp only [state, compared, List.mem_cons, List.not_mem_nil, or_false, forall_eq_or_imp,
      forall_eq] at messages
    simp only [h5ProcessCtlPkts, state, messages.1, messages.2.1]
    by_cases resp : isLinkCtl skb h5confresp = true
    · rw [← messages.2.2, config state resp]
    · rw [← messages.2.2]
      simp only [resp]
      rfl
  | active =>
    simp only [state, compared, List.mem_cons, List.not_mem_nil, or_false, forall_eq_or_imp,
      forall_eq] at messages
    simp only [h5ProcessCtlPkts, state, messages.1, messages.2.1]

def beforeCtl (h5 : HciH5Cb) (skb : RtkBuffer) : HciH5Cb :=
  h5RemoveAckedPkt { (if h5HdrReliable skb = 1 then h5WakeUp (h5CompleteRxSeq h5 skb)
    else h5) with rxack := h5HdrAck skb }

theorem beforeCtl_forget (h5 : HciH5Cb) (skb : RtkBuffer) :
    beforeCtl (forget h5) skb = forget (beforeCtl h5 skb) := by
  unfold beforeCtl
  split_ifs
  · rw [show h5CompleteRxSeq (forget h5) skb = forget (h5CompleteRxSeq h5 skb) from rfl,
      h5WakeUp_forget]
    exact h5RemoveAckedPkt_forget { h5WakeUp (h5CompleteRxSeq h5 skb) with rxack := h5HdrAck skb }
  · exact h5RemoveAckedPkt_forget { h5 with rxack := h5HdrAck skb }

theorem beforeCtl_withoutTx (h5 : HciH5Cb) (skb : RtkBuffer) : ∃ rxseqTxack,
    withoutTx (beforeCtl h5 skb) = withoutTx { h5 with rxseqTxack := rxseqTxack, rxack := h5HdrAck skb } := by
  unfold beforeCtl
  split_ifs
  · refine ⟨(h5CompleteRxSeq h5 skb).rxseqTxack, (h5RemoveAckedPkt_withoutTx _).trans ?_⟩
    have woken := h5WakeUp_withoutTx (h5CompleteRxSeq h5 skb)
    exact congrArg (fun next : HciH5Cb => { next with rxack := h5HdrAck skb }) woken
  · exact ⟨h5.rxseqTxack, h5RemoveAckedPkt_withoutTx _⟩

theorem beforeCtl_field {α : Type} (field : HciH5Cb → α)
    (kept : ∀ h5, field (withoutTx h5) = field h5)
    (numbers : ∀ (h5 : HciH5Cb) rxseqTxack rxack,
      field { h5 with rxseqTxack := rxseqTxack, rxack := rxack } = field h5) :
    field (beforeCtl h5 skb) = field h5 := by
  obtain ⟨rxseqTxack, same⟩ := beforeCtl_withoutTx h5 skb
  exact (field_of_withoutTx field kept same).trans (numbers h5 rxseqTxack (h5HdrAck skb))

theorem LinkCtlFrame.complete_forget (frame : LinkCtlFrame payload skb) :
    forget (h5CompleteRxPkt h5 skb) =
    { h5ProcessCtlPkts (beforeCtl (forget h5) skb) (skb.pull h5HdrSize) with rxState := .w4PktDelimiter, rxSkb := none } := by
  have before := beforeCtl_forget { h5 with log := { h5.log with completed := h5.log.completed ++ [skb] } } skb
  rw [show beforeCtl (forget h5) skb = forget (beforeCtl
    { h5 with log := { h5.log with completed := h5.log.completed ++ [skb] } } skb) from before,
      h5ProcessCtlPkts_forget]
  simp only [h5CompleteRxPkt, h5CompleteRxTail, frame.kind, if_true]
  rfl

theorem complete_congr (frame : LinkCtlFrame payload skb) (frame' : LinkCtlFrame payload skb')
    (same : skb.data = skb'.data)
    (messages : ∀ message ∈ compared h5.linkEstabState,
      isLinkCtl (skb.pull h5HdrSize) message = isLinkCtl (skb'.pull h5HdrSize) message)
    (config : h5.linkEstabState = .initialized → isLinkCtl (skb.pull h5HdrSize) h5confresp = true →
      (skb.pull h5HdrSize).byteAt 2 = (skb'.pull h5HdrSize).byteAt 2) :
    outcome (h5CompleteRxPkt h5 skb) = outcome (h5CompleteRxPkt h5 skb') := by
  have link : (beforeCtl (forget h5) skb).linkEstabState = h5.linkEstabState :=
    beforeCtl_field (fun h5 => h5.linkEstabState) (fun _ => rfl) (fun _ _ _ => rfl)
  have byte := frame.header_eq same (by decide : 0 < h5HdrSize)
  have reliable : h5HdrReliable skb = h5HdrReliable skb' := by rw [h5HdrReliable, h5HdrReliable, byte]
  have seq : h5HdrSeq skb = h5HdrSeq skb' := by rw [h5HdrSeq, h5HdrSeq, byte]
  have ack : h5HdrAck skb = h5HdrAck skb' := by rw [h5HdrAck, h5HdrAck, byte]
  have header : beforeCtl (forget h5) skb = beforeCtl (forget h5) skb' := by
    unfold beforeCtl h5CompleteRxSeq
    rw [reliable, seq, ack]
  have ctl := h5ProcessCtlPkts_congr
    (by rwa [link]) (by rwa [link])
  have whole : forget (h5CompleteRxPkt h5 skb) = forget (h5CompleteRxPkt h5 skb') := by
    rw [frame.complete_forget, frame'.complete_forget, ctl, header]
  exact (congrArg outcome whole :)

def Received (state : LinkState) (payload : List UInt8) : Prop :=
  3 ≤ payload.length ∨ payload.length = 2 ∧ (state = .initialized → payload ≠ h5confresp) ∨
    ∃ byte, payload = [byte] ∧ ∀ message ∈ compared state, message.head? ≠ some byte

theorem compared_length (state : LinkState) : ∀ message ∈ compared state, 2 ≤ message.length := by
  cases state <;> decide

theorem isLinkCtl_eq_false {message : List UInt8} {byte : UInt8} (some_ : 2 ≤ message.length)
    (frame : LinkCtlFrame [byte] skb) (other : message.head? ≠ some byte) :
    isLinkCtl (skb.pull h5HdrSize) message = false := by
  have first : (skb.pull h5HdrSize).byteAt 0 = byte := by
    rw [RtkBuffer.byteAt_of_lt _ _ (by simp [frame.pull_data]), frame.pull_data]
    rfl
  cases message with
  | nil => simp at some_
  | cons head rest =>
    have different : byte ≠ head := fun same => other (by rw [same]; rfl)
    simp [isLinkCtl, first, different]

theorem Received.same (received : Received h5.linkEstabState payload) (frame : LinkCtlFrame payload skb)
    (frame' : LinkCtlFrame payload skb') (same : skb.data = skb'.data) :
    outcome (h5CompleteRxPkt h5 skb) = outcome (h5CompleteRxPkt h5 skb') := by
  have two (long : 2 ≤ payload.length) (message : List UInt8) :
      isLinkCtl (skb.pull h5HdrSize) message = isLinkCtl (skb'.pull h5HdrSize) message := by
    rw [isLinkCtl, isLinkCtl, frame.byteAt_eq frame' (show 0 < payload.length by omega),
      frame.byteAt_eq frame' (show 1 < payload.length by omega)]
  rcases received with long | ⟨exactly, other⟩ | ⟨byte, rfl, others⟩
  · exact complete_congr frame frame' same (fun message _ => two (by omega) message) fun _ _ =>
      frame.byteAt_eq frame' (by omega)
  · refine complete_congr frame frame' same (fun message _ => two (by omega) message) fun state
      matches_ => ?_
    refine absurd ?_ (other state)
    obtain ⟨first, second, rfl⟩ := List.length_eq_two.mp exactly
    have data := frame.pull_data
    simp only [isLinkCtl, RtkBuffer.byteAt, data] at matches_
    simpa [h5confresp] using matches_
  · refine complete_congr frame frame' same (fun message member => ?_) fun state matches_ => ?_
    · rw [isLinkCtl_eq_false (compared_length _ message member) frame (others message member),
        isLinkCtl_eq_false (compared_length _ message member) frame' (others message member)]
    · have member : h5confresp ∈ compared h5.linkEstabState := by rw [state]; decide
      rw [isLinkCtl_eq_false (by decide) frame (others _ member)] at matches_
      exact absurd matches_ (by decide)

theorem Received.short {state : LinkState} (received : Received state payload)
    (short : payload.length < 2) (frame : LinkCtlFrame payload skb) :
    ∀ message ∈ compared state, isLinkCtl (skb.pull h5HdrSize) message = false := by
  rcases received with long | ⟨exactly, -⟩ | ⟨byte, rfl, others⟩
  · omega
  · omega
  · exact fun message member =>
      isLinkCtl_eq_false (compared_length state message member) frame (others message member)

theorem Received.unconfigured (received : Received h5.linkEstabState h5confresp)
    (frame : LinkCtlFrame h5confresp skb) :
    (h5CompleteRxPkt h5 skb).slidingWindowSize = h5.slidingWindowSize ∧
      (h5CompleteRxPkt h5 skb).oofFlowControl = h5.oofFlowControl ∧
        (h5CompleteRxPkt h5 skb).useCrc = h5.useCrc := by
  have other : h5.linkEstabState ≠ .initialized := by
    rcases received with long | ⟨-, other⟩ | ⟨byte, single, -⟩
    · exact absurd long (by decide)
    · exact fun state => other state rfl
    · simp [h5confresp] at single
  have link : (beforeCtl (forget h5) skb).linkEstabState = h5.linkEstabState :=
    beforeCtl_field (fun h5 => h5.linkEstabState) (fun _ => rfl) (fun _ _ _ => rfl)
  have first : (skb.pull h5HdrSize).byteAt 0 = 0x04 := by
    rw [RtkBuffer.byteAt_of_lt _ _ (by rw [frame.pull_data]; decide), frame.pull_data]
    rfl
  have idle : h5ProcessCtlPkts (beforeCtl (forget h5) skb) (skb.pull h5HdrSize) =
      beforeCtl (forget h5) skb := by
    cases state : h5.linkEstabState with
    | uninitialized => simp [h5ProcessCtlPkts, link, state, isLinkCtl, first, h5sync, h5syncresp]
    | initialized => exact absurd state other
    | active => simp [h5ProcessCtlPkts, link, state, isLinkCtl, first, h5sync, h5conf]
  have whole := (@LinkCtlFrame.complete_forget _ _ h5 frame)
  rw [idle] at whole
  have window := congrArg (fun next : HciH5Cb => next.slidingWindowSize) whole
  have oof := congrArg (fun next : HciH5Cb => next.oofFlowControl) whole
  have crc := congrArg (fun next : HciH5Cb => next.useCrc) whole
  exact ⟨window.trans
    (beforeCtl_field (fun h5 => h5.slidingWindowSize) (fun _ => rfl) fun _ _ _ => rfl),
    oof.trans (beforeCtl_field (fun h5 => h5.oofFlowControl) (fun _ => rfl) fun _ _ _ => rfl),
    crc.trans (beforeCtl_field (fun h5 => h5.useCrc) (fun _ => rfl) fun _ _ _ => rfl)⟩

def linkCtlFrame (payload stale : List UInt8) : RtkBuffer :=
  { data := h5Hdr 0 0 false false payload.length h5LinkCtlPkt ++ payload, stale := stale }

theorem linkCtlFrame_frame (fits : payload.length ≤ 0xFFF) (stale : List UInt8) :
    LinkCtlFrame payload (linkCtlFrame payload stale) := by
  have decodes := decodes_h5Hdr (linkCtlFrame payload stale) 0 0 false false payload.length
    h5LinkCtlPkt payload
    (by decide) (by decide) fits (by decide) rfl
  have size : (linkCtlFrame payload stale).data.length = h5HdrSize + payload.length := by
    simp only [linkCtlFrame, h5Hdr, h5HdrSize, List.length_append, List.length_cons, List.length_nil]
  exact ⟨size, by simp [linkCtlFrame, h5Hdr, h5HdrSize], decodes.pktType, decodes.len⟩

theorem linkCtlFrame_byteAt (payload stale : List UInt8) (index : Nat) :
    ((linkCtlFrame payload stale).pull h5HdrSize).byteAt index = (payload ++ stale).getD index 0 := by
  simp [RtkBuffer.byteAt, RtkBuffer.pull, linkCtlFrame, h5Hdr, h5HdrSize]

theorem only_received_iff (state : LinkState) (payload : List UInt8) (fits : payload.length ≤ 0xFFF) :
    OnlyReceived state payload ↔ Received state payload := by
  constructor
  · rintro ⟨-, short, unconfigured⟩
    match payload with
    | [] =>
      have never := short (by decide) _ (linkCtlFrame_frame fits h5sync) h5sync
        (by cases state <;> decide)
      exact absurd never (by simp [isLinkCtl, linkCtlFrame_byteAt])
    | [byte] =>
      refine .inr (.inr ⟨byte, rfl, fun message member begins => ?_⟩)
      have never := short (Nat.lt_add_one 1) _ (linkCtlFrame_frame fits message.tail) message member
      obtain ⟨rest, rfl⟩ : ∃ rest, message = byte :: rest := by
        cases message with
        | nil => simp at begins
        | cons head rest => exact ⟨rest, by rw [Option.some.inj begins]⟩
      exact absurd never (by simp [isLinkCtl, linkCtlFrame_byteAt])
    | [first, second] =>
      refine .inr (.inl ⟨rfl, fun initialized same => ?_⟩)
      have kept := unconfigured same { linkEstabState := .initialized } _ initialized.symm
        (linkCtlFrame_frame fits [1])
      rw [same] at kept
      exact absurd kept.1 (by decide)
    | _ :: _ :: _ :: rest => exact .inl (by simp)
  · exact fun received =>
      ⟨fun _ _ _ state frame frame' same => (state ▸ received).same frame frame' same,
      fun short _ => received.short short,
      fun config _ _ state frame => by
        subst config state
        exact received.unconfigured frame⟩

theorem only_received_sync : OnlyReceived .uninitialized (h5sync ++ [0]) :=
  (only_received_iff .uninitialized (h5sync ++ [0]) (by decide)).mpr (.inl (by decide))

theorem stale_window : ¬∀ state payload, payload.length ≤ 0xFFF → OnlyReceived state payload := by
  intro claim
  have frame (stale : List UInt8) := (@linkCtlFrame_frame h5confresp) (by decide) stale
  have same := (claim .initialized h5confresp (by decide)).same { linkEstabState := .initialized } _
    _ rfl (frame [1])
    (frame [2]) rfl
  have window := congrArg Outcome.slidingWindowSize same
  exact absurd window (by decide)

end Frames

end UnionpiTiger.H5
