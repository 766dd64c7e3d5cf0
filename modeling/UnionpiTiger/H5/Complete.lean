import UnionpiTiger.H5.Deframe
import UnionpiTiger.H5.Sender
import UnionpiTiger.Lib.Run

set_option autoImplicit false

namespace UnionpiTiger.H5

open Bt

def withoutTx (h5 : HciH5Cb) : HciH5Cb :=
  { h5 with
    unack := []
    rel := []
    unrel := []
    isTxackReq := false
    msgqTxseq := 0
    timerDataRetrans := false
    dataRetransCount := 0
    mem := []
    log := { completed := h5.log.completed, hwErrors := h5.log.hwErrors } }

theorem field_of_withoutTx {α : Type} {h5 next : HciH5Cb} (field : HciH5Cb → α)
    (kept : ∀ h5, field (withoutTx h5) = field h5) (same : withoutTx next = withoutTx h5) :
    field next = field h5 := by
  rw [← kept next, same, kept]

theorem Dequeues.withoutTx {h5 next : HciH5Cb} {out : Option RtkBuffer} (deq : Dequeues h5 out next) :
    withoutTx next = withoutTx h5 := by
  cases deq <;> rfl

theorem h5WakeUp_withoutTx (h5 : HciH5Cb) : withoutTx (h5WakeUp h5) = withoutTx h5 := by
  apply h5WakeUp_invariant (fun next => withoutTx next = withoutTx h5)
  · intro before next same deq
    exact deq.withoutTx.trans same
  · intro before skb next same deq
    exact deq.withoutTx.trans same
  · rfl

theorem h5Enqueue_withoutTx (h5 : HciH5Cb) (skb : RtkBuffer) :
    withoutTx (h5Enqueue h5 skb) = withoutTx h5 := by
  unfold h5Enqueue
  split_ifs <;> rfl

theorem h5RemoveAckedPkt_withoutTx (h5 : HciH5Cb) : withoutTx (h5RemoveAckedPkt h5) = withoutTx h5 := by
  simp only [h5RemoveAckedPkt]
  split_ifs <;> rfl

theorem skbAllocAndInit_cases (h5 : HciH5Cb) (pktType : UInt8) (data : List UInt8) :
    ∃ mem, (skbAllocAndInit h5 pktType data = (none, { h5 with mem := mem })) ∨
      ∃ skb, skb.data = data ∧ skb.packetType = pktType ∧
        skbAllocAndInit h5 pktType data = (some skb, { h5 with mem := mem }) := by
  obtain ⟨mem, failed | ⟨garbage, allocated⟩⟩ := skbAlloc_cases h5 data.length
  · exact ⟨mem, .inl (by simp [skbAllocAndInit, failed])⟩
  · refine ⟨mem, .inr ⟨{ (RtkBuffer.rtbAllocate data.length garbage).put data with
      packetType := pktType }, ?_, rfl, by simp only [skbAllocAndInit, allocated]⟩⟩
    simp [RtkBuffer.put, RtkBuffer.rtbAllocate]

theorem hciH5SendLinkCtl_withoutTx (h5 : HciH5Cb) (message : List UInt8) :
    withoutTx (hciH5SendLinkCtl h5 message) = withoutTx h5 := by
  obtain ⟨mem, failed | ⟨skb, _, _, allocated⟩⟩ := skbAllocAndInit_cases h5 h5LinkCtlPkt message
  · simp only [hciH5SendLinkCtl, failed]
    rfl
  · simp only [hciH5SendLinkCtl, allocated, h5WakeUp_withoutTx, h5Enqueue_withoutTx]
    rfl

-- What the link establishment does to a control block, one thing after the other.
inductive LinkWork (h5 : HciH5Cb) : HciH5Cb → Prop where
  | refl : LinkWork h5 h5
  | send {next : HciH5Cb} (message : List UInt8) (work : LinkWork h5 next) :
      LinkWork h5 (hciH5SendLinkCtl next message)
  | notify {next : HciH5Cb} (status : UInt8) (work : LinkWork h5 next) :
      LinkWork h5 (rtkNotifyHwH5InitResult next status)
  | report {next : HciH5Cb} (work : LinkWork h5 next) : LinkWork h5 (rtkbtH5SendHwError next)
  | sets {next : HciH5Cb} (link : LinkState) (timerSync timerConf : Bool) (syncs confs : Nat)
      (window : UInt8) (oof dic crc : Bool) (work : LinkWork h5 next) :
      LinkWork h5 { next with
        linkEstabState := link
        timerSyncRetrans := timerSync
        timerConfRetrans := timerConf
        syncRetransCount := syncs
        confRetransCount := confs
        slidingWindowSize := window
        oofFlowControl := oof
        dicType := dic
        useCrc := crc }

theorem h5ProcessCtlPkts_linkWork (h5 : HciH5Cb) (skb : RtkBuffer) :
    LinkWork h5 (h5ProcessCtlPkts h5 skb) := by
  unfold h5ProcessCtlPkts
  have idle : LinkWork h5 h5 := .refl
  split
  · split_ifs
    · exact idle.send h5syncresp
    · have initialized := idle.sets .initialized false h5.timerConfRetrans 0 h5.confRetransCount
        h5.slidingWindowSize h5.oofFlowControl h5.dicType h5.useCrc
      exact (initialized.send h5conf).sets _ _ true _ _ _ _ _ _
    · exact idle
  · split_ifs
    · exact idle.send h5syncresp
    · exact idle.send h5confresp
    · exact (idle.sets _ _ _ _ _ _ _ _ _).notify 0
    · exact idle
  · split_ifs
    · have answered := idle.report.send h5syncresp
      exact ((answered.sets .uninitialized _ _ _ _ _ _ _ _).send h5sync).sets _ true _ _ _ _ _ _ _
    · exact idle.send h5confresp
    · exact idle

-- What only the receiving thread writes, and the packets it has completed.
structure RxView where
  rxState : RxState
  rxCount : Nat
  rxEscState : RxEscState
  rxSkb : Option RtkBuffer
  messageCrc : UInt16
  rxseqTxack : UInt8
  completed : List RtkBuffer

def rxView (h5 : HciH5Cb) : RxView where
  rxState := h5.rxState
  rxCount := h5.rxCount
  rxEscState := h5.rxEscState
  rxSkb := h5.rxSkb
  messageCrc := h5.messageCrc
  rxseqTxack := h5.rxseqTxack
  completed := h5.log.completed

theorem rxView_of_withoutTx {h5 next : HciH5Cb} (same : withoutTx next = withoutTx h5) :
    rxView next = rxView h5 :=
  field_of_withoutTx rxView (fun _ => rfl) same

theorem rtkNotifyHwH5InitResult_eq (h5 : HciH5Cb) (status : UInt8) :
    ∃ mem recvData, rtkNotifyHwH5InitResult h5 status =
      { h5 with mem := mem, recvData := recvData } := by
  obtain ⟨mem, failed | ⟨skb, _, _, allocated⟩⟩ :=
    skbAllocAndInit_cases h5 hciEventPkt [0x0e, 0x04, 0x03, 0xee, 0xfc, status]
  · exact ⟨mem, h5.recvData, by simp only [rtkNotifyHwH5InitResult, failed]⟩
  · exact ⟨mem, h5.recvData ++ [skb], by simp only [rtkNotifyHwH5InitResult, allocated]⟩

theorem rtkNotifyHwH5InitResult_rxView (h5 : HciH5Cb) (status : UInt8) :
    rxView (rtkNotifyHwH5InitResult h5 status) = rxView h5 := by
  obtain ⟨mem, recvData, notified⟩ := rtkNotifyHwH5InitResult_eq h5 status
  rw [notified]
  rfl

theorem hciH5SendLinkCtl_rxView (h5 : HciH5Cb) (message : List UInt8) :
    rxView (hciH5SendLinkCtl h5 message) = rxView h5 :=
  rxView_of_withoutTx (hciH5SendLinkCtl_withoutTx h5 message)

theorem LinkWork.rxView {h5 next : HciH5Cb} (work : LinkWork h5 next) :
    rxView next = rxView h5 := by
  induction work with
  | refl => rfl
  | send message work ih => exact (hciH5SendLinkCtl_rxView _ message).trans ih
  | notify status work ih => exact (rtkNotifyHwH5InitResult_rxView _ status).trans ih
  | report work ih => exact ih
  | sets link timerSync timerConf syncs confs window oof dic crc work ih => exact ih

theorem hciRecvFrame_rxView (h5 : HciH5Cb) (skb : RtkBuffer) (pktType : UInt8) :
    rxView (hciRecvFrame h5 skb pktType).2 = rxView h5 := by
  unfold hciRecvFrame
  split_ifs <;> rfl

theorem h5CompleteRxTail_rxView (h5 : HciH5Cb) (skb : RtkBuffer) :
    rxView (h5CompleteRxTail h5 skb) =
      { rxView h5 with rxState := .w4PktDelimiter, rxSkb := none } := by
  have acked := rxView_of_withoutTx (h5RemoveAckedPkt_withoutTx { h5 with rxack := h5HdrAck skb })
  have kept (next : HciH5Cb) (same : rxView next = rxView h5) :
      rxView { next with rxState := .w4PktDelimiter, rxSkb := none } =
        { rxView h5 with rxState := .w4PktDelimiter, rxSkb := none } := by
    rw [← same]
    rfl
  simp only [h5CompleteRxTail]
  apply kept
  split_ifs
  · exact (h5ProcessCtlPkts_linkWork _ _).rxView.trans acked
  · have frame := hciRecvFrame_rxView (h5RemoveAckedPkt { h5 with rxack := h5HdrAck skb })
      { skb.pull h5HdrSize with packetType := h5HdrPktType skb } (h5HdrPktType skb)
    split
    next keep =>
      rw [keep] at frame
      exact frame.trans acked
    next pass =>
      rw [pass] at frame
      exact frame.trans acked
  · exact acked

theorem h5CompleteRxPkt_rxView (h5 : HciH5Cb) (skb : RtkBuffer) :
    rxView (h5CompleteRxPkt h5 skb) =
      { rxView h5 with
        rxState := .w4PktDelimiter
        rxSkb := none
        rxseqTxack := if h5HdrReliable skb = 1 then (h5HdrSeq skb + 1) % 8 else h5.rxseqTxack
        completed := h5.log.completed ++ [skb] } := by
  simp only [h5CompleteRxPkt, h5CompleteRxTail_rxView]
  split_ifs
  · rw [rxView_of_withoutTx (h5WakeUp_withoutTx _)]
    rfl
  · rfl

theorem h5CompleteRxPkt_settles : Settles h5CompleteRxPkt := by
  intro h5 skb count
  have view := h5CompleteRxPkt_rxView h5 skb
  exact ⟨congrArg RxView.rxState view, (congrArg RxView.rxCount view).trans count⟩

def hciVscH5Init : UInt16 := 0xFCEE

def dataRetransCounts : Nat := 40
def btInitDataRetransCounts : Nat := 200
def syncRetransCounts : Nat := 350
def confRetransCounts : Nat := 350

-- `hci_h5_int_init`, which clears the control block; the timers are created unarmed.
def hciH5IntInit : HciH5Cb :=
  { rxState := .w4PktDelimiter, rxEscState := .noesc, h5InitDatatransFlag := true }

-- What `h5_recv` does with a packet whose header checksum and check sequence are right.
def h5RecvPacket (h5 : HciH5Cb) (skb : RtkBuffer) : HciH5Cb :=
  if h5HdrReliable skb = 1 ∧ h5HdrSeq skb ≠ h5.rxseqTxack then h5WakeUp { h5 with isTxackReq := true }
  else h5CompleteRxPkt h5 skb

-- `data_retransfer_thread` on `H5_EVENT_RX`, up to the `h5_wake_up` it ends with: the wake-up
-- mutex is free in between, so that call is an event of its own.
def dataRetransfer (h5 : HciH5Cb) : HciH5Cb :=
  let limit := if h5.h5InitDatatransFlag then btInitDataRetransCounts else dataRetransCounts
  if h5.dataRetransCount < limit then
    { retransferRequeue h5 with dataRetransCount := h5.dataRetransCount + 1 }
  else rtkbtH5SendHwError h5

def h5SyncRetransTimeout (h5 : HciH5Cb) : HciH5Cb :=
  if h5.cleanuping then h5
  else if h5.syncRetransCount < syncRetransCounts then
    { hciH5SendSyncReq h5 with syncRetransCount := h5.syncRetransCount + 1 }
  else
    let h5 := if h5.linkEstabState = .uninitialized then rtkNotifyHwH5InitResult h5 0x03 else h5
    { h5 with timerSyncRetrans := false }

def h5ConfRetransTimeout (h5 : HciH5Cb) : HciH5Cb :=
  if h5.cleanuping then h5
  else if h5.confRetransCount < confRetransCounts then
    { hciH5SendConfReq h5 with confRetransCount := h5.confRetransCount + 1 }
  else
    let h5 := if h5.linkEstabState ≠ .active then rtkNotifyHwH5InitResult h5 0x03 else h5
    { h5 with timerConfRetrans := false }

def h5WaitControllerBaudrateReadyTimeout (h5 : HciH5Cb) : HciH5Cb :=
  if h5.cleanuping then { h5 with internalSkb := none }
  else { h5 with recvData := h5.recvData ++ h5.internalSkb.toList, internalSkb := none }

def hciH5SendSyncCmd (h5 : HciH5Cb) (opcode : UInt16) : HciH5Cb :=
  if h5.linkEstabState = .uninitialized ∧ opcode = hciVscH5Init then
    { hciH5SendSyncReq h5 with timerSyncRetrans := true }
  else h5

inductive Event where
  | enqueue (skb : RtkBuffer)
  | dequeue
  | wakeUp
  | packet (skb : RtkBuffer)
  | dataRetrans
  | syncRetrans
  | confRetrans
  | baudrateReady
  | sendSyncCmd (opcode : UInt16)
  | memory (outcomes : List (Option (List UInt8)))

def step (h5 : HciH5Cb) : Event → HciH5Cb
  | .enqueue skb => h5Enqueue h5 skb
  | .dequeue => (h5Dequeue h5).2
  | .wakeUp => h5WakeUp h5
  | .packet skb => h5RecvPacket h5 skb
  | .dataRetrans => dataRetransfer h5
  | .syncRetrans => h5SyncRetransTimeout h5
  | .confRetrans => h5ConfRetransTimeout h5
  | .baudrateReady => h5WaitControllerBaudrateReadyTimeout h5
  | .sendSyncCmd opcode => hciH5SendSyncCmd h5 opcode
  | .memory outcomes => { h5 with mem := outcomes }

section LinkWork

variable (h5 : HciH5Cb)

theorem h5SyncRetransTimeout_linkWork : LinkWork h5 (h5SyncRetransTimeout h5) := by
  have idle : LinkWork h5 h5 := .refl
  unfold h5SyncRetransTimeout
  split_ifs
  · exact idle
  · exact (idle.send h5sync).sets _ _ _ _ _ _ _ _ _
  · exact (idle.notify 0x03).sets _ _ _ _ _ _ _ _ _
  · exact idle.sets _ _ _ _ _ _ _ _ _

theorem h5ConfRetransTimeout_linkWork : LinkWork h5 (h5ConfRetransTimeout h5) := by
  have idle : LinkWork h5 h5 := .refl
  unfold h5ConfRetransTimeout
  split_ifs
  · exact idle
  · exact (idle.send h5conf).sets _ _ _ _ _ _ _ _ _
  · exact (idle.notify 0x03).sets _ _ _ _ _ _ _ _ _
  · exact idle.sets _ _ _ _ _ _ _ _ _

theorem hciH5SendSyncCmd_linkWork (opcode : UInt16) :
    LinkWork h5 (hciH5SendSyncCmd h5 opcode) := by
  have idle : LinkWork h5 h5 := .refl
  unfold hciH5SendSyncCmd
  split_ifs
  · exact (idle.send h5sync).sets _ _ _ _ _ _ _ _ _
  · exact idle

end LinkWork

end UnionpiTiger.H5
