import UnionpiTiger.H5.PassUp
import UnionpiTiger.H5.Queues

set_option autoImplicit false

namespace UnionpiTiger.H5

open Bt

def initResultSize : Nat := 6

-- A packet on its way to the host is the result of the link establishment or the payload of a frame
-- that h5_complete_rx_pkt took.
def CameUp (completed : List RtkBuffer) (skb : RtkBuffer) : Prop :=
  skb.data.length = initResultSize ∨
    ∃ frame ∈ completed, passUp (h5HdrPktType frame) = true ∧
      skb.data = (frame.pull h5HdrSize).data

theorem CameUp.later {completed more : List RtkBuffer} {skb : RtkBuffer}
    (cameUp : CameUp completed skb) : CameUp (completed ++ more) skb := by
  rcases cameUp with made | ⟨frame, mem, passes, data⟩
  · exact .inl made
  · exact .inr ⟨frame, List.mem_append_left more mem, passes, data⟩

structure UpView where
  recvData : List RtkBuffer
  internalSkb : Option RtkBuffer
  completed : List RtkBuffer

def upView (h5 : HciH5Cb) : UpView where
  recvData := h5.recvData
  internalSkb := h5.internalSkb
  completed := h5.log.completed

def UpView.FromFrames (view : UpView) : Prop :=
  ∀ skb ∈ view.recvData ++ view.internalSkb.toList, CameUp view.completed skb

def FromFrames (h5 : HciH5Cb) : Prop := (upView h5).FromFrames

section FromFrames

variable {h5 next : HciH5Cb}

theorem FromFrames.congr (inv : FromFrames h5) (same : upView next = upView h5) :
    FromFrames next := by
  unfold FromFrames
  rw [same]
  exact inv

theorem FromFrames.of_withoutTx (inv : FromFrames h5) (same : withoutTx next = withoutTx h5) :
    FromFrames next :=
  inv.congr (field_of_withoutTx upView (fun _ => rfl) same)

theorem FromFrames.of_recvData {skb : RtkBuffer} (inv : FromFrames h5)
    (mem : skb ∈ h5.recvData) : CameUp h5.log.completed skb :=
  inv skb (List.mem_append_left _ mem)

theorem FromFrames.queue {skb : RtkBuffer} (inv : FromFrames h5)
    (cameUp : CameUp h5.log.completed skb) :
    FromFrames { h5 with recvData := h5.recvData ++ [skb] } := by
  intro other mem
  simp only [upView, List.append_assoc, List.mem_append, List.mem_singleton] at mem
  rcases mem with there | rfl | kept
  · exact inv other (List.mem_append_left _ there)
  · exact cameUp
  · exact inv other (List.mem_append_right _ kept)

theorem FromFrames.dequeue (inv : FromFrames h5) :
    FromFrames { h5 with recvData := h5.recvData.tail } := by
  intro other mem
  rcases List.mem_append.mp mem with there | kept
  · exact inv other (List.mem_append_left _ (List.mem_of_mem_tail there))
  · exact inv other (List.mem_append_right _ kept)

theorem FromFrames.keepBack {skb : RtkBuffer} (inv : FromFrames h5)
    (cameUp : CameUp h5.log.completed skb) (timer : Bool) :
    FromFrames { h5 with internalSkb := some skb, timerWaitCtBaudrateReady := timer } := by
  intro other mem
  rcases List.mem_append.mp mem with there | kept
  · exact inv other (List.mem_append_left _ there)
  · rw [List.mem_singleton.mp kept]
    exact cameUp

theorem FromFrames.rtkNotifyHwH5InitResult (inv : FromFrames h5) (status : UInt8) :
    FromFrames (rtkNotifyHwH5InitResult h5 status) := by
  obtain ⟨mem, failed | ⟨skb, data, _, allocated⟩⟩ :=
    skbAllocAndInit_cases h5 hciEventPkt [0x0e, 0x04, 0x03, 0xee, 0xfc, status]
  · simp only [H5.rtkNotifyHwH5InitResult, failed]
    exact inv.congr rfl
  · simp only [H5.rtkNotifyHwH5InitResult, allocated]
    have made : CameUp h5.log.completed skb := .inl (by rw [data]; rfl)
    exact (inv.queue made).congr rfl

theorem FromFrames.linkWork (inv : FromFrames h5) (work : LinkWork h5 next) : FromFrames next := by
  induction work with
  | refl => exact inv
  | send message work ih => exact ih.of_withoutTx (hciH5SendLinkCtl_withoutTx _ message)
  | notify status work ih => exact ih.rtkNotifyHwH5InitResult status
  | report work ih => exact ih.congr rfl
  | sets link timerSync timerConf syncs confs window oof dic crc work ih => exact ih.congr rfl

theorem FromFrames.h5CompleteRxTail {frame : RtkBuffer} (inv : FromFrames h5)
    (taken : frame ∈ h5.log.completed) : FromFrames (h5CompleteRxTail h5 frame) := by
  have acked := h5RemoveAckedPkt_withoutTx { h5 with rxack := h5HdrAck frame }
  have completed : (h5RemoveAckedPkt { h5 with rxack := h5HdrAck frame }).log.completed =
      h5.log.completed := by
    rw [field_of_withoutTx (fun h5 => h5.log.completed) (fun _ => rfl) acked]
  have noted : FromFrames { h5 with rxack := h5HdrAck frame } := inv.congr rfl
  have removed := noted.of_withoutTx acked
  unfold H5.h5CompleteRxTail
  dsimp only
  split_ifs with control passes
  · exact (removed.linkWork (h5ProcessCtlPkts_linkWork _ (frame.pull h5HdrSize))).congr rfl
  · have cameUp : CameUp (h5RemoveAckedPkt { h5 with rxack := h5HdrAck frame }).log.completed
        { frame.pull h5HdrSize with packetType := h5HdrPktType frame } := by
      rw [completed]
      exact .inr ⟨frame, taken, passes, rfl⟩
    unfold hciRecvFrame
    split_ifs
    · exact (removed.keepBack cameUp true).congr rfl
    · exact (removed.queue cameUp).congr rfl
  · exact removed.congr rfl

theorem FromFrames.h5CompleteRxPkt (inv : FromFrames h5) (frame : RtkBuffer) :
    FromFrames (h5CompleteRxPkt h5 frame) := by
  have logged : FromFrames { h5 with
      log := { h5.log with completed := h5.log.completed ++ [frame] } } :=
    fun skb mem => (inv skb mem).later
  have last : frame ∈ h5.log.completed ++ [frame] := by simp
  unfold H5.h5CompleteRxPkt
  dsimp only
  split_ifs with reliable
  · have counted : FromFrames (h5CompleteRxSeq { h5 with
        log := { h5.log with completed := h5.log.completed ++ [frame] } } frame) :=
      logged.congr rfl
    have woken := h5WakeUp_withoutTx (h5CompleteRxSeq { h5 with
      log := { h5.log with completed := h5.log.completed ++ [frame] } } frame)
    refine (counted.of_withoutTx woken).h5CompleteRxTail ?_
    rw [field_of_withoutTx (fun h5 => h5.log.completed) (fun _ => rfl) woken]
    exact last
  · exact logged.h5CompleteRxTail last

theorem FromFrames.h5WakeUp (inv : FromFrames h5) : FromFrames (h5WakeUp h5) :=
  inv.of_withoutTx (h5WakeUp_withoutTx h5)

theorem FromFrames.h5UnslipOneByte (inv : FromFrames h5) (skb : RtkBuffer) (byte : UInt8) :
    FromFrames (h5UnslipOneByte h5 skb byte) := by
  unfold H5.h5UnslipOneByte
  split
  · split_ifs
    · exact inv.congr rfl
    · exact inv.congr rfl
  · split
    · exact inv.congr rfl
    · exact inv.congr rfl

theorem FromFrames.h5RecvPkt (inv : FromFrames h5) (skb : RtkBuffer) :
    FromFrames (h5RecvPkt H5.h5CompleteRxPkt H5.h5WakeUp h5 skb) := by
  unfold H5.h5RecvPkt
  split
  · split_ifs
    · exact inv.congr rfl
    · have asked : FromFrames { h5 with isTxackReq := true } := inv.congr rfl
      exact asked.h5WakeUp.congr rfl
    · exact inv.congr rfl
  · split_ifs
    · exact inv.congr rfl
    · exact inv.h5CompleteRxPkt skb
  · split_ifs
    · exact inv.congr rfl
    · exact inv.h5CompleteRxPkt _
  · exact inv

theorem FromFrames.h5RecvPass (inv : FromFrames h5) (byte : UInt8) :
    FromFrames (h5RecvPass H5.h5CompleteRxPkt H5.h5WakeUp h5 byte).2 := by
  unfold H5.h5RecvPass
  by_cases counting : h5.rxCount ≠ 0
  · rw [if_pos counting]
    split_ifs
    · exact inv.congr rfl
    · exact inv.h5UnslipOneByte _ byte
  · rw [if_neg counting]
    split
    · dsimp only
      split_ifs
      · exact inv.congr rfl
      · exact inv
    · split_ifs
      · exact inv
      · obtain ⟨mem, failed | ⟨garbage, allocated⟩⟩ := skbAlloc_cases { h5 with
          rxState := .w4Hdr, rxCount := 4, rxEscState := .noesc, messageCrc := h5CrcInit } 0x1005
        · rw [failed]
          exact inv.congr rfl
        · rw [allocated]
          exact inv.congr rfl
    · exact inv.h5RecvPkt _

theorem FromFrames.h5RecvByte (inv : FromFrames h5) (passes : Nat) (byte : UInt8) :
    FromFrames (h5RecvByte H5.h5CompleteRxPkt H5.h5WakeUp passes h5 byte).2 := by
  induction passes generalizing h5 with
  | zero => exact inv
  | succ passes ih =>
    have kept := inv.h5RecvPass byte
    unfold H5.h5RecvByte
    split
    next pass => rwa [pass] at kept
    next pass =>
      rw [pass] at kept
      exact ih kept
    next pass => rwa [pass] at kept

theorem FromFrames.h5Recv (inv : FromFrames h5) (data : List UInt8) :
    FromFrames (h5Recv h5 data) := by
  unfold H5.h5Recv
  induction data generalizing h5 with
  | nil => exact inv
  | cons byte data ih =>
    have kept := inv.h5RecvByte 4 byte
    unfold h5RecvLoop
    split
    next goesOn =>
      rw [goesOn] at kept
      exact ih kept
    next returned => rwa [returned] at kept

theorem FromFrames.h5WaitControllerBaudrateReadyTimeout (inv : FromFrames h5) :
    FromFrames (h5WaitControllerBaudrateReadyTimeout h5) := by
  unfold H5.h5WaitControllerBaudrateReadyTimeout
  split_ifs
  · intro skb mem
    simp only [upView, Option.toList_none, List.append_nil] at mem
    exact inv.of_recvData mem
  · intro skb mem
    simp only [upView, Option.toList_none, List.append_nil] at mem
    exact inv skb mem

theorem FromFrames.step (inv : FromFrames h5) (event : Event) : FromFrames (step h5 event) := by
  cases event with
  | enqueue skb => exact inv.of_withoutTx (h5Enqueue_withoutTx h5 skb)
  | dequeue => exact inv.of_withoutTx (h5Dequeue_dequeues h5).withoutTx
  | wakeUp => exact inv.h5WakeUp
  | packet skb =>
    unfold H5.step h5RecvPacket
    dsimp only
    split_ifs
    · have asked : FromFrames { h5 with isTxackReq := true } := inv.congr rfl
      exact asked.h5WakeUp
    · exact inv.h5CompleteRxPkt skb
  | dataRetrans =>
    obtain ⟨seq, requeued, _⟩ := retransferRequeue_eq h5
    simp only [H5.step, dataRetransfer, requeued]
    generalize (if h5.h5InitDatatransFlag then btInitDataRetransCounts else dataRetransCounts) = limit
    split_ifs
    · exact inv.congr rfl
    · exact inv.congr rfl
  | syncRetrans => exact inv.linkWork (h5SyncRetransTimeout_linkWork h5)
  | confRetrans => exact inv.linkWork (h5ConfRetransTimeout_linkWork h5)
  | baudrateReady => exact inv.h5WaitControllerBaudrateReadyTimeout
  | sendSyncCmd opcode => exact inv.linkWork (hciH5SendSyncCmd_linkWork h5 opcode)
  | memory outcomes => exact inv.congr rfl

theorem hciH5IntInit_fromFrames : FromFrames hciH5IntInit := by
  intro skb mem
  cases mem

end FromFrames

end UnionpiTiger.H5
