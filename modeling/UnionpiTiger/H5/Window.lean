import UnionpiTiger.H5.Complete
import UnionpiTiger.H5.Queues

set_option autoImplicit false

namespace UnionpiTiger.H5

open Bt Lib

variable {window : Nat} {h5 next : HciH5Cb}

theorem Sender.hciH5SendLinkCtl (sender : Sender window h5) (message : List UInt8) :
    Sender window (hciH5SendLinkCtl h5 message) := by
  obtain ⟨mem, failed | ⟨skb, _, kind, allocated⟩⟩ := skbAllocAndInit_cases h5 h5LinkCtlPkt message
  · simp only [H5.hciH5SendLinkCtl, failed]
    exact ⟨sender.inv.of_txView rfl, sender.size⟩
  · simp only [H5.hciH5SendLinkCtl, allocated]
    have inv : SenderInv window { h5 with mem := mem } := sender.inv.of_txView rfl
    have size : (h5Enqueue { h5 with mem := mem } skb).slidingWindowSize.toNat ≤ window := by
      unfold h5Enqueue
      split_ifs <;> exact sender.size
    exact Sender.h5WakeUp ⟨inv.h5Enqueue skb, size⟩

theorem rtkNotifyHwH5InitResult_txView (h5 : HciH5Cb) (status : UInt8) :
    txView (rtkNotifyHwH5InitResult h5 status) = txView h5 := by
  obtain ⟨mem, recvData, notified⟩ := rtkNotifyHwH5InitResult_eq h5 status
  rw [notified]
  rfl

theorem Sender.h5ProcessCtlPkts (sender : Sender window h5) (skb : RtkBuffer) :
    SenderInv window (h5ProcessCtlPkts h5 skb) := by
  have sends (next : HciH5Cb) (message : List UInt8) (same : txView next = txView h5)
      (size : next.slidingWindowSize = h5.slidingWindowSize) :
      Sender window (H5.hciH5SendLinkCtl next message) :=
    Sender.hciH5SendLinkCtl ⟨sender.inv.of_txView same, by rw [size]; exact sender.size⟩ message
  unfold H5.h5ProcessCtlPkts
  cases h5.linkEstabState with
  | uninitialized =>
    simp only
    split_ifs
    · exact (sends h5 h5syncresp rfl rfl).inv
    · have asked := sends { h5 with
        timerSyncRetrans := false
        syncRetransCount := 0
        linkEstabState := .initialized } h5conf rfl rfl
      exact asked.inv.of_txView rfl
    · exact sender.inv
  | initialized =>
    simp only
    split_ifs
    · exact (sends h5 h5syncresp rfl rfl).inv
    · exact (sends h5 h5confresp rfl rfl).inv
    · exact sender.inv.of_txView (rtkNotifyHwH5InitResult_txView _ _)
    · exact sender.inv
  | active =>
    simp only
    split_ifs
    · have answered := sends (rtkbtH5SendHwError h5) h5syncresp rfl rfl
      have fallen : Sender window { H5.hciH5SendLinkCtl (rtkbtH5SendHwError h5) h5syncresp with
          linkEstabState := .uninitialized } := ⟨answered.inv.of_txView rfl, answered.size⟩
      exact (fallen.hciH5SendLinkCtl h5sync).inv.of_txView rfl
    · exact (sends h5 h5confresp rfl rfl).inv
    · exact sender.inv

theorem Sender.h5CompleteRxTail (sender : Sender window h5) (skb : RtkBuffer) :
    SenderInv window (h5CompleteRxTail h5 skb) := by
  have noted : SenderInv window { h5 with rxack := h5HdrAck skb } := sender.inv.of_txView rfl
  have acked := noted.h5RemoveAckedPkt
  have size := field_of_withoutTx HciH5Cb.slidingWindowSize (fun _ => rfl)
    (h5RemoveAckedPkt_withoutTx { h5 with rxack := h5HdrAck skb })
  simp only [H5.h5CompleteRxTail]
  split_ifs
  · have ctl := Sender.h5ProcessCtlPkts ⟨acked, by rw [size]; exact sender.size⟩ (skb.pull h5HdrSize)
    exact ctl.of_txView rfl
  · unfold hciRecvFrame
    split_ifs <;> exact acked.of_txView rfl
  · exact acked.of_txView rfl

theorem Sender.h5CompleteRxPkt (sender : Sender window h5) (skb : RtkBuffer) :
    SenderInv window (h5CompleteRxPkt h5 skb) := by
  have logged : Sender window
      { h5 with log := { h5.log with completed := h5.log.completed ++ [skb] } } :=
    ⟨sender.inv.of_txView rfl, sender.size⟩
  simp only [H5.h5CompleteRxPkt]
  split_ifs
  · apply Sender.h5CompleteRxTail
    apply Sender.h5WakeUp
    have small : (h5HdrSeq skb + 1) % 8 < 8 := by
      rw [UInt8.lt_iff_toNat_lt, UInt8.toNat_mod]
      exact Nat.mod_lt _ (by decide)
    exact ⟨{ logged.inv with ackSmall := small }, sender.size⟩
  · exact logged.h5CompleteRxTail skb

theorem Sender.step (sender : Sender window h5) (event : Event) : SenderInv window (step h5 event) := by
  have notified (status : UInt8) : SenderInv window (rtkNotifyHwH5InitResult h5 status) :=
    sender.inv.of_txView (rtkNotifyHwH5InitResult_txView h5 status)
  cases event with
  | enqueue skb => exact sender.inv.h5Enqueue skb
  | dequeue => exact sender.inv.dequeues sender.size (h5Dequeue_dequeues h5)
  | wakeUp => exact sender.h5WakeUp.inv
  | packet skb =>
    simp only [H5.step, h5RecvPacket]
    have owed : Sender window { h5 with isTxackReq := true } := ⟨sender.inv.of_txView rfl, sender.size⟩
    split_ifs
    · exact owed.h5WakeUp.inv
    · exact sender.h5CompleteRxPkt skb
  | dataRetrans =>
    simp only [H5.step, dataRetransfer]
    generalize (if h5.h5InitDatatransFlag then btInitDataRetransCounts else dataRetransCounts) = limit
    split_ifs
    · exact sender.inv.retransferRequeue.of_txView rfl
    · exact sender.inv.of_txView rfl
  | syncRetrans =>
    simp only [H5.step, h5SyncRetransTimeout]
    split_ifs
    · exact sender.inv
    · exact (sender.hciH5SendLinkCtl h5sync).inv.of_txView rfl
    · exact (notified 3).of_txView rfl
    · exact sender.inv.of_txView rfl
  | confRetrans =>
    simp only [H5.step, h5ConfRetransTimeout]
    split_ifs
    · exact sender.inv
    · exact (sender.hciH5SendLinkCtl h5conf).inv.of_txView rfl
    · exact (notified 3).of_txView rfl
    · exact sender.inv.of_txView rfl
  | baudrateReady =>
    simp only [H5.step, h5WaitControllerBaudrateReadyTimeout]
    split_ifs <;> exact sender.inv.of_txView rfl
  | sendSyncCmd opcode =>
    simp only [H5.step, hciH5SendSyncCmd]
    split_ifs
    · exact (sender.hciH5SendLinkCtl h5sync).inv.of_txView rfl
    · exact sender.inv
  | memory outcomes => exact sender.inv.of_txView rfl

structure SenderFresh (h5 : HciH5Cb) : Prop where
  unack : h5.unack = []
  rel : h5.rel = []
  unrel : h5.unrel = []
  log : h5.log = {}
  seqSmall : h5.msgqTxseq < 8
  ackSmall : h5.rxseqTxack < 8

theorem SenderFresh.senderInv (fresh : SenderFresh h5) : SenderInv window h5 := by
  obtain ⟨unack, rel, unrel, log, seqSmall, ackSmall⟩ := fresh
  constructor
  case order => simp [unack, rel, log]
  case bound => simp [unack]
  case relKind => simp [unack, rel]
  case unrelKind => simp [unrel]
  case seqSmall => exact seqSmall
  case ackSmall => exact ackSmall
  case sent => exact ⟨[], [], by simp [log], by simp [unack], by simp [unack, seqsBefore]⟩

theorem SenderInv.recent_seq (inv : SenderInv window h5) :
    ∃ earlier recent, h5.log.relSent = earlier ++ recent ∧ recent.map Prod.fst = h5.unack ∧
      ∀ i (inside : i < recent.length), ((frameSeq recent[i].2).toNat : Int) =
        ((h5.msgqTxseq.toNat : Int) - h5.unack.length + i) % 8 := by
  obtain ⟨earlier, recent, sent, packets, seqs⟩ := inv.sent
  refine ⟨earlier, recent, sent, packets, fun i inside => ?_⟩
  have size : recent.length = h5.unack.length := by rw [← packets, List.length_map]
  have entry : frameSeq recent[i].2 = (seqsBefore h5.msgqTxseq h5.unack.length).getD i 0 := by
    rw [← seqs]
    simp [List.getD, inside]
  rw [entry]
  exact seqsBefore_getElem _ _ _ inv.seqSmall (by omega)

theorem SenderInv.acks (inv : SenderInv window h5) (small : window ≤ 7) (rxack : UInt8) :
    (∀ k ≤ h5.unack.length,
      (rxack.toNat : Int) = ((h5.msgqTxseq.toNat : Int) - h5.unack.length + k) % 8 →
        (H5.h5RemoveAckedPkt { h5 with rxack := rxack }).unack = h5.unack.drop k ∧
        (H5.h5RemoveAckedPkt { h5 with rxack := rxack }).log.acked =
          h5.log.acked ++ h5.unack.take k) ∧
    ((∀ k ≤ h5.unack.length,
      (rxack.toNat : Int) ≠ ((h5.msgqTxseq.toNat : Int) - h5.unack.length + k) % 8) →
        (H5.h5RemoveAckedPkt { h5 with rxack := rxack }).unack = h5.unack ∧
        (H5.h5RemoveAckedPkt { h5 with rxack := rxack }).log.acked = h5.log.acked) := by
  have queues := h5RemoveAckedPkt_queues { h5 with rxack := rxack }
  have unack := congrArg TxView.unack queues
  have acked := congrArg TxView.acked queues
  constructor
  · intro k inside covers
    have removed := pktsToBeRemoved_of_mem rxack h5.msgqTxseq h5.unack.length k inv.seqSmall inside
      (Nat.le_trans inv.bound small) covers
    simp only [removed] at unack acked
    exact ⟨unack, acked⟩
  · intro outside
    have removed := pktsToBeRemoved_of_not_mem rxack h5.msgqTxseq h5.unack.length inv.seqSmall outside
    simp only [removed, List.drop_zero, List.take_zero, List.append_nil] at unack acked
    exact ⟨unack, acked⟩

def WindowKept (h5 : HciH5Cb) (event : Event) : Prop :=
  h5.slidingWindowSize.toNat ≤ (step h5 event).slidingWindowSize.toNat ∧
    (step h5 event).slidingWindowSize.toNat ≤ 7

theorem SenderInv.mono {wider : Nat} (inv : SenderInv window h5) (wide : window ≤ wider) :
    SenderInv wider h5 :=
  { inv with bound := Nat.le_trans inv.bound wide }

theorem run_senderInv (init : HciH5Cb) (events : List Event) (fresh : SenderFresh init)
    (upper : init.slidingWindowSize.toNat ≤ 7) (kept : Along step WindowKept init events) :
    SenderInv (run step init events).slidingWindowSize.toNat (run step init events) ∧
      (run step init events).slidingWindowSize.toNat ≤ 7 := by
  apply run_invariant step WindowKept
    (fun h5 => SenderInv h5.slidingWindowSize.toNat h5 ∧ h5.slidingWindowSize.toNat ≤ 7)
    _ init _ events kept
  · rintro h5 event ⟨inv, -⟩ ⟨wider, small⟩
    have sender : Sender h5.slidingWindowSize.toNat h5 := ⟨inv, Nat.le_refl _⟩
    exact ⟨(sender.step event).mono wider, small⟩
  · exact ⟨fresh.senderInv, upper⟩

theorem senderWindow (init : HciH5Cb) (events : List Event) (fresh : SenderFresh init)
    (upper : init.slidingWindowSize.toNat ≤ 7) (kept : Along step WindowKept init events) :
    let h5 := run step init events
    (∃ earlier recent, h5.log.relSent = earlier ++ recent ∧ recent.map Prod.fst = h5.unack ∧
      ∀ i (inside : i < recent.length), ((frameSeq recent[i].2).toNat : Int) =
        ((h5.msgqTxseq.toNat : Int) - h5.unack.length + i) % 8) ∧
    h5.unack.length ≤ h5.slidingWindowSize.toNat ∧
    h5.log.acked ++ h5.unack ++ h5.rel = h5.log.enqueued ∧
    ∀ rxack : UInt8, rxack < 8 →
      let next := h5RemoveAckedPkt { h5 with rxack := rxack }
      (∀ k ≤ h5.unack.length,
        (rxack.toNat : Int) = ((h5.msgqTxseq.toNat : Int) - h5.unack.length + k) % 8 →
          next.unack = h5.unack.drop k ∧ next.log.acked = h5.log.acked ++ h5.unack.take k) ∧
      ((∀ k ≤ h5.unack.length,
        (rxack.toNat : Int) ≠ ((h5.msgqTxseq.toNat : Int) - h5.unack.length + k) % 8) →
          next.unack = h5.unack ∧ next.log.acked = h5.log.acked) := by
  intro h5
  obtain ⟨inv, small⟩ := run_senderInv init events fresh upper kept
  exact ⟨inv.recent_seq, inv.bound, inv.order, fun rxack _ => inv.acks small rxack⟩

theorem senderWindow_requeued :
    let h5 := run step { slidingWindowSize := 2 }
      [.enqueue { data := [0x10], packetType := hciAcldataPkt },
      .enqueue { data := [0x20], packetType := hciCommandPkt }, .wakeUp,
      .packet { data := h5Hdr 1 0 false false 0 h5AckPkt }, .dataRetrans]
    h5.unack.length ≤ h5.slidingWindowSize.toNat ∧
      h5.log.acked ++ h5.unack ++ h5.rel = h5.log.enqueued := by
  have window := senderWindow { slidingWindowSize := 2 }
    [.enqueue { data := [0x10], packetType := hciAcldataPkt },
      .enqueue { data := [0x20], packetType := hciCommandPkt }, .wakeUp,
      .packet { data := h5Hdr 1 0 false false 0 h5AckPkt }, .dataRetrans]
    ⟨rfl, rfl, rfl, rfl, by decide, by decide⟩ (by decide)
    ⟨⟨by decide, by decide⟩, ⟨by decide, by decide⟩, ⟨by decide, by decide⟩, ⟨by decide, by decide⟩,
      ⟨by decide, by decide⟩, trivial⟩
  exact ⟨window.2.1, window.2.2.1⟩

end UnionpiTiger.H5
