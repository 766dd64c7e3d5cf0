import UnionpiTiger.H5.Queues
import UnionpiTiger.H5.Complete

set_option autoImplicit false

namespace UnionpiTiger.H5

open Bt Lib

variable {link : LinkState} {h5 next : HciH5Cb}

structure Unused (link : LinkState) (h5 : HciH5Cb) : Prop where
  link : h5.linkEstabState = link
  window : h5.slidingWindowSize = 0
  unack : h5.unack = []
  unrelKind : ∀ skb ∈ h5.unrel, pktReliable? skb.packetType = some false
  txseq : h5.msgqTxseq = 0
  txack : h5.rxseqTxack = 0
  crc : h5.useCrc = false

theorem Unused.dequeues {out : Option RtkBuffer} (unused : Unused link h5)
    (deq : Dequeues h5 out next) : Unused link next := by
  cases deq with
  | idle mem => exact { unused with }
  | ack mem nskb owed frame => exact { unused with }
  | unrel mem skb nskb rest rel queue kind frame =>
    obtain rfl : false = rel :=
      Option.some.inj ((unused.unrelKind skb (by simp [queue])).symm.trans kind)
    exact { unused with unrelKind := fun other member => unused.unrelKind other (by simp [queue, member]) }
  | rel mem skb nskb rest rel queue window kind frame =>
    rw [unused.window] at window
    exact absurd window (Nat.not_lt_zero _)

theorem Unused.h5WakeUp (unused : Unused link h5) : Unused link (h5WakeUp h5) := by
  apply h5WakeUp_invariant (Unused link) _ _ h5 unused
  · intro before next unused deq
    exact unused.dequeues deq
  · intro before skb next unused deq
    exact { unused.dequeues deq with }

theorem Unused.h5Enqueue (unused : Unused link h5) (skb : RtkBuffer) :
    Unused link (h5Enqueue h5 skb) := by
  unfold H5.h5Enqueue
  split_ifs with long reliable unreliable
  · exact unused
  · exact { unused with }
  · have kind : pktReliable? skb.packetType = some false := by
      rcases unreliable with kind | kind | kind | kind <;> rw [kind] <;> decide
    refine { unused with unrelKind := ?_ }
    intro other member
    rcases List.mem_append.mp member with member | member
    · exact unused.unrelKind other member
    · rw [List.mem_singleton.mp member]
      exact kind
  · exact unused

theorem Unused.hciH5SendLinkCtl (unused : Unused link h5) (message : List UInt8) :
    Unused link (hciH5SendLinkCtl h5 message) := by
  obtain ⟨mem, failed | ⟨skb, _, _, allocated⟩⟩ := skbAllocAndInit_cases h5 h5LinkCtlPkt message
  · simp only [H5.hciH5SendLinkCtl, failed]
    exact { unused with }
  · simp only [H5.hciH5SendLinkCtl, allocated]
    have kept : Unused link { h5 with mem := mem } := { unused with }
    exact (kept.h5Enqueue skb).h5WakeUp

theorem Unused.rtkNotifyHwH5InitResult (unused : Unused link h5) (status : UInt8) :
    Unused link (rtkNotifyHwH5InitResult h5 status) := by
  obtain ⟨mem, recvData, notified⟩ := rtkNotifyHwH5InitResult_eq h5 status
  rw [notified]
  exact { unused with }

theorem Unused.h5RemoveAckedPkt (unused : Unused link h5) : Unused link (h5RemoveAckedPkt h5) := by
  simp only [H5.h5RemoveAckedPkt]
  split_ifs
  · exact { unused with unack := by simp [h5StopDataRetransTimer, unused.unack] }
  · exact { unused with unack := by simp [unused.unack] }

theorem Unused.retransferRequeue (unused : Unused link h5) : Unused link (retransferRequeue h5) := by
  simpa [H5.retransferRequeue, unused.unack, retransferRequeueLoop] using unused

def linkCtlPkt (skb : RtkBuffer) (message : List UInt8) : Bool :=
  h5HdrPktType skb == h5LinkCtlPkt && isLinkCtl (skb.pull h5HdrSize) message

structure Established (payload : List UInt8) (h5 : HciH5Cb) : Prop where
  link : h5.linkEstabState = .active
  txseq : h5.msgqTxseq = 0
  txack : h5.rxseqTxack = 0
  unack : h5.unack = []
  crc : ∃ cfg, payload[2]? = some cfg ∧ h5.useCrc = (h5CfgDicType cfg != 0)

def PeerKeepsSession (h5 : HciH5Cb) : Event → Prop
  | .packet skb =>
    (h5.linkEstabState = .active → linkCtlPkt skb h5sync = false) ∧
    (h5.linkEstabState ≠ .active → h5HdrReliable skb = 1 → h5HdrSeq skb ≠ h5.rxseqTxack) ∧
    (h5.linkEstabState = .initialized → linkCtlPkt skb h5confresp = true →
      3 ≤ (skb.pull h5HdrSize).data.length)
  | _ => True

theorem Unused.applyConfig (unused : Unused .initialized h5) (skb : RtkBuffer)
    (configured : 3 ≤ skb.data.length) : Established skb.data
      (H5.applyConfig { h5 with timerConfRetrans := false, confRetransCount := 0 } (skb.byteAt 2)) := by
  have byte : skb.byteAt 2 = skb.data[2] := by
    rw [RtkBuffer.byteAt_of_lt skb 2 configured, List.getD, List.getElem?_eq_getElem configured]
    rfl
  constructor
  case link => rfl
  case txseq => exact unused.txseq
  case txack => exact unused.txack
  case unack => exact unused.unack
  case crc =>
    refine ⟨skb.data[2], by simp, ?_⟩
    rw [← byte]
    cases bit : h5CfgDicType (skb.byteAt 2) != 0 <;> simp [H5.applyConfig, bit, unused.crc]

theorem Unused.h5ProcessCtlPkts (unused : Unused link h5) (skb : RtkBuffer) (idle : link ≠ .active)
    (configured : link = .initialized → isLinkCtl skb h5confresp = true → 3 ≤ skb.data.length) :
    (∃ link, link ≠ .active ∧ Unused link (h5ProcessCtlPkts h5 skb)) ∨
      Established skb.data (h5ProcessCtlPkts h5 skb) := by
  unfold H5.h5ProcessCtlPkts
  rw [unused.link]
  cases link with
  | active => exact absurd rfl idle
  | uninitialized =>
    simp only
    split_ifs
    · exact .inl ⟨_, idle, unused.hciH5SendLinkCtl h5syncresp⟩
    · have advanced : Unused .initialized { h5 with
          timerSyncRetrans := false
          syncRetransCount := 0
          linkEstabState := .initialized } := { unused with link := rfl }
      exact .inl ⟨.initialized, by decide, { advanced.hciH5SendLinkCtl h5conf with }⟩
    · exact .inl ⟨_, idle, unused⟩
  | initialized =>
    simp only
    split_ifs with sync conf resp
    · exact .inl ⟨_, idle, unused.hciH5SendLinkCtl h5syncresp⟩
    · exact .inl ⟨_, idle, unused.hciH5SendLinkCtl h5confresp⟩
    · have established := unused.applyConfig skb (configured rfl resp)
      obtain ⟨mem, recvData, notified⟩ := rtkNotifyHwH5InitResult_eq (H5.applyConfig { h5 with
        timerConfRetrans := false
        confRetransCount := 0 } (skb.byteAt 2)) 0
      rw [unused.link] at established notified
      rw [notified]
      exact .inr { established with }
    · exact .inl ⟨_, idle, unused⟩

theorem Unused.h5CompleteRxPkt (unused : Unused link h5) (skb : RtkBuffer) (idle : link ≠ .active)
    (unreliable : h5HdrReliable skb ≠ 1)
    (configured : link = .initialized → linkCtlPkt skb h5confresp = true →
      3 ≤ (skb.pull h5HdrSize).data.length) :
    (∃ link, link ≠ .active ∧ Unused link (h5CompleteRxPkt h5 skb)) ∨
      Established (skb.pull h5HdrSize).data (h5CompleteRxPkt h5 skb) := by
  have logged : Unused link { h5 with
      log := { h5.log with completed := h5.log.completed ++ [skb] }
      rxack := h5HdrAck skb } := { unused with }
  have acked := logged.h5RemoveAckedPkt
  simp only [H5.h5CompleteRxPkt, if_neg unreliable, h5CompleteRxTail]
  split_ifs with ctl pass
  · have process := acked.h5ProcessCtlPkts (skb.pull h5HdrSize) idle
      (fun state resp => configured state (by simp [linkCtlPkt, ctl, resp]))
    rcases process with ⟨link, idle, kept⟩ | established
    · exact .inl ⟨link, idle, { kept with }⟩
    · exact .inr { established with }
  · unfold hciRecvFrame
    split_ifs <;> exact .inl ⟨link, idle, { acked with }⟩
  · exact .inl ⟨link, idle, { acked with }⟩

theorem Unused.step (unused : Unused link h5) (event : Event) (idle : link ≠ .active)
    (peer : PeerKeepsSession h5 event) :
    (∃ link, link ≠ .active ∧ Unused link (step h5 event)) ∨
      ∃ skb, event = .packet skb ∧ Established (skb.pull h5HdrSize).data (step h5 event) := by
  cases event with
  | packet skb =>
    obtain ⟨-, first, configured⟩ := peer
    rw [unused.link] at first configured
    simp only [H5.step, h5RecvPacket]
    have owed : Unused link { h5 with isTxackReq := true } := { unused with }
    split_ifs with outOfOrder
    · exact .inl ⟨link, idle, owed.h5WakeUp⟩
    · have unreliable : h5HdrReliable skb ≠ 1 := fun reliable =>
        outOfOrder ⟨reliable, first idle reliable⟩
      rcases unused.h5CompleteRxPkt skb idle unreliable configured with kept | established
      · exact .inl kept
      · exact .inr ⟨skb, rfl, established⟩
  | enqueue skb => exact .inl ⟨link, idle, unused.h5Enqueue skb⟩
  | dequeue => exact .inl ⟨link, idle, unused.dequeues (h5Dequeue_dequeues h5)⟩
  | wakeUp => exact .inl ⟨link, idle, unused.h5WakeUp⟩
  | dataRetrans =>
    refine .inl ⟨link, idle, ?_⟩
    simp only [H5.step, dataRetransfer]
    generalize (if h5.h5InitDatatransFlag then btInitDataRetransCounts else dataRetransCounts) = limit
    split_ifs
    · exact { unused.retransferRequeue with }
    · exact { unused with }
  | syncRetrans =>
    refine .inl ⟨link, idle, ?_⟩
    simp only [H5.step, h5SyncRetransTimeout]
    split_ifs
    · exact unused
    · exact { unused.hciH5SendLinkCtl h5sync with }
    · exact { unused.rtkNotifyHwH5InitResult 0x03 with }
    · exact { unused with }
  | confRetrans =>
    refine .inl ⟨link, idle, ?_⟩
    simp only [H5.step, h5ConfRetransTimeout]
    split_ifs
    · exact unused
    · exact { unused.hciH5SendLinkCtl h5conf with }
    · exact { unused.rtkNotifyHwH5InitResult 0x03 with }
    · exact { unused with }
  | baudrateReady =>
    refine .inl ⟨link, idle, ?_⟩
    simp only [H5.step, h5WaitControllerBaudrateReadyTimeout]
    split_ifs <;> exact { unused with }
  | sendSyncCmd opcode =>
    refine .inl ⟨link, idle, ?_⟩
    simp only [H5.step, hciH5SendSyncCmd]
    split_ifs
    · exact { unused.hciH5SendLinkCtl h5sync with }
    · exact unused
  | memory outcomes => exact .inl ⟨link, idle, { unused with }⟩

theorem link_of_withoutTx (same : withoutTx next = withoutTx h5) :
    next.linkEstabState = h5.linkEstabState :=
  field_of_withoutTx HciH5Cb.linkEstabState (fun _ => rfl) same

theorem rtkNotifyHwH5InitResult_link (h5 : HciH5Cb) (status : UInt8) :
    (rtkNotifyHwH5InitResult h5 status).linkEstabState = h5.linkEstabState := by
  obtain ⟨mem, recvData, notified⟩ := rtkNotifyHwH5InitResult_eq h5 status
  rw [notified]

theorem h5ProcessCtlPkts_active (h5 : HciH5Cb) (skb : RtkBuffer) (active : h5.linkEstabState = .active)
    (quiet : isLinkCtl skb h5sync = false) : (h5ProcessCtlPkts h5 skb).linkEstabState = .active := by
  simp only [h5ProcessCtlPkts, active, quiet, Bool.false_eq_true, if_false]
  split_ifs
  · exact (link_of_withoutTx (hciH5SendLinkCtl_withoutTx h5 h5confresp)).trans active
  · exact active

theorem h5CompleteRxPkt_active (h5 : HciH5Cb) (skb : RtkBuffer) (active : h5.linkEstabState = .active)
    (quiet : linkCtlPkt skb h5sync = false) : (h5CompleteRxPkt h5 skb).linkEstabState = .active := by
  have tail (h5 : HciH5Cb) (active : h5.linkEstabState = .active) :
      (h5CompleteRxTail h5 skb).linkEstabState = .active := by
    have acked := (link_of_withoutTx
      (h5RemoveAckedPkt_withoutTx { h5 with rxack := h5HdrAck skb })).trans active
    simp only [h5CompleteRxTail]
    split_ifs with ctl pass
    · exact h5ProcessCtlPkts_active _ _ acked (by simpa [linkCtlPkt, ctl] using quiet)
    · unfold hciRecvFrame
      split_ifs <;> exact acked
    · exact acked
  simp only [h5CompleteRxPkt]
  apply tail
  split_ifs
  · exact (link_of_withoutTx (h5WakeUp_withoutTx _)).trans active
  · exact active

theorem step_active (h5 : HciH5Cb) (event : Event) (active : h5.linkEstabState = .active)
    (peer : PeerKeepsSession h5 event) : (step h5 event).linkEstabState = .active := by
  have sends (message : List UInt8) : (hciH5SendLinkCtl h5 message).linkEstabState = .active :=
    (link_of_withoutTx (hciH5SendLinkCtl_withoutTx h5 message)).trans active
  have notified (status : UInt8) : (rtkNotifyHwH5InitResult h5 status).linkEstabState = .active :=
    (rtkNotifyHwH5InitResult_link h5 status).trans active
  cases event with
  | packet skb =>
    simp only [step, h5RecvPacket]
    split_ifs
    · exact (link_of_withoutTx (h5WakeUp_withoutTx _)).trans active
    · exact h5CompleteRxPkt_active h5 skb active (peer.1 active)
  | enqueue skb => exact (link_of_withoutTx (h5Enqueue_withoutTx h5 skb)).trans active
  | dequeue => exact (link_of_withoutTx (h5Dequeue_dequeues h5).withoutTx).trans active
  | wakeUp => exact (link_of_withoutTx (h5WakeUp_withoutTx h5)).trans active
  | dataRetrans =>
    obtain ⟨seq, requeued, -⟩ := retransferRequeue_eq h5
    simp only [step, dataRetransfer, requeued]
    generalize (if h5.h5InitDatatransFlag then btInitDataRetransCounts else dataRetransCounts) = limit
    split_ifs <;> exact active
  | syncRetrans =>
    simp only [step, h5SyncRetransTimeout]
    split_ifs
    · exact active
    · exact sends h5sync
    · exact notified 0x03
    · exact active
  | confRetrans =>
    simp only [step, h5ConfRetransTimeout]
    split_ifs
    · exact active
    · exact sends h5conf
    · exact notified 0x03
    · exact active
  | baudrateReady =>
    simp only [step, h5WaitControllerBaudrateReadyTimeout]
    split_ifs <;> exact active
  | sendSyncCmd opcode =>
    simp only [step, hciH5SendSyncCmd]
    split_ifs
    · exact sends h5sync
    · exact active
  | memory outcomes => exact active

theorem run_unused_or_active (events : List Event)
    (peer : Along step PeerKeepsSession hciH5IntInit events) :
    (run step hciH5IntInit events).linkEstabState = .active ∨
      ∃ link, link ≠ .active ∧ Unused link (run step hciH5IntInit events) := by
  apply run_invariant step PeerKeepsSession (fun h5 => h5.linkEstabState = .active ∨
    ∃ link, link ≠ .active ∧ Unused link h5) _ hciH5IntInit _ events peer
  · rintro h5 event (active | ⟨link, idle, unused⟩) peer
    · exact .inl (step_active h5 event active peer)
    · rcases unused.step event idle peer with kept | ⟨_, _, established⟩
      · exact .inr kept
      · exact .inl established.link
  · refine .inr ⟨.uninitialized, by decide, ?_⟩
    constructor <;> simp [hciH5IntInit]

theorem session_fresh (events : List Event) (event : Event)
    (peer : Along step PeerKeepsSession hciH5IntInit (events ++ [event]))
    (before : (run step hciH5IntInit events).linkEstabState ≠ .active)
    (after : (run step hciH5IntInit (events ++ [event])).linkEstabState = .active) :
    ∃ skb, event = .packet skb ∧
      Established (skb.pull h5HdrSize).data (run step hciH5IntInit (events ++ [event])) := by
  have last : PeerKeepsSession (run step hciH5IntInit events) event := peer.last
  rw [run_append] at after ⊢
  rcases run_unused_or_active events peer.take with active | ⟨link, idle, unused⟩
  · exact absurd active before
  · rcases unused.step event idle last with ⟨link, idle, kept⟩ | established
    · exact absurd (kept.link.symm.trans after) idle
    · exact established

def ctlPacket (payload : List UInt8) : Event :=
  .packet { data := h5Hdr 0 0 false false payload.length h5LinkCtlPkt ++ payload }

theorem session_fresh_first :
    let events := [.sendSyncCmd hciVscH5Init, ctlPacket h5syncresp]
    ∃ skb, ctlPacket (h5confresp ++ [0x17]) = .packet skb ∧
      Established (skb.pull h5HdrSize).data
        (run step hciH5IntInit (events ++ [ctlPacket (h5confresp ++ [0x17])])) := by
  refine session_fresh [.sendSyncCmd hciVscH5Init, ctlPacket h5syncresp]
    (ctlPacket (h5confresp ++ [0x17])) ⟨trivial, ⟨?_, ?_, ?_⟩, ⟨?_, ?_, ?_⟩, trivial⟩ ?_ ?_ <;> decide

def peerReset : List Event :=
  [ctlPacket h5syncresp, ctlPacket (h5confresp ++ [0x17]),
    .enqueue { data := [0x10], packetType := hciAcldataPkt }, .wakeUp,
    ctlPacket h5sync, ctlPacket h5syncresp]

theorem session_not_fresh_after_reset :
    ¬ ∀ (events : List Event) (event : Event),
      (run step hciH5IntInit events).linkEstabState ≠ .active →
      (run step hciH5IntInit (events ++ [event])).linkEstabState = .active →
      ∃ skb, event = .packet skb ∧
        Established (skb.pull h5HdrSize).data (run step hciH5IntInit (events ++ [event])) := by
  intro fresh
  obtain ⟨skb, -, established⟩ :=
    fresh peerReset (ctlPacket (h5confresp ++ [0x07])) (by decide) (by decide)
  have stale : (run step hciH5IntInit (peerReset ++ [ctlPacket (h5confresp ++ [0x07])])).msgqTxseq =
      1 := by
    decide
  exact absurd (stale.symm.trans established.txseq) (by decide)

-- Every part of the old session is still there.
example : let h5 := run step hciH5IntInit (peerReset ++ [ctlPacket (h5confresp ++ [0x07])])
    h5.linkEstabState = .active ∧ h5.msgqTxseq = 1 ∧ h5.unack.length = 1 ∧ h5.useCrc = true := by
  decide

end UnionpiTiger.H5
