import Mathlib.Data.List.Forall2
import UnionpiTiger.H5.Link
import UnionpiTiger.H5.Queues
import UnionpiTiger.Lib.GoBackN

set_option autoImplicit false

namespace UnionpiTiger.H5

open Bt Lib

variable {h5 next : HciH5Cb} {out inn : Flow Payload} {pending : Option Msg}

structure Sends (h5 : HciH5Cb) (out : Flow Payload) : Prop where
  reachable : out.Reachable 8 h5.slidingWindowSize.toNat
  size : h5.slidingWindowSize.toNat ≤ 7
  order : h5.log.acked ++ h5.unack ++ h5.rel = h5.log.enqueued
  enqueued : out.enqueued = h5.log.enqueued.map payload
  acked : out.acked = h5.log.acked.length
  sent : out.sent = h5.log.acked.length + h5.unack.length
  txseq : h5.msgqTxseq.toNat = out.sent % 8
  kind : ∀ skb ∈ h5.log.enqueued,
    (skb.packetType = hciAcldataPkt ∨ skb.packetType = hciCommandPkt) ∧ skb.data.length ≤ 0xFFF
  unrel : h5.unrel = []

structure Receives (h5 : HciH5Cb) (inn : Flow Payload) (pending : Option Msg) : Prop where
  txack : h5.rxseqTxack.toNat = inn.received % 8
  passed : h5.recvData.map payload ++ ((pending.bind Msg.data).map Prod.snd).toList = inn.accepted
  count : h5.rxCount = 0
  state : pending = none → h5.rxState = .w4PktDelimiter ∨ h5.rxState = .w4PktStart

theorem Sends.of_txView (sends : Sends h5 out) (same : txView next = txView h5)
    (size : next.slidingWindowSize = h5.slidingWindowSize) : Sends next out := by
  have unack : next.unack = h5.unack := congrArg TxView.unack same
  have rel : next.rel = h5.rel := congrArg TxView.rel same
  have unrel : next.unrel = h5.unrel := congrArg TxView.unrel same
  have txseq : next.msgqTxseq = h5.msgqTxseq := congrArg TxView.msgqTxseq same
  have enqueued : next.log.enqueued = h5.log.enqueued := congrArg TxView.enqueued same
  have acked : next.log.acked = h5.log.acked := congrArg TxView.acked same
  constructor
  · rw [size]
    exact sends.reachable
  · rw [size]
    exact sends.size
  · rw [acked, unack, rel, enqueued]
    exact sends.order
  · rw [enqueued]
    exact sends.enqueued
  · rw [acked]
    exact sends.acked
  · rw [acked, unack]
    exact sends.sent
  · rw [txseq]
    exact sends.txseq
  · rw [enqueued]
    exact sends.kind
  · rw [unrel]
    exact sends.unrel

theorem Receives.of_withoutTx (receives : Receives h5 inn pending)
    (same : withoutTx next = withoutTx h5) : Receives next inn pending := by
  have txack := field_of_withoutTx HciH5Cb.rxseqTxack (fun _ => rfl) same
  have recvData := field_of_withoutTx HciH5Cb.recvData (fun _ => rfl) same
  have count := field_of_withoutTx HciH5Cb.rxCount (fun _ => rfl) same
  have state := field_of_withoutTx HciH5Cb.rxState (fun _ => rfl) same
  constructor
  · rw [txack]
    exact receives.txack
  · rw [recvData]
    exact receives.passed
  · rw [count]
    exact receives.count
  · rw [state]
    exact receives.state

theorem Sends.unack_le (sends : Sends h5 out) : h5.unack.length ≤ 7 := by
  have inv := sends.reachable.inv (by have := sends.size; omega)
  have high := inv.high_le_window
  have sent := inv.sent_le_high
  have size := sends.size
  rw [sends.acked] at high
  rw [sends.sent] at sent
  omega

theorem msgqTxseq_eq (sends : Sends h5 out) : h5.msgqTxseq = UInt8.ofNat (out.sent % 8) := by
  apply UInt8.toNat.inj
  rw [sends.txseq, UInt8.toNat_ofNat']
  omega

theorem rxseqTxack_eq (txack : h5.rxseqTxack.toNat = inn.received % 8) :
    h5.rxseqTxack = UInt8.ofNat (inn.received % 8) := by
  apply UInt8.toNat.inj
  rw [txack, UInt8.toNat_ofNat']
  omega

theorem Sends.head_rel (sends : Sends h5 out) (skb : RtkBuffer) (rest : List RtkBuffer)
    (queue : h5.rel = skb :: rest) : out.enqueued[out.sent]? = some (payload skb) := by
  rw [sends.enqueued, sends.sent, ← sends.order, queue, ← List.length_append]
  simp

theorem Sends.dequeues (sends : Sends h5 out) (txack : h5.rxseqTxack.toNat = inn.received % 8)
    {nskb : RtkBuffer} (deq : Dequeues h5 (some nskb) next) :
    ∃ (msg : Msg) (out' : Flow Payload), msg.Frames nskb.data ∧ msg.ack = inn.received ∧
      Sends next out' ∧
      out'.data = out.data ++ msg.data.toList ∧ out'.acks = out.acks ∧
      out'.received = out.received ∧ out'.accepted = out.accepted := by
  have txack := rxseqTxack_eq txack
  have txseq := msgqTxseq_eq sends
  cases deq with
  | unrel mem skb nskb rest rel queue kind frame =>
    rw [sends.unrel] at queue
    cases queue
  | ack mem nskb owed frame =>
    refine ⟨⟨none, inn.received⟩, out, ⟨?_, h5.oofFlowControl, h5.useCrc, ?_⟩, rfl,
      sends.of_txView rfl rfl, by simp, rfl, rfl, rfl⟩
    · rintro _ _ _ ⟨⟩
    · rw [frame, h5Frame, txack]
      rfl
  | rel mem skb nskb rest rel queue open_ kind frame =>
    have member : skb ∈ h5.log.enqueued := by simp [← sends.order, queue]
    obtain ⟨type, len⟩ := sends.kind skb member
    obtain rfl : true = rel := by
      rcases type with type | type <;> simpa [pktReliable?, type] using kind
    have room : out.sent < out.acked + h5.slidingWindowSize.toNat := by
      rw [sends.sent, sends.acked]
      omega
    refine ⟨⟨some (out.sent, payload skb), inn.received⟩, { out with
      sent := out.sent + 1
      high := max out.high (out.sent + 1)
      data := out.data ++ [(out.sent, payload skb)] },
      ⟨?_, h5.oofFlowControl, h5.useCrc, ?_⟩, rfl, ?_, rfl, rfl, rfl, rfl⟩
    · rintro _ _ _ ⟨⟩
      exact ⟨type, len⟩
    · rw [frame, h5Frame, txack, txseq]
      rfl
    · constructor
      case reachable => exact sends.reachable.step (.send _ (sends.head_rel skb rest queue) room)
      case size => exact sends.size
      case order => simpa [queue] using sends.order
      case enqueued => exact sends.enqueued
      case acked => exact sends.acked
      case sent => simp [sends.sent, Nat.add_assoc]
      case txseq =>
        simp only [if_true, seqNext_toNat, sends.txseq]
        omega
      case kind => exact sends.kind
      case unrel => exact sends.unrel

structure Transmits (h5 next : HciH5Cb) (out out' inn : Flow Payload) (msgs : List Msg) : Prop where
  frames : ∃ frames, next.log.transmitted = h5.log.transmitted ++ frames ∧
    List.Forall₂ Msg.Frames msgs frames
  sends : Sends next out'
  data : out'.data = out.data ++ msgs.filterMap Msg.data
  acks : out'.acks = out.acks
  received : out'.received = out.received
  accepted : out'.accepted = out.accepted
  values : ∀ msg ∈ msgs, msg.ack = inn.received

theorem Sends.h5WakeUp (sends : Sends h5 out) (txack : h5.rxseqTxack.toNat = inn.received % 8) :
    ∃ out' msgs, Transmits h5 (h5WakeUp h5) out out' inn msgs := by
  have kept {before next : HciH5Cb} (same : withoutTx next = withoutTx before)
      (txack : before.rxseqTxack.toNat = inn.received % 8) :
      next.rxseqTxack.toNat = inn.received % 8 := by
    rw [field_of_withoutTx HciH5Cb.rxseqTxack (fun _ => rfl) same]
    exact txack
  have whole := h5WakeUp_invariant (fun next => next.rxseqTxack.toNat = inn.received % 8 ∧
    ∃ out' msgs, Transmits h5 next out out' inn msgs) ?_ ?_ h5 ⟨txack, out, [], ?_⟩
  · exact whole.2
  · rintro before next ⟨txack, out', msgs, sent⟩ deq
    refine ⟨kept deq.withoutTx txack, out', msgs, ?_⟩
    cases deq
    exact { sent with sends := sent.sends.of_txView rfl rfl }
  · rintro before skb next ⟨txack, out', msgs, sent⟩ deq
    obtain ⟨msg, out'', framed, ack, sends, data, acks, received, accepted⟩ :=
      sent.sends.dequeues txack deq
    obtain ⟨frames, transmitted, carried⟩ := sent.frames
    have same : next.log.transmitted = before.log.transmitted := by cases deq <;> rfl
    refine ⟨kept deq.withoutTx txack, out'', msgs ++ [msg], ?_⟩
    constructor
    case frames =>
      refine ⟨frames ++ [skb.data], ?_, List.rel_append carried (.cons framed .nil)⟩
      simp [h5IntTransmitDataCb, same, transmitted]
    case sends => exact sends.of_txView rfl rfl
    case data =>
      rw [data, sent.data]
      cases single : msg.data <;> simp [single]
    case acks => rw [acks, sent.acks]
    case received => rw [received, sent.received]
    case accepted => rw [accepted, sent.accepted]
    case values =>
      intro other member
      rcases List.mem_append.mp member with member | member
      · exact sent.values other member
      · rw [List.mem_singleton.mp member]
        exact ack
  · exact ⟨⟨[], by simp, .nil⟩, sends, by simp, rfl, rfl, rfl, by simp⟩

theorem Sends.h5Enqueue (sends : Sends h5 out) (pkt : ReliablePkt) :
    ∃ out', Sends (h5Enqueue h5 { data := pkt.data, packetType := pkt.packetType }) out' ∧
      out'.data = out.data ∧ out'.acks = out.acks ∧ out'.received = out.received ∧
      out'.accepted = out.accepted := by
  unfold H5.h5Enqueue
  split_ifs with long reliable unreliable
  · exact ⟨out, sends, rfl, rfl, rfl, rfl⟩
  · refine ⟨{ out with enqueued := out.enqueued ++ [(pkt.data, pkt.packetType)] }, ?_, rfl,
      rfl, rfl, rfl⟩
    have order := sends.order
    constructor
    case reachable => exact sends.reachable.step (.enqueue _)
    case size => exact sends.size
    case order => simp [← order]
    case enqueued => simp [sends.enqueued, payload]
    case acked => exact sends.acked
    case sent => exact sends.sent
    case txseq => exact sends.txseq
    case kind =>
      intro skb member
      rcases List.mem_append.mp member with member | member
      · exact sends.kind skb member
      · rw [List.mem_singleton.mp member]
        exact ⟨reliable, by simpa using long⟩
    case unrel => exact sends.unrel
  · exact absurd pkt.reliable reliable
  · exact absurd pkt.reliable reliable

theorem Sends.dataRetransfer (sends : Sends h5 out) :
    ∃ out', Sends (dataRetransfer h5) out' ∧ out'.data = out.data ∧ out'.acks = out.acks ∧
      out'.received = out.received ∧ out'.accepted = out.accepted := by
  obtain ⟨seq, requeued, small, number⟩ := retransferRequeue_eq h5
  simp only [H5.dataRetransfer, requeued]
  generalize (if h5.h5InitDatatransFlag then btInitDataRetransCounts else dataRetransCounts) = limit
  split_ifs
  · refine ⟨{ out with sent := out.acked }, ?_, rfl, rfl, rfl, rfl⟩
    have order := sends.order
    have sent := sends.sent
    have acked := sends.acked
    have txseq := sends.txseq
    have lower : seq.toNat < 8 := by
      have start : h5.msgqTxseq < 8 := by
        rw [UInt8.lt_iff_toNat_lt, txseq]
        exact Nat.mod_lt _ (by decide)
      simpa using UInt8.lt_iff_toNat_lt.mp (small start)
    constructor
    case reachable => exact sends.reachable.step .rewind
    case size => exact sends.size
    case order => simpa using order
    case enqueued => exact sends.enqueued
    case acked => exact acked
    case sent => simpa using acked
    case txseq =>
      simp only
      omega
    case kind => exact sends.kind
    case unrel => exact sends.unrel
  · exact ⟨out, sends.of_txView rfl rfl, rfl, rfl, rfl, rfl⟩

theorem Sends.h5RemoveAckedPkt (sends : Sends h5 out) (ack : Nat) (acks : List Nat)
    (first : out.acks = ack :: acks) (rxack : h5.rxack = UInt8.ofNat (ack % 8)) :
    ∃ acked, Sends (h5RemoveAckedPkt h5) { out with acks := acks, acked := acked } := by
  have queues := h5RemoveAckedPkt_queues h5
  have fewer := pktsToBeRemoved_le h5.rxack h5.msgqTxseq h5.unack.length
  have seqSmall : h5.msgqTxseq < 8 := by
    rw [UInt8.lt_iff_toNat_lt, sends.txseq]
    exact Nat.mod_lt _ (by decide)
  have ackNat : h5.rxack.toNat = ack % 8 := by
    rw [rxack, UInt8.toNat_ofNat']
    omega
  have txseq := sends.txseq
  have bound := sends.unack_le
  have sent := sends.sent
  have acked := sends.acked
  have moves : out.Acknowledges 8 ack
      (out.acked + pktsToBeRemoved h5.rxack h5.unack.length h5.msgqTxseq) := by
    by_cases covers : ∃ k ≤ out.sent - out.acked, (out.acked + k) % 8 = ack % 8
    · obtain ⟨k, inside, same⟩ := covers
      have removed := pktsToBeRemoved_of_mem h5.rxack h5.msgqTxseq h5.unack.length k seqSmall
        (by omega) bound (by rw [ackNat, txseq]; push_cast; omega)
      exact .inl ⟨k, inside, same, by rw [removed]⟩
    · have outside : ∀ k ≤ out.sent - out.acked, (out.acked + k) % 8 ≠ ack % 8 :=
        fun k inside same => covers ⟨k, inside, same⟩
      have removed := pktsToBeRemoved_of_not_mem h5.rxack h5.msgqTxseq h5.unack.length seqSmall (by
        intro k inside same
        apply outside k (by omega)
        rw [ackNat, txseq] at same
        push_cast at same
        omega)
      exact .inr ⟨outside, by rw [removed, Nat.add_zero]⟩
  generalize pktsToBeRemoved h5.rxack h5.unack.length h5.msgqTxseq = removed at queues fewer moves
  refine ⟨out.acked + removed, ?_⟩
  have dropped : Sends { h5 with
      unack := h5.unack.drop removed
      log := { h5.log with acked := h5.log.acked ++ h5.unack.take removed } }
      { out with acks := acks, acked := out.acked + removed } := by
    constructor
    case reachable => exact sends.reachable.step (.applyAck ack _ acks first moves)
    case size => exact sends.size
    case order =>
      rw [List.append_assoc h5.log.acked, List.take_append_drop]
      exact sends.order
    case enqueued => exact sends.enqueued
    case acked => simp [acked, Nat.min_eq_left fewer]
    case sent =>
      simp only [List.length_append, List.length_take, List.length_drop]
      omega
    case txseq => exact txseq
    case kind => exact sends.kind
    case unrel => exact sends.unrel
  exact dropped.of_txView queues
    (field_of_withoutTx HciH5Cb.slidingWindowSize (fun _ => rfl) (h5RemoveAckedPkt_withoutTx h5))

end UnionpiTiger.H5
