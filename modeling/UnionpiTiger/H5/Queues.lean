import UnionpiTiger.H5.Complete
import UnionpiTiger.H5.Receive
import UnionpiTiger.H5.Sender
import UnionpiTiger.H5.Wire

set_option autoImplicit false

namespace UnionpiTiger.H5

open Bt

def frameHdr0 : List UInt8 → UInt8
  | _ :: 0xdb :: code :: _ => (unslip? code).getD 0
  | _ :: hdr0 :: _ => hdr0
  | _ => 0

def frameSeq (frame : List UInt8) : UInt8 := frameHdr0 frame &&& 0x07

theorem frameHdr0_slip (oof : Bool) (delimiter hdr0 : UInt8) (rest : List UInt8) :
    frameHdr0 (delimiter :: (slip oof hdr0 ++ rest)) = hdr0 := by
  unfold slip
  split_ifs with c0 db xon oofOn xoff oofOff
  · simp [frameHdr0, unslip?, c0]
  · simp [frameHdr0, unslip?, db]
  · simp [frameHdr0, unslip?, xon]
  · simp [frameHdr0, xon]
  · simp [frameHdr0, unslip?, xoff]
  · simp [frameHdr0, xoff]
  · simp [frameHdr0, db]

theorem frameSeq_h5Frame (h5 : HciH5Cb) (data : List UInt8) (pktType : UInt8)
    (ackSmall : h5.rxseqTxack < 8) (seqSmall : h5.msgqTxseq < 8) :
    frameSeq (h5Frame h5 true data pktType) = h5.msgqTxseq := by
  obtain ⟨i, ack⟩ := exists_fin8 h5.rxseqTxack ackSmall
  obtain ⟨j, seq⟩ := exists_fin8 h5.msgqTxseq seqSmall
  have fields := (hdr0_fields i j true h5.useCrc).1
  simp only [h5Frame, pktBody, h5Hdr, List.cons_append, List.flatMap_cons, List.append_assoc,
    frameSeq, frameHdr0_slip, ack, seq]
  exact fields

def seqsBefore (seq : UInt8) : Nat → List UInt8
  | 0 => []
  | n + 1 => seqsBefore (seqPrev seq) n ++ [seqPrev seq]

theorem seqsBefore_length (seq : UInt8) (n : Nat) : (seqsBefore seq n).length = n := by
  induction n generalizing seq with
  | zero => rfl
  | succ n ih => simp [seqsBefore, ih]

theorem seqPrev_seqNext (seq : UInt8) (small : seq < 8) : seqPrev (seqNext seq) = seq := by
  have bound := UInt8.lt_iff_toNat_lt.mp small
  apply UInt8.toNat.inj
  rw [seqPrev_toNat, seqNext_toNat]
  simp at bound
  omega

theorem seqNext_lt (seq : UInt8) : seqNext seq < 8 := by
  rw [UInt8.lt_iff_toNat_lt, seqNext_toNat]
  exact Nat.mod_lt _ (by decide)

theorem seqPrev_lt (seq : UInt8) : seqPrev seq < 8 := by
  rw [UInt8.lt_iff_toNat_lt, seqPrev_toNat]
  exact Nat.mod_lt _ (by decide)

theorem seqsBefore_next (seq : UInt8) (n : Nat) (small : seq < 8) :
    seqsBefore (seqNext seq) (n + 1) = seqsBefore seq n ++ [seq] := by
  rw [seqsBefore, seqPrev_seqNext seq small]

theorem seqsBefore_drop (seq : UInt8) (n k : Nat) (bound : k ≤ n) :
    (seqsBefore seq n).drop k = seqsBefore seq (n - k) := by
  induction n generalizing seq with
  | zero =>
    obtain rfl : k = 0 := by omega
    rfl
  | succ n ih =>
    by_cases last : k = n + 1
    · subst last
      rw [List.drop_of_length_le (Nat.le_of_eq (seqsBefore_length seq _)), Nat.sub_self]
      rfl
    · have inner : k ≤ n := by omega
      rw [seqsBefore, List.drop_append_of_le_length (by rw [seqsBefore_length]; exact inner),
        ih (seqPrev seq) inner, Nat.succ_sub inner, seqsBefore]

theorem seqsBefore_getElem (seq : UInt8) (n i : Nat) (small : seq < 8) (bound : i < n) :
    (((seqsBefore seq n).getD i 0).toNat : Int) = ((seq.toNat : Int) - n + i) % 8 := by
  induction n generalizing seq with
  | zero => omega
  | succ n ih =>
    have prev := seqPrev_toNat seq
    by_cases last : i = n
    · subst last
      have at_end : (seqsBefore seq (i + 1)).getD i 0 = seqPrev seq := by
        simp [seqsBefore, List.getD, seqsBefore_length]
      rw [at_end, prev]
      push_cast
      omega
    · have inner : i < n := by omega
      have same : (seqsBefore seq (n + 1)).getD i 0 = (seqsBefore (seqPrev seq) n).getD i 0 := by
        simp [seqsBefore, List.getD, List.getElem?_append_left, seqsBefore_length, inner]
      rw [same, ih (seqPrev seq) (seqPrev_lt seq) inner, prev]
      push_cast
      omega

theorem pktsToBeRemoved_of_mem (rxack seq : UInt8) (n k : Nat) (small : seq < 8) (bound : k ≤ n)
    (window : n ≤ 7) (covers : (rxack.toNat : Int) = ((seq.toNat : Int) - n + k) % 8) :
    pktsToBeRemoved rxack n seq = k := by
  have seqBound := UInt8.lt_iff_toNat_lt.mp small
  simp only [UInt8.toNat_ofNat] at seqBound
  induction n generalizing seq with
  | zero =>
    obtain rfl : k = 0 := by omega
    rfl
  | succ n ih =>
    have prev := seqPrev_toNat seq
    rw [pktsToBeRemoved]
    by_cases all : k = n + 1
    · have same : rxack = seq := by
        apply UInt8.toNat.inj
        push_cast at covers
        omega
      rw [if_pos same, all]
    · have other : rxack ≠ seq := by
        rintro rfl
        push_cast at covers
        omega
      rw [if_neg other]
      have lower := seqPrev_lt seq
      apply ih (seqPrev seq) lower (by omega) (by omega)
      · rw [prev]
        push_cast at covers ⊢
        omega
      · exact (by simpa using UInt8.lt_iff_toNat_lt.mp lower)

theorem pktsToBeRemoved_of_not_mem (rxack seq : UInt8) (n : Nat) (small : seq < 8)
    (outside : ∀ k ≤ n, (rxack.toNat : Int) ≠ ((seq.toNat : Int) - n + k) % 8) :
    pktsToBeRemoved rxack n seq = 0 := by
  have seqBound := UInt8.lt_iff_toNat_lt.mp small
  simp only [UInt8.toNat_ofNat] at seqBound
  induction n generalizing seq with
  | zero => rfl
  | succ n ih =>
    have prev := seqPrev_toNat seq
    have lower := seqPrev_lt seq
    have other : rxack ≠ seq := by
      rintro rfl
      apply outside (n + 1) (Nat.le_refl _)
      push_cast
      omega
    rw [pktsToBeRemoved, if_neg other]
    apply ih (seqPrev seq) lower
    · intro k bound same
      apply outside k (by omega)
      rw [same, prev]
      push_cast
      omega
    · exact (by simpa using UInt8.lt_iff_toNat_lt.mp lower)

theorem pktsToBeRemoved_le (rxack seq : UInt8) (n : Nat) : pktsToBeRemoved rxack n seq ≤ n := by
  induction n generalizing seq with
  | zero => exact Nat.le_refl _
  | succ n ih =>
    rw [pktsToBeRemoved]
    split_ifs
    · exact Nat.le_refl _
    · exact Nat.le_succ_of_le (ih _)

structure SenderInv (window : Nat) (h5 : HciH5Cb) : Prop where
  order : h5.log.acked ++ h5.unack ++ h5.rel = h5.log.enqueued
  bound : h5.unack.length ≤ window
  relKind : ∀ skb ∈ h5.unack ++ h5.rel, pktReliable? skb.packetType = some true
  unrelKind : ∀ skb ∈ h5.unrel, pktReliable? skb.packetType = some false
  seqSmall : h5.msgqTxseq < 8
  ackSmall : h5.rxseqTxack < 8
  sent : ∃ earlier recent, h5.log.relSent = earlier ++ recent ∧ recent.map Prod.fst = h5.unack ∧
    recent.map (fun sent => frameSeq sent.2) = seqsBefore h5.msgqTxseq h5.unack.length

structure TxView where
  unack : List RtkBuffer
  rel : List RtkBuffer
  unrel : List RtkBuffer
  msgqTxseq : UInt8
  rxseqTxack : UInt8
  enqueued : List RtkBuffer
  relSent : List (RtkBuffer × List UInt8)
  acked : List RtkBuffer

def txView (h5 : HciH5Cb) : TxView where
  unack := h5.unack
  rel := h5.rel
  unrel := h5.unrel
  msgqTxseq := h5.msgqTxseq
  rxseqTxack := h5.rxseqTxack
  enqueued := h5.log.enqueued
  relSent := h5.log.relSent
  acked := h5.log.acked

variable {window : Nat} {h5 next : HciH5Cb}

theorem SenderInv.of_txView (inv : SenderInv window h5) (same : txView next = txView h5) :
    SenderInv window next := by
  have unack : next.unack = h5.unack := congrArg TxView.unack same
  have rel : next.rel = h5.rel := congrArg TxView.rel same
  have unrel : next.unrel = h5.unrel := congrArg TxView.unrel same
  have txseq : next.msgqTxseq = h5.msgqTxseq := congrArg TxView.msgqTxseq same
  have txack : next.rxseqTxack = h5.rxseqTxack := congrArg TxView.rxseqTxack same
  have enqueued : next.log.enqueued = h5.log.enqueued := congrArg TxView.enqueued same
  have relSent : next.log.relSent = h5.log.relSent := congrArg TxView.relSent same
  have acked : next.log.acked = h5.log.acked := congrArg TxView.acked same
  constructor
  · rw [acked, unack, rel, enqueued]
    exact inv.order
  · rw [unack]
    exact inv.bound
  · rw [unack, rel]
    exact inv.relKind
  · rw [unrel]
    exact inv.unrelKind
  · rw [txseq]
    exact inv.seqSmall
  · rw [txack]
    exact inv.ackSmall
  · rw [relSent, unack, txseq]
    exact inv.sent

theorem SenderInv.dequeues {out : Option RtkBuffer} (inv : SenderInv window h5)
    (size : h5.slidingWindowSize.toNat ≤ window) (deq : Dequeues h5 out next) :
    SenderInv window next := by
  cases deq with
  | idle mem => exact inv.of_txView rfl
  | ack mem nskb owed frame => exact inv.of_txView rfl
  | unrel mem skb nskb rest rel queue kind frame =>
    obtain rfl : false = rel := Option.some.inj ((inv.unrelKind skb (by simp [queue])).symm.trans kind)
    exact { inv with unrelKind := fun other member => inv.unrelKind other (by simp [queue, member]) }
  | rel mem skb nskb rest rel queue open_ kind frame =>
    have reliable := inv.relKind skb (by simp [queue])
    obtain rfl : true = rel := Option.some.inj (reliable.symm.trans kind)
    obtain ⟨earlier, recent, sent, packets, seqs⟩ := inv.sent
    constructor
    case order => simpa [queue] using inv.order
    case bound => simp only [List.length_append, List.length_singleton]; omega
    case relKind => simpa [queue] using inv.relKind
    case unrelKind => exact inv.unrelKind
    case seqSmall => exact seqNext_lt _
    case ackSmall => exact inv.ackSmall
    case sent =>
      refine ⟨earlier, recent ++ [(skb, nskb.data)], by simp [sent], by simp [packets], ?_⟩
      have number : frameSeq nskb.data = h5.msgqTxseq := by
        rw [frame]
        exact frameSeq_h5Frame h5 _ _ inv.ackSmall inv.seqSmall
      simp only [List.map_append, seqs, List.map_cons, List.map_nil, number, List.length_append,
        List.length_singleton, if_true]
      exact (seqsBefore_next h5.msgqTxseq h5.unack.length inv.seqSmall).symm

-- While packets are sent the window does not change; `Sender` carries both facts.
structure Sender (window : Nat) (h5 : HciH5Cb) : Prop where
  inv : SenderInv window h5
  size : h5.slidingWindowSize.toNat ≤ window

theorem Sender.dequeues {out : Option RtkBuffer} (sender : Sender window h5)
    (deq : Dequeues h5 out next) : Sender window next := by
  have size : next.slidingWindowSize = h5.slidingWindowSize :=
    field_of_withoutTx HciH5Cb.slidingWindowSize (fun _ => rfl) deq.withoutTx
  exact ⟨sender.inv.dequeues sender.size deq, by rw [size]; exact sender.size⟩

theorem Sender.h5WakeUp (sender : Sender window h5) : Sender window (h5WakeUp h5) := by
  apply h5WakeUp_invariant (Sender window) _ _ h5 sender
  · intro before next sender deq
    exact sender.dequeues deq
  · intro before skb next sender deq
    have kept := sender.dequeues deq
    exact ⟨kept.inv.of_txView rfl, kept.size⟩

theorem SenderInv.h5Enqueue (inv : SenderInv window h5) (skb : RtkBuffer) :
    SenderInv window (h5Enqueue h5 skb) := by
  unfold H5.h5Enqueue
  split_ifs with long reliable unreliable
  · exact inv
  · have kind : pktReliable? skb.packetType = some true := by
      rcases reliable with kind | kind <;> simp [pktReliable?, kind]
    constructor
    case order => simp [← inv.order]
    case bound => exact inv.bound
    case relKind =>
      intro other member
      simp only [List.mem_append, List.mem_singleton] at member
      rcases member with member | member | rfl
      · exact inv.relKind other (List.mem_append_left _ member)
      · exact inv.relKind other (List.mem_append_right _ member)
      · exact kind
    case unrelKind => exact inv.unrelKind
    case seqSmall => exact inv.seqSmall
    case ackSmall => exact inv.ackSmall
    case sent => exact inv.sent
  · have kind : pktReliable? skb.packetType = some false := by
      rcases unreliable with kind | kind | kind | kind <;> rw [kind] <;> decide
    refine { inv with unrelKind := ?_ }
    intro other member
    rcases List.mem_append.mp member with member | member
    · exact inv.unrelKind other member
    · rw [List.mem_singleton.mp member]
      exact kind
  · exact inv

theorem h5RemoveAckedPkt_queues (h5 : HciH5Cb) :
    let removed := pktsToBeRemoved h5.rxack h5.unack.length h5.msgqTxseq
    txView (h5RemoveAckedPkt h5) = { txView h5 with
      unack := h5.unack.drop removed
      acked := h5.log.acked ++ h5.unack.take removed } := by
  simp only [h5RemoveAckedPkt]
  split_ifs <;> rfl

theorem SenderInv.h5RemoveAckedPkt (inv : SenderInv window h5) :
    SenderInv window (h5RemoveAckedPkt h5) := by
  have fewer := pktsToBeRemoved_le h5.rxack h5.msgqTxseq h5.unack.length
  have queues := h5RemoveAckedPkt_queues h5
  generalize pktsToBeRemoved h5.rxack h5.unack.length h5.msgqTxseq = removed at fewer queues
  obtain ⟨earlier, recent, sent, packets, seqs⟩ := inv.sent
  have dropped : SenderInv window { h5 with
      unack := h5.unack.drop removed
      log := { h5.log with acked := h5.log.acked ++ h5.unack.take removed } } := by
    constructor
    case order =>
      rw [List.append_assoc h5.log.acked, List.take_append_drop]
      exact inv.order
    case bound =>
      have bound := inv.bound
      simp only [List.length_drop]
      omega
    case relKind =>
      intro skb member
      apply inv.relKind skb
      rcases List.mem_append.mp member with member | member
      · exact List.mem_append_left _ (List.mem_of_mem_drop member)
      · exact List.mem_append_right _ member
    case unrelKind => exact inv.unrelKind
    case seqSmall => exact inv.seqSmall
    case ackSmall => exact inv.ackSmall
    case sent =>
      refine ⟨earlier ++ recent.take removed, recent.drop removed,
        by simp [sent], by simp [packets], ?_⟩
      rw [List.map_drop, seqs, seqsBefore_drop _ _ _ fewer, List.length_drop]
  exact dropped.of_txView queues

theorem retransferRequeueLoop_eq (h5 : HciH5Cb) (packets : List RtkBuffer)
    (queue : h5.unack = packets.reverse) :
    ∃ seq, retransferRequeueLoop h5 packets =
      { h5 with unack := [], msgqTxseq := seq, rel := packets.reverse ++ h5.rel } ∧
      (h5.msgqTxseq < 8 → seq < 8) ∧
      (seq.toNat : Int) % 8 = ((h5.msgqTxseq.toNat : Int) - packets.length) % 8 := by
  induction packets generalizing h5 with
  | nil =>
    have same : h5 = { h5 with unack := [] } := by rw [← List.reverse_nil, ← queue]
    refine ⟨h5.msgqTxseq, ?_, id, by simp⟩
    simpa [retransferRequeueLoop] using same
  | cons skb packets ih =>
    obtain ⟨seq, done, small, number⟩ := ih { h5 with
      unack := packets.reverse
      msgqTxseq := (h5.msgqTxseq - 1) &&& 0x07
      rel := skb :: h5.rel } rfl
    have prev := seqPrev_toNat h5.msgqTxseq
    refine ⟨seq, ?_, fun _ => small (seqPrev_lt h5.msgqTxseq), ?_⟩
    · rw [retransferRequeueLoop, done]
      simp
    · rw [number]
      change (((seqPrev h5.msgqTxseq).toNat : Int) - packets.length) % 8 = _
      rw [prev]
      simp only [List.length_cons]
      push_cast
      omega

theorem retransferRequeue_eq (h5 : HciH5Cb) :
    ∃ seq, retransferRequeue h5 =
      { h5 with unack := [], msgqTxseq := seq, rel := h5.unack ++ h5.rel } ∧
      (h5.msgqTxseq < 8 → seq < 8) ∧
      (seq.toNat : Int) % 8 = ((h5.msgqTxseq.toNat : Int) - h5.unack.length) % 8 := by
  simpa [retransferRequeue] using retransferRequeueLoop_eq h5 h5.unack.reverse (by simp)

theorem SenderInv.retransferRequeue (inv : SenderInv window h5) :
    SenderInv window (retransferRequeue h5) := by
  obtain ⟨seq, requeued, small, -⟩ := retransferRequeue_eq h5
  rw [requeued]
  constructor
  case order => simpa using inv.order
  case bound => simp
  case relKind => simpa using inv.relKind
  case unrelKind => exact inv.unrelKind
  case seqSmall => exact small inv.seqSmall
  case ackSmall => exact inv.ackSmall
  case sent => exact ⟨h5.log.relSent, [], by simp, rfl, rfl⟩

end UnionpiTiger.H5
