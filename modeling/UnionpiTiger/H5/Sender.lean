import UnionpiTiger.H5.Control

set_option autoImplicit false

namespace UnionpiTiger.H5

open Bt

def seqNext (seq : UInt8) : UInt8 := (seq + 1) &&& 0x07
def seqPrev (seq : UInt8) : UInt8 := (seq - 1) &&& 0x07

theorem seqNext_toNat (seq : UInt8) : (seqNext seq).toNat = (seq.toNat + 1) % 8 := by
  have mask := Nat.and_two_pow_sub_one_eq_mod ((seq.toNat + 1) % 256) 3
  simp only [seqNext, UInt8.toNat_and, UInt8.toNat_add]
  change ((seq.toNat + 1) % 256) &&& 7 = _
  rw [show (7 : Nat) = 2 ^ 3 - 1 from rfl, mask]
  omega

theorem seqPrev_toNat (seq : UInt8) : (seqPrev seq).toNat = (seq.toNat + 7) % 8 := by
  have mask := Nat.and_two_pow_sub_one_eq_mod ((256 - 1 + seq.toNat) % 256) 3
  simp only [seqPrev, UInt8.toNat_and, UInt8.toNat_sub]
  change ((256 - 1 + seq.toNat) % 256) &&& 7 = _
  rw [show (7 : Nat) = 2 ^ 3 - 1 from rfl, mask]
  omega

def h5Frame (h5 : HciH5Cb) (rel : Bool) (data : List UInt8) (pktType : UInt8) : List UInt8 :=
  0xc0 :: (pktBody h5.useCrc
    (h5Hdr h5.rxseqTxack h5.msgqTxseq rel h5.useCrc data.length pktType) data).flatMap
      (slip h5.oofFlowControl) ++ [0xc0]

theorem skbAlloc_cases (h5 : HciH5Cb) (len : Nat) :
    ∃ mem, (skbAlloc h5 len = (none, { h5 with mem := mem })) ∨
      ∃ garbage, skbAlloc h5 len =
        (some (RtkBuffer.rtbAllocate len garbage), { h5 with mem := mem }) := by
  cases outcomes : h5.mem with
  | nil =>
    have same : h5 = { h5 with mem := [] } := by rw [← outcomes]
    exact ⟨[], .inr ⟨[], by simp only [skbAlloc, outcomes, ← same]⟩⟩
  | cons outcome rest =>
    refine ⟨rest, ?_⟩
    cases outcome with
    | none => exact .inl (by simp [skbAlloc, outcomes])
    | some garbage => exact .inr ⟨garbage, by simp [skbAlloc, outcomes]⟩

theorem h5PreparePkt_cases (h5 : HciH5Cb) (data : List UInt8) (pktType : UInt8) :
    ∃ mem, (h5PreparePkt h5 data pktType = (none, { h5 with mem := mem })) ∨
      ∃ rel nskb, pktReliable? pktType = some rel ∧ nskb.data = h5Frame h5 rel data pktType ∧
        h5PreparePkt h5 data pktType = (some nskb, { h5 with
          mem := mem
          isTxackReq := false
          msgqTxseq := if rel then seqNext h5.msgqTxseq else h5.msgqTxseq }) := by
  cases kind : pktReliable? pktType with
  | none => exact ⟨h5.mem, .inl (by simp [h5PreparePkt, kind])⟩
  | some rel =>
    obtain ⟨mem, failed | ⟨garbage, allocated⟩⟩ := skbAlloc_cases h5 ((data.length + 6) * 2 + 2)
    · exact ⟨mem, .inl (by simp [h5PreparePkt, kind, failed])⟩
    · refine ⟨mem, .inr ⟨rel, _, rfl, ?_, by simp [h5PreparePkt, kind, allocated, seqNext]; rfl⟩⟩
      exact h5PutPkt_data _ _ _ _ _ rfl (by simp [RtkBuffer.rtbAllocate]) rfl

-- What one call of `h5_dequeue` can do: nothing, or send from one of the queues, or an empty ack.
inductive Dequeues (h5 : HciH5Cb) : Option RtkBuffer → HciH5Cb → Prop where
  | idle (mem : List (Option (List UInt8))) : Dequeues h5 none { h5 with mem := mem }
  | unrel (mem : List (Option (List UInt8))) (skb nskb : RtkBuffer) (rest : List RtkBuffer)
      (rel : Bool) (queue : h5.unrel = skb :: rest) (kind : pktReliable? skb.packetType = some rel)
      (frame : nskb.data = h5Frame h5 rel skb.data skb.packetType) :
      Dequeues h5 (some nskb) { h5 with
        mem := mem
        unrel := rest
        isTxackReq := false
        msgqTxseq := if rel then seqNext h5.msgqTxseq else h5.msgqTxseq }
  | rel (mem : List (Option (List UInt8))) (skb nskb : RtkBuffer) (rest : List RtkBuffer)
      (rel : Bool) (queue : h5.rel = skb :: rest)
      (window : h5.unack.length < h5.slidingWindowSize.toNat)
      (kind : pktReliable? skb.packetType = some rel)
      (frame : nskb.data = h5Frame h5 rel skb.data skb.packetType) :
      Dequeues h5 (some nskb) { h5 with
        mem := mem
        rel := rest
        unack := h5.unack ++ [skb]
        isTxackReq := false
        timerDataRetrans := true
        msgqTxseq := if rel then seqNext h5.msgqTxseq else h5.msgqTxseq
        log := { h5.log with relSent := h5.log.relSent ++ [(skb, nskb.data)] } }
  | ack (mem : List (Option (List UInt8))) (nskb : RtkBuffer) (owed : h5.isTxackReq = true)
      (frame : nskb.data = h5Frame h5 false [] h5AckPkt) :
      Dequeues h5 (some nskb) { h5 with mem := mem, isTxackReq := false }

theorem Dequeues.of_mem {h5 next : HciH5Cb} {mem : List (Option (List UInt8))}
    {out : Option RtkBuffer} (step : Dequeues { h5 with mem := mem } out next) :
    Dequeues h5 out next := by
  cases step with
  | idle mem => exact .idle mem
  | unrel mem skb nskb rest rel queue kind frame => exact .unrel mem skb nskb rest rel queue kind frame
  | rel mem skb nskb rest rel queue window kind frame =>
    exact .rel mem skb nskb rest rel queue window kind frame
  | ack mem nskb owed frame => exact .ack mem nskb owed frame

theorem h5DequeueAck_dequeues (h5 : HciH5Cb) :
    Dequeues h5 (h5DequeueAck h5).1 (h5DequeueAck h5).2 := by
  by_cases owed : h5.isTxackReq = true
  next =>
    simp only [h5DequeueAck, owed, if_true]
    obtain ⟨mem, failed | ⟨rel, nskb, kind, frame, sent⟩⟩ := h5PreparePkt_cases h5 [] h5AckPkt
    · rw [failed]
      exact .idle mem
    · obtain rfl : false = rel := by
        simpa [pktReliable?, h5AckPkt, hciAcldataPkt, hciCommandPkt, hciEventPkt] using kind
      rw [sent]
      exact .ack mem nskb owed frame
  next =>
    simp only [h5DequeueAck, owed, if_false, Bool.false_eq_true]
    exact .idle h5.mem

theorem h5DequeueRel_dequeues (h5 : HciH5Cb) :
    Dequeues h5 (h5DequeueRel h5).1 (h5DequeueRel h5).2 := by
  by_cases empty : h5.rel = []
  next =>
    simp only [h5DequeueRel, empty]
    exact h5DequeueAck_dequeues h5
  next =>
    obtain ⟨skb, rest, queue⟩ := List.exists_cons_of_ne_nil empty
    by_cases window : h5.unack.length < h5.slidingWindowSize.toNat
    next =>
      simp only [h5DequeueRel, queue, window, if_true]
      obtain ⟨mem, failed | ⟨rel, nskb, kind, frame, sent⟩⟩ :=
        h5PreparePkt_cases { h5 with rel := rest } skb.data skb.packetType
      · -- The packet goes back to the head of the queue, which is then as it was.
        have same := h5DequeueAck_dequeues { h5 with mem := mem }
        simp only [failed, ← queue]
        exact same.of_mem
      · simp only [sent]
        exact .rel mem skb nskb rest rel queue window kind frame
    next =>
      simp only [h5DequeueRel, queue, window, if_false]
      exact h5DequeueAck_dequeues h5

theorem h5Dequeue_dequeues (h5 : HciH5Cb) :
    Dequeues h5 (h5Dequeue h5).1 (h5Dequeue h5).2 := by
  by_cases empty : h5.unrel = []
  next =>
    simp only [h5Dequeue, empty]
    exact h5DequeueRel_dequeues h5
  next =>
    obtain ⟨skb, rest, queue⟩ := List.exists_cons_of_ne_nil empty
    simp only [h5Dequeue, queue]
    obtain ⟨mem, failed | ⟨rel, nskb, kind, frame, sent⟩⟩ :=
      h5PreparePkt_cases { h5 with unrel := rest } skb.data skb.packetType
    · have same := h5DequeueRel_dequeues { h5 with mem := mem }
      simp only [failed, ← queue]
      exact same.of_mem
    · simp only [sent]
      exact .unrel mem skb nskb rest rel queue kind frame

-- What every `h5_dequeue` with its transmission keeps, `h5_wake_up` keeps.
theorem h5WakeUp_invariant (Inv : HciH5Cb → Prop)
    (idle : ∀ h5 next, Inv h5 → Dequeues h5 none next → Inv next)
    (sends : ∀ h5 skb next, Inv h5 → Dequeues h5 (some skb) next →
      Inv (h5IntTransmitDataCb next skb))
    (h5 : HciH5Cb) (init : Inv h5) : Inv (h5WakeUp h5) := by
  have loop (fuel : Nat) : ∀ h5, Inv h5 → Inv (h5WakeUpLoop fuel h5) := by
    induction fuel with
    | zero => exact fun _ h => h
    | succ fuel ih =>
      intro h5 init
      have step := h5Dequeue_dequeues h5
      cases out : h5Dequeue h5 with
      | mk frame next =>
        rw [out] at step
        cases frame with
        | none => simpa only [h5WakeUpLoop, out] using idle h5 next init step
        | some skb =>
          simp only [h5WakeUpLoop, out]
          exact ih _ (sends h5 skb next init step)
  exact loop _ h5 init

end UnionpiTiger.H5
