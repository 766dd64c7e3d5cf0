import UnionpiTiger.H5.Refinement

set_option autoImplicit false

namespace UnionpiTiger.H5

open Bt Lib

structure Half (me : Party) (out inn : Flow Payload) (mine theirs : List Msg)
    (pending : Option Msg) : Prop where
  sends : Sends me.h5 out
  receives : Receives me.h5 inn pending
  completing : Option.Rel Msg.Packs pending me.completing
  wire : List.Forall₂ Msg.Frames mine me.wire
  data : out.data = mine.filterMap Msg.data
  acks : out.acks = (pending.map Msg.ack).toList ++ theirs.map Msg.ack

def Linked (link : Party × Party) : Prop :=
  ∃ out inn mine theirs pending peerPending,
    Half link.1 out inn mine theirs pending ∧ Half link.2 inn out theirs mine peerPending

theorem Linked.swap {link : Party × Party} (linked : Linked link) : Linked link.swap := by
  obtain ⟨out, inn, mine, theirs, pending, peerPending, left, right⟩ := linked
  exact ⟨inn, out, theirs, mine, peerPending, pending, right, left⟩

variable {me peer : Party} {out inn : Flow Payload} {mine theirs : List Msg}
  {pending : Option Msg}

theorem Half.of_inn {inn' : Flow Payload} (half : Half me out inn mine theirs pending)
    (received : inn'.received = inn.received) (accepted : inn'.accepted = inn.accepted) :
    Half me out inn' mine theirs pending :=
  { half with receives := { half.receives with
      txack := by rw [received]; exact half.receives.txack
      passed := by rw [accepted]; exact half.receives.passed } }

theorem Linked.enqueue (linked : Linked (me, peer)) (pkt : ReliablePkt) :
    Linked (me.act peer (.enqueue pkt)) := by
  obtain ⟨out, inn, mine, theirs, pending, peerPending, left, right⟩ := linked
  obtain ⟨out', sends, data, acks, received, accepted⟩ := left.sends.h5Enqueue pkt
  refine ⟨out', inn, mine, theirs, pending, peerPending, ?_, right.of_inn received accepted⟩
  exact { left with
    sends := sends
    receives := left.receives.of_withoutTx (h5Enqueue_withoutTx _ _)
    data := data.trans left.data
    acks := acks.trans left.acks }

theorem Linked.retransfer (linked : Linked (me, peer)) : Linked (me.act peer .retransfer) := by
  obtain ⟨out, inn, mine, theirs, pending, peerPending, left, right⟩ := linked
  obtain ⟨out', sends, data, acks, received, accepted⟩ := left.sends.dataRetransfer
  refine ⟨out', inn, mine, theirs, pending, peerPending, ?_, right.of_inn received accepted⟩
  have receives : Receives (dataRetransfer me.h5) inn pending := by
    obtain ⟨seq, requeued, -⟩ := retransferRequeue_eq me.h5
    simp only [dataRetransfer, requeued]
    split_ifs <;> exact { left.receives with }
  exact { left with
    sends := sends
    receives := receives
    data := data.trans left.data
    acks := acks.trans left.acks }

theorem Linked.memory (linked : Linked (me, peer)) (outcomes : List (Option (List UInt8))) :
    Linked (me.act peer (.memory outcomes)) := by
  obtain ⟨out, inn, mine, theirs, pending, peerPending, left, right⟩ := linked
  refine ⟨out, inn, mine, theirs, pending, peerPending, ?_, right⟩
  exact { left with
    sends := left.sends.of_txView rfl rfl
    receives := { left.receives with } }

theorem Half.transmits {peerPending : Option Msg} {out' : Flow Payload}
    {msgs : List Msg} (left : Half me out inn mine theirs pending)
    (right : Half peer inn out theirs mine peerPending) (next : HciH5Cb)
    (sent : Transmits me.h5 next out out' inn msgs) (receives : Receives next inn pending) :
    ∃ inn', Half (me.transmits next) out' inn' (mine ++ msgs) theirs pending ∧
      Half peer inn' out' theirs (mine ++ msgs) peerPending := by
  obtain ⟨frames, transmitted, carried⟩ := sent.frames
  refine ⟨{ inn with acks := inn.acks ++ msgs.map Msg.ack }, ?_, ?_⟩
  · constructor
    case sends => exact sent.sends
    case receives => exact { receives with }
    case completing => exact left.completing
    case wire =>
      simp only [Party.transmits, transmitted, List.drop_left]
      exact List.rel_append left.wire carried
    case data => rw [sent.data, left.data, List.filterMap_append]
    case acks => rw [sent.acks, left.acks]
  · have emitted := right.sends.reachable.emitAcks (msgs.map Msg.ack) (by
      intro ack member
      obtain ⟨msg, inside, rfl⟩ := List.mem_map.mp member
      exact sent.values msg inside)
    constructor
    case sends => exact { right.sends with reachable := emitted }
    case receives => exact (right.of_inn sent.received sent.accepted).receives
    case completing => exact right.completing
    case wire => exact right.wire
    case data => exact right.data
    case acks => simp [right.acks]

theorem Linked.wakeUp (linked : Linked (me, peer)) : Linked (me.act peer .wakeUp) := by
  obtain ⟨out, inn, mine, theirs, pending, peerPending, left, right⟩ := linked
  obtain ⟨out', msgs, sent⟩ := left.sends.h5WakeUp left.receives.txack
  obtain ⟨inn', left', right'⟩ := left.transmits right _ sent
    (left.receives.of_withoutTx (h5WakeUp_withoutTx _))
  exact ⟨out', inn', mine ++ msgs, theirs, pending, peerPending, left', right'⟩

theorem forall₂_eraseIdx {α β : Type} {r : α → β → Prop} {as : List α} {bs : List β}
    (related : List.Forall₂ r as bs) (index : Nat) :
    List.Forall₂ r (as.eraseIdx index) (bs.eraseIdx index) := by
  induction related generalizing index with
  | nil => exact .nil
  | cons head tail ih =>
    cases index with
    | zero => exact tail
    | succ index => exact .cons head (ih index)

theorem Half.drop {peerPending : Option Msg} {fewer : List Msg} {wire : List (List UInt8)}
    (left : Half me out inn mine theirs pending) (right : Half peer inn out theirs mine peerPending)
    (sub : fewer.Sublist mine) (carried : List.Forall₂ Msg.Frames fewer wire) :
    ∃ out' inn', Half { me with wire := wire } out' inn' fewer theirs pending ∧
      Half peer inn' out' theirs fewer peerPending := by
  have data : (fewer.filterMap Msg.data).Sublist out.data := by
    rw [left.data]
    exact sub.filterMap _
  have acks : ((peerPending.map Msg.ack).toList ++ fewer.map Msg.ack).Sublist inn.acks := by
    rw [right.acks]
    exact (List.Sublist.refl _).append (sub.map _)
  refine ⟨{ out with data := fewer.filterMap Msg.data, acks := out.acks },
    { inn with data := inn.data, acks := (peerPending.map Msg.ack).toList ++ fewer.map Msg.ack },
    ?_, ?_⟩
  · exact { left with
      sends := { left.sends with reachable := left.sends.reachable.step (.lose _ _ data (.refl _)) }
      receives := { left.receives with }
      wire := carried
      data := rfl }
  · exact { right with
      sends := { right.sends with reachable := right.sends.reachable.step (.lose _ _ (.refl _) acks) }
      receives := { right.receives with }
      acks := rfl }

theorem Linked.lose (linked : Linked (me, peer)) (index : Nat) :
    Linked (me.act peer (.lose index)) := by
  obtain ⟨out, inn, mine, theirs, pending, peerPending, left, right⟩ := linked
  obtain ⟨out', inn', left', right'⟩ :=
    left.drop right (List.eraseIdx_sublist mine index) (forall₂_eraseIdx left.wire index)
  exact ⟨out', inn', _, theirs, pending, peerPending, left', right'⟩

theorem Msg.Packs.decodes {msg : Msg} {skb : RtkBuffer} (packs : msg.Packs skb) :
    h5HdrAck skb = UInt8.ofNat (msg.ack % 8) ∧
      (∀ n data pktType, msg.data = some (n, data, pktType) →
        h5HdrReliable skb = 1 ∧ h5HdrSeq skb = UInt8.ofNat (n % 8) ∧ h5HdrPktType skb = pktType ∧
          (skb.pull h5HdrSize).data = data) ∧
      (msg.data = none → h5HdrReliable skb ≠ 1 ∧ h5HdrPktType skb = h5AckPkt) := by
  obtain ⟨ok, crc, bytes⟩ := packs
  obtain ⟨entry, ack⟩ := msg
  cases entry with
  | none =>
    have decodes := decodes_h5Hdr skb _ 0 false crc 0 h5AckPkt [] (Msg.ofNat_mod_lt ack) (by decide)
      (by decide) (by decide) bytes
    refine ⟨decodes.ack, ?_, fun _ => ⟨by simp [decodes.reliable], decodes.pktType⟩⟩
    rintro _ _ _ ⟨⟩
  | some entry =>
    obtain ⟨n, data, pktType⟩ := entry
    obtain ⟨kind, len⟩ := ok n data pktType rfl
    have small : pktType.toNat < 16 := by rcases kind with rfl | rfl <;> decide
    have decodes := decodes_h5Hdr skb _ _ true crc data.length pktType data (Msg.ofNat_mod_lt ack)
      (Msg.ofNat_mod_lt n) len small bytes
    refine ⟨decodes.ack, ?_, fun none => nomatch none⟩
    rintro _ _ _ ⟨⟩
    refine ⟨decodes.reliable, decodes.seq, decodes.pktType, ?_⟩
    simp [RtkBuffer.pull, bytes, Msg.hdr, Msg.body, h5Hdr, h5HdrSize]

-- `h5_complete_rx_pkt` before the wake-up: the expected packet is taken, its acknowledgement waits.
theorem Half.begin {msg : Msg} {rest : List Msg} {wire : List (List UInt8)} {peerPending : Option Msg}
    {pkt : RtkBuffer} (left : Half me out inn mine (msg :: rest) none)
    (right : Half peer inn out (msg :: rest) mine peerPending)
    (carried : List.Forall₂ Msg.Frames rest wire) (expected : msg.Expected me.h5.rxseqTxack)
    (packs : msg.Packs pkt) (h5 : HciH5Cb) (sends : Sends h5 out)
    (txack : h5.rxseqTxack =
      if h5HdrReliable pkt = 1 then (h5HdrSeq pkt + 1) % 8 else me.h5.rxseqTxack)
    (passed : h5.recvData = me.h5.recvData) (count : h5.rxCount = 0) :
    ∃ inn', Half { me with h5 := h5, completing := some pkt } out inn' mine rest (some msg) ∧
      Half { peer with wire := wire } inn' out rest mine peerPending := by
  obtain ⟨-, reliable, unreliable⟩ := packs.decodes
  have before := left.receives.passed
  simp only [Option.bind_none, Option.map_none, Option.toList_none, List.append_nil] at before
  cases data : msg.data with
  | none =>
    obtain ⟨plain, -⟩ := unreliable data
    rw [if_neg plain] at txack
    refine ⟨inn, ?_, { right with wire := carried, data := by simp [right.data, data] }⟩
    refine { left with sends := sends, receives := ?_, completing := .some packs, acks := ?_ }
    · refine ⟨by rw [txack]; exact left.receives.txack, ?_, count, fun none => nomatch none⟩
      simp [passed, before, data]
    · simp [left.acks]
  | some entry =>
    obtain ⟨n, bytes, pktType⟩ := entry
    obtain ⟨marked, seq, -⟩ := reliable n bytes pktType data
    rw [if_pos marked, seq] at txack
    have number := congrArg UInt8.toNat (expected n _ data)
    rw [left.receives.txack, UInt8.toNat_ofNat'] at number
    have first : inn.data = (n, bytes, pktType) :: rest.filterMap Msg.data := by
      simp [right.data, data]
    have taken := right.sends.reachable.step (.accept n _ _ first (by omega))
    refine ⟨_, ?_, { right with
      sends := { right.sends with reachable := taken }
      receives := { right.receives with }
      wire := carried
      data := rfl }⟩
    refine { left with sends := sends, receives := ?_, completing := .some packs, acks := ?_ }
    · refine ⟨?_, ?_, count, fun none => nomatch none⟩
      · rw [txack, UInt8.toNat_mod, UInt8.toNat_add, UInt8.toNat_ofNat']
        change (n % 8 % 256 + 1) % 256 % 8 = (inn.received + 1) % 8
        omega
      · simp [passed, before, data]
    · simp [left.acks]

-- The rest of `h5_complete_rx_pkt` for a data packet or an empty acknowledgement.
theorem h5CompleteRxTail_msg (h5 : HciH5Cb) (skb : RtkBuffer) (msg : Msg) (packs : msg.Packs skb) :
    ∃ passed, passed.map payload = (msg.data.map Prod.snd).toList ∧
      h5CompleteRxTail h5 skb =
        { h5RemoveAckedPkt { h5 with rxack := UInt8.ofNat (msg.ack % 8) } with
          recvData := (h5RemoveAckedPkt { h5 with rxack := UInt8.ofNat (msg.ack % 8) }).recvData ++
            passed
          rxState := .w4PktDelimiter
          rxSkb := none } := by
  obtain ⟨ack, reliable, unreliable⟩ := packs.decodes
  cases data : msg.data with
  | none =>
    obtain ⟨-, kind⟩ := unreliable data
    refine ⟨[], rfl, ?_⟩
    simp [h5CompleteRxTail, kind, ack, passUp, h5AckPkt, h5LinkCtlPkt, hciAcldataPkt, hciEventPkt,
      hciScodataPkt, hciCommandPkt]
  | some entry =>
    obtain ⟨n, bytes, pktType⟩ := entry
    obtain ⟨-, -, kind, content⟩ := reliable n bytes pktType data
    obtain ⟨type, -⟩ := packs.1 n bytes pktType data
    refine ⟨[{ skb.pull h5HdrSize with packetType := pktType }], by simp [payload, content], ?_⟩
    rcases type with rfl | rfl <;>
      simp [h5CompleteRxTail, kind, ack, passUp, hciRecvFrame, h5LinkCtlPkt, hciAcldataPkt,
        hciEventPkt, hciScodataPkt, hciCommandPkt]

theorem Half.finish {msg : Msg} {peerPending : Option Msg} {skb : RtkBuffer}
    (left : Half me out inn mine theirs (some msg))
    (right : Half peer inn out theirs mine peerPending) (packs : msg.Packs skb) :
    Linked ({ me with
      h5 := { h5CompleteRxTail me.h5 skb with rxState := .w4PktStart }
      completing := none }, peer) := by
  obtain ⟨passed, content, tail⟩ := h5CompleteRxTail_msg me.h5 skb msg packs
  have noted : Sends { me.h5 with rxack := UInt8.ofNat (msg.ack % 8) } out :=
    left.sends.of_txView rfl rfl
  obtain ⟨acked, sends⟩ := noted.h5RemoveAckedPkt msg.ack (theirs.map Msg.ack) left.acks rfl
  have same := h5RemoveAckedPkt_withoutTx { me.h5 with rxack := UInt8.ofNat (msg.ack % 8) }
  have txack := field_of_withoutTx HciH5Cb.rxseqTxack (fun _ => rfl) same
  have recvData := field_of_withoutTx HciH5Cb.recvData (fun _ => rfl) same
  have count := field_of_withoutTx HciH5Cb.rxCount (fun _ => rfl) same
  refine ⟨{ out with acks := theirs.map Msg.ack, acked := acked }, inn, mine, theirs, none,
    peerPending, ?_, right.of_inn rfl rfl⟩
  rw [tail]
  constructor
  case sends => exact sends.of_txView rfl rfl
  case receives =>
    refine ⟨(congrArg UInt8.toNat txack).trans left.receives.txack, ?_,
      count.trans left.receives.count, fun _ => .inr rfl⟩
    simp only [recvData, List.map_append, content, Option.bind_none, Option.map_none,
      Option.toList_none, List.append_nil]
    exact left.receives.passed
  case completing => exact .none
  case wire => exact left.wire
  case data => exact left.data
  case acks => rfl

end UnionpiTiger.H5

namespace UnionpiTiger.H5

open Bt Lib

variable {me peer : Party} {out inn : Flow Payload} {mine theirs : List Msg}
  {pending : Option Msg}

theorem h5BeginRxPkt_settles : Settles h5BeginRxPkt := by
  intro h5 skb count
  refine ⟨rfl, ?_⟩
  simp only [h5BeginRxPkt]
  split_ifs <;> exact count

theorem Linked.uncons {frame : List UInt8} {wire : List (List UInt8)} (linked : Linked (me, peer))
    (idle : me.completing = none) (arrived : peer.wire = frame :: wire) :
    ∃ out inn mine msg rest peerPending, Half me out inn mine (msg :: rest) none ∧
      Half peer inn out (msg :: rest) mine peerPending ∧ msg.Frames frame ∧
      List.Forall₂ Msg.Frames rest wire := by
  obtain ⟨out, inn, mine, theirs, pending, peerPending, left, right⟩ := linked
  obtain rfl : pending = none := by
    have related := left.completing
    rw [show ((me, peer) : Party × Party).1.completing = none from idle] at related
    cases related
    rfl
  have carried : List.Forall₂ Msg.Frames theirs (frame :: wire) := arrived ▸ right.wire
  cases carried with
  | cons framed carried => exact ⟨out, inn, mine, _, _, peerPending, left, right, framed, carried⟩

theorem Linked.receive (linked : Linked (me, peer)) : Linked (me.act peer .receive) := by
  simp only [Party.act]
  split
  next frame wire idle arrived =>
    obtain ⟨out, inn, mine, msg, rest, peerPending, left, right, framed, carried⟩ :=
      linked.uncons idle arrived
    have outcome := h5RecvLoop_msg h5BeginRxPkt id h5BeginRxPkt_settles me.h5 msg frame framed
      left.receives.count (left.receives.state rfl)
    obtain ⟨inn', out', right', left'⟩ := right.drop left (List.sublist_cons_self msg rest) carried
    rcases outcome with lost | ⟨expected, state, crc, last, pkt, packs, taken⟩ | ⟨-, skb, crc, late⟩
    · rw [lost]
      refine ⟨out', inn', mine, rest, none, peerPending, ?_, right'⟩
      exact { left' with
        sends := { left'.sends with }
        receives := { left'.receives with state := fun _ => .inl rfl }
        completing := by simp only [List.getElem?_eq_none (Nat.le_refl _)]; exact .none }
    · rw [taken]
      have begun : (h5BeginRxPkt (rxIn { me.h5 with mem := me.h5.mem.tail } state 0 last crc)
          pkt).log.completed[me.h5.log.completed.length]? = some pkt := by
        simp only [h5BeginRxPkt]
        split_ifs <;> simp [rxIn, h5CompleteRxSeq]
      obtain ⟨inn', left', right'⟩ := left.begin right carried expected packs
        { h5BeginRxPkt (rxIn { me.h5 with mem := me.h5.mem.tail } state 0 last crc) pkt with
          rxState := .w4PktStart }
        (by simp only [h5BeginRxPkt]; split_ifs <;> exact { left.sends with })
        (by simp only [h5BeginRxPkt]; split_ifs <;> rfl)
        (by simp only [h5BeginRxPkt]; split_ifs <;> rfl)
        (by simp only [h5BeginRxPkt]; split_ifs <;> rfl)
      refine ⟨out, inn', mine, rest, some msg, peerPending, ?_, right'⟩
      simp only [begun]
      exact left'
    · rw [late]
      refine ⟨out', inn', mine, rest, none, peerPending, ?_, right'⟩
      exact { left' with
        sends := { left'.sends with }
        receives := { left'.receives with count := rfl, state := fun _ => .inr rfl }
        completing := by
          simp only [dropRxPkt, id, rxIn, List.getElem?_eq_none (Nat.le_refl _)]
          exact .none }
  next => exact linked

theorem Linked.finish (linked : Linked (me, peer)) : Linked (me.act peer .finish) := by
  simp only [Party.act]
  split
  next skb completing =>
    obtain ⟨out, inn, mine, theirs, pending, peerPending, left, right⟩ := linked
    have related := left.completing
    rw [show ((me, peer) : Party × Party).1.completing = some skb from completing] at related
    cases related with
    | some packs =>
      have view := h5CompleteRxTail_rxView me.h5 skb
      have count : (h5CompleteRxTail me.h5 skb).rxCount = 0 :=
        (congrArg RxView.rxCount view).trans left.receives.count
      have closed : h5Recv (h5CompleteRxTail me.h5 skb) [0xc0] =
          { h5CompleteRxTail me.h5 skb with rxState := .w4PktStart } := by
        have skipped := h5RecvLoop_skip h5CompleteRxPkt h5WakeUp
          (h5CompleteRxTail me.h5 skb) [] [] (by simp) (congrArg RxView.rxState view) count
        exact congrArg Prod.snd skipped
      rw [closed]
      exact left.finish right packs
  next => exact linked

theorem Party.transmits_eq {next : HciH5Cb} (quiet : next.log.transmitted = me.h5.log.transmitted) :
    me.transmits next = { me with h5 := next } := by
  simp [Party.transmits, quiet]

theorem Half.complete {msg : Msg} {rest : List Msg} {wire : List (List UInt8)}
    {peerPending : Option Msg} {h5 : HciH5Cb} {pkt : RtkBuffer}
    (left : Half me out inn mine (msg :: rest) none)
    (right : Half peer inn out (msg :: rest) mine peerPending)
    (carried : List.Forall₂ Msg.Frames rest wire) (expected : msg.Expected me.h5.rxseqTxack)
    (packs : msg.Packs pkt) (same : txView h5 = txView me.h5)
    (size : h5.slidingWindowSize = me.h5.slidingWindowSize) (passed : h5.recvData = me.h5.recvData)
    (count : h5.rxCount = 0) (quiet : h5.log.transmitted = me.h5.log.transmitted)
    (idle : me.completing = none) :
    Linked (me.transmits { h5CompleteRxPkt h5 pkt with rxState := .w4PktStart },
      { peer with wire := wire }) := by
  have txack : h5.rxseqTxack = me.h5.rxseqTxack := congrArg TxView.rxseqTxack same
  have sends : Sends h5 out := left.sends.of_txView same size
  obtain ⟨-, reliable, unreliable⟩ := packs.decodes
  have tailQuiet (h5 : HciH5Cb) : (h5CompleteRxTail h5 pkt).log.transmitted = h5.log.transmitted := by
    obtain ⟨_, _, tail⟩ := h5CompleteRxTail_msg h5 pkt msg packs
    rw [tail]
    simp only [h5RemoveAckedPkt]
    split_ifs <;> rfl
  by_cases marked : h5HdrReliable pkt = 1
  · obtain ⟨inn', left', right'⟩ := left.begin right carried expected packs
      (h5CompleteRxSeq { h5 with
        log := { h5.log with completed := h5.log.completed ++ [pkt] } } pkt)
      { sends with } (by simp [marked, h5CompleteRxSeq]) passed count
    obtain ⟨out', msgs, sent⟩ := left'.sends.h5WakeUp left'.receives.txack
    obtain ⟨inn'', left'', right''⟩ := left'.transmits right' _ sent
      (left'.receives.of_withoutTx (h5WakeUp_withoutTx _))
    have finished := left''.finish right'' packs
    simp only [Party.transmits, h5CompleteRxPkt, if_pos marked, tailQuiet] at finished ⊢
    simpa [idle, quiet, h5CompleteRxSeq] using finished
  · obtain ⟨inn', left', right'⟩ := left.begin right carried expected packs
      { h5 with log := { h5.log with completed := h5.log.completed ++ [pkt] } }
      { sends with } (by simp [marked, txack]) passed count
    have finished := left'.finish right' packs
    rw [Party.transmits_eq]
    · simpa [h5CompleteRxPkt, marked, idle] using finished
    · simp only [h5CompleteRxPkt, if_neg marked, tailQuiet]
      exact quiet

theorem Linked.deliver (linked : Linked (me, peer)) : Linked (me.act peer .deliver) := by
  simp only [Party.act]
  split
  next frame wire idle arrived =>
    obtain ⟨out, inn, mine, msg, rest, peerPending, left, right, framed, carried⟩ :=
      linked.uncons idle arrived
    have outcome := h5RecvLoop_msg h5CompleteRxPkt h5WakeUp h5CompleteRxPkt_settles me.h5 msg frame
      framed left.receives.count (left.receives.state rfl)
    obtain ⟨inn', out', right', left'⟩ := right.drop left (List.sublist_cons_self msg rest) carried
    rcases outcome with lost | ⟨expected, state, crc, last, pkt, packs, taken⟩ | ⟨-, skb, crc, late⟩
    · rw [h5Recv, lost, Party.transmits_eq (by rfl)]
      refine ⟨out', inn', mine, rest, none, peerPending, ?_, right'⟩
      exact { left' with
        sends := { left'.sends with }
        receives := { left'.receives with state := fun _ => .inl rfl } }
    · rw [h5Recv, taken]
      exact left.complete right carried expected packs rfl rfl rfl rfl rfl idle
    · rw [h5Recv, late]
      have owed : Sends { rxIn { me.h5 with mem := me.h5.mem.tail } .w4Hdr 0 skb crc with
          isTxackReq := true } out' := { left'.sends with }
      obtain ⟨out'', msgs, sent⟩ := owed.h5WakeUp left'.receives.txack
      have kept := h5WakeUp_withoutTx { rxIn { me.h5 with mem := me.h5.mem.tail } .w4Hdr 0 skb crc with
        isTxackReq := true }
      obtain ⟨inn'', left'', right''⟩ := left'.transmits right' { dropRxPkt (h5WakeUp
        { rxIn { me.h5 with mem := me.h5.mem.tail } .w4Hdr 0 skb crc with isTxackReq := true }) with
          rxState := .w4PktStart }
        { sent with sends := { sent.sends with } }
        ⟨(congrArg UInt8.toNat (field_of_withoutTx HciH5Cb.rxseqTxack (fun _ => rfl) kept)).trans
            left'.receives.txack,
          (congrArg (fun data => data.map payload ++ _)
            (field_of_withoutTx HciH5Cb.recvData (fun _ => rfl) kept)).trans left'.receives.passed,
          rfl, fun _ => .inr rfl⟩
      exact ⟨out'', inn'', mine ++ msgs, rest, none, peerPending, left'', right''⟩
  next => exact linked

theorem Linked.act (linked : Linked (me, peer)) (action : LinkAct) : Linked (me.act peer action) := by
  cases action with
  | enqueue pkt => exact linked.enqueue pkt
  | wakeUp => exact linked.wakeUp
  | retransfer => exact linked.retransfer
  | lose index => exact linked.lose index
  | deliver => exact linked.deliver
  | receive => exact linked.receive
  | finish => exact linked.finish
  | memory outcomes => exact linked.memory outcomes

theorem Linked.step {link : Party × Party} (linked : Linked link) (action : Bool × LinkAct) :
    Linked (linkStep link action) := by
  obtain ⟨left, action⟩ := action
  cases left with
  | true => exact Linked.act linked action
  | false => exact (Linked.act linked.swap action).swap

theorem LinkFresh.half {h5 : HciH5Cb} (fresh : LinkFresh h5) : Half { h5 := h5 } {} {} [] [] none := by
  obtain ⟨-, -, upper, txseq, txack, unack, rel, unrel, recvData, log, count, state⟩ := fresh
  constructor
  case sends =>
    constructor
    case reachable => exact .init
    case size => exact upper
    case order => simp [unack, rel, log]
    case enqueued => simp [log]
    case acked => simp [log]
    case sent => simp [log, unack]
    case txseq => simp [txseq]
    case kind => simp [log]
    case unrel => exact unrel
  case receives =>
    exact ⟨by simp [txack], by simp [recvData], count, fun _ => state⟩
  case completing => exact .none
  case wire => exact .nil
  case data => rfl
  case acks => rfl

theorem run_linked (left right : HciH5Cb) (freshLeft : LinkFresh left) (freshRight : LinkFresh right)
    (actions : List (Bool × LinkAct)) :
    Linked (run linkStep ({ h5 := left }, { h5 := right }) actions) := by
  apply run_always linkStep Linked (fun _ action linked => linked.step action)
  exact ⟨{}, {}, [], [], none, none, freshLeft.half, freshRight.half⟩

theorem Half.in_order {peerPending : Option Msg} (left : Half me out inn mine theirs pending)
    (right : Half peer inn out theirs mine peerPending) :
    me.h5.recvData.map payload <+: peer.h5.log.enqueued.map payload := by
  have size := right.sends.size
  have whole := right.sends.reachable.accepted_in_order (by omega)
  rw [right.sends.enqueued, ← left.receives.passed] at whole
  exact (List.prefix_append _ _).trans whole

theorem link_in_order (left right : HciH5Cb) (freshLeft : LinkFresh left)
    (freshRight : LinkFresh right) (actions : List (Bool × LinkAct)) :
    let link := run linkStep ({ h5 := left }, { h5 := right }) actions
    link.1.h5.recvData.map payload <+: link.2.h5.log.enqueued.map payload ∧
      link.2.h5.recvData.map payload <+: link.1.h5.log.enqueued.map payload := by
  intro link
  obtain ⟨out, inn, mine, theirs, pending, peerPending, half, peerHalf⟩ :=
    run_linked left right freshLeft freshRight actions
  exact ⟨half.in_order peerHalf, peerHalf.in_order half⟩

def lossyRun : List (Bool × LinkAct) :=
  [(true, .enqueue ⟨[0xc0], hciAcldataPkt, .inl rfl⟩),
    (true, .enqueue ⟨[0x11], hciCommandPkt, .inr rfl⟩),
    (true, .wakeUp), (true, .lose 0), (false, .deliver), (true, .retransfer), (true, .deliver),
    (true, .wakeUp), (false, .receive), (true, .retransfer), (false, .wakeUp), (false, .finish)]

theorem link_in_order_lossy :
    let link := run linkStep
      ({ h5 := { linkEstabState := .active, slidingWindowSize := 7, useCrc := true } },
        { h5 := { linkEstabState := .active, slidingWindowSize := 1, oofFlowControl := true } })
          lossyRun
    link.2.h5.recvData.map payload = [([0xc0], hciAcldataPkt)] ∧
      link.2.h5.recvData.map payload <+: link.1.h5.log.enqueued.map payload := by
  refine ⟨by decide +kernel, (link_in_order _ _ ?_ ?_ lossyRun).2⟩ <;>
    constructor <;> simp

end UnionpiTiger.H5
