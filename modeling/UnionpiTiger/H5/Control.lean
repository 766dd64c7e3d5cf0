import UnionpiTiger.H5.Wire

set_option autoImplicit false

namespace UnionpiTiger.H5

open Bt

inductive RxState where
  | w4PktDelimiter | w4PktStart | w4Hdr | w4Data | w4Crc
deriving DecidableEq, Repr

inductive RxEscState where
  | noesc | esc
deriving DecidableEq, Repr

inductive LinkState where
  | uninitialized | initialized | active
deriving DecidableEq, Repr

structure Log where
  transmitted : List (List UInt8) := []
  enqueued : List RtkBuffer := []
  relSent : List (RtkBuffer × List UInt8) := []
  acked : List RtkBuffer := []
  completed : List RtkBuffer := []
  hwErrors : Nat := 0
deriving Repr

-- The fields of `tHCI_H5_CB` the transport reads, with the globals next to it. A timer is `true`
-- while it is armed; `mem` lists what the coming allocations return (NULL, or a buffer with these
-- bytes left in it), and once it is used up they all succeed.
structure HciH5Cb where
  slidingWindowSize : UInt8 := 0
  oofFlowControl : Bool := false
  dicType : Bool := false
  unack : List RtkBuffer := []
  rel : List RtkBuffer := []
  unrel : List RtkBuffer := []
  recvData : List RtkBuffer := []
  rxseqTxack : UInt8 := 0
  rxack : UInt8 := 0
  useCrc : Bool := false
  isTxackReq : Bool := false
  msgqTxseq : UInt8 := 0
  messageCrc : UInt16 := 0
  rxCount : Nat := 0
  rxState : RxState := .w4PktDelimiter
  rxEscState : RxEscState := .noesc
  linkEstabState : LinkState := .uninitialized
  rxSkb : Option RtkBuffer := none
  internalSkb : Option RtkBuffer := none
  timerDataRetrans : Bool := false
  timerSyncRetrans : Bool := false
  timerConfRetrans : Bool := false
  timerWaitCtBaudrateReady : Bool := false
  dataRetransCount : Nat := 0
  syncRetransCount : Nat := 0
  confRetransCount : Nat := 0
  cleanuping : Bool := false
  h5InitDatatransFlag : Bool := true
  h5ReadyEvents : UInt16 := 0
  mem : List (Option (List UInt8)) := []
  log : Log := {}
deriving Repr

def skbAlloc (h5 : HciH5Cb) (len : Nat) : Option RtkBuffer × HciH5Cb :=
  match h5.mem with
  | [] => (some (RtkBuffer.rtbAllocate len []), h5)
  | outcome :: rest => (outcome.map (RtkBuffer.rtbAllocate len), { h5 with mem := rest })

def skbAllocAndInit (h5 : HciH5Cb) (pktType : UInt8) (data : List UInt8) : Option RtkBuffer × HciH5Cb :=
  match skbAlloc h5 data.length with
  | (none, h5) => (none, h5)
  | (some skb, h5) => (some { skb.put data with packetType := pktType }, h5)

def h5PreparePkt (h5 : HciH5Cb) (data : List UInt8) (pktType : UInt8) : Option RtkBuffer × HciH5Cb :=
  match pktReliable? pktType with
  | none => (none, h5)
  | some rel =>
    match skbAlloc h5 ((data.length + 6) * 2 + 2) with
    | (none, h5) => (none, h5)
    | (some nskb, h5) =>
      let hdr := h5Hdr h5.rxseqTxack h5.msgqTxseq rel h5.useCrc data.length pktType
      let nskb := h5PutPkt h5.oofFlowControl h5.useCrc nskb hdr data
      let msgqTxseq := if rel then (h5.msgqTxseq + 1) &&& 0x07 else h5.msgqTxseq
      (some nskb, { h5 with isTxackReq := false, msgqTxseq := msgqTxseq })

def h5StartDataRetransTimer (h5 : HciH5Cb) : HciH5Cb := { h5 with timerDataRetrans := true }
def h5StopDataRetransTimer (h5 : HciH5Cb) : HciH5Cb := { h5 with timerDataRetrans := false }

-- The two loops of `h5_remove_acked_pkt` over sequence numbers and packets: how many packets of
-- the `unack` queue the received ack covers.
def pktsToBeRemoved (rxack : UInt8) : Nat → UInt8 → Nat
  | 0, _ => 0
  | pkts + 1, seqno =>
    if rxack = seqno then pkts + 1 else pktsToBeRemoved rxack pkts ((seqno - 1) &&& 0x07)

def h5RemoveAckedPkt (h5 : HciH5Cb) : HciH5Cb :=
  let removed := pktsToBeRemoved h5.rxack h5.unack.length h5.msgqTxseq
  let h5 := { h5 with
    unack := h5.unack.drop removed
    log := { h5.log with acked := h5.log.acked ++ h5.unack.take removed } }
  if h5.unack.length = 0 then { h5StopDataRetransTimer h5 with dataRetransCount := 0 } else h5

def h5DequeueAck (h5 : HciH5Cb) : Option RtkBuffer × HciH5Cb :=
  if h5.isTxackReq then h5PreparePkt h5 [] h5AckPkt else (none, h5)

def h5DequeueRel (h5 : HciH5Cb) : Option RtkBuffer × HciH5Cb :=
  match h5.rel with
  | [] => h5DequeueAck h5
  | skb :: rel =>
    if h5.unack.length < h5.slidingWindowSize.toNat then
      match h5PreparePkt { h5 with rel := rel } skb.data skb.packetType with
      | (some nskb, h5) =>
        (some nskb, h5StartDataRetransTimer { h5 with
          unack := h5.unack ++ [skb]
          log := { h5.log with relSent := h5.log.relSent ++ [(skb, nskb.data)] } })
      | (none, h5) => h5DequeueAck { h5 with rel := skb :: h5.rel }
    else h5DequeueAck h5

def h5Dequeue (h5 : HciH5Cb) : Option RtkBuffer × HciH5Cb :=
  match h5.unrel with
  | [] => h5DequeueRel h5
  | skb :: unrel =>
    match h5PreparePkt { h5 with unrel := unrel } skb.data skb.packetType with
    | (some nskb, h5) => (some nskb, h5)
    | (none, h5) => h5DequeueRel { h5 with unrel := skb :: h5.unrel }

def h5Enqueue (h5 : HciH5Cb) (skb : RtkBuffer) : HciH5Cb :=
  if skb.data.length > 0xFFF then h5
  else if skb.packetType = hciAcldataPkt ∨ skb.packetType = hciCommandPkt then
    { h5 with
      rel := h5.rel ++ [skb]
      log := { h5.log with enqueued := h5.log.enqueued ++ [skb] } }
  else if skb.packetType = h5LinkCtlPkt ∨ skb.packetType = h5AckPkt ∨
      skb.packetType = h5VdrspecPkt ∨ skb.packetType = hciScodataPkt then
    { h5 with unrel := h5.unrel ++ [skb] }
  else h5

def h5IntTransmitDataCb (h5 : HciH5Cb) (skb : RtkBuffer) : HciH5Cb :=
  { h5 with log := { h5.log with transmitted := h5.log.transmitted ++ [skb.data] } }

def h5WakeUpLoop : Nat → HciH5Cb → HciH5Cb
  | 0, h5 => h5
  | fuel + 1, h5 =>
    match h5Dequeue h5 with
    | (none, h5) => h5
    | (some skb, h5) => h5WakeUpLoop fuel (h5IntTransmitDataCb h5 skb)

-- Every frame `h5_dequeue` returns makes this smaller, so the loop runs out of frames first.
def txPending (h5 : HciH5Cb) : Nat := h5.unrel.length + h5.rel.length + h5.isTxackReq.toNat

def h5WakeUp (h5 : HciH5Cb) : HciH5Cb := h5WakeUpLoop (txPending h5 + 1) h5

-- The `h5_wakeup_mutex` section of `data_retransfer_thread`: all of `unack` goes back in front of
-- `rel`, last packet first, and `msgq_txseq` steps back once for each.
def retransferRequeueLoop (h5 : HciH5Cb) : List RtkBuffer → HciH5Cb
  | [] => h5
  | skb :: unack => retransferRequeueLoop
      { h5 with
        unack := unack.reverse
        msgqTxseq := (h5.msgqTxseq - 1) &&& 0x07
        rel := skb :: h5.rel } unack

def retransferRequeue (h5 : HciH5Cb) : HciH5Cb := retransferRequeueLoop h5 h5.unack.reverse

def escCodes : List UInt8 := [0xdc, 0xdd, 0xde, 0xdf]

def Escaped (bytes : List UInt8) : Prop :=
  ∀ k : Nat, bytes[k]? = some 0xdb → ∃ code ∈ escCodes, bytes[k + 1]? = some code

structure Framed (oof : Bool) (frame : List UInt8) : Prop where
  delimited : ∃ body, frame = 0xc0 :: body ++ [0xc0] ∧ 0xc0 ∉ body
  escaped : Escaped frame
  flow : oof = true → 0x11 ∉ frame ∧ 0x13 ∉ frame

def h5Puts (oof useCrc : Bool) (hdr data : List UInt8) : List (List UInt8) :=
  [0xc0] :: (pktBody useCrc hdr data).map (slip oof) ++ [[0xc0]]

def Roomy (skb : RtkBuffer) (puts : List (List UInt8)) : Prop :=
  ∀ before bytes after, puts = before ++ bytes :: after →
    bytes.length ≤ (before.foldl RtkBuffer.put skb).room

section Escapes

variable {first second bytes : List UInt8} {oof : Bool}

theorem Escaped.append (escaped : Escaped first) (escaped_ : Escaped second) :
    Escaped (first ++ second) := by
  intro k escape
  by_cases inside : k < first.length
  · rw [List.getElem?_append_left inside] at escape
    obtain ⟨code, member, next⟩ := escaped k escape
    have further : k + 1 < first.length := (List.getElem?_eq_some_iff.mp next).1
    exact ⟨code, member, by rw [List.getElem?_append_left further, next]⟩
  · have behind : first.length ≤ k := Nat.le_of_not_lt inside
    rw [List.getElem?_append_right behind] at escape
    obtain ⟨code, member, next⟩ := escaped_ (k - first.length) escape
    refine ⟨code, member, ?_⟩
    rw [List.getElem?_append_right (by omega),
      show k + 1 - first.length = k - first.length + 1 by omega, next]

theorem escaped_of_plain (plain : 0xdb ∉ bytes) : Escaped bytes :=
  fun _ escape => absurd (List.mem_of_getElem? escape) plain

theorem escaped_code {code : UInt8} (member : code ∈ escCodes) : Escaped [0xdb, code] := by
  intro k escape
  match k with
  | 0 => exact ⟨code, member, rfl⟩
  | 1 =>
    obtain rfl : code = 0xdb := by simpa using escape
    exact absurd member (by decide)
  | k + 2 => simp at escape

theorem slip_escaped (oof : Bool) (byte : UInt8) : Escaped (slip oof byte) := by
  unfold slip
  split_ifs with delimiter escape xon oofOn xoff oofOff
  · exact escaped_code (by decide)
  · exact escaped_code (by decide)
  · exact escaped_code (by decide)
  · exact escaped_of_plain (by simp [Ne.symm escape])
  · exact escaped_code (by decide)
  · exact escaped_of_plain (by simp [Ne.symm escape])
  · exact escaped_of_plain (by simp [Ne.symm escape])

theorem slip_plain (oof : Bool) (byte : UInt8) : 0xc0 ∉ slip oof byte := by
  unfold slip
  split_ifs with delimiter
  · decide
  all_goals first | decide | simp [Ne.symm delimiter]

theorem slip_flow (byte : UInt8) : 0x11 ∉ slip true byte ∧ 0x13 ∉ slip true byte := by
  unfold slip
  simp only [if_true]
  split_ifs with delimiter escape xon xoff
  · decide
  · decide
  · decide
  · decide
  · simp [Ne.symm xon, Ne.symm xoff]

theorem flatMap_escaped (oof : Bool) (bytes : List UInt8) : Escaped (bytes.flatMap (slip oof)) := by
  induction bytes with
  | nil => exact escaped_of_plain (by simp)
  | cons byte rest ih => exact (slip_escaped oof byte).append ih

theorem framed (oof : Bool) (bytes : List UInt8) :
    Framed oof (0xc0 :: bytes.flatMap (slip oof) ++ [0xc0]) where
  delimited := ⟨_, rfl, by simp [slip_plain]⟩
  escaped := by
    have delimiter : Escaped [0xc0] := escaped_of_plain (by decide)
    exact (delimiter.append (flatMap_escaped oof bytes)).append delimiter
  flow on := by
    subst on
    simp [slip_flow]

end Escapes

section Room

theorem roomy (skb : RtkBuffer) (puts : List (List UInt8)) (room : puts.flatten.length ≤ skb.room) :
    Roomy skb puts := by
  induction puts generalizing skb with
  | nil => intro before bytes after split; simp at split
  | cons first rest ih =>
    rw [List.flatten_cons, List.length_append] at room
    have fits : first.length ≤ skb.room := by omega
    intro before bytes after split
    cases before with
    | nil =>
      obtain ⟨rfl, -⟩ := List.cons.inj split
      exact fits
    | cons other before =>
      obtain ⟨rfl, split_⟩ := List.cons.inj split
      exact ih (skb.put first) (by rw [RtkBuffer.put_room_of_room _ _ fits]; omega) before
        bytes after split_

theorem puts_length (oof useCrc : Bool) (hdr data : List UInt8) (four : hdr.length = h5HdrSize) :
    (h5Puts oof useCrc hdr data).flatten.length ≤ (data.length + 6) * 2 + 2 := by
  have slipped (bytes : List UInt8) : (bytes.map (slip oof)).flatten.length ≤ 2 * bytes.length := by
    induction bytes with
    | nil => simp
    | cons byte rest ih =>
      have two := slip_length oof byte
      simp only [List.map_cons, List.flatten_cons, List.length_append, List.length_cons]
      omega
  have body : (pktBody useCrc hdr data).length ≤ data.length + 6 := by
    simp only [h5HdrSize] at four
    cases useCrc <;> simp [pktBody, crcTrailer] <;> omega
  have whole := slipped (pktBody useCrc hdr data)
  simp only [h5Puts, List.cons_append, List.flatten_cons, List.flatten_append, List.length_append,
    List.flatten_nil, List.length_cons, List.length_nil]
  omega

theorem h5PutPkt_puts (oof useCrc : Bool) (nskb : RtkBuffer) (hdr data : List UInt8) :
    h5PutPkt oof useCrc nskb hdr data = (h5Puts oof useCrc hdr data).foldl RtkBuffer.put nskb := by
  have slipped (bytes : List UInt8) (skb : RtkBuffer) :
      bytes.foldl (h5SlipOneByte oof) skb = (bytes.map (slip oof)).foldl RtkBuffer.put skb := by
    rw [List.foldl_map]
    rfl
  cases useCrc <;> simp [h5PutPkt, h5Puts, pktBody, h5SlipMsgdelim, slipped, List.foldl_append]

end Room

theorem skbAlloc_start {h5 : HciH5Cb} {len : Nat} {start : RtkBuffer}
    (allocated : (skbAlloc h5 len).1 = some start) :
    start.data = [] ∧ start.room = len ∧ ∃ mem,
      skbAlloc h5 len = (some start, { h5 with mem := mem }) := by
  unfold skbAlloc at allocated ⊢
  cases outcomes : h5.mem with
  | nil =>
    have same : h5 = { h5 with mem := [] } := by rw [← outcomes]
    simp only [outcomes, Option.some.injEq] at allocated ⊢
    subst allocated
    exact ⟨rfl, rfl, [], by rw [← same]⟩
  | cons outcome rest =>
    simp only [outcomes, Option.map_eq_some_iff] at allocated ⊢
    obtain ⟨garbage, rfl, rfl⟩ := allocated
    exact ⟨rfl, rfl, rest, rfl⟩

theorem h5_frames (h5 : HciH5Cb) (data : List UInt8) (pktType : UInt8) (rel : Bool)
    (kind : pktReliable? pktType = some rel) (start : RtkBuffer)
    (allocated : (skbAlloc h5 ((data.length + 6) * 2 + 2)).1 = some start) :
    let hdr := h5Hdr h5.rxseqTxack h5.msgqTxseq rel h5.useCrc data.length pktType
    let puts := h5Puts h5.oofFlowControl h5.useCrc hdr data
    (h5PreparePkt h5 data pktType).1 = some (puts.foldl RtkBuffer.put start) ∧ Roomy start puts ∧
      Framed h5.oofFlowControl (puts.foldl RtkBuffer.put start).data ∧
      (puts.foldl RtkBuffer.put start).data.length ≤ (data.length + 6) * 2 + 2 := by
  intro hdr puts
  obtain ⟨empty, room, mem, call⟩ := skbAlloc_start allocated
  have length := puts_length h5.oofFlowControl h5.useCrc hdr data rfl
  have filled : puts.foldl RtkBuffer.put start = h5PutPkt h5.oofFlowControl h5.useCrc start hdr data :=
    (h5PutPkt_puts _ _ _ _ _).symm
  have frame := h5PutPkt_data h5.oofFlowControl h5.useCrc start hdr data rfl (by omega) empty
  refine ⟨?_, ?_, ?_, ?_⟩
  · rw [filled]
    simp only [h5PreparePkt, kind, call]
    rfl
  · exact roomy start puts (room ▸ length)
  · rw [filled, frame]
    exact framed _ _
  · have same : (h5PutPkt h5.oofFlowControl h5.useCrc start hdr data).data = puts.flatten := by
      rw [frame]
      simp [puts, h5Puts, List.flatMap]
    rw [filled, same]
    exact length

theorem h5_frames_delimiter :
    (h5PreparePkt { oofFlowControl := true, useCrc := true } [0xc0] hciCommandPkt).1 =
      some ((h5Puts true true (h5Hdr 0 0 true true 1 hciCommandPkt) [0xc0]).foldl RtkBuffer.put
        (RtkBuffer.rtbAllocate 16 [])) :=
  (h5_frames { oofFlowControl := true, useCrc := true } [0xc0] hciCommandPkt
    true rfl (RtkBuffer.rtbAllocate 16 []) rfl).1

end UnionpiTiger.H5
