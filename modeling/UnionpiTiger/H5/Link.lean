import UnionpiTiger.H5.RoundTrip
import UnionpiTiger.H5.Complete

set_option autoImplicit false

namespace UnionpiTiger.H5

open Bt Lib

-- A packet `h5_enqueue` queues for reliable delivery.
structure ReliablePkt where
  data : List UInt8
  packetType : UInt8
  reliable : packetType = hciAcldataPkt ∨ packetType = hciCommandPkt

-- One end of a link: its control block, the packet `h5_complete_rx_pkt` is in the middle of, and
-- the frames it sent that are neither received nor lost yet, oldest first.
structure Party where
  h5 : HciH5Cb
  completing : Option RtkBuffer := none
  wire : List (List UInt8) := []

-- `h5_complete_rx_pkt` up to the release of the wake-up mutex; the rest of it is `finish` below.
def h5BeginRxPkt (h5 : HciH5Cb) (skb : RtkBuffer) : HciH5Cb :=
  let h5 := { h5 with log := { h5.log with completed := h5.log.completed ++ [skb] } }
  let h5 := if h5HdrReliable skb = 1 then h5CompleteRxSeq h5 skb else h5
  { h5 with rxState := .w4PktDelimiter, rxSkb := none }

namespace Party

def transmits (party : Party) (next : HciH5Cb) : Party :=
  { party with
    h5 := next
    wire := party.wire ++ next.log.transmitted.drop party.h5.log.transmitted.length }

end Party

-- `deliver` runs `h5_recv` on a frame in one go. `receive`, `wakeUp` and `finish` do the same in
-- pieces, between which the other threads may take the wake-up mutex.
inductive LinkAct where
  | enqueue (pkt : ReliablePkt)
  | wakeUp
  | retransfer
  | lose (index : Nat)
  | deliver
  | receive
  | finish
  | memory (outcomes : List (Option (List UInt8)))

def Party.act (me peer : Party) : LinkAct → Party × Party
  | .enqueue pkt =>
    ({ me with h5 := h5Enqueue me.h5 { data := pkt.data, packetType := pkt.packetType } }, peer)
  | .wakeUp => (me.transmits (h5WakeUp me.h5), peer)
  | .retransfer => ({ me with h5 := dataRetransfer me.h5 }, peer)
  | .lose index => ({ me with wire := me.wire.eraseIdx index }, peer)
  | .deliver =>
    match me.completing, peer.wire with
    | none, frame :: wire => (me.transmits (h5Recv me.h5 frame), { peer with wire := wire })
    | _, _ => (me, peer)
  | .receive =>
    match me.completing, peer.wire with
    | none, frame :: wire =>
      let next := (h5RecvLoop h5BeginRxPkt id me.h5 frame).2
      ({ me with
        h5 := next
        completing := next.log.completed[me.h5.log.completed.length]? }, { peer with wire := wire })
    | _, _ => (me, peer)
  | .finish =>
    match me.completing with
    | some skb =>
      ({ me with
        h5 := h5Recv (h5CompleteRxTail me.h5 skb) [0xc0]
        completing := none }, peer)
    | none => (me, peer)
  | .memory outcomes => ({ me with h5 := { me.h5 with mem := outcomes } }, peer)

def linkStep (link : Party × Party) : Bool × LinkAct → Party × Party
  | (true, act) => link.1.act link.2 act
  | (false, act) => (link.2.act link.1 act).swap

abbrev Payload := List UInt8 × UInt8

def payload (skb : RtkBuffer) : Payload := (skb.data, skb.packetType)

structure LinkFresh (h5 : HciH5Cb) : Prop where
  active : h5.linkEstabState = .active
  lower : 1 ≤ h5.slidingWindowSize.toNat
  upper : h5.slidingWindowSize.toNat ≤ 7
  txseq : h5.msgqTxseq = 0
  txack : h5.rxseqTxack = 0
  unack : h5.unack = []
  rel : h5.rel = []
  unrel : h5.unrel = []
  recvData : h5.recvData = []
  log : h5.log = {}
  count : h5.rxCount = 0
  state : h5.rxState = .w4PktDelimiter ∨ h5.rxState = .w4PktStart

structure Msg where
  data : Option (Nat × Payload)
  ack : Nat

namespace Msg

def hdr (msg : Msg) (crc : Bool) : List UInt8 :=
  match msg.data with
  | some (n, data, pktType) =>
    h5Hdr (UInt8.ofNat (msg.ack % 8)) (UInt8.ofNat (n % 8)) true crc data.length pktType
  | none => h5Hdr (UInt8.ofNat (msg.ack % 8)) 0 false crc 0 h5AckPkt

def body (msg : Msg) : List UInt8 := (msg.data.map fun entry => entry.2.1).getD []

def Ok (msg : Msg) : Prop :=
  ∀ n data pktType, msg.data = some (n, data, pktType) →
    (pktType = hciAcldataPkt ∨ pktType = hciCommandPkt) ∧ data.length ≤ 0xFFF

def Frames (msg : Msg) (bytes : List UInt8) : Prop :=
  msg.Ok ∧ ∃ oof crc, bytes = 0xc0 :: (pktBody crc (msg.hdr crc) msg.body).flatMap (slip oof) ++ [0xc0]

def Packs (msg : Msg) (skb : RtkBuffer) : Prop :=
  msg.Ok ∧ ∃ crc, skb.data = msg.hdr crc ++ msg.body

def Expected (msg : Msg) (rxseqTxack : UInt8) : Prop :=
  ∀ n entry, msg.data = some (n, entry) → rxseqTxack = UInt8.ofNat (n % 8)

theorem ofNat_mod_lt (n : Nat) : UInt8.ofNat (n % 8) < 8 := by
  rw [UInt8.lt_iff_toNat_lt, UInt8.toNat_ofNat']
  simp only [UInt8.toNat_ofNat]
  omega

end Msg

section Loop

variable (complete : HciH5Cb → RtkBuffer → HciH5Cb) (outOfOrder : HciH5Cb → HciH5Cb)

theorem h5RecvLoop_msg (settles : Settles complete) (h5 : HciH5Cb) (msg : Msg) (bytes : List UInt8)
    (frames : msg.Frames bytes) (count : h5.rxCount = 0)
    (state : h5.rxState = .w4PktDelimiter ∨ h5.rxState = .w4PktStart) :
    (h5RecvLoop complete outOfOrder h5 bytes).2 = { h5 with
        mem := h5.mem.tail
        rxState := .w4PktDelimiter
        rxEscState := .noesc
        rxSkb := none
        messageCrc := h5CrcInit } ∨
    (msg.Expected h5.rxseqTxack ∧ ∃ state crc last pkt, msg.Packs pkt ∧
      (h5RecvLoop complete outOfOrder h5 bytes).2 =
        { complete (rxIn { h5 with mem := h5.mem.tail } state 0 last crc) pkt with
          rxState := .w4PktStart }) ∨
    (¬ msg.Expected h5.rxseqTxack ∧ ∃ skb crc, (h5RecvLoop complete outOfOrder h5 bytes).2 =
      { dropRxPkt (outOfOrder { rxIn { h5 with mem := h5.mem.tail } .w4Hdr 0 skb crc with
          isTxackReq := true }) with rxState := .w4PktStart }) := by
  obtain ⟨ok, oof, crc, rfl⟩ := frames
  have started : h5RecvLoop complete outOfOrder h5
      (0xc0 :: (pktBody crc (msg.hdr crc) msg.body).flatMap (slip oof) ++ [0xc0]) =
        h5RecvLoop complete outOfOrder { h5 with rxState := .w4PktStart }
          ((pktBody crc (msg.hdr crc) msg.body).flatMap (slip oof) ++ 0xc0 :: []) := by
    apply h5RecvLoop_consumed
    rcases state with state | state
    · simp [h5RecvPass, count, state]
    · have same : { h5 with rxState := .w4PktStart } = h5 := by rw [← state]
      rw [same]
      simp [h5RecvPass, count, state]
  rw [started]
  by_cases memory : h5.mem.head? = some none
  · left
    have begun : pktBody crc (msg.hdr crc) msg.body ≠ [] := by
      cases data : msg.data <;> simp [pktBody, Msg.hdr, data, h5Hdr]
    rw [h5RecvLoop_noMemory complete outOfOrder { h5 with rxState := .w4PktStart } oof _ _ begun
      rfl count memory]
    simp [count]
  · right
    obtain ⟨data, ack⟩ := msg
    have ackSmall := Msg.ofNat_mod_lt ack
    cases data with
    | none =>
      obtain ⟨state, check, last, pkt, bytes, done⟩ := h5RecvLoop_frame complete outOfOrder
        settles { h5 with rxState := .w4PktStart } oof crc false _ 0 h5AckPkt [] [] ackSmall
        (by decide) (by decide) (by decide) rfl count memory (by simp)
      exact .inl ⟨by simp [Msg.Expected], state, check, last, pkt, ⟨ok, crc, bytes⟩, by
        rw [show Msg.body ⟨none, ack⟩ = [] from rfl]
        exact congrArg Prod.snd done⟩
    | some entry =>
      obtain ⟨n, data, pktType⟩ := entry
      obtain ⟨kind, len⟩ := ok n data pktType rfl
      have small : pktType.toNat < 16 := by rcases kind with rfl | rfl <;> decide
      by_cases same : h5.rxseqTxack = UInt8.ofNat (n % 8)
      · obtain ⟨state, check, last, pkt, bytes, done⟩ := h5RecvLoop_frame complete outOfOrder
          settles { h5 with rxState := .w4PktStart } oof crc true _ _ pktType data [] ackSmall
          (Msg.ofNat_mod_lt n) len small rfl count memory (fun _ => same)
        refine .inl ⟨?_, state, check, last, pkt, ⟨ok, crc, bytes⟩, congrArg Prod.snd done⟩
        rintro _ _ ⟨⟩
        exact same
      · obtain ⟨skb, check, done⟩ := h5RecvLoop_outOfOrder complete outOfOrder
          settles { h5 with rxState := .w4PktStart } oof crc _ _ pktType data [] ackSmall
          (Msg.ofNat_mod_lt n) len small rfl count memory same
        exact .inr ⟨fun expected => same (expected n _ rfl), skb, check, congrArg Prod.snd done⟩

end Loop

end UnionpiTiger.H5
