import UnionpiTiger.H5.Control

set_option autoImplicit false

namespace UnionpiTiger.H5

open Bt

def hciCommandCompleteEvt : UInt8 := 0x0E
def hciVscUpdateBaudrate : UInt16 := 0xFC17

-- `rtkbt_h5_send_hw_error`: two events for the host, which never come back here.
def rtkbtH5SendHwError (h5 : HciH5Cb) : HciH5Cb :=
  { h5 with log := { h5.log with hwErrors := h5.log.hwErrors + 1 } }

-- The body the four `hci_h5_send_*` functions share: queue a link-control packet and send.
def hciH5SendLinkCtl (h5 : HciH5Cb) (message : List UInt8) : HciH5Cb :=
  match skbAllocAndInit h5 h5LinkCtlPkt message with
  | (none, h5) => h5
  | (some skb, h5) => h5WakeUp (h5Enqueue h5 skb)

def h5sync : List UInt8 := [0x01, 0x7E]
def h5syncresp : List UInt8 := [0x02, 0x7D]
def h5conf : List UInt8 := [0x03, 0xFC, 0x14]
def h5confresp : List UInt8 := [0x04, 0x7B]

def hciH5SendSyncReq (h5 : HciH5Cb) : HciH5Cb := hciH5SendLinkCtl h5 h5sync
def hciH5SendSyncResp (h5 : HciH5Cb) : HciH5Cb := hciH5SendLinkCtl h5 h5syncresp
def hciH5SendConfReq (h5 : HciH5Cb) : HciH5Cb := hciH5SendLinkCtl h5 h5conf
def hciH5SendConfResp (h5 : HciH5Cb) : HciH5Cb := hciH5SendLinkCtl h5 h5confresp

-- `rtk_notify_hw_h5_init_result`: a made-up Command Complete for the host.
def rtkNotifyHwH5InitResult (h5 : HciH5Cb) (status : UInt8) : HciH5Cb :=
  match skbAllocAndInit h5 hciEventPkt [0x0e, 0x04, 0x03, 0xee, 0xfc, status] with
  | (none, h5) => h5
  | (some skb, h5) => { h5 with recvData := h5.recvData ++ [skb] }

-- `!memcmp(skb_get_data(skb), message, 2)`, whatever the length of the packet.
def isLinkCtl (skb : RtkBuffer) (message : List UInt8) : Bool :=
  skb.byteAt 0 == message.getD 0 0 && skb.byteAt 1 == message.getD 1 0

def applyConfig (h5 : HciH5Cb) (cfg : UInt8) : HciH5Cb :=
  let dicType := h5CfgDicType cfg != 0
  { h5 with
    linkEstabState := .active
    slidingWindowSize := h5CfgSlidWin cfg
    oofFlowControl := h5CfgOofCntrl cfg != 0
    dicType := dicType
    useCrc := if dicType then true else h5.useCrc }

def h5ProcessCtlPkts (h5 : HciH5Cb) (skb : RtkBuffer) : HciH5Cb :=
  match h5.linkEstabState with
  | .uninitialized =>
    if isLinkCtl skb h5sync then hciH5SendSyncResp h5
    else if isLinkCtl skb h5syncresp then
      let h5 := { h5 with
        timerSyncRetrans := false, syncRetransCount := 0, linkEstabState := .initialized }
      { hciH5SendConfReq h5 with timerConfRetrans := true }
    else h5
  | .initialized =>
    if isLinkCtl skb h5sync then hciH5SendSyncResp h5
    else if isLinkCtl skb h5conf then hciH5SendConfResp h5
    else if isLinkCtl skb h5confresp then
      let h5 := { h5 with timerConfRetrans := false, confRetransCount := 0 }
      rtkNotifyHwH5InitResult (applyConfig h5 (skb.byteAt 2)) 0
    else h5
  | .active =>
    if isLinkCtl skb h5sync then
      let h5 := hciH5SendSyncResp (rtkbtH5SendHwError h5)
      let h5 := hciH5SendSyncReq { h5 with linkEstabState := .uninitialized }
      { h5 with timerSyncRetrans := true }
    else if isLinkCtl skb h5conf then hciH5SendConfResp h5
    else h5

-- `hci_recv_frame`: whether the packet is kept back for the baudrate timer.
def hciRecvFrame (h5 : HciH5Cb) (skb : RtkBuffer) (pktType : UInt8) : Bool × HciH5Cb :=
  if pktType = hciEventPkt ∧ skb.byteAt 0 = hciCommandCompleteEvt ∧
      (skb.byteAt 3).toUInt16 + ((skb.byteAt 4).toUInt16 <<< 8) = hciVscUpdateBaudrate then
    (true, { h5 with internalSkb := some skb, timerWaitCtBaudrateReady := true })
  else (false, h5)

def passUp (pktType : UInt8) : Bool :=
  pktType == hciAcldataPkt || pktType == hciEventPkt || pktType == hciScodataPkt ||
    pktType == hciCommandPkt

-- The locked section of `h5_complete_rx_pkt` for a reliable packet.
def h5CompleteRxSeq (h5 : HciH5Cb) (skb : RtkBuffer) : HciH5Cb :=
  { h5 with rxseqTxack := (h5HdrSeq skb + 1) % 8, isTxackReq := true }

def h5CompleteRxTail (h5 : HciH5Cb) (skb : RtkBuffer) : HciH5Cb :=
  let pktType := h5HdrPktType skb
  let h5 := h5RemoveAckedPkt { h5 with rxack := h5HdrAck skb }
  let h5 :=
    if pktType = h5LinkCtlPkt then h5ProcessCtlPkts h5 (skb.pull h5HdrSize)
    else if passUp pktType then
      let skb := { skb.pull h5HdrSize with packetType := pktType }
      match hciRecvFrame h5 skb pktType with
      | (true, h5) => h5
      | (false, h5) => { h5 with recvData := h5.recvData ++ [skb] }
    else h5
  { h5 with rxState := .w4PktDelimiter, rxSkb := none }

def h5CompleteRxPkt (h5 : HciH5Cb) (skb : RtkBuffer) : HciH5Cb :=
  let h5 := { h5 with log := { h5.log with completed := h5.log.completed ++ [skb] } }
  let h5 := if h5HdrReliable skb = 1 then h5WakeUp (h5CompleteRxSeq h5 skb) else h5
  h5CompleteRxTail h5 skb

-- `h5_unslip_one_byte` for a byte that stands for itself or a decoded escape.
def h5PutRxByte (h5 : HciH5Cb) (skb : RtkBuffer) (byte : UInt8) : HciH5Cb :=
  let skb := skb.put [byte]
  let messageCrc :=
    if h5HdrCrc skb = 1 ∧ h5.rxState ≠ .w4Crc then h5CrcUpdate h5.messageCrc byte
    else h5.messageCrc
  { h5 with
    rxSkb := some skb
    messageCrc := messageCrc
    rxEscState := .noesc
    rxCount := h5.rxCount - 1 }

def unslip? (byte : UInt8) : Option UInt8 :=
  if byte = 0xdc then some 0xc0
  else if byte = 0xdd then some 0xdb
  else if byte = 0xde then some 0x11
  else if byte = 0xdf then some 0x13
  else none

def h5UnslipOneByte (h5 : HciH5Cb) (skb : RtkBuffer) (byte : UInt8) : HciH5Cb :=
  match h5.rxEscState with
  | .noesc =>
    if byte = 0xdb then { h5 with rxEscState := .esc } else h5PutRxByte h5 skb byte
  | .esc =>
    match unslip? byte with
    | some decoded => h5PutRxByte h5 skb decoded
    | none => { h5 with rxSkb := none, rxState := .w4PktDelimiter, rxCount := 0 }

def dropRxPkt (h5 : HciH5Cb) : HciH5Cb :=
  { h5 with rxSkb := none, rxState := .w4PktDelimiter, rxCount := 0 }

-- How a pass through the loop of `h5_recv` ends: the byte is used up, it is looked at again, or
-- the receive buffer could not be allocated and the call returns.
inductive Pass where
  | consumed | again | returned
deriving DecidableEq, Repr

section Loop

-- What `h5_recv` calls at the end of a packet and for an unexpected sequence number.
variable (complete : HciH5Cb → RtkBuffer → HciH5Cb) (outOfOrder : HciH5Cb → HciH5Cb)

-- `switch (h5->rx_state)` for the states that look at the packet received so far.
def h5RecvPkt (h5 : HciH5Cb) (skb : RtkBuffer) : HciH5Cb :=
  match h5.rxState with
  | .w4Hdr =>
    if ~~~(skb.byteAt 0 + skb.byteAt 1 + skb.byteAt 2) ≠ skb.byteAt 3 then dropRxPkt h5
    else if h5HdrReliable skb = 1 ∧ h5HdrSeq skb ≠ h5.rxseqTxack then
      dropRxPkt (outOfOrder { h5 with isTxackReq := true })
    else { h5 with rxState := .w4Data, rxCount := h5HdrLen skb }
  | .w4Data =>
    if h5HdrCrc skb = 1 then { h5 with rxState := .w4Crc, rxCount := 2 } else complete h5 skb
  | .w4Crc =>
    if bitRev16 h5.messageCrc ≠ h5GetCrc skb then dropRxPkt h5
    else complete h5 (skb.trim (skb.data.length - 2))
  | _ => h5

def h5RecvPass (h5 : HciH5Cb) (byte : UInt8) : Pass × HciH5Cb :=
  if h5.rxCount ≠ 0 then
    if byte = 0xc0 then
      (.consumed, { h5 with rxSkb := none, rxState := .w4PktStart, rxCount := 0 })
    else (.consumed, h5UnslipOneByte h5 (h5.rxSkb.getD default) byte)
  else
    match h5.rxState with
    | .w4PktDelimiter =>
      (.consumed, if byte = 0xc0 then { h5 with rxState := .w4PktStart } else h5)
    | .w4PktStart =>
      if byte = 0xc0 then (.consumed, h5)
      else
        match skbAlloc { h5 with
            rxState := .w4Hdr, rxCount := 4, rxEscState := .noesc, messageCrc := h5CrcInit }
            0x1005 with
        | (some skb, h5) => (.again, { h5 with rxSkb := some skb })
        | (none, h5) =>
          (.returned, { h5 with rxSkb := none, rxState := .w4PktDelimiter, rxCount := 0 })
    | _ => (.again, h5RecvPkt complete outOfOrder h5 (h5.rxSkb.getD default))

def h5RecvByte : Nat → HciH5Cb → UInt8 → Bool × HciH5Cb
  | 0, h5, _ => (true, h5)
  | passes + 1, h5, byte =>
    match h5RecvPass complete outOfOrder h5 byte with
    | (.consumed, h5) => (true, h5)
    | (.again, h5) => h5RecvByte passes h5 byte
    | (.returned, h5) => (false, h5)

def h5RecvLoop (h5 : HciH5Cb) : List UInt8 → Bool × HciH5Cb
  | [] => (true, h5)
  | byte :: data =>
    match h5RecvByte complete outOfOrder 4 h5 byte with
    | (true, h5) => h5RecvLoop h5 data
    | (false, h5) => (false, h5)

end Loop

def h5Recv (h5 : HciH5Cb) (data : List UInt8) : HciH5Cb :=
  (h5RecvLoop h5CompleteRxPkt h5WakeUp h5 data).2

end UnionpiTiger.H5
