import UnionpiTiger.Lib.Overwriting

set_option autoImplicit false

namespace UnionpiTiger.Userial

open Lib

def dataTypeCommand : UInt8 := 1
def dataTypeAcl : UInt8 := 2
def dataTypeSco : UInt8 := 3
def dataTypeEvent : UInt8 := 4

def hciCommandCompleteEvt : UInt8 := 0x0E
def hciCommandStatusEvt : UInt8 := 0x0F

def hciPreambleSizes : List Nat := [3, 4, 3, 2]

def resveredSize : Nat := 2048

inductive PacketState where
  | packetIdle
  | packetType
  | packetHeader
  | packetContent
  | packetEnd
deriving DecidableEq, Repr

-- The static variables of one reader; `resvered` is the array up to its resvered_length.
structure Reassembler where
  packetState : PacketState := .packetIdle
  bytesNeed : Nat := 0
  currentType : UInt8 := 0
  resvered : List UInt8 := []
deriving DecidableEq, Repr

structure HciPacket where
  type : UInt8
  bytes : List UInt8
deriving DecidableEq, Repr

abbrev HandledData := Handled Reassembler UInt8 HciPacket

structure RecvHandler where
  preambleSize : UInt8 → Nat
  rewrite : Reassembler → List UInt8 → List UInt8

-- The bound given to memcpy_s is the number of bytes copied, so it stops nothing.
def Reassembler.memcpy (s : Reassembler) (src : List UInt8) : Result Reassembler :=
  if s.resvered.length + src.length ≤ resveredSize then
    .ok { s with resvered := s.resvered ++ src }
  else .error .overruns

def uint16At (bytes : List UInt8) (offset : Nat) : Nat :=
  (bytes.getD offset 0).toNat + 256 * (bytes.getD (offset + 1) 0).toNat

def contentSize (type : UInt8) (resvered : List UInt8) : Nat :=
  if type = dataTypeAcl then uint16At resvered 2
  else if type = dataTypeEvent then (resvered.getD 1 0).toNat
  else (resvered.getD 2 0).toNat

-- In the stages below `seen` are the bytes of the caller's buffer before p_data and `pData` the
-- bytes from p_data on; each stage falls through to the next.

def recvPending (s : Reassembler) (seen pData : List UInt8) : HandledData :=
  { next := s
    buffer := seen ++ pData
    readLength := seen.length + pData.length
    packet := none }

def recvEnd (s : Reassembler) (seen pData : List UInt8) : HandledData :=
  { next := {}
    buffer := seen ++ pData
    readLength := seen.length
    packet := some { type := s.currentType, bytes := s.resvered } }

def recvContent (handler : RecvHandler) (s : Reassembler) (seen pData : List UInt8) :
    Result HandledData :=
  let pData := handler.rewrite s pData
  if s.bytesNeed ≤ pData.length then
    (s.memcpy (pData.take s.bytesNeed)).map fun copied =>
      recvEnd { copied with bytesNeed := 0, packetState := .packetEnd }
        (seen ++ pData.take s.bytesNeed) (pData.drop s.bytesNeed)
  else
    (s.memcpy pData).map fun copied =>
      recvPending { copied with bytesNeed := s.bytesNeed - pData.length } seen pData

def recvHeader (handler : RecvHandler) (s : Reassembler) (seen pData : List UInt8) :
    Result HandledData :=
  if s.bytesNeed ≤ pData.length then
    (s.memcpy (pData.take s.bytesNeed)).bind fun copied =>
      recvContent handler
        { copied with
          packetState := .packetContent
          bytesNeed := contentSize s.currentType copied.resvered }
        (seen ++ pData.take s.bytesNeed) (pData.drop s.bytesNeed)
  else
    (s.memcpy pData).map fun copied =>
      recvPending { copied with bytesNeed := s.bytesNeed - pData.length } seen pData

def recvType (handler : RecvHandler) (s : Reassembler) (seen pData : List UInt8) :
    Result HandledData :=
  recvHeader handler
    { s with
      packetState := .packetHeader
      bytesNeed := handler.preambleSize s.currentType
      resvered := [] }
    seen pData

-- NDEBUG is undefined at the top of the file, so the assert on the type stops the process before the
-- byte could be skipped: the loop reads one type at most.
def recvIdle (handler : RecvHandler) (s : Reassembler) (seen : List UInt8) :
    List UInt8 → Result HandledData
  | [] => recvType handler { s with currentType := 0, packetState := .packetType } seen []
  | type :: pData =>
    if type < dataTypeAcl ∨ dataTypeEvent < type then .error .aborts
    else
      recvType handler { s with currentType := type, packetState := .packetType }
        (seen ++ [type]) pData

def recvData (handler : RecvHandler) (s : Reassembler) (recvBuffer : List UInt8) :
    Result HandledData :=
  match s.packetState with
  | .packetIdle => recvIdle handler { s with bytesNeed := 1 } [] recvBuffer
  | .packetType => recvType handler s [] recvBuffer
  | .packetHeader => recvHeader handler s [] recvBuffer
  | .packetContent => recvContent handler s [] recvBuffer
  | .packetEnd => .ok (recvEnd s [] recvBuffer)

def rewriteNumHciCommandPackets (s : Reassembler) (pData : List UInt8) : List UInt8 :=
  if s.currentType = dataTypeEvent then
    let event := s.resvered.getD 0 0
    if event = hciCommandCompleteEvt then
      if s.resvered.length = 2 then
        if 1 ≤ pData.length then pData.set 0 1 else pData
      else pData
    else if event = hciCommandStatusEvt then
      if s.resvered.length < 4 then
        let actLen := 4 - s.resvered.length
        if actLen ≤ pData.length then pData.set (actLen - 1) 1 else pData
      else pData
    else pData
  else pData

def recvHandler : RecvHandler :=
  { preambleSize := fun type => hciPreambleSizes.getD (type.toNat - 1) 0
    rewrite := rewriteNumHciCommandPackets }

def userialHandleRecvData (s : Reassembler) (recvBuffer : List UInt8) : Result HandledData :=
  if recvBuffer.length = 0 then .ok (recvPending s [] recvBuffer)
  else recvData recvHandler s recvBuffer

def coexHandler : RecvHandler :=
  { preambleSize := fun type =>
      if type = dataTypeAcl then 4 else if type = dataTypeEvent then 2 else 3
    rewrite := fun _ pData => pData }

def userialCoexRecvDataHandler (s : Reassembler) (recvBuffer : List UInt8) : Result HandledData :=
  recvData coexHandler s recvBuffer

end UnionpiTiger.Userial
