import UnionpiTiger.Userial.Resume

set_option autoImplicit false

namespace UnionpiTiger.Userial

open Lib

def hciVscH5Init : Nat := 0xFCEE
def hciBleWriteScanParams : Nat := 0x200B
def hciLeSetExtendedScanParameters : Nat := 0x2041
def hciAcceptConnectionRequest : Nat := 0x0409
def hciBleWriteAdvParams : Nat := 0x2006
def hciBleWriteAdvEnable : Nat := 0x200A
def hciBleCreateLlConn : Nat := 0x200D
def hciProtoVersion42 : UInt8 := 8

def h4ReadBufferSize : Nat := 2048

structure AdvCon where
  advertingType : UInt8 := 0
  advertingEnable : Bool := false
  advertingStart : Bool := false
deriving DecidableEq, Repr

-- What the reader passes on: bytes for the UART, an skb for h5_enqueue, a command for
-- h5_send_sync_cmd, or a copy for the coexistence thread.
inductive HostAction where
  | h4IntTransmitData (data : List UInt8)
  | h5Enqueue (skb : HciPacket)
  | h5SendSyncCmd (opcode length : Nat)
  | userialEnqueueCoexRawdata (buffer : List UInt8)
deriving DecidableEq, Repr

def HostAction.toTransport : HostAction → Bool
  | .userialEnqueueCoexRawdata _ => false
  | _ => true

-- What a complete packet is worked on with: `transH4` is get_rtkbt_transtype() & RTKBT_TRANS_H4.
structure HostSender where
  transH4 : Bool := false
  hciVersion : UInt8 := 0
  h4ReadBuffer : List UInt8 := List.replicate h4ReadBufferSize 0
  advCon : AdvCon := {}
deriving DecidableEq, Repr

def hciH5SendCmd (type : UInt8) (data : List UInt8) : List HostAction :=
  if type ≠ dataTypeCommand then [] else [.h5Enqueue ⟨type, data⟩]

def hciH5SendAclData (type : UInt8) (data : List UInt8) : List HostAction :=
  [.h5Enqueue ⟨type, data⟩]

def hciH5SendScoData (type : UInt8) (data : List UInt8) : List HostAction :=
  [.h5Enqueue ⟨type, data⟩]

def HostSender.sendToController (send : UInt8 → List UInt8 → List HostAction) (type : UInt8)
    (s : HostSender) (recvBuffer : List UInt8) : List HostAction :=
  (if s.transH4 then [.h4IntTransmitData recvBuffer] else send type (recvBuffer.drop 1)) ++
    [.userialEnqueueCoexRawdata recvBuffer]

def HostSender.userialSendCmdToController : HostSender → List UInt8 → List HostAction :=
  sendToController hciH5SendCmd dataTypeCommand

def HostSender.userialSendAclToController : HostSender → List UInt8 → List HostAction :=
  sendToController hciH5SendAclData dataTypeAcl

def HostSender.userialSendScoToController : HostSender → List UInt8 → List HostAction :=
  sendToController hciH5SendScoData dataTypeSco

def setUint16 (bytes : List UInt8) (offset value : Nat) : List UInt8 :=
  (bytes.set offset (UInt8.ofNat value)).set (offset + 1) (UInt8.ofNat (value / 256))

-- A scan interval and window at the given offsets. A window of 0 divides by zero in the source,
-- which the processor answers with 0.
def limitScan (intervalAt windowAt lastAt : Nat) (recvBuffer : List UInt8) : List UInt8 :=
  let scanInt := uint16At recvBuffer intervalAt
  let scanWin := uint16At recvBuffer windowAt
  if 20 < scanWin then
    let interval := if 2 < scanInt / scanWin then scanInt * 20 / scanWin else 40
    setUint16 (setUint16 recvBuffer intervalAt interval) windowAt 20
  else if scanWin = scanInt then setUint16 recvBuffer intervalAt ((scanInt * 5) &&& 0xFE)
  else if scanInt / scanWin ≤ 2 then setUint16 recvBuffer lastAt ((scanInt * 3) &&& 0xFE)
  else recvBuffer

def disableAdvCmd : List UInt8 := [0x01, 0x0A, 0x20, 0x01, 0x00]

-- `recvBuffer` is the array from its second byte on, past the end of the command as well.
def HostSender.rewrite (s : HostSender) (recvBuffer : List UInt8) : HostSender :=
  { s with h4ReadBuffer := s.h4ReadBuffer.take 1 ++ recvBuffer }

-- The property in prop_value is the constant "master" for the role and "false" for the advertising
-- type.
def HostSender.userialHandleCmd (s : HostSender) : HostSender × List HostAction :=
  let recvBuffer := s.h4ReadBuffer.drop 1
  let opcode := uint16At recvBuffer 0
  if opcode = hciBleWriteScanParams then (s.rewrite (limitScan 4 6 4 recvBuffer), [])
  else if opcode = hciLeSetExtendedScanParameters then (s.rewrite (limitScan 7 9 9 recvBuffer), [])
  else if opcode = hciAcceptConnectionRequest then
    if recvBuffer.getD 9 0 = 1 then (s.rewrite (recvBuffer.set 9 0), []) else (s, [])
  else if opcode = hciBleWriteAdvParams then
    if hciProtoVersion42 < s.hciVersion then (s, [])
    else ({ s with advCon := { s.advCon with advertingType := recvBuffer.getD 7 0 } }, [])
  else if opcode = hciBleWriteAdvEnable then
    if hciProtoVersion42 < s.hciVersion then (s, [])
    else if recvBuffer.getD 2 0 = 1 then
      ({ s with advCon := { s.advCon with advertingStart := true } }, [])
    else if recvBuffer.getD 2 0 = 0 then ({ s with advCon := {} }, [])
    else (s, [])
  else if opcode = hciBleCreateLlConn then
    if hciProtoVersion42 < s.hciVersion then (s, [])
    else if s.advCon.advertingEnable ∧ (s.advCon.advertingType = 0 ∨ s.advCon.advertingType = 1 ∨
        s.advCon.advertingType = 4) then
      ({ s with advCon := { s.advCon with advertingEnable := false } },
        s.userialSendCmdToController disableAdvCmd)
    else (s, [])
  else (s, [])

def HostSender.sendCmd (s : HostSender) (type : UInt8) (h4ReadLength : Nat) : List HostAction :=
  let data := s.h4ReadBuffer.take (h4ReadLength + 1)
  let opcode := uint16At s.h4ReadBuffer 1
  (if s.transH4 then [.h4IntTransmitData data]
    else if opcode = hciVscH5Init then [.h5SendSyncCmd opcode h4ReadLength]
    else hciH5SendCmd type (data.drop 1)) ++ [.userialEnqueueCoexRawdata data]

-- RTKBT_PACKET_END: `type` is the local variable of the call, `currentType` the static one.
def HostSender.packetEnd (s : HostSender) (type currentType : UInt8) (h4ReadLength : Nat) :
    HostSender × List HostAction :=
  if currentType = dataTypeCommand then
    (s.userialHandleCmd.1, s.userialHandleCmd.2 ++ s.userialHandleCmd.1.sendCmd type h4ReadLength)
  else
    let data := s.h4ReadBuffer.take (h4ReadLength + 1)
    (s, if currentType = dataTypeAcl then s.userialSendAclToController data
      else if currentType = dataTypeSco then s.userialSendScoToController data
      else [.userialEnqueueCoexRawdata data])

-- The statics of userial_recv_H4_rawdata; `uart` is what the host has written to the socket and the
-- reader has not read, `actions` what it has passed on.
structure HostReader where
  packetRecvState : PacketState := .packetIdle
  packetBytesNeed : Nat := 0
  currentType : UInt8 := 0
  h4ReadLength : Nat := 0
  uart : List UInt8 := []
  sender : HostSender := {}
  actions : List HostAction := []
deriving DecidableEq, Repr

inductive ReadResult where
  | error
  | bytes (count : Nat)
deriving DecidableEq, Repr

-- read(uart_fd[1], &h4_read_buffer[h4_read_length + 1], packet_bytes_need).
def HostReader.read (r : HostReader) (count : Nat) : Result HostReader :=
  let bytes := r.uart.take (min count r.packetBytesNeed)
  let start := r.h4ReadLength + 1
  if start + bytes.length ≤ r.sender.h4ReadBuffer.length then
    .ok
      { r with
        packetBytesNeed := r.packetBytesNeed - bytes.length
        h4ReadLength := r.h4ReadLength + bytes.length
        uart := r.uart.drop bytes.length
        sender := { r.sender with
          h4ReadBuffer := r.sender.h4ReadBuffer.take start ++ bytes ++
            r.sender.h4ReadBuffer.drop (start + bytes.length) } }
  else .error .overruns

-- h4_read_buffer[COMMON_DATA_LENGTH_INDEX], two bytes of it for ACL; an EVENT is never read here.
def h4ContentSize (currentType : UInt8) (h4ReadBuffer : List UInt8) : Nat :=
  if currentType = dataTypeAcl then uint16At h4ReadBuffer 3
  else if currentType = dataTypeEvent then (h4ReadBuffer.getD 2 0).toNat
  else (h4ReadBuffer.getD 3 0).toNat

def HostReader.readEnd (type : UInt8) (r : HostReader) : HostReader :=
  let sent := r.sender.packetEnd type r.currentType r.h4ReadLength
  { packetRecvState := .packetIdle
    packetBytesNeed := 0
    currentType := 0
    h4ReadLength := 0
    uart := r.uart
    sender := sent.1
    actions := r.actions ++ sent.2 }

-- Each stage takes the results of the reads the call has left, one by one, and falls through to the
-- next stage; where the results end, so does the call, with an error.

def HostReader.readContent (type : UInt8) : HostReader → List ReadResult → Result HostReader
  | r, [] =>
    if r.packetBytesNeed = 0 then .ok (readEnd type { r with packetRecvState := .packetEnd })
    else .ok r
  | r, result :: results =>
    if r.packetBytesNeed = 0 then .ok (readEnd type { r with packetRecvState := .packetEnd })
    else
      match result with
      | .error => .ok r
      | .bytes count =>
        (r.read count).bind fun next =>
          if next.h4ReadLength = r.h4ReadLength then .ok next
          else readContent type next results

def HostReader.readHeader (type : UInt8) : HostReader → List ReadResult → Result HostReader
  | r, [] => .ok r
  | r, .error :: _ => .ok r
  | r, .bytes count :: results =>
    (r.read count).bind fun next =>
      if next.h4ReadLength = r.h4ReadLength ∧ r.packetBytesNeed ≠ 0 then .ok next
      else if next.packetBytesNeed = 0 then
        readContent type
          { next with
            packetRecvState := .packetContent
            packetBytesNeed := h4ContentSize next.currentType next.sender.h4ReadBuffer }
          results
      else readHeader type next results

def HostReader.readType (type : UInt8) (r : HostReader) (results : List ReadResult) :
    Result HostReader :=
  readHeader type
    { r with
      packetRecvState := .packetHeader
      packetBytesNeed := hciPreambleSizes.getD (r.currentType.toNat - 1) 0
      h4ReadLength := 0 }
    results

-- The loop around the read of the type is never taken twice: where the type is not one of the
-- host's, the assert on it stops the process.
def HostReader.readIdle : HostReader → List ReadResult → Result HostReader
  | r, [] => .ok r
  | r, .error :: _ => .ok r
  | r, .bytes count :: results =>
    match r.uart.take (min count 1) with
    | [] => .ok r
    | type :: _ =>
      let r := { r with uart := r.uart.drop 1 }
      if type < dataTypeCommand ∨ dataTypeSco < type then .error .aborts
      else
        readType type
          { r with
            packetRecvState := .packetType
            packetBytesNeed := 0
            currentType := type
            sender := { r.sender with h4ReadBuffer := r.sender.h4ReadBuffer.set 0 type } }
          results

def HostReader.userialRecvH4Rawdata (r : HostReader) (results : List ReadResult) :
    Result HostReader :=
  match r.packetRecvState with
  | .packetIdle => readIdle { r with packetBytesNeed := 1 } results
  | .packetType => readType 0 r results
  | .packetHeader => readHeader 0 r results
  | .packetContent => readContent 0 r results
  | .packetEnd => .ok (readEnd 0 r)

-- The calls userial_recv_socket_thread makes, each with the results of its reads.
def HostReader.run : HostReader → List (List ReadResult) → Result HostReader
  | r, [] => .ok r
  | r, results :: calls => (r.userialRecvH4Rawdata results).bind fun next => next.run calls

def h4HeaderSize (type : UInt8) : Nat := hciPreambleSizes.getD (type.toNat - 1) 0

-- A packet of the host that has room in h4_read_buffer, its type byte included.
structure HciPacket.FromHost (p : HciPacket) : Prop where
  type : p.type = dataTypeCommand ∨ p.type = dataTypeAcl ∨ p.type = dataTypeSco
  header : h4HeaderSize p.type ≤ p.bytes.length
  length : p.bytes.length = h4HeaderSize p.type + contentSize p.type p.bytes
  fits : p.wire.length ≤ h4ReadBufferSize

instance HciPacket.FromHost.decidable (p : HciPacket) : Decidable p.FromHost :=
  decidable_of_iff
    ((p.type = dataTypeCommand ∨ p.type = dataTypeAcl ∨ p.type = dataTypeSco) ∧
      h4HeaderSize p.type ≤ p.bytes.length ∧
      p.bytes.length = h4HeaderSize p.type + contentSize p.type p.bytes ∧
      p.wire.length ≤ h4ReadBufferSize)
    ⟨fun ⟨type, header, length, fits⟩ => ⟨type, header, length, fits⟩,
      fun host => ⟨host.type, host.header, host.length, host.fits⟩⟩

def HostSender.laid (s : HostSender) (bytes : List UInt8) : HostSender :=
  { s with h4ReadBuffer := bytes ++ s.h4ReadBuffer.drop bytes.length }

def HostSender.deliver (s : HostSender) (type : UInt8) (p : HciPacket) :
    HostSender × List HostAction :=
  (s.laid p.wire).packetEnd type p.type p.bytes.length

-- What lies before a packet: the sender and the actions so far.
@[ext] structure HostSent where
  sender : HostSender
  actions : List HostAction

def HostSent.deliver (s : HostSent) (type : UInt8) (p : HciPacket) : HostSent :=
  ⟨(s.sender.deliver type p).1, s.actions ++ (s.sender.deliver type p).2⟩

def HostReader.during (s : HostSent) (more : List UInt8) (p : HciPacket) (j : Nat) : HostReader :=
  { packetRecvState := if j < h4HeaderSize p.type then .packetHeader else .packetContent
    packetBytesNeed := (if j < h4HeaderSize p.type then h4HeaderSize p.type else p.bytes.length) - j
    currentType := p.type
    h4ReadLength := j
    uart := p.bytes.drop j ++ more
    sender := s.sender.laid (p.type :: p.bytes.take j)
    actions := s.actions }

def HostReader.finished (s : HostSent) (more : List UInt8) (p : HciPacket) (type : UInt8) :
    HostReader :=
  { uart := more
    sender := (s.deliver type p).sender
    actions := (s.deliver type p).actions }

theorem HciPacket.FromHost.header_pos {p : HciPacket} (host : p.FromHost) :
    3 ≤ h4HeaderSize p.type := by
  rcases host.type with command | acl | sco
  · rw [command]
    decide
  · rw [acl]
    decide
  · rw [sco]
    decide

section Reads

variable {s : HostSender} {p : HciPacket} {more : List UInt8}

theorem HostSender.laid_length {bytes : List UInt8} (size : s.h4ReadBuffer.length = h4ReadBufferSize)
    (fits : bytes.length ≤ h4ReadBufferSize) :
    (s.laid bytes).h4ReadBuffer.length = h4ReadBufferSize := by
  simp only [HostSender.laid, List.length_append, List.length_drop, size]
  omega

theorem HostSender.laid_piece (s : HostSender) (front piece : List UInt8) :
    (s.laid front).h4ReadBuffer.take front.length ++ piece ++
        (s.laid front).h4ReadBuffer.drop (front.length + piece.length) =
      (s.laid (front ++ piece)).h4ReadBuffer := by
  simp only [HostSender.laid, List.take_left, ← List.drop_drop, List.drop_left, List.length_append,
    List.append_assoc]

theorem HostReader.read_within {r : HostReader} {j : Nat} (host : p.FromHost)
    (size : s.h4ReadBuffer.length = h4ReadBufferSize) (length : r.h4ReadLength = j)
    (need : j + r.packetBytesNeed ≤ p.bytes.length) (uart : r.uart = p.bytes.drop j ++ more)
    (sender : r.sender = s.laid (p.type :: p.bytes.take j)) (count : Nat) :
    r.read count = .ok
      { r with
        packetBytesNeed := r.packetBytesNeed - min count r.packetBytesNeed
        h4ReadLength := j + min count r.packetBytesNeed
        uart := p.bytes.drop (j + min count r.packetBytesNeed) ++ more
        sender := s.laid (p.type :: p.bytes.take (j + min count r.packetBytesNeed)) } := by
  have enough : min count r.packetBytesNeed ≤ (p.bytes.drop j).length := by
    rw [List.length_drop]
    omega
  have fits := host.fits
  have front : (p.type :: p.bytes.take j).length = j + 1 := by
    rw [List.length_cons, List.length_take]
    omega
  have piece : ((p.bytes.drop j).take (min count r.packetBytesNeed)).length =
      min count r.packetBytesNeed := by
    rw [List.length_take]
    omega
  have whole : (s.laid (p.type :: p.bytes.take j)).h4ReadBuffer.length = h4ReadBufferSize := by
    apply HostSender.laid_length size
    rw [front]
    simp only [HciPacket.wire, List.length_cons] at fits
    omega
  have joined := HostSender.laid_piece s (p.type :: p.bytes.take j)
    ((p.bytes.drop j).take (min count r.packetBytesNeed))
  rw [front, piece, List.cons_append, ← List.take_add] at joined
  simp only [HciPacket.wire, List.length_cons] at fits
  simp only [HostReader.read, uart, length, sender, List.take_append_of_le_length enough, piece,
    whole, List.drop_append_of_le_length enough, List.drop_drop, joined]
  rw [if_pos (by omega)]
  rfl

end Reads

section Calls

variable {s : HostSent} {p : HciPacket} {more : List UInt8}

def HostReader.Reaches (s : HostSent) (more : List UInt8) (p : HciPacket) (type : UInt8) (j : Nat)
    (r : HostReader) : Prop :=
  r = finished s more p type ∨ ∃ j', j ≤ j' ∧ j' < p.bytes.length ∧ r = during s more p j'

theorem HostReader.Reaches.mono {r : HostReader} {type : UInt8} {j k : Nat} (le : j ≤ k)
    (reaches : Reaches s more p type k r) : Reaches s more p type j r := by
  rcases reaches with done | ⟨j', later, inside, place⟩
  · exact .inl done
  · exact .inr ⟨j', Nat.le_trans le later, inside, place⟩

theorem HostReader.during_content {j : Nat} (content : h4HeaderSize p.type ≤ j) :
    during s more p j =
      { packetRecvState := .packetContent
        packetBytesNeed := p.bytes.length - j
        currentType := p.type
        h4ReadLength := j
        uart := p.bytes.drop j ++ more
        sender := s.sender.laid (p.type :: p.bytes.take j)
        actions := s.actions } := by
  rw [during, if_neg (Nat.not_lt.mpr content), if_neg (Nat.not_lt.mpr content)]

theorem HostReader.during_header {j : Nat} (header : j < h4HeaderSize p.type) :
    during s more p j =
      { packetRecvState := .packetHeader
        packetBytesNeed := h4HeaderSize p.type - j
        currentType := p.type
        h4ReadLength := j
        uart := p.bytes.drop j ++ more
        sender := s.sender.laid (p.type :: p.bytes.take j)
        actions := s.actions } := by
  rw [during, if_pos header, if_pos header]

theorem HostReader.read_content (host : p.FromHost)
    (size : s.sender.h4ReadBuffer.length = h4ReadBufferSize) {j : Nat}
    (content : h4HeaderSize p.type ≤ j) (inside : j ≤ p.bytes.length) (count : Nat) :
    (during s more p j).read count =
      .ok (during s more p (j + min count (p.bytes.length - j))) := by
  rw [during_content content, during_content (Nat.le_trans content (Nat.le_add_right _ _)),
    read_within host size rfl (by dsimp only; omega) rfl rfl count]
  simp only [Nat.sub_sub]

theorem HostReader.read_header (host : p.FromHost)
    (size : s.sender.h4ReadBuffer.length = h4ReadBufferSize) {j : Nat}
    (header : j < h4HeaderSize p.type) (count : Nat) :
    (during s more p j).read count = .ok
      { packetRecvState := .packetHeader
        packetBytesNeed := h4HeaderSize p.type - (j + min count (h4HeaderSize p.type - j))
        currentType := p.type
        h4ReadLength := j + min count (h4HeaderSize p.type - j)
        uart := p.bytes.drop (j + min count (h4HeaderSize p.type - j)) ++ more
        sender := s.sender.laid
          (p.type :: p.bytes.take (j + min count (h4HeaderSize p.type - j)))
        actions := s.actions } := by
  have long := host.header
  rw [during_header header, read_within host size rfl (by dsimp only; omega) rfl rfl count]
  simp only [Nat.sub_sub]

theorem HostReader.readContent_ends (type : UInt8) (content : h4HeaderSize p.type ≤ p.bytes.length)
    (results : List ReadResult) :
    readContent type (during s more p p.bytes.length) results =
      .ok (finished s more p type) := by
  have ends : readEnd type { during s more p p.bytes.length with packetRecvState := .packetEnd } =
      finished s more p type := by
    rw [during_content content]
    simp only [readEnd, finished, HostSent.deliver, HostSender.deliver, HciPacket.wire,
      List.take_length, List.drop_length, List.nil_append]
  rw [← ends, during_content content]
  cases results with
  | nil => exact if_pos (Nat.sub_self _)
  | cons result results => exact if_pos (Nat.sub_self _)

theorem HostReader.readContent_bytes (host : p.FromHost)
    (size : s.sender.h4ReadBuffer.length = h4ReadBufferSize) (type : UInt8) (results : List ReadResult)
    {j : Nat} (content : h4HeaderSize p.type ≤ j) (inside : j < p.bytes.length) (count : Nat) :
    readContent type (during s more p j) (.bytes count :: results) =
      if count = 0 then .ok (during s more p j)
      else readContent type (during s more p (j + min count (p.bytes.length - j))) results := by
  have unfinished : ¬ (during s more p j).packetBytesNeed = 0 := by
    rw [during_content content]
    dsimp only
    omega
  rw [readContent, if_neg unfinished, read_content host size content (Nat.le_of_lt inside),
    Result.bind_ok]
  by_cases nothing : count = 0
  · rw [if_pos nothing, nothing, Nat.zero_min, Nat.add_zero, if_pos rfl]
  · rw [if_neg nothing, if_neg]
    change ¬ j + min count (p.bytes.length - j) = j
    omega

theorem HostReader.readContent_reaches (host : p.FromHost)
    (size : s.sender.h4ReadBuffer.length = h4ReadBufferSize) (type : UInt8) (results : List ReadResult)
    {j : Nat} (content : h4HeaderSize p.type ≤ j) (inside : j ≤ p.bytes.length) :
    ∃ r, readContent type (during s more p j) results = .ok r ∧ Reaches s more p type j r := by
  induction results generalizing j with
  | nil =>
    by_cases last : j = p.bytes.length
    · rw [last]
      exact ⟨_, readContent_ends type host.header [], .inl rfl⟩
    · refine ⟨during s more p j, ?_, .inr ⟨j, Nat.le_refl j, by omega, rfl⟩⟩
      rw [during_content content]
      exact if_neg (by dsimp only; omega)
  | cons result results ih =>
    by_cases last : j = p.bytes.length
    · rw [last]
      exact ⟨_, readContent_ends type host.header (result :: results), .inl rfl⟩
    · have short : j < p.bytes.length := by omega
      cases result with
      | error =>
        refine ⟨during s more p j, ?_, .inr ⟨j, Nat.le_refl j, short, rfl⟩⟩
        rw [during_content content]
        exact if_neg (by dsimp only; omega)
      | bytes count =>
        rw [readContent_bytes host size type results content short]
        split_ifs with nothing
        · exact ⟨_, rfl, .inr ⟨j, Nat.le_refl j, short, rfl⟩⟩
        · obtain ⟨r, call, reaches⟩ :=
            ih (Nat.le_trans content (Nat.le_add_right j (min count (p.bytes.length - j)))) (by omega)
          exact ⟨r, call, reaches.mono (Nat.le_add_right _ _)⟩

theorem h4ContentSize_laid (host : p.FromHost) :
    h4ContentSize p.type (s.sender.laid (p.type :: p.bytes.take (h4HeaderSize p.type))).h4ReadBuffer =
      p.bytes.length - h4HeaderSize p.type := by
  have header := host.header
  have reads : ∀ i, i < h4HeaderSize p.type →
      (s.sender.laid (p.type :: p.bytes.take (h4HeaderSize p.type))).h4ReadBuffer.getD (i + 1) 0 =
        p.bytes.getD i 0 := by
    intro i early
    have within : i < (p.bytes.take (h4HeaderSize p.type)).length := by
      rw [List.length_take]
      omega
    rw [HostSender.laid, List.cons_append, List.getD_cons_succ, List.getD_eq_getElem?_getD,
      List.getD_eq_getElem?_getD, List.getElem?_append_left within, List.getElem?_take_of_lt early]
  have size : contentSize p.type p.bytes = p.bytes.length - h4HeaderSize p.type := by
    have length := host.length
    omega
  rw [← size]
  rcases host.type with command | acl | sco
  · rw [command] at reads ⊢
    exact congrArg UInt8.toNat (reads 2 (by decide))
  · rw [acl] at reads ⊢
    simp only [h4ContentSize, contentSize, if_true, uint16At]
    rw [reads 2 (by decide), reads 3 (by decide)]
  · rw [sco] at reads ⊢
    exact congrArg UInt8.toNat (reads 2 (by decide))

theorem HostReader.readHeader_bytes (host : p.FromHost)
    (size : s.sender.h4ReadBuffer.length = h4ReadBufferSize) (type : UInt8) (results : List ReadResult)
    {j : Nat} (header : j < h4HeaderSize p.type) (count : Nat) :
    readHeader type (during s more p j) (.bytes count :: results) =
      if count = 0 then .ok (during s more p j)
      else if h4HeaderSize p.type ≤ j + count then
        readContent type (during s more p (h4HeaderSize p.type)) results
      else readHeader type (during s more p (j + count)) results := by
  have needs : (during s more p j).packetBytesNeed ≠ 0 := by
    rw [during_header header]
    dsimp only
    omega
  rw [readHeader, read_header host size header, Result.bind_ok]
  dsimp only
  by_cases nothing : count = 0
  · rw [if_pos nothing, nothing, Nat.zero_min, Nat.add_zero, if_pos ⟨rfl, needs⟩,
      during_header header]
  · have moved : ¬ j + min count (h4HeaderSize p.type - j) = (during s more p j).h4ReadLength := by
      change ¬ _ = j
      omega
    rw [if_neg nothing, if_neg fun same => moved same.1]
    by_cases ends : h4HeaderSize p.type ≤ j + count
    · have arrived : j + min count (h4HeaderSize p.type - j) = h4HeaderSize p.type := by omega
      rw [arrived, if_pos (Nat.sub_self _), if_pos ends, during_content (Nat.le_refl _),
        h4ContentSize_laid host]
    · have arrived : j + min count (h4HeaderSize p.type - j) = j + count := by omega
      rw [arrived, if_neg (by omega), if_neg ends, during_header (Nat.lt_of_not_le ends)]

theorem HostReader.readHeader_reaches (host : p.FromHost)
    (size : s.sender.h4ReadBuffer.length = h4ReadBufferSize) (type : UInt8) (results : List ReadResult)
    {j : Nat} (header : j < h4HeaderSize p.type) :
    ∃ r, readHeader type (during s more p j) results = .ok r ∧ Reaches s more p type j r := by
  have long := host.header
  have stays : Reaches s more p type j (during s more p j) :=
    .inr ⟨j, Nat.le_refl j, by omega, rfl⟩
  induction results generalizing j with
  | nil => exact ⟨_, rfl, stays⟩
  | cons result results ih =>
    cases result with
    | error => exact ⟨_, rfl, stays⟩
    | bytes count =>
      rw [readHeader_bytes host size type results header]
      split_ifs with nothing ends
      · exact ⟨_, rfl, stays⟩
      · obtain ⟨r, call, reaches⟩ :=
          readContent_reaches host size type results (Nat.le_refl _) host.header
        exact ⟨r, call, reaches.mono (Nat.le_of_lt header)⟩
      · obtain ⟨r, call, reaches⟩ := ih (Nat.lt_of_not_le ends)
          (.inr ⟨j + count, Nat.le_refl _, by omega, rfl⟩)
        exact ⟨r, call, reaches.mono (Nat.le_add_right _ _)⟩

theorem HostReader.call_during (host : p.FromHost)
    (size : s.sender.h4ReadBuffer.length = h4ReadBufferSize) (results : List ReadResult) {j : Nat}
    (inside : j < p.bytes.length) :
    ∃ r, (during s more p j).userialRecvH4Rawdata results = .ok r ∧ Reaches s more p 0 j r := by
  by_cases header : j < h4HeaderSize p.type
  · have state : (during s more p j).packetRecvState = .packetHeader := if_pos header
    rw [userialRecvH4Rawdata, state]
    exact readHeader_reaches host size 0 results header
  · have state : (during s more p j).packetRecvState = .packetContent := if_neg header
    rw [userialRecvH4Rawdata, state]
    exact readContent_reaches host size 0 results (Nat.le_of_not_lt header) (Nat.le_of_lt inside)

theorem not_invalid_fromHost (host : p.FromHost) :
    ¬ (p.type < dataTypeCommand ∨ dataTypeSco < p.type) := by
  rcases host.type with command | acl | sco
  · rw [command]
    decide
  · rw [acl]
    decide
  · rw [sco]
    decide

theorem HostReader.call_type {r : HostReader} (host : p.FromHost)
    (size : r.sender.h4ReadBuffer.length = h4ReadBufferSize)
    (idle : r.packetRecvState = .packetIdle) (uart : r.uart = p.wire ++ more) (count : Nat)
    (results : List ReadResult) :
    r.userialRecvH4Rawdata (.bytes (count + 1) :: results) =
      readHeader p.type (during ⟨r.sender, r.actions⟩ more p 0) results := by
  have one : min (count + 1) 1 = 1 := by omega
  have header : 0 < h4HeaderSize p.type := Nat.lt_of_lt_of_le (by decide) host.header_pos
  have typed : r.sender.h4ReadBuffer.set 0 p.type =
      (r.sender.laid (p.type :: p.bytes.take 0)).h4ReadBuffer := by
    obtain ⟨first, rest, buffer⟩ := List.exists_cons_of_length_eq_add_one size
    rw [HostSender.laid, buffer]
    rfl
  rw [userialRecvH4Rawdata, idle, during_header header]
  simp only [readIdle, one, uart, HciPacket.wire, List.cons_append, List.take_succ_cons,
    List.take_zero, List.drop_succ_cons, List.drop_zero]
  rw [if_neg (not_invalid_fromHost host), typed]
  rfl

theorem HostReader.call_idle {r : HostReader} (host : p.FromHost)
    (size : r.sender.h4ReadBuffer.length = h4ReadBufferSize)
    (idle : r.packetRecvState = .packetIdle) (uart : r.uart = p.wire ++ more)
    (results : List ReadResult) :
    r.userialRecvH4Rawdata results = .ok { r with packetBytesNeed := 1 } ∨
    ∃ next, r.userialRecvH4Rawdata results = .ok next ∧
      Reaches ⟨r.sender, r.actions⟩ more p p.type 0 next := by
  have waits : ∀ rest, r.userialRecvH4Rawdata (.bytes 0 :: rest) =
      .ok { r with packetBytesNeed := 1 } := by
    intro rest
    rw [userialRecvH4Rawdata, idle]
    dsimp only
    rw [readIdle, Nat.zero_min, List.take_zero]
  have stops : ∀ results, (results = [] ∨ ∃ rest, results = .error :: rest) →
      r.userialRecvH4Rawdata results = .ok { r with packetBytesNeed := 1 } := by
    rintro results (rfl | ⟨rest, rfl⟩)
    · rw [userialRecvH4Rawdata, idle]
      rfl
    · rw [userialRecvH4Rawdata, idle]
      rfl
  cases results with
  | nil => exact .inl (stops [] (.inl rfl))
  | cons result results =>
    cases result with
    | error => exact .inl (stops _ (.inr ⟨results, rfl⟩))
    | bytes count =>
      cases count with
      | zero => exact .inl (waits results)
      | succ count =>
        rw [call_type host size idle uart]
        exact .inr (readHeader_reaches host size p.type results
          (Nat.lt_of_lt_of_le (by decide) host.header_pos))

def wholeReads : List ReadResult :=
  [.bytes h4ReadBufferSize, .bytes h4ReadBufferSize, .bytes h4ReadBufferSize]

theorem HostReader.call_whole {r : HostReader} (host : p.FromHost)
    (size : r.sender.h4ReadBuffer.length = h4ReadBufferSize)
    (idle : r.packetRecvState = .packetIdle) (uart : r.uart = p.wire ++ more) :
    r.userialRecvH4Rawdata wholeReads =
      .ok (finished ⟨r.sender, r.actions⟩ more p p.type) := by
  have fits := host.fits
  have header := host.header
  rw [HciPacket.wire, List.length_cons] at fits
  rw [wholeReads, h4ReadBufferSize, call_type host size idle uart,
    readHeader_bytes host size p.type _ (Nat.lt_of_lt_of_le (by decide) host.header_pos),
    if_neg (by decide), if_pos (by rw [h4ReadBufferSize] at fits; omega)]
  by_cases last : h4HeaderSize p.type = p.bytes.length
  · rw [last]
    exact readContent_ends p.type host.header _
  · rw [readContent_bytes host size p.type [] (Nat.le_refl _) (by omega), if_neg (by decide)]
    have arrived : h4HeaderSize p.type + min 2048 (p.bytes.length - h4HeaderSize p.type) =
        p.bytes.length := by
      rw [h4ReadBufferSize] at fits
      omega
    rw [arrived]
    exact readContent_ends p.type host.header []

end Calls

end UnionpiTiger.Userial
