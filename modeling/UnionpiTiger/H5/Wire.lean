import Mathlib.Data.List.Basic

set_option autoImplicit false

namespace UnionpiTiger.Bt

structure RtkBuffer where
  data : List UInt8 := []
  stale : List UInt8 := []
  room : Nat := 0
  packetType : UInt8 := 0
deriving DecidableEq, Repr, Inhabited

namespace RtkBuffer

def rtbAllocate (length : Nat) (garbage : List UInt8) : RtkBuffer :=
  { stale := garbage, room := length }

-- `skb_put` and the copy into the space it returns; without room `RtbAddTail` returns NULL and
-- `memcpy_s` copies nothing.
def put (skb : RtkBuffer) (bytes : List UInt8) : RtkBuffer :=
  if bytes.length ≤ skb.room then
    { skb with
      data := skb.data ++ bytes
      stale := skb.stale.drop bytes.length
      room := skb.room - bytes.length }
  else skb

def pull (skb : RtkBuffer) (length : Nat) : RtkBuffer :=
  if length ≤ skb.data.length then { skb with data := skb.data.drop length } else skb

-- `skb_trim` to `length` bytes: `RtbRemoveTail` moves `End` back and leaves the bytes in memory.
def trim (skb : RtkBuffer) (length : Nat) : RtkBuffer :=
  if length ≤ skb.data.length then
    { skb with
      data := skb.data.take length
      stale := skb.data.drop length ++ skb.stale
      room := skb.room + (skb.data.length - length) }
  else skb

-- `skb_get_data(skb)[index]`, which C does not bound by the length.
def byteAt (skb : RtkBuffer) (index : Nat) : UInt8 :=
  (skb.data ++ skb.stale).getD index 0

@[simp] theorem put_data_of_room (skb : RtkBuffer) (bytes : List UInt8)
    (room : bytes.length ≤ skb.room) : (skb.put bytes).data = skb.data ++ bytes := by
  simp [put, room]

@[simp] theorem put_room_of_room (skb : RtkBuffer) (bytes : List UInt8)
    (room : bytes.length ≤ skb.room) : (skb.put bytes).room = skb.room - bytes.length := by
  simp [put, room]

theorem put_nil (skb : RtkBuffer) : skb.put [] = skb := by
  simp [put]

theorem put_put (skb : RtkBuffer) (first second : List UInt8)
    (room : (first ++ second).length ≤ skb.room) :
    (skb.put first).put second = skb.put (first ++ second) := by
  simp only [List.length_append] at room
  have fits : first.length ≤ skb.room := by omega
  have rest : second.length ≤ skb.room - first.length := by omega
  simp [put, fits, rest, room, List.drop_drop, Nat.sub_sub]

theorem byteAt_of_lt (skb : RtkBuffer) (index : Nat) (bound : index < skb.data.length) :
    skb.byteAt index = skb.data.getD index 0 := by
  simp [byteAt, List.getD, List.getElem?_append_left bound]

end RtkBuffer

end UnionpiTiger.Bt

namespace UnionpiTiger.H5

open Bt

def h5AckPkt : UInt8 := 0x00
def hciCommandPkt : UInt8 := 0x01
def hciAcldataPkt : UInt8 := 0x02
def hciScodataPkt : UInt8 := 0x03
def hciEventPkt : UInt8 := 0x04
def h5VdrspecPkt : UInt8 := 0x0E
def h5LinkCtlPkt : UInt8 := 0x0F

def h5HdrSeq (hdr : RtkBuffer) : UInt8 := hdr.byteAt 0 &&& 0x07
def h5HdrAck (hdr : RtkBuffer) : UInt8 := (hdr.byteAt 0 >>> 3) &&& 0x07
def h5HdrCrc (hdr : RtkBuffer) : UInt8 := (hdr.byteAt 0 >>> 6) &&& 0x01
def h5HdrReliable (hdr : RtkBuffer) : UInt8 := (hdr.byteAt 0 >>> 7) &&& 0x01
def h5HdrPktType (hdr : RtkBuffer) : UInt8 := hdr.byteAt 1 &&& 0x0f
def h5HdrLen (hdr : RtkBuffer) : Nat := (hdr.byteAt 1 >>> 4).toNat + (hdr.byteAt 2).toNat <<< 4
def h5HdrSize : Nat := 4

def h5CfgSlidWin (cfg : UInt8) : UInt8 := cfg &&& 0x07
def h5CfgOofCntrl (cfg : UInt8) : UInt8 := (cfg >>> 3) &&& 0x01
def h5CfgDicType (cfg : UInt8) : UInt8 := (cfg >>> 4) &&& 0x01

def byteRevTable : List UInt8 :=
  [
    0x00, 0x80, 0x40, 0xc0, 0x20, 0xa0, 0x60, 0xe0, 0x10, 0x90, 0x50, 0xd0, 0x30, 0xb0, 0x70, 0xf0,
    0x08, 0x88, 0x48, 0xc8, 0x28, 0xa8, 0x68, 0xe8, 0x18, 0x98, 0x58, 0xd8, 0x38, 0xb8, 0x78, 0xf8,
    0x04, 0x84, 0x44, 0xc4, 0x24, 0xa4, 0x64, 0xe4, 0x14, 0x94, 0x54, 0xd4, 0x34, 0xb4, 0x74, 0xf4,
    0x0c, 0x8c, 0x4c, 0xcc, 0x2c, 0xac, 0x6c, 0xec, 0x1c, 0x9c, 0x5c, 0xdc, 0x3c, 0xbc, 0x7c, 0xfc,
    0x02, 0x82, 0x42, 0xc2, 0x22, 0xa2, 0x62, 0xe2, 0x12, 0x92, 0x52, 0xd2, 0x32, 0xb2, 0x72, 0xf2,
    0x0a, 0x8a, 0x4a, 0xca, 0x2a, 0xaa, 0x6a, 0xea, 0x1a, 0x9a, 0x5a, 0xda, 0x3a, 0xba, 0x7a, 0xfa,
    0x06, 0x86, 0x46, 0xc6, 0x26, 0xa6, 0x66, 0xe6, 0x16, 0x96, 0x56, 0xd6, 0x36, 0xb6, 0x76, 0xf6,
    0x0e, 0x8e, 0x4e, 0xce, 0x2e, 0xae, 0x6e, 0xee, 0x1e, 0x9e, 0x5e, 0xde, 0x3e, 0xbe, 0x7e, 0xfe,
    0x01, 0x81, 0x41, 0xc1, 0x21, 0xa1, 0x61, 0xe1, 0x11, 0x91, 0x51, 0xd1, 0x31, 0xb1, 0x71, 0xf1,
    0x09, 0x89, 0x49, 0xc9, 0x29, 0xa9, 0x69, 0xe9, 0x19, 0x99, 0x59, 0xd9, 0x39, 0xb9, 0x79, 0xf9,
    0x05, 0x85, 0x45, 0xc5, 0x25, 0xa5, 0x65, 0xe5, 0x15, 0x95, 0x55, 0xd5, 0x35, 0xb5, 0x75, 0xf5,
    0x0d, 0x8d, 0x4d, 0xcd, 0x2d, 0xad, 0x6d, 0xed, 0x1d, 0x9d, 0x5d, 0xdd, 0x3d, 0xbd, 0x7d, 0xfd,
    0x03, 0x83, 0x43, 0xc3, 0x23, 0xa3, 0x63, 0xe3, 0x13, 0x93, 0x53, 0xd3, 0x33, 0xb3, 0x73, 0xf3,
    0x0b, 0x8b, 0x4b, 0xcb, 0x2b, 0xab, 0x6b, 0xeb, 0x1b, 0x9b, 0x5b, 0xdb, 0x3b, 0xbb, 0x7b, 0xfb,
    0x07, 0x87, 0x47, 0xc7, 0x27, 0xa7, 0x67, 0xe7, 0x17, 0x97, 0x57, 0xd7, 0x37, 0xb7, 0x77, 0xf7,
    0x0f, 0x8f, 0x4f, 0xcf, 0x2f, 0xaf, 0x6f, 0xef, 0x1f, 0x9f, 0x5f, 0xdf, 0x3f, 0xbf, 0x7f, 0xff ]

def bitRev8 (byte : UInt8) : UInt8 := byteRevTable.getD byte.toNat 0

def bitRev16 (x : UInt16) : UInt16 :=
  ((bitRev8 x.toUInt8).toUInt16 <<< 8) ||| (bitRev8 (x >>> 8).toUInt8).toUInt16

def crcTable : List UInt16 :=
  [ 0x0000, 0x1081, 0x2102, 0x3183, 0x4204, 0x5285, 0x6306, 0x7387,
    0x8408, 0x9489, 0xa50a, 0xb58b, 0xc60c, 0xd68d, 0xe70e, 0xf78f ]

def h5CrcUpdate (crc : UInt16) (d : UInt8) : UInt16 :=
  let reg := (crc >>> 4) ^^^ crcTable.getD ((crc ^^^ d.toUInt16) &&& 0x000f).toNat 0
  (reg >>> 4) ^^^ crcTable.getD ((reg ^^^ (d >>> 4).toUInt16) &&& 0x000f).toNat 0

def h5CrcInit : UInt16 := 0xffff

def h5GetCrc (rxSkb : RtkBuffer) : UInt16 :=
  let data := rxSkb.data.length - 2
  (rxSkb.byteAt (data + 1)).toUInt16 + ((rxSkb.byteAt data).toUInt16 <<< 8)

def h5SlipMsgdelim (skb : RtkBuffer) : RtkBuffer := skb.put [0xc0]

def slip (oofFlowControl : Bool) (unencodeForm : UInt8) : List UInt8 :=
  if unencodeForm = 0xc0 then [0xdb, 0xdc]
  else if unencodeForm = 0xdb then [0xdb, 0xdd]
  else if unencodeForm = 0x11 then if oofFlowControl then [0xdb, 0xde] else [unencodeForm]
  else if unencodeForm = 0x13 then if oofFlowControl then [0xdb, 0xdf] else [unencodeForm]
  else [unencodeForm]

def h5SlipOneByte (oofFlowControl : Bool) (skb : RtkBuffer) (unencodeForm : UInt8) : RtkBuffer :=
  skb.put (slip oofFlowControl unencodeForm)

-- Which packet types `h5_prepare_pkt` sends, and which of them reliably.
def pktReliable? (pktType : UInt8) : Option Bool :=
  if pktType = hciAcldataPkt ∨ pktType = hciCommandPkt ∨ pktType = hciEventPkt then some true
  else if pktType = h5AckPkt ∨ pktType = h5VdrspecPkt ∨ pktType = h5LinkCtlPkt ∨
      pktType = hciScodataPkt then some false
  else none

def h5Hdr (rxseqTxack msgqTxseq : UInt8) (rel useCrc : Bool) (len : Nat) (pktType : UInt8) :
    List UInt8 :=
  let hdr0 := rxseqTxack <<< 3
  let hdr0 := if rel then hdr0 ||| (0x80 + msgqTxseq) else hdr0
  let hdr0 := if useCrc then hdr0 ||| 0x40 else hdr0
  let hdr1 := UInt8.ofNat (len <<< 4) ||| pktType
  let hdr2 := UInt8.ofNat (len >>> 4)
  [hdr0, hdr1, hdr2, ~~~(hdr0 + hdr1 + hdr2)]

def crcTrailer (crc : UInt16) : List UInt8 :=
  [(bitRev16 crc >>> 8).toUInt8, (bitRev16 crc).toUInt8]

-- `h5_prepare_pkt` from its first delimiter on: what it puts into the buffer it allocated.
def h5PutPkt (oofFlowControl useCrc : Bool) (nskb : RtkBuffer) (hdr data : List UInt8) :
    RtkBuffer :=
  let nskb := h5SlipMsgdelim nskb
  let nskb := hdr.foldl (h5SlipOneByte oofFlowControl) nskb
  let nskb := data.foldl (h5SlipOneByte oofFlowControl) nskb
  let txmsgCrc := data.foldl h5CrcUpdate (hdr.foldl h5CrcUpdate h5CrcInit)
  let nskb :=
    if useCrc then (crcTrailer txmsgCrc).foldl (h5SlipOneByte oofFlowControl) nskb else nskb
  h5SlipMsgdelim nskb

theorem slip_length (oof : Bool) (byte : UInt8) : (slip oof byte).length ≤ 2 := by
  unfold slip
  split_ifs <;> simp

theorem foldl_slip_data (oof : Bool) (bytes : List UInt8) (skb : RtkBuffer)
    (room : 2 * bytes.length ≤ skb.room) :
    (bytes.foldl (h5SlipOneByte oof) skb).data = skb.data ++ bytes.flatMap (slip oof) ∧
      skb.room - 2 * bytes.length ≤ (bytes.foldl (h5SlipOneByte oof) skb).room := by
  induction bytes generalizing skb with
  | nil => simp
  | cons byte rest ih =>
    have two := slip_length oof byte
    simp only [List.length_cons] at room
    have fits : (slip oof byte).length ≤ skb.room := by omega
    have next := ih (h5SlipOneByte oof skb byte) (by
      simp only [h5SlipOneByte, RtkBuffer.put_room_of_room _ _ fits]
      omega)
    simp only [h5SlipOneByte, RtkBuffer.put_data_of_room _ _ fits,
      RtkBuffer.put_room_of_room _ _ fits] at next
    simp only [List.foldl_cons, h5SlipOneByte, next.1, List.flatMap_cons, List.append_assoc,
      List.length_cons, true_and]
    omega

def pktBody (useCrc : Bool) (hdr data : List UInt8) : List UInt8 :=
  hdr ++ data ++ if useCrc then crcTrailer ((hdr ++ data).foldl h5CrcUpdate h5CrcInit) else []

-- The allocation of `h5_prepare_pkt` holds every frame: nothing is cut off.
theorem h5PutPkt_data (oof useCrc : Bool) (nskb : RtkBuffer) (hdr data : List UInt8)
    (four : hdr.length = h5HdrSize) (room : (data.length + 6) * 2 + 2 ≤ nskb.room)
    (empty : nskb.data = []) :
    (h5PutPkt oof useCrc nskb hdr data).data =
      0xc0 :: (pktBody useCrc hdr data).flatMap (slip oof) ++ [0xc0] := by
  simp only [h5HdrSize] at four
  have start : (h5SlipMsgdelim nskb).data = [0xc0] ∧ (h5SlipMsgdelim nskb).room = nskb.room - 1 := by
    have one : [(0xc0 : UInt8)].length ≤ nskb.room := by simp; omega
    simp [h5SlipMsgdelim, RtkBuffer.put_data_of_room _ _ one, RtkBuffer.put_room_of_room _ _ one,
      empty]
  have body : h5PutPkt oof useCrc nskb hdr data =
      h5SlipMsgdelim ((pktBody useCrc hdr data).foldl (h5SlipOneByte oof) (h5SlipMsgdelim nskb)) := by
    cases useCrc <;> simp [h5PutPkt, pktBody, List.foldl_append]
  have size : (pktBody useCrc hdr data).length ≤ data.length + 6 := by
    cases useCrc <;> simp [pktBody, crcTrailer] <;> omega
  have slipped := foldl_slip_data oof (pktBody useCrc hdr data) (h5SlipMsgdelim nskb) (by omega)
  rw [body]
  have one : [(0xc0 : UInt8)].length ≤
      ((pktBody useCrc hdr data).foldl (h5SlipOneByte oof) (h5SlipMsgdelim nskb)).room := by
    simp only [List.length_singleton]
    omega
  rw [h5SlipMsgdelim, RtkBuffer.put_data_of_room _ _ one, slipped.1, start.1]
  simp

theorem exists_fin8 (x : UInt8) (small : x < 8) : ∃ i : Fin 8, x = UInt8.ofNat i.val :=
  ⟨⟨x.toNat, UInt8.lt_iff_toNat_lt.mp small⟩, by simp⟩

theorem hdr0_fields : ∀ (ack seq : Fin 8) (rel crc : Bool),
    let hdr0 := (h5Hdr (UInt8.ofNat ack.val) (UInt8.ofNat seq.val) rel crc 0 0).getD 0 0
    hdr0 &&& 0x07 = (if rel then UInt8.ofNat seq.val else 0) ∧
      (hdr0 >>> 3) &&& 0x07 = UInt8.ofNat ack.val ∧
      ((hdr0 >>> 6) &&& 0x01 = if crc then 1 else 0) ∧
      ((hdr0 >>> 7) &&& 0x01 = if rel then 1 else 0) := by
  decide +kernel

theorem hdr1_fields : ∀ (low pktType : Fin 16),
    let hdr1 := UInt8.ofNat (low.val <<< 4) ||| UInt8.ofNat pktType.val
    hdr1 &&& 0x0f = UInt8.ofNat pktType.val ∧ (hdr1 >>> 4).toNat = low.val := by
  decide +kernel

theorem pktReliable?_lt (pktType : UInt8) (rel : Bool) (kind : pktReliable? pktType = some rel) :
    pktType.toNat < 16 := by
  unfold pktReliable? at kind
  split_ifs at kind with reliable unreliable
  · rcases reliable with rfl | rfl | rfl <;> decide
  · rcases unreliable with rfl | rfl | rfl | rfl <;> decide

-- A received packet that starts with a header of `h5_prepare_pkt` shows the encoded fields.
structure Decodes (skb : RtkBuffer) (ack seq : UInt8) (rel crc : Bool) (len : Nat)
    (pktType : UInt8) : Prop where
  seq : h5HdrSeq skb = if rel then seq else 0
  ack : h5HdrAck skb = ack
  crc : h5HdrCrc skb = if crc then 1 else 0
  reliable : h5HdrReliable skb = if rel then 1 else 0
  pktType : h5HdrPktType skb = pktType
  len : h5HdrLen skb = len
  checksum : ~~~(skb.byteAt 0 + skb.byteAt 1 + skb.byteAt 2) = skb.byteAt 3

theorem decodes_h5Hdr (skb : RtkBuffer) (ack seq : UInt8) (rel crc : Bool) (len : Nat)
    (pktType : UInt8) (data : List UInt8) (ackSmall : ack < 8) (seqSmall : seq < 8)
    (lenSmall : len ≤ 0xFFF) (kind : pktType.toNat < 16)
    (bytes : skb.data = h5Hdr ack seq rel crc len pktType ++ data) :
    Decodes skb ack seq rel crc len pktType := by
  obtain ⟨i, rfl⟩ := exists_fin8 ack ackSmall
  obtain ⟨j, rfl⟩ := exists_fin8 seq seqSmall
  have fields0 := hdr0_fields i j rel crc
  have fields1 := hdr1_fields ⟨len % 16, Nat.mod_lt _ (by decide)⟩ ⟨pktType.toNat, kind⟩
  have low : UInt8.ofNat (len <<< 4) = UInt8.ofNat ((len % 16) <<< 4) := by
    apply UInt8.toNat.inj
    simp only [UInt8.toNat_ofNat', Nat.shiftLeft_eq]
    omega
  have high : (UInt8.ofNat (len >>> 4)).toNat = len / 16 := by
    simp only [UInt8.toNat_ofNat', Nat.shiftRight_eq_div_pow]
    omega
  have at0 : skb.byteAt 0 = (h5Hdr (UInt8.ofNat i.val) (UInt8.ofNat j.val) rel crc 0 0).getD 0 0 := by
    simp [RtkBuffer.byteAt, bytes, h5Hdr]
  have at1 : skb.byteAt 1 = UInt8.ofNat ((len % 16) <<< 4) ||| UInt8.ofNat pktType.toNat := by
    simp [RtkBuffer.byteAt, bytes, h5Hdr, low]
  have at2 : skb.byteAt 2 = UInt8.ofNat (len >>> 4) := by
    simp [RtkBuffer.byteAt, bytes, h5Hdr]
  constructor
  case seq => rw [h5HdrSeq, at0]; exact fields0.1
  case ack => rw [h5HdrAck, at0]; exact fields0.2.1
  case crc => rw [h5HdrCrc, at0]; exact fields0.2.2.1
  case reliable => rw [h5HdrReliable, at0]; exact fields0.2.2.2
  case pktType => rw [h5HdrPktType, at1, fields1.1, UInt8.ofNat_toNat]
  case len =>
    rw [h5HdrLen, at1, fields1.2, at2, high, Nat.shiftLeft_eq]
    show len % 16 + len / 16 * 2 ^ 4 = len
    omega
  case checksum => simp [RtkBuffer.byteAt, bytes, h5Hdr]

theorem h5GetCrc_crcTrailer (skb : RtkBuffer) (body : List UInt8) (crc : UInt16)
    (bytes : skb.data = body ++ crcTrailer crc) : h5GetCrc skb = bitRev16 crc := by
  have size : skb.data.length - 2 = body.length := by simp [bytes, crcTrailer]
  have high : skb.byteAt body.length = (bitRev16 crc >>> 8).toUInt8 := by
    simp [RtkBuffer.byteAt, bytes, crcTrailer, List.getD]
  have low : skb.byteAt (body.length + 1) = (bitRev16 crc).toUInt8 := by
    simp [RtkBuffer.byteAt, bytes, crcTrailer, List.getD]
  rw [h5GetCrc, size, high, low]
  generalize bitRev16 crc = check
  apply UInt16.toNat.inj
  have bound := check.toNat_lt
  simp [Nat.shiftLeft_eq, Nat.shiftRight_eq_div_pow]
  omega

end UnionpiTiger.H5
