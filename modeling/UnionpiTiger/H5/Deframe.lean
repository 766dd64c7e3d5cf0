import UnionpiTiger.H5.Wire
import UnionpiTiger.H5.Receive

set_option autoImplicit false

namespace UnionpiTiger.H5

open Bt

section Loop

variable (complete : HciH5Cb → RtkBuffer → HciH5Cb) (outOfOrder : HciH5Cb → HciH5Cb)

def Settles : Prop :=
  ∀ h5 skb, h5.rxCount = 0 →
    (complete h5 skb).rxState = .w4PktDelimiter ∧ (complete h5 skb).rxCount = 0

def passRank (h5 : HciH5Cb) : Nat :=
  if h5.rxCount ≠ 0 then 0
  else match h5.rxState with
    | .w4PktDelimiter => 0
    | .w4PktStart | .w4Data | .w4Crc => 1
    | .w4Hdr => 2

variable {complete outOfOrder}

theorem passRank_of_delimiter {h5 : HciH5Cb} (state : h5.rxState = .w4PktDelimiter) :
    passRank h5 = 0 := by
  simp [passRank, state]

theorem passRank_h5RecvPkt (settles : Settles complete) (h5 : HciH5Cb) (skb : RtkBuffer)
    (count : h5.rxCount = 0)
    (state : h5.rxState = .w4Hdr ∨ h5.rxState = .w4Data ∨ h5.rxState = .w4Crc) :
    passRank (h5RecvPkt complete outOfOrder h5 skb) < passRank h5 := by
  have done (skb : RtkBuffer) : passRank (complete h5 skb) = 0 :=
    passRank_of_delimiter (settles h5 skb count).1
  rcases state with state | state | state
  · have rank : passRank h5 = 2 := by simp [passRank, count, state]
    simp only [h5RecvPkt, state, rank]
    split_ifs
    · simp [passRank, dropRxPkt]
    · simp [passRank, dropRxPkt]
    · simp only [passRank]
      split_ifs <;> simp
  · have rank : passRank h5 = 1 := by simp [passRank, count, state]
    simp only [h5RecvPkt, state, rank]
    split_ifs
    · simp [passRank]
    · simp [done]
  · have rank : passRank h5 = 1 := by simp [passRank, count, state]
    simp only [h5RecvPkt, state, rank]
    split_ifs
    · simp [passRank, dropRxPkt]
    · simp [done]

theorem h5RecvPass_again (settles : Settles complete) (h5 next : HciH5Cb) (byte : UInt8)
    (pass : h5RecvPass complete outOfOrder h5 byte = (.again, next)) :
    passRank next < passRank h5 := by
  by_cases count : h5.rxCount = 0
  · cases state : h5.rxState with
    | w4PktDelimiter => simp [h5RecvPass, count, state] at pass
    | w4PktStart =>
      by_cases delimiter : byte = 0xc0
      · simp [h5RecvPass, count, state, delimiter] at pass
      · simp only [h5RecvPass, count, state, delimiter, ne_eq, not_true_eq_false, if_false] at pass
        have rank : passRank h5 = 1 := by simp [passRank, count, state]
        cases outcomes : h5.mem with
        | nil =>
          simp only [skbAlloc, outcomes, Prod.mk.injEq, true_and] at pass
          rw [rank, ← pass]
          simp [passRank]
        | cons outcome rest =>
          cases outcome with
          | none => simp [skbAlloc, outcomes] at pass
          | some garbage =>
            simp only [skbAlloc, outcomes, Option.map_some, Prod.mk.injEq, true_and] at pass
            rw [rank, ← pass]
            simp [passRank]
    | w4Hdr | w4Data | w4Crc =>
      simp only [h5RecvPass, count, state, ne_eq, not_true_eq_false, if_false, Prod.mk.injEq,
        true_and] at pass
      rw [← pass]
      exact passRank_h5RecvPkt settles h5 _ count (by simp [state])
  · by_cases delimiter : byte = 0xc0 <;> simp [h5RecvPass, count, delimiter] at pass

theorem h5RecvByte_passes (settles : Settles complete) (passes extra : Nat) (h5 : HciH5Cb)
    (byte : UInt8) (enough : passRank h5 < passes) :
    h5RecvByte complete outOfOrder (passes + extra) h5 byte =
      h5RecvByte complete outOfOrder passes h5 byte := by
  induction passes generalizing h5 with
  | zero => omega
  | succ passes ih =>
    rw [Nat.succ_add]
    cases pass : h5RecvPass complete outOfOrder h5 byte with
    | mk outcome next =>
      cases outcome with
      | consumed => simp only [h5RecvByte, pass]
      | returned => simp only [h5RecvByte, pass]
      | again =>
        have less := h5RecvPass_again settles h5 next byte pass
        simp only [h5RecvByte, pass]
        exact ih next (by omega)

theorem passRank_le (h5 : HciH5Cb) : passRank h5 ≤ 2 := by
  unfold passRank
  split_ifs
  · omega
  · cases h5.rxState <;> simp

theorem h5RecvLoop_again (settles : Settles complete) (h5 next : HciH5Cb) (byte : UInt8)
    (rest : List UInt8) (pass : h5RecvPass complete outOfOrder h5 byte = (.again, next)) :
    h5RecvLoop complete outOfOrder h5 (byte :: rest) =
      h5RecvLoop complete outOfOrder next (byte :: rest) := by
  have less := h5RecvPass_again settles h5 next byte pass
  have top := passRank_le h5
  have same : h5RecvByte complete outOfOrder 4 next byte = h5RecvByte complete outOfOrder 3 next byte :=
    h5RecvByte_passes settles 3 1 next byte (by omega)
  have first : h5RecvByte complete outOfOrder 4 h5 byte =
      h5RecvByte complete outOfOrder 3 next byte := by
    rw [h5RecvByte, pass]
  simp only [h5RecvLoop, first, same]

theorem h5RecvLoop_consumed (h5 next : HciH5Cb) (byte : UInt8) (rest : List UInt8)
    (pass : h5RecvPass complete outOfOrder h5 byte = (.consumed, next)) :
    h5RecvLoop complete outOfOrder h5 (byte :: rest) =
      h5RecvLoop complete outOfOrder next rest := by
  simp only [h5RecvLoop, h5RecvByte, pass]

theorem h5RecvLoop_settle (settles : Settles complete) (h5 next : HciH5Cb) (bytes : List UInt8)
    (more : bytes ≠ [])
    (pass : ∀ byte, h5RecvPass complete outOfOrder h5 byte = (.again, next)) :
    h5RecvLoop complete outOfOrder h5 bytes = h5RecvLoop complete outOfOrder next bytes := by
  obtain ⟨byte, rest, rfl⟩ := List.exists_cons_of_ne_nil more
  exact h5RecvLoop_again settles h5 next byte rest (pass byte)

def rxIn (h5 : HciH5Cb) (state : RxState) (count : Nat) (skb : RtkBuffer) (crc : UInt16) : HciH5Cb :=
  { h5 with
    rxState := state
    rxCount := count
    rxEscState := .noesc
    rxSkb := some skb
    messageCrc := crc }

theorem h5RecvLoop_slip (h5 : HciH5Cb) (state : RxState) (count : Nat) (skb : RtkBuffer)
    (crc : UInt16) (oof : Bool) (byte : UInt8) (rest : List UInt8) (more : count ≠ 0) :
    h5RecvLoop complete outOfOrder (rxIn h5 state count skb crc) (slip oof byte ++ rest) =
      h5RecvLoop complete outOfOrder (h5PutRxByte (rxIn h5 state count skb crc) skb byte) rest := by
  have plain (raw : UInt8) (delimiter : raw ≠ 0xc0) (escape : raw ≠ 0xdb) :
      h5RecvLoop complete outOfOrder (rxIn h5 state count skb crc) (raw :: rest) =
        h5RecvLoop complete outOfOrder (h5PutRxByte (rxIn h5 state count skb crc) skb raw) rest := by
    apply h5RecvLoop_consumed
    simp [h5RecvPass, rxIn, more, delimiter, escape, h5UnslipOneByte]
  have escaped (code decoded : UInt8) (delimiter : code ≠ 0xc0) (decodes : unslip? code =
      some decoded) :
      h5RecvLoop complete outOfOrder (rxIn h5 state count skb crc) (0xdb :: code :: rest) =
        h5RecvLoop complete outOfOrder
          (h5PutRxByte (rxIn h5 state count skb crc) skb decoded) rest := by
    rw [h5RecvLoop_consumed _ { rxIn h5 state count skb crc with rxEscState := .esc }]
    · apply h5RecvLoop_consumed
      simp only [h5RecvPass, rxIn, more, delimiter, decodes, h5UnslipOneByte, ne_eq,
        not_false_eq_true, if_true, if_false, Option.getD_some]
      rfl
    · simp [h5RecvPass, rxIn, more, h5UnslipOneByte]
  unfold slip
  split_ifs with delimiter escape xon oofOn xoff oofOff
  · exact delimiter ▸ escaped 0xdc 0xc0 (by decide) rfl
  · exact escape ▸ escaped 0xdd 0xdb (by decide) rfl
  · exact xon ▸ escaped 0xde 0x11 (by decide) rfl
  · exact plain byte delimiter escape
  · exact xoff ▸ escaped 0xdf 0x13 (by decide) rfl
  · exact plain byte delimiter escape
  · exact plain byte delimiter escape

def rxCrc (state : RxState) (hdr0 : UInt8) (crc : UInt16) (bytes : List UInt8) : UInt16 :=
  if (hdr0 >>> 6) &&& 0x01 = 1 ∧ state ≠ .w4Crc then bytes.foldl h5CrcUpdate crc else crc

variable (complete outOfOrder)

theorem h5RecvLoop_collect (h5 : HciH5Cb) (state : RxState) (count : Nat) (oof : Bool)
    (hdr0 : UInt8) (bytes rest : List UInt8) (skb : RtkBuffer) (crc : UInt16)
    (room : bytes.length ≤ skb.room) (first : (skb.data ++ bytes).head? = some hdr0) :
    h5RecvLoop complete outOfOrder (rxIn h5 state (count + bytes.length) skb crc)
        (bytes.flatMap (slip oof) ++ rest) =
      h5RecvLoop complete outOfOrder
        (rxIn h5 state count (skb.put bytes) (rxCrc state hdr0 crc bytes)) rest := by
  induction bytes generalizing skb crc with
  | nil => simp [RtkBuffer.put_nil, rxCrc]
  | cons byte bytes ih =>
    simp only [List.length_cons] at room
    have one : [byte].length ≤ skb.room := by simp; omega
    have data := RtkBuffer.put_data_of_room skb [byte] one
    have hdr : (skb.put [byte]).byteAt 0 = hdr0 := by
      cases bytes : skb.data with
      | nil => simpa [RtkBuffer.byteAt, data, bytes] using first
      | cons hdr more => simpa [RtkBuffer.byteAt, data, bytes] using first
    have put : h5PutRxByte (rxIn h5 state (count + (byte :: bytes).length) skb crc) skb byte =
        rxIn h5 state (count + bytes.length) (skb.put [byte]) (rxCrc state hdr0 crc [byte]) := by
      simp only [h5PutRxByte, rxIn, h5HdrCrc, hdr, rxCrc, List.foldl_cons, List.foldl_nil,
        List.length_cons]
      congr 1
    rw [List.flatMap_cons, List.append_assoc, h5RecvLoop_slip _ _ _ _ _ _ _ _ (by simp), put,
      ih (skb.put [byte]) _ (by rw [RtkBuffer.put_room_of_room _ _ one]; simp; omega)
        (by rw [data]; simpa using first),
      RtkBuffer.put_put _ _ _ (by simpa using room)]
    congr 2
    by_cases crcOn : (hdr0 >>> 6) &&& 0x01 = 1 ∧ state ≠ .w4Crc <;> simp [rxCrc, crcOn]

theorem h5RecvLoop_start (settles : Settles complete) (h5 : HciH5Cb) (byte : UInt8)
    (rest : List UInt8) (start : h5.rxState = .w4PktStart) (count : h5.rxCount = 0)
    (delimiter : byte ≠ 0xc0) (memory : h5.mem.head? ≠ some none) :
    ∃ garbage, h5RecvLoop complete outOfOrder h5 (byte :: rest) =
      h5RecvLoop complete outOfOrder
        (rxIn { h5 with mem := h5.mem.tail } .w4Hdr 4 (RtkBuffer.rtbAllocate 0x1005 garbage) h5CrcInit)
        (byte :: rest) := by
  cases outcomes : h5.mem with
  | nil =>
    refine ⟨[], h5RecvLoop_again settles _ _ _ _ ?_⟩
    simp [h5RecvPass, count, start, delimiter, skbAlloc, outcomes, rxIn]
  | cons outcome more =>
    cases outcome with
    | none => simp [outcomes] at memory
    | some garbage =>
      refine ⟨garbage, h5RecvLoop_again settles _ _ _ _ ?_⟩
      simp [h5RecvPass, count, start, delimiter, skbAlloc, outcomes, rxIn]

theorem h5RecvLoop_header (settles : Settles complete) (h5 : HciH5Cb) (skb : RtkBuffer)
    (crc : UInt16) (bytes : List UInt8) (more : bytes ≠ [])
    (checksum : ~~~(skb.byteAt 0 + skb.byteAt 1 + skb.byteAt 2) = skb.byteAt 3)
    (expected : h5HdrReliable skb = 1 → h5HdrSeq skb = h5.rxseqTxack) :
    h5RecvLoop complete outOfOrder (rxIn h5 .w4Hdr 0 skb crc) bytes =
      h5RecvLoop complete outOfOrder (rxIn h5 .w4Data (h5HdrLen skb) skb crc) bytes := by
  have inOrder : ¬(h5HdrReliable skb = 1 ∧ h5HdrSeq skb ≠ h5.rxseqTxack) :=
    fun ⟨reliable, other⟩ => other (expected reliable)
  apply h5RecvLoop_settle settles _ _ _ more
  intro byte
  simp only [h5RecvPass, rxIn, h5RecvPkt, Option.getD_some, checksum, inOrder, ne_eq,
    not_true_eq_false, if_false]

theorem h5RecvLoop_complete (settles : Settles complete) (h5 next : HciH5Cb) (skb : RtkBuffer)
    (rest : List UInt8) (count : next.rxCount = 0)
    (pass : ∀ byte, h5RecvPass complete outOfOrder h5 byte = (.again, complete next skb)) :
    h5RecvLoop complete outOfOrder h5 (0xc0 :: rest) =
      h5RecvLoop complete outOfOrder { complete next skb with rxState := .w4PktStart } rest := by
  have settled := settles next skb count
  rw [h5RecvLoop_settle settles _ _ _ (by simp) pass]
  apply h5RecvLoop_consumed
  simp [h5RecvPass, settled.1, settled.2]

theorem h5RecvLoop_uncheckedEnd (settles : Settles complete) (h5 : HciH5Cb) (skb : RtkBuffer)
    (crc : UInt16) (rest : List UInt8) (unchecked : h5HdrCrc skb ≠ 1) :
    h5RecvLoop complete outOfOrder (rxIn h5 .w4Data 0 skb crc) (0xc0 :: rest) =
      h5RecvLoop complete outOfOrder
        { complete (rxIn h5 .w4Data 0 skb crc) skb with rxState := .w4PktStart } rest := by
  apply h5RecvLoop_complete complete outOfOrder settles _ _ _ _ rfl
  intro byte
  simp [h5RecvPass, rxIn, h5RecvPkt, unchecked]

theorem h5RecvLoop_checkedEnd (settles : Settles complete) (h5 : HciH5Cb) (skb : RtkBuffer)
    (crc : UInt16) (oof : Bool) (rest : List UInt8) (checked : h5HdrCrc skb = 1)
    (some : skb.data ≠ []) (room : 2 ≤ skb.room) :
    ∃ last pkt, pkt.data = skb.data ∧ pkt.packetType = skb.packetType ∧
      h5RecvLoop complete outOfOrder (rxIn h5 .w4Data 0 skb crc)
          ((crcTrailer crc).flatMap (slip oof) ++ 0xc0 :: rest) =
        h5RecvLoop complete outOfOrder
          { complete (rxIn h5 .w4Crc 0 last crc) pkt with rxState := .w4PktStart } rest := by
  obtain ⟨hdr0, more, data⟩ := List.exists_cons_of_ne_nil some
  have two : (crcTrailer crc).length ≤ skb.room := room
  have bytes := RtkBuffer.put_data_of_room skb (crcTrailer crc) two
  generalize buffer : skb.put (crcTrailer crc) = last at bytes
  refine ⟨last, last.trim (last.data.length - 2), ?_, ?_, ?_⟩
  · simp [RtkBuffer.trim, bytes, crcTrailer]
  · simp [RtkBuffer.trim, ← buffer, RtkBuffer.put, two]
  have expect : h5RecvLoop complete outOfOrder (rxIn h5 .w4Data 0 skb crc)
      ((crcTrailer crc).flatMap (slip oof) ++ 0xc0 :: rest) =
        h5RecvLoop complete outOfOrder (rxIn h5 .w4Crc 2 skb crc)
          ((crcTrailer crc).flatMap (slip oof) ++ 0xc0 :: rest) := by
    apply h5RecvLoop_settle settles _ _ _ (by simp)
    intro byte
    simp [h5RecvPass, rxIn, h5RecvPkt, checked]
  have trailer := h5RecvLoop_collect complete outOfOrder h5 .w4Crc 0 oof
    hdr0 (crcTrailer crc) (0xc0 :: rest) skb crc two (by simp [data])
  simp only [Nat.zero_add, rxCrc, ne_eq, not_true_eq_false, and_false, if_false, buffer] at trailer
  refine expect.trans (trailer.trans ?_)
  apply h5RecvLoop_complete complete outOfOrder settles _ _ _ _ rfl
  intro byte
  have equal := h5GetCrc_crcTrailer last skb.data crc bytes
  simp [h5RecvPass, rxIn, h5RecvPkt, equal]

theorem h5RecvLoop_body (settles : Settles complete) (h5 : HciH5Cb) (oof crcOn : Bool)
    (hdr data rest : List UInt8) (skb : RtkBuffer) (bytes : skb.data = hdr)
    (room : data.length + 2 ≤ skb.room) (announced : h5HdrCrc skb = if crcOn then 1 else 0)
    (four : hdr.length = h5HdrSize) :
    ∃ state crc last pkt, pkt.data = hdr ++ data ∧ pkt.packetType = skb.packetType ∧
      h5RecvLoop complete outOfOrder
          (rxIn h5 .w4Data data.length skb (rxCrc .w4Hdr (skb.byteAt 0) h5CrcInit hdr))
          ((data ++ if crcOn then crcTrailer ((hdr ++ data).foldl h5CrcUpdate h5CrcInit)
            else []).flatMap
            (slip oof) ++ 0xc0 :: rest) =
        h5RecvLoop complete outOfOrder
          { complete (rxIn h5 state 0 last crc) pkt with rxState := .w4PktStart } rest := by
  obtain ⟨hdr0, more, rfl⟩ : ∃ byte more, hdr = byte :: more :=
    List.exists_cons_of_ne_nil (by rintro rfl; simp [h5HdrSize] at four)
  have fits : data.length ≤ skb.room := by omega
  have putData := RtkBuffer.put_data_of_room skb data fits
  have at0 : skb.byteAt 0 = hdr0 := by simp [RtkBuffer.byteAt, bytes]
  have putType : (skb.put data).packetType = skb.packetType := by simp [RtkBuffer.put, fits]
  have collected (tail : List UInt8) := h5RecvLoop_collect complete outOfOrder
    h5 .w4Data 0 oof hdr0 data tail skb
    (rxCrc .w4Hdr hdr0 h5CrcInit (hdr0 :: more)) fits (by simp [bytes])
  have crcBit : h5HdrCrc (skb.put data) = h5HdrCrc skb := by
    simp [h5HdrCrc, RtkBuffer.byteAt, putData, bytes]
  simp only [Nat.zero_add] at collected
  rw [List.flatMap_append, List.append_assoc, at0, collected]
  cases crcOn with
  | false =>
    refine ⟨.w4Data, rxCrc .w4Data hdr0 (rxCrc .w4Hdr hdr0 h5CrcInit (hdr0 :: more)) data,
      skb.put data, skb.put data, by rw [putData, bytes], putType, ?_⟩
    exact h5RecvLoop_uncheckedEnd complete outOfOrder settles _ _ _ _ (by simp [crcBit, announced])
  | true =>
    have checked : h5HdrCrc skb = 1 := announced
    have check : rxCrc .w4Data hdr0 (rxCrc .w4Hdr hdr0 h5CrcInit (hdr0 :: more)) data =
        (hdr0 :: more ++ data).foldl h5CrcUpdate h5CrcInit := by
      simp only [h5HdrCrc, at0] at checked
      simp [rxCrc, checked, List.foldl_append]
    rw [check]
    obtain ⟨last, pkt, payload, kind, done⟩ := h5RecvLoop_checkedEnd complete outOfOrder settles
      h5 (skb.put data) ((hdr0 :: more ++ data).foldl h5CrcUpdate h5CrcInit) oof rest
      (by rw [crcBit, checked]) (by simp [putData, bytes]) (by
        rw [RtkBuffer.put_room_of_room _ _ fits]
        omega)
    exact ⟨.w4Crc, _, last, pkt, by rw [payload, putData, bytes], by rw [kind, putType], done⟩

end Loop

end UnionpiTiger.H5
