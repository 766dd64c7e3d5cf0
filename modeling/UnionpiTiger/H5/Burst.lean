import UnionpiTiger.H5.Crc

set_option autoImplicit false

namespace UnionpiTiger.H5

open Bt Lib

structure CarriesCrc (hdr data : List UInt8) : Prop where
  four : hdr.length = h5HdrSize
  crc : h5HdrCrc { data := hdr } = 1
  len : h5HdrLen { data := hdr } = data.length

def wireFrame (oof : Bool) (hdr data trailer : List UInt8) : List UInt8 :=
  0xc0 :: (hdr ++ data ++ trailer).flatMap (slip oof) ++ [0xc0]

def Rejected (rx : HciH5Cb) (frame : List UInt8) : Prop :=
  ∀ chunks : List (List UInt8), chunks.flatten = frame →
    (chunks.foldl h5Recv rx).log.completed = (h5Recv rx [0xc0]).log.completed

section Loop

variable (complete : HciH5Cb → RtkBuffer → HciH5Cb) (outOfOrder : HciH5Cb → HciH5Cb)

theorem h5RecvLoop_checkFails (settles : Settles complete) (h5 : HciH5Cb) (skb : RtkBuffer)
    (crc : UInt16) (oof : Bool) (trailer rest : List UInt8) (two : trailer.length = 2)
    (wrong : trailer ≠ crcTrailer crc) (checked : h5HdrCrc skb = 1) (some : skb.data ≠ [])
    (room : 2 ≤ skb.room) :
    ∃ last, h5RecvLoop complete outOfOrder (rxIn h5 .w4Data 0 skb crc)
      (trailer.flatMap (slip oof) ++ 0xc0 :: rest) =
      h5RecvLoop complete outOfOrder { dropRxPkt (rxIn h5 .w4Crc 0 last crc) with rxState :=
        .w4PktStart } rest := by
  obtain ⟨hdr0, more, data⟩ := List.exists_cons_of_ne_nil some
  have fits : trailer.length ≤ skb.room := by rwa [two]
  have bytes := RtkBuffer.put_data_of_room skb trailer fits
  generalize buffer : skb.put trailer = last at bytes
  refine ⟨last, ?_⟩
  have expect : h5RecvLoop complete outOfOrder (rxIn h5 .w4Data 0 skb crc)
      (trailer.flatMap (slip oof) ++ 0xc0 :: rest) =
      h5RecvLoop complete outOfOrder (rxIn h5 .w4Crc 2 skb crc)
        (trailer.flatMap (slip oof) ++ 0xc0 :: rest) := by
    apply h5RecvLoop_settle settles _ _ _ (by simp)
    intro byte
    simp [h5RecvPass, rxIn, h5RecvPkt, checked]
  have collected := h5RecvLoop_collect complete outOfOrder h5 .w4Crc 0 oof hdr0 trailer
    (0xc0 :: rest) skb crc fits
    (by simp [data])
  simp only [Nat.zero_add, rxCrc, ne_eq, not_true_eq_false, and_false, if_false, buffer,
    two] at collected
  have refused : bitRev16 crc ≠ h5GetCrc last := by
    obtain ⟨a, b, rfl⟩ := List.length_eq_two.mp two
    exact fun same => wrong ((h5GetCrc_iff last skb.data a b crc bytes).mp same)
  have dropped : h5RecvLoop complete outOfOrder (rxIn h5 .w4Crc 0 last crc) (0xc0 :: rest) =
      h5RecvLoop complete outOfOrder (dropRxPkt (rxIn h5 .w4Crc 0 last crc)) (0xc0 :: rest) := by
    apply h5RecvLoop_settle settles _ _ _ (by simp)
    intro byte
    simp [h5RecvPass, rxIn, h5RecvPkt, refused]
  rw [expect, collected, dropped]
  exact h5RecvLoop_skip complete outOfOrder _ [] rest (by simp) rfl rfl

variable {complete outOfOrder}

theorem h5HdrLen_le (skb : RtkBuffer) : h5HdrLen skb ≤ 0xFFF := by
  have low := (skb.byteAt 1).toNat_lt
  have high := (skb.byteAt 2).toNat_lt
  unfold h5HdrLen
  rw [UInt8.toNat_shiftRight, Nat.shiftLeft_eq]
  change (skb.byteAt 1).toNat >>> 4 + _ ≤ _
  rw [Nat.shiftRight_eq_div_pow]
  omega

theorem CarriesCrc.of_received {hdr data : List UInt8} (carries : CarriesCrc hdr data) {skb : RtkBuffer}
    (bytes : skb.data = hdr) : h5HdrCrc skb = 1 ∧ h5HdrLen skb = data.length := by
  obtain ⟨h0, h1, h2, h3, shape⟩ : ∃ h0 h1 h2 h3, hdr = [h0, h1, h2, h3] := by
    have four := carries.four
    match hdr, four with
    | [h0, h1, h2, h3], _ => exact ⟨h0, h1, h2, h3, rfl⟩
  have crc := carries.crc
  have len := carries.len
  simp only [h5HdrCrc, h5HdrLen, RtkBuffer.byteAt, bytes, shape] at crc len ⊢
  exact ⟨crc, len⟩

theorem h5RecvLoop_refused (settles : Settles complete)
    (quiet : ∀ h5, (outOfOrder h5).log.completed = h5.log.completed) (h5 : HciH5Cb) (oof : Bool)
    {hdr data trailer : List UInt8} (carries : CarriesCrc hdr data) (two : trailer.length = 2)
    (wrong : trailer ≠ crcTrailer ((hdr ++ data).foldl h5CrcUpdate h5CrcInit))
    (start : h5.rxState = .w4PktStart) (count : h5.rxCount = 0) (memory : h5.mem.head? ≠ some none) :
    ∃ next, h5RecvLoop complete outOfOrder h5
      ((hdr ++ data ++ trailer).flatMap (slip oof) ++ [0xc0]) = (true, next) ∧
      next.log.completed = h5.log.completed := by
  obtain ⟨skb, bytes, room, toHeader⟩ := h5RecvLoop_toHeader complete outOfOrder settles h5 oof hdr
    ((data ++ trailer).flatMap (slip oof) ++ [0xc0]) carries.four start count memory
  have split : (hdr ++ data ++ trailer).flatMap (slip oof) ++ [0xc0] =
      hdr.flatMap (slip oof) ++ ((data ++ trailer).flatMap (slip oof) ++ [0xc0]) := by simp
  obtain ⟨checked, len⟩ := carries.of_received bytes
  have short := h5HdrLen_le skb
  have refuse (reached dropped : HciH5Cb)
      (pass : ∀ byte, h5RecvPass complete outOfOrder reached byte = (.again, dropped))
      (state : dropped.rxState = .w4PktDelimiter) (count : dropped.rxCount = 0)
      (same : dropped.log.completed = h5.log.completed) :
      ∃ next, h5RecvLoop complete outOfOrder reached
        ((data ++ trailer).flatMap (slip oof) ++ [0xc0]) = (true, next) ∧
        next.log.completed = h5.log.completed := by
    refine ⟨{ dropped with rxState := .w4PktStart }, ?_, same⟩
    rw [h5RecvLoop_settle settles _ _ _ (by simp) pass,
      h5RecvLoop_skip complete outOfOrder _ _ _ (slip_no_delimiter oof _) state count]
    rfl
  rw [split, toHeader]
  by_cases sum : ~~~(skb.byteAt 0 + skb.byteAt 1 + skb.byteAt 2) = skb.byteAt 3
  · by_cases late : h5HdrReliable skb = 1 ∧ h5HdrSeq skb ≠ h5.rxseqTxack
    · refine refuse _ (dropRxPkt (outOfOrder { rxIn { h5 with mem := h5.mem.tail } .w4Hdr 0 skb
        (rxCrc .w4Hdr (skb.byteAt 0) h5CrcInit hdr) with isTxackReq := true })) (fun byte => ?_)
          rfl rfl (quiet _)
      simp only [h5RecvPass, rxIn, h5RecvPkt, Option.getD_some, sum, late, ne_eq, not_true_eq_false,
        if_false, not_false_eq_true, and_self, if_true]
    · have inOrder : h5HdrReliable skb = 1 → h5HdrSeq skb = h5.rxseqTxack := fun reliable =>
        Classical.not_not.mp fun other => late ⟨reliable, other⟩
      obtain ⟨hdr0, more, rfl⟩ : ∃ byte more, hdr = byte :: more :=
        List.exists_cons_of_ne_nil fun empty => by simpa [empty, h5HdrSize] using carries.four
      have at0 : skb.byteAt 0 = hdr0 := by simp [RtkBuffer.byteAt, bytes]
      have fits : data.length ≤ skb.room := by omega
      have put := RtkBuffer.put_data_of_room skb data fits
      have crcBit : h5HdrCrc (skb.put data) = 1 := by
        rw [← checked]
        simp [h5HdrCrc, RtkBuffer.byteAt, put, bytes]
      have collected := h5RecvLoop_collect complete outOfOrder
        { h5 with mem := h5.mem.tail } .w4Data 0 oof hdr0 data
        (trailer.flatMap (slip oof) ++ [0xc0]) skb (rxCrc .w4Hdr hdr0 h5CrcInit (hdr0 :: more)) fits
          (by simp [bytes])
      have check : rxCrc .w4Data hdr0 (rxCrc .w4Hdr hdr0 h5CrcInit (hdr0 :: more)) data =
          (hdr0 :: more ++ data).foldl h5CrcUpdate h5CrcInit := by
        simp only [h5HdrCrc, at0] at checked
        simp [rxCrc, checked, List.foldl_append]
      rw [Nat.zero_add, check] at collected
      obtain ⟨last, done⟩ := h5RecvLoop_checkFails complete outOfOrder settles
        { h5 with mem := h5.mem.tail } (skb.put data)
        _ oof trailer [] two wrong crcBit (by simp [put, bytes]) (by
          rw [RtkBuffer.put_room_of_room _ _ fits]
          omega)
      refine ⟨{ dropRxPkt (rxIn { h5 with mem := h5.mem.tail } .w4Crc 0 last
        ((hdr0 :: more ++ data).foldl h5CrcUpdate h5CrcInit)) with rxState := .w4PktStart }, ?_, rfl⟩
      have toData := h5RecvLoop_header complete outOfOrder settles { h5 with mem := h5.mem.tail } skb
        (rxCrc .w4Hdr (skb.byteAt 0) h5CrcInit (hdr0 :: more))
          ((data ++ trailer).flatMap (slip oof) ++ [0xc0]) (by simp)
        sum inOrder
      rw [toData, len, at0, List.flatMap_append, List.append_assoc, collected, done]
      rfl
  · refine refuse _ (dropRxPkt (rxIn { h5 with mem := h5.mem.tail } .w4Hdr 0 skb
      (rxCrc .w4Hdr (skb.byteAt 0) h5CrcInit hdr))) (fun byte => ?_) rfl rfl rfl
    simp only [h5RecvPass, rxIn, h5RecvPkt, Option.getD_some, sum, ne_eq, not_true_eq_false, if_false,
      not_false_eq_true, if_true]

theorem h5RecvLoop_append_stopped (h5 next : HciH5Cb) (first rest : List UInt8)
    (stopped : h5RecvLoop complete outOfOrder h5 first = (false, next)) :
    h5RecvLoop complete outOfOrder h5 (first ++ rest) = (false, next) := by
  induction first generalizing h5 with
  | nil => cases stopped
  | cons byte first ih =>
    simp only [h5RecvLoop, List.cons_append] at stopped ⊢
    split at stopped
    next h5 pass => exact ih h5 stopped
    next h5 pass => exact stopped

theorem h5RecvLoop_stopped (h5 next : HciH5Cb) (chunks : List (List UInt8))
    (read : h5RecvLoop complete outOfOrder h5 chunks.flatten = (false, next)) :
    ∃ (seen : List UInt8) (rest : List (List UInt8)), chunks.flatten = seen ++ rest.flatten ∧
      h5RecvLoop complete outOfOrder h5 seen = (false, next) ∧
      chunks.foldl (fun h5 chunk => (h5RecvLoop complete outOfOrder h5 chunk).2) h5 =
        rest.foldl (fun h5 chunk => (h5RecvLoop complete outOfOrder h5 chunk).2) next := by
  induction chunks generalizing h5 with
  | nil => cases read
  | cons chunk chunks ih =>
    rcases first : h5RecvLoop complete outOfOrder h5 chunk with ⟨goes, middle⟩
    cases goes with
    | true =>
      rw [List.flatten_cons, h5RecvLoop_append h5 middle chunk _ first] at read
      obtain ⟨seen, rest, split, stopped, fed⟩ := ih middle read
      refine ⟨chunk ++ seen, rest, by rw [List.flatten_cons, split, List.append_assoc], ?_, ?_⟩
      · rw [h5RecvLoop_append h5 middle chunk seen first, stopped]
      · rw [List.foldl_cons, first, fed]
    | false =>
      have same : middle = next := by
        rw [List.flatten_cons, h5RecvLoop_append_stopped h5 middle chunk _ first] at read
        exact (Prod.mk.inj read).2
      refine ⟨chunk, chunks, List.flatten_cons, by rw [first, same], ?_⟩
      rw [List.foldl_cons, first, same]

end Loop

theorem h5WakeUp_completed (h5 : HciH5Cb) : (h5WakeUp h5).log.completed = h5.log.completed :=
  congrArg RxView.completed (rxView_of_withoutTx (h5WakeUp_withoutTx h5))

theorem suffix_of_plain {plain seen rest : List UInt8} (split : plain ++ [0xc0] = seen ++ rest)
    (clean : 0xc0 ∉ plain) :
    rest = [] ∨ ∃ front, rest = front ++ [0xc0] ∧ 0xc0 ∉ front := by
  rcases List.append_eq_append_iff.mp split with ⟨more, before, after⟩ | ⟨front, before, after⟩
  · cases more with
    | nil => exact .inr ⟨[], by simpa using after.symm, by simp⟩
    | cons a more =>
      have size := congrArg List.length after
      simp only [List.length_cons, List.length_nil, List.length_append] at size
      exact .inl (List.length_eq_zero_iff.mp (by omega))
  · refine .inr ⟨front, after, fun there => clean ?_⟩
    rw [before]
    exact List.mem_append_right _ there

theorem rejected_of_wrong {hdr data trailer : List UInt8} (carries : CarriesCrc hdr data)
    (two : trailer.length = 2)
    (wrong : trailer ≠ crcTrailer ((hdr ++ data).foldl h5CrcUpdate h5CrcInit)) (oof : Bool)
    (rx : HciH5Cb) :
    Rejected rx (wireFrame oof hdr data trailer) := by
  intro chunks whole
  obtain ⟨begun, start, count, delimiter⟩ :=
    h5RecvLoop_delimiter h5CompleteRxPkt h5WakeUp h5CompleteRxPkt_settles rx
  have first : h5Recv rx [0xc0] = begun := by
    rw [h5Recv, delimiter]
    rfl
  have fold : chunks.foldl h5Recv rx =
      chunks.foldl (fun h5 chunk => (h5RecvLoop h5CompleteRxPkt h5WakeUp h5 chunk).2) rx := rfl
  have entered := delimiter ((hdr ++ data ++ trailer).flatMap (slip oof) ++ [0xc0])
  rw [← List.cons_append, ← wireFrame, ← whole] at entered
  rw [first, fold]
  by_cases memory : begun.mem.head? = some none
  · have some : hdr ++ data ++ trailer ≠ [] := by
      intro empty
      have size := congrArg List.length empty
      simp [two] at size
    rw [h5RecvLoop_noMemory _ _ begun oof _ [0xc0] some start count memory] at entered
    obtain ⟨seen, rest, split, stopped, fed⟩ := h5RecvLoop_stopped rx _ chunks entered
    rw [fed]
    rw [whole, wireFrame, List.cons_append] at split
    cases seen with
    | nil => cases stopped
    | cons byte seen =>
      rcases suffix_of_plain (List.cons.inj split).2 (slip_no_delimiter oof _) with none
        | ⟨front, left, clean⟩
      · rw [h5RecvLoop_chunks _ _ rest (by rw [none]; rfl)]
      · have skipped := h5RecvLoop_skip h5CompleteRxPkt h5WakeUp { begun with
            mem := begun.mem.tail, rxState := .w4PktDelimiter, rxCount := 0, rxEscState :=
              .noesc, rxSkb := none
            messageCrc := h5CrcInit } front [] clean rfl rfl
        rw [← left] at skipped
        rw [h5RecvLoop_chunks _ _ rest skipped]
  · obtain ⟨next, refused, same⟩ :=
      h5RecvLoop_refused h5CompleteRxPkt_settles h5WakeUp_completed begun oof carries two
      wrong start count memory
    rw [refused] at entered
    rw [h5RecvLoop_chunks rx next chunks entered, same]

section Bursts

def Burst (width : Nat) (sent received : List Bool) : Prop :=
  ∃ before first second after, sent = before ++ first ++ after ∧ received = before ++ second ++ after ∧
    first.length = second.length ∧ first.length ≤ width ∧ first ≠ second

variable {hdr data altered trailer : List UInt8}

def frameCrc (hdr data : List UInt8) : UInt16 := (hdr ++ data).foldl h5CrcUpdate h5CrcInit

def checkedBits (data trailer : List UInt8) : List Bool :=
  data.flatMap lsbFirst ++ trailer.flatMap msbFirst

theorem crcTrailer_iff_checkedBits (two : trailer.length = 2) :
    trailer = crcTrailer (frameCrc hdr data) ↔
      crcFeed ccittPoly (hdr.foldl h5CrcUpdate h5CrcInit).toBitVec (checkedBits data trailer) =
        0#16 := by
  rw [crcTrailer_iff _ two, frameCrc, List.foldl_append, foldl_h5CrcUpdate_feed _ data, checkedBits,
    crcFeed_append]

theorem burst_wrong (two : trailer.length = 2)
    (burst : Burst 16 (checkedBits data (crcTrailer (frameCrc hdr data)))
      (checkedBits altered trailer)) :
    trailer ≠ crcTrailer (frameCrc hdr altered) := by
  intro right
  obtain ⟨before, first, second, after, sent, received, lengths, short, differ⟩ := burst
  have accepted := (crcTrailer_iff_checkedBits two).mp right
  have original : crcFeed ccittPoly (hdr.foldl h5CrcUpdate h5CrcInit).toBitVec
      (checkedBits data (crcTrailer (frameCrc hdr data))) = 0#16 :=
        (crcTrailer_iff_checkedBits rfl).mp rfl
  rw [sent] at original
  rw [received] at accepted
  exact crcFeed_ne_of_burst ccittPoly_top _ lengths short differ (original.trans accepted.symm)

end Bursts

def DetectsBursts (order : UInt8 → List Bool) : Prop :=
  ∀ hdr data altered trailer : List UInt8, CarriesCrc hdr data → altered.length = data.length →
    trailer.length = 2 →
    Burst 16 ((data ++ crcTrailer (frameCrc hdr data)).flatMap order)
      ((altered ++ trailer).flatMap order) →
    ∀ (oof : Bool) (rx : HciH5Cb), Rejected rx (wireFrame oof hdr altered trailer)

theorem bursts_undetected : ¬ DetectsBursts lsbFirst ∧ ¬ DetectsBursts msbFirst := by
  have carries : CarriesCrc [0x40, 0x12, 0x00, 0xad] [0x00] := ⟨rfl, rfl, rfl⟩
  have accepted (byte : UInt8) (known : byte = 0x80 ∨ byte = 0x01) :
      ¬ Rejected {} (wireFrame false [0x40, 0x12, 0x00, 0xad] [byte]
        (crcTrailer (frameCrc [0x40, 0x12, 0x00, 0xad] [byte]))) := by
    intro rejected
    have count := congrArg List.length (rejected [_] (List.append_nil _))
    rcases known with rfl | rfl
    · revert count
      decide +kernel
    · revert count
      decide +kernel
  have burst (order : UInt8 → List Bool) (byte : UInt8)
      (known : order = lsbFirst ∧ byte = 0x80 ∨ order = msbFirst ∧ byte = 0x01) :
      Burst 16 (([0x00] ++ crcTrailer (frameCrc [0x40, 0x12, 0x00, 0xad] [0x00])).flatMap order)
        (([byte] ++ crcTrailer (frameCrc [0x40, 0x12, 0x00, 0xad] [byte])).flatMap order) := by
    generalize sent : ([0x00] ++ crcTrailer (frameCrc [0x40, 0x12, 0x00, 0xad] [0x00])).flatMap
      order = bits
    generalize received :
      ([byte] ++ crcTrailer (frameCrc [0x40, 0x12, 0x00, 0xad] [byte])).flatMap order = bits'
    refine ⟨bits.take 7, (bits.drop 7).take 16, (bits'.drop 7).take 16, (bits.drop 7).drop 16, ?_⟩
    rcases known with ⟨rfl, rfl⟩ | ⟨rfl, rfl⟩
    · rw [← sent, ← received]
      decide +kernel
    · rw [← sent, ← received]
      decide +kernel
  constructor
  · intro detects
    exact accepted 0x80 (.inl rfl)
      (detects _ [0x00] [0x80] _ carries rfl rfl (burst lsbFirst 0x80 (.inl ⟨rfl, rfl⟩)) false {})
  · intro detects
    exact accepted 0x01 (.inr rfl)
      (detects _ [0x00] [0x01] _ carries rfl rfl (burst msbFirst 0x01 (.inr ⟨rfl, rfl⟩)) false {})

theorem h5_crc :
    (∀ message : List UInt8, (message.foldl h5CrcUpdate h5CrcInit).toBitVec = bitSerialCrc message) ∧
      (∀ (tx : HciH5Cb) (data : List UInt8) (pktType : UInt8) (nskb : RtkBuffer), tx.useCrc = true →
        (h5PreparePkt tx data pktType).1 = some nskb → ∃ hdr, hdr.length = h5HdrSize ∧
          nskb.data = wireFrame tx.oofFlowControl hdr data (crcTrailer (frameCrc hdr data))) ∧
      (∀ (skb : RtkBuffer) (front : List UInt8) (a b : UInt8) (crc : UInt16),
        skb.data = front ++ [a, b] →
        (bitRev16 crc = h5GetCrc skb ↔ [a, b] = crcTrailer crc)) ∧
      ∀ hdr data altered trailer : List UInt8, CarriesCrc hdr data → altered.length = data.length →
        trailer.length = 2 →
        Burst 16 (checkedBits data (crcTrailer (frameCrc hdr data))) (checkedBits altered trailer) →
        ∀ (oof : Bool) (rx : HciH5Cb), Rejected rx (wireFrame oof hdr altered trailer) := by
  refine ⟨fun message => ?_, fun tx data pktType nskb checked sent => ?_, h5GetCrc_iff,
    fun hdr data altered trailer carries same two burst oof rx => ?_⟩
  · rw [foldl_h5CrcUpdate_feed]
    rfl
  · obtain ⟨mem, failed | ⟨rel, nskb', -, frame, sent'⟩⟩ := h5PreparePkt_cases tx data pktType
    · rw [failed] at sent
      cases sent
    · obtain rfl : nskb = nskb' := by simpa [sent'] using sent.symm
      refine ⟨h5Hdr tx.rxseqTxack tx.msgqTxseq rel true data.length pktType, rfl, ?_⟩
      rw [frame, h5Frame, checked, pktBody, if_pos rfl]
      rfl
  · have carries' : CarriesCrc hdr altered := ⟨carries.four, carries.crc, carries.len.trans same.symm⟩
    exact rejected_of_wrong carries' two (burst_wrong two burst) oof rx

end UnionpiTiger.H5
