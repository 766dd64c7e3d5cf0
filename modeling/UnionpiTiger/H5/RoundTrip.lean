import UnionpiTiger.H5.Complete

set_option autoImplicit false

namespace UnionpiTiger.H5

open Bt

section Loop

variable {complete : HciH5Cb → RtkBuffer → HciH5Cb} {outOfOrder : HciH5Cb → HciH5Cb}

theorem h5RecvLoop_append (h5 next : HciH5Cb) (first rest : List UInt8)
    (read : h5RecvLoop complete outOfOrder h5 first = (true, next)) :
    h5RecvLoop complete outOfOrder h5 (first ++ rest) = h5RecvLoop complete outOfOrder next rest := by
  induction first generalizing h5 with
  | nil =>
    obtain rfl : h5 = next := by simpa [h5RecvLoop] using read
    rfl
  | cons byte first ih =>
    simp only [h5RecvLoop, List.cons_append] at read ⊢
    split at read
    next h5 pass => exact ih h5 read
    next => simp at read

theorem h5RecvLoop_first (h5 next : HciH5Cb) (first rest : List UInt8)
    (read : h5RecvLoop complete outOfOrder h5 (first ++ rest) = (true, next)) :
    ∃ middle, h5RecvLoop complete outOfOrder h5 first = (true, middle) := by
  induction first generalizing h5 with
  | nil => exact ⟨h5, rfl⟩
  | cons byte first ih =>
    simp only [h5RecvLoop, List.cons_append] at read ⊢
    split at read
    next h5 pass => exact ih h5 read
    next => simp at read

theorem h5RecvLoop_chunks (h5 next : HciH5Cb) (chunks : List (List UInt8))
    (read : h5RecvLoop complete outOfOrder h5 chunks.flatten = (true, next)) :
    chunks.foldl (fun h5 chunk => (h5RecvLoop complete outOfOrder h5 chunk).2) h5 = next := by
  induction chunks generalizing h5 with
  | nil => simpa [h5RecvLoop] using read
  | cons chunk chunks ih =>
    rw [List.flatten_cons] at read
    obtain ⟨middle, first⟩ := h5RecvLoop_first h5 next chunk chunks.flatten read
    rw [h5RecvLoop_append h5 middle chunk chunks.flatten first] at read
    simp only [List.foldl_cons, first]
    exact ih middle read

theorem slip_cons (oof : Bool) (byte : UInt8) :
    ∃ raw more, slip oof byte = raw :: more ∧ raw ≠ 0xc0 ∧ 0xc0 ∉ more := by
  unfold slip
  split_ifs with delimiter escape xon oofOn xoff oofOff
  · exact ⟨_, _, rfl, by decide, by decide⟩
  · exact ⟨_, _, rfl, by decide, by decide⟩
  · exact ⟨_, _, rfl, by decide, by decide⟩
  · exact ⟨_, _, rfl, delimiter, by simp⟩
  · exact ⟨_, _, rfl, by decide, by decide⟩
  · exact ⟨_, _, rfl, delimiter, by simp⟩
  · exact ⟨_, _, rfl, delimiter, by simp⟩

variable (complete outOfOrder)

theorem h5RecvLoop_toHeader (settles : Settles complete) (h5 : HciH5Cb) (oof : Bool)
    (hdr rest : List UInt8) (four : hdr.length = h5HdrSize) (start : h5.rxState = .w4PktStart)
    (count : h5.rxCount = 0) (memory : h5.mem.head? ≠ some none) :
    ∃ skb, skb.data = hdr ∧ skb.room = 0x1001 ∧
      h5RecvLoop complete outOfOrder h5 (hdr.flatMap (slip oof) ++ rest) =
        h5RecvLoop complete outOfOrder (rxIn { h5 with mem := h5.mem.tail } .w4Hdr 0 skb
          (rxCrc .w4Hdr (skb.byteAt 0) h5CrcInit hdr)) rest := by
  obtain ⟨hdr0, more, rfl⟩ : ∃ byte more, hdr = byte :: more :=
    List.exists_cons_of_ne_nil (by rintro rfl; simp [h5HdrSize] at four)
  obtain ⟨raw, tail, slipped, plain, -⟩ := slip_cons oof hdr0
  have shape : (hdr0 :: more).flatMap (slip oof) ++ rest =
      raw :: (tail ++ (more.flatMap (slip oof) ++ rest)) := by
    simp [slipped]
  obtain ⟨garbage, begun⟩ := h5RecvLoop_start complete outOfOrder settles h5 raw
    (tail ++ (more.flatMap (slip oof) ++ rest)) start count plain memory
  have fits : (hdr0 :: more).length ≤ (RtkBuffer.rtbAllocate 0x1005 garbage).room := by
    rw [four]
    simp [RtkBuffer.rtbAllocate, h5HdrSize]
  have data := RtkBuffer.put_data_of_room _ _ fits
  have collected := h5RecvLoop_collect complete outOfOrder
    { h5 with mem := h5.mem.tail } .w4Hdr 0 oof hdr0 (hdr0 :: more) rest
    (RtkBuffer.rtbAllocate 0x1005 garbage) h5CrcInit fits rfl
  rw [four, Nat.zero_add] at collected
  refine ⟨(RtkBuffer.rtbAllocate 0x1005 garbage).put (hdr0 :: more), data, ?_, ?_⟩
  · rw [RtkBuffer.put_room_of_room _ _ fits, four]
    rfl
  · have at0 : ((RtkBuffer.rtbAllocate 0x1005 garbage).put (hdr0 :: more)).byteAt 0 = hdr0 := by
      rw [RtkBuffer.byteAt, data]
      rfl
    rw [at0, shape, begun, ← shape]
    exact collected

theorem h5RecvLoop_frame (settles : Settles complete) (h5 : HciH5Cb) (oof crcOn rel : Bool)
    (ack seq pktType : UInt8) (data rest : List UInt8) (ackSmall : ack < 8) (seqSmall : seq < 8)
    (lenSmall : data.length ≤ 0xFFF) (kind : pktType.toNat < 16)
    (start : h5.rxState = .w4PktStart) (count : h5.rxCount = 0)
    (memory : h5.mem.head? ≠ some none) (expected : rel = true → h5.rxseqTxack = seq) :
    ∃ state crc last pkt, pkt.data = h5Hdr ack seq rel crcOn data.length pktType ++ data ∧
      h5RecvLoop complete outOfOrder h5
          ((pktBody crcOn (h5Hdr ack seq rel crcOn data.length pktType) data).flatMap (slip oof) ++
            0xc0 :: rest) =
        h5RecvLoop complete outOfOrder
          { complete (rxIn { h5 with mem := h5.mem.tail } state 0 last crc) pkt with
            rxState := .w4PktStart } rest := by
  generalize header : h5Hdr ack seq rel crcOn data.length pktType = hdr
  have four : hdr.length = h5HdrSize := by rw [← header]; rfl
  have split : (pktBody crcOn hdr data).flatMap (slip oof) ++ 0xc0 :: rest =
      hdr.flatMap (slip oof) ++ ((data ++ if crcOn then
        crcTrailer ((hdr ++ data).foldl h5CrcUpdate h5CrcInit) else []).flatMap (slip oof) ++
          0xc0 :: rest) := by
    simp [pktBody]
  obtain ⟨skb, bytes, room, toHeader⟩ := h5RecvLoop_toHeader complete outOfOrder settles h5
    oof hdr ((data ++ if crcOn then crcTrailer ((hdr ++ data).foldl h5CrcUpdate h5CrcInit)
      else []).flatMap (slip oof) ++ 0xc0 :: rest) four start count memory
  have decodes := decodes_h5Hdr skb ack seq rel crcOn data.length pktType [] ackSmall seqSmall
    lenSmall kind (by rw [bytes, header, List.append_nil])
  have toData := h5RecvLoop_header complete outOfOrder settles { h5 with mem := h5.mem.tail }
    skb (rxCrc .w4Hdr (skb.byteAt 0) h5CrcInit hdr) ((data ++ if crcOn then
      crcTrailer ((hdr ++ data).foldl h5CrcUpdate h5CrcInit) else []).flatMap (slip oof) ++
        0xc0 :: rest) (by simp) decodes.checksum (by
      cases rel with
      | false => simp [decodes.reliable]
      | true => simp [decodes.seq, expected])
  obtain ⟨state, crc, last, pkt, payload, -, done⟩ := h5RecvLoop_body complete outOfOrder
    settles { h5 with mem := h5.mem.tail } oof crcOn hdr data rest skb bytes (by omega)
    decodes.crc four
  rw [decodes.len] at toData
  exact ⟨state, crc, last, pkt, payload, by rw [split, toHeader, toData, done]⟩

theorem h5RecvPass_delimiter (h5 : HciH5Cb) :
    (∃ next, h5RecvPass complete outOfOrder h5 0xc0 = (.again, next)) ∨
      ∃ next, h5RecvPass complete outOfOrder h5 0xc0 = (.consumed, next) ∧
        next.rxState = .w4PktStart ∧ next.rxCount = 0 := by
  by_cases count : h5.rxCount = 0
  · cases state : h5.rxState with
    | w4PktDelimiter =>
      exact .inr ⟨{ h5 with rxState := .w4PktStart }, by simp [h5RecvPass, count, state], rfl, count⟩
    | w4PktStart => exact .inr ⟨h5, by simp [h5RecvPass, count, state], state, count⟩
    | w4Hdr | w4Data | w4Crc => exact .inl ⟨_, by simp [h5RecvPass, count, state]; rfl⟩
  · exact .inr ⟨_, by simp [h5RecvPass, count]; rfl, rfl, rfl⟩

-- Whatever the receiver is doing, a delimiter brings it to the start of a packet. The induction is
-- on the passes the byte still needs: a reject branch that resets lazily only costs one more pass.
theorem h5RecvLoop_delimiter (settles : Settles complete) (h5 : HciH5Cb) :
    ∃ next, next.rxState = .w4PktStart ∧ next.rxCount = 0 ∧
      ∀ rest, h5RecvLoop complete outOfOrder h5 (0xc0 :: rest) =
        h5RecvLoop complete outOfOrder next rest := by
  induction rank : passRank h5 using Nat.strongRecOn generalizing h5 with
  | _ n ih =>
    rcases h5RecvPass_delimiter complete outOfOrder h5 with
      ⟨next, pass⟩ | ⟨next, pass, start, count⟩
    · have less := h5RecvPass_again settles h5 next 0xc0 pass
      obtain ⟨last, start, count, done⟩ := ih (passRank next) (rank ▸ less) next rfl
      refine ⟨last, start, count, fun rest => ?_⟩
      rw [h5RecvLoop_again settles h5 next 0xc0 rest pass, done]
    · exact ⟨next, start, count, fun rest => h5RecvLoop_consumed h5 next 0xc0 rest pass⟩

end Loop

theorem h5PreparePkt_sent (tx : HciH5Cb) (data : List UInt8) (pktType : UInt8) (rel : Bool)
    (kind : pktReliable? pktType = some rel) (memory : tx.mem.head? ≠ some none) :
    ∃ nskb, (h5PreparePkt tx data pktType).1 = some nskb ∧
      nskb.data = h5Frame tx rel data pktType := by
  obtain ⟨mem, failed | ⟨_, nskb, kind', frame, sent⟩⟩ := h5PreparePkt_cases tx data pktType
  · cases outcomes : tx.mem with
    | nil => simp [h5PreparePkt, kind, skbAlloc, outcomes] at failed
    | cons outcome rest =>
      cases outcome with
      | none => simp [outcomes] at memory
      | some garbage => simp [h5PreparePkt, kind, skbAlloc, outcomes] at failed
  · obtain rfl := Option.some.inj (kind.symm.trans kind')
    exact ⟨nskb, by rw [sent], frame⟩

theorem h5RecvLoop_h5Frame (tx rx : HciH5Cb) (data : List UInt8) (pktType : UInt8) (rel : Bool)
    (kind : pktReliable? pktType = some rel) (ackSmall : tx.rxseqTxack < 8)
    (seqSmall : tx.msgqTxseq < 8) (lenSmall : data.length ≤ 0xFFF)
    (start : rx.rxState = .w4PktStart) (count : rx.rxCount = 0)
    (memory : rx.mem.head? ≠ some none) (expected : rel = true → rx.rxseqTxack = tx.msgqTxseq) :
    ∃ next pkt, h5RecvLoop h5CompleteRxPkt h5WakeUp rx (h5Frame tx rel data pktType).tail =
      (true, next) ∧
      pkt.data = h5Hdr tx.rxseqTxack tx.msgqTxseq rel tx.useCrc data.length pktType ++ data ∧
      next.log.completed = rx.log.completed ++ [pkt] ∧
      next.rxState = .w4PktStart ∧ next.rxCount = 0 ∧ next.rxSkb = none := by
  obtain ⟨state, crc, last, pkt, payload, done⟩ := h5RecvLoop_frame h5CompleteRxPkt h5WakeUp
    h5CompleteRxPkt_settles rx tx.oofFlowControl tx.useCrc rel tx.rxseqTxack tx.msgqTxseq pktType
    data [] ackSmall seqSmall lenSmall (pktReliable?_lt pktType rel kind) start count memory expected
  have view := h5CompleteRxPkt_rxView (rxIn { rx with mem := rx.mem.tail } state 0 last crc) pkt
  exact ⟨_, pkt, done, payload, congrArg RxView.completed view, rfl, congrArg RxView.rxCount view,
    congrArg RxView.rxSkb view⟩

theorem h5Recv_h5PreparePkt (tx : HciH5Cb) (data : List UInt8) (pktType : UInt8) (rel : Bool)
    (kind : pktReliable? pktType = some rel) (ackSmall : tx.rxseqTxack < 8)
    (seqSmall : tx.msgqTxseq < 8) (lenSmall : data.length ≤ 4095)
    (txMemory : tx.mem.head? ≠ some none) :
    ∃ nskb, (h5PreparePkt tx data pktType).1 = some nskb ∧
      ∀ (rx : HciH5Cb) (chunks : List (List UInt8)), chunks.flatten = nskb.data →
        rx.rxState = .w4PktDelimiter → rx.mem.head? ≠ some none →
        (rel = true → rx.rxseqTxack = tx.msgqTxseq) →
        ∃ pkt, (chunks.foldl h5Recv rx).log.completed = rx.log.completed ++ [pkt] ∧
          Decodes pkt tx.rxseqTxack tx.msgqTxseq rel tx.useCrc data.length pktType ∧
          pkt.data.drop h5HdrSize = data ∧
          (chunks.foldl h5Recv rx).rxState = .w4PktStart ∧ (chunks.foldl h5Recv rx).rxCount = 0 ∧
          (chunks.foldl h5Recv rx).rxSkb = none := by
  obtain ⟨nskb, sent, frame⟩ := h5PreparePkt_sent tx data pktType rel kind txMemory
  refine ⟨nskb, sent, fun rx chunks split idle memory expected => ?_⟩
  obtain ⟨begun, pass, start, count, outcomes, seq, completed⟩ : ∃ begun,
      h5RecvPass h5CompleteRxPkt h5WakeUp rx 0xc0 = (.consumed, begun) ∧
        begun.rxState = .w4PktStart ∧ begun.rxCount = 0 ∧ begun.mem = rx.mem ∧
        begun.rxseqTxack = rx.rxseqTxack ∧ begun.log.completed = rx.log.completed := by
    by_cases count : rx.rxCount = 0
    · exact ⟨{ rx with rxState := .w4PktStart }, by simp [h5RecvPass, count, idle], rfl, count, rfl,
        rfl, rfl⟩
    · exact ⟨{ rx with rxSkb := none, rxState := .w4PktStart, rxCount := 0 },
        by simp [h5RecvPass, count], rfl, rfl, rfl, rfl, rfl⟩
  obtain ⟨next, pkt, read, payload, passed, settled⟩ := h5RecvLoop_h5Frame tx begun data pktType rel
    kind ackSmall seqSmall lenSmall start count (by rwa [outcomes]) (by rwa [seq])
  have whole : h5RecvLoop h5CompleteRxPkt h5WakeUp rx chunks.flatten = (true, next) := by
    rw [split, frame]
    exact (h5RecvLoop_consumed rx begun 0xc0 _ pass).trans read
  have fed : chunks.foldl h5Recv rx = next := h5RecvLoop_chunks rx next chunks whole
  rw [fed]
  refine ⟨pkt, by rw [passed, completed], ?_, ?_, settled⟩
  · exact decodes_h5Hdr pkt _ _ _ _ _ _ data ackSmall seqSmall lenSmall
      (pktReliable?_lt pktType rel kind) payload
  · rw [payload]
    rfl

theorem h5Recv_h5PreparePkt_escapes :
    ∃ nskb, (h5PreparePkt { useCrc := true, msgqTxseq := 7 } [0xc0, 0xdb] hciAcldataPkt).1 = some nskb ∧
      ∃ pkt, ([nskb.data].foldl h5Recv { rxseqTxack := 7 }).log.completed = [pkt] ∧
        pkt.data.drop h5HdrSize = [0xc0, 0xdb] := by
  obtain ⟨nskb, sent, received⟩ := h5Recv_h5PreparePkt { useCrc := true, msgqTxseq := 7 } [0xc0, 0xdb]
    hciAcldataPkt true (by decide) (by decide) (by decide) (by decide) (by simp)
  obtain ⟨pkt, completed, -, payload, -⟩ := received { rxseqTxack := 7 } [nskb.data] (by simp) rfl
    (by simp) (fun _ => rfl)
  exact ⟨nskb, sent, pkt, completed, payload⟩

theorem h5Recv_resynchronises (init tx : HciH5Cb) (stream chunks : List (List UInt8))
    (data : List UInt8) (pktType : UInt8) (rel : Bool) (nskb : RtkBuffer)
    (kind : pktReliable? pktType = some rel) (ackSmall : tx.rxseqTxack < 8)
    (seqSmall : tx.msgqTxseq < 8) (lenSmall : data.length ≤ 0xFFF)
    (sent : (h5PreparePkt tx data pktType).1 = some nskb) (split : chunks.flatten = nskb.data)
    (memory : (h5Recv (stream.foldl h5Recv init) [0xc0]).mem.head? ≠ some none)
    (expected : rel = true →
      (h5Recv (stream.foldl h5Recv init) [0xc0]).rxseqTxack = tx.msgqTxseq) :
    ∃ pkt, pkt.data = h5Hdr tx.rxseqTxack tx.msgqTxseq rel tx.useCrc data.length pktType ++ data ∧
      (chunks.foldl h5Recv (stream.foldl h5Recv init)).log.completed =
        (h5Recv (stream.foldl h5Recv init) [0xc0]).log.completed ++ [pkt] := by
  generalize stream.foldl h5Recv init = rx at *
  obtain ⟨begun, start, count, delimiter⟩ := h5RecvLoop_delimiter h5CompleteRxPkt h5WakeUp
    h5CompleteRxPkt_settles rx
  have first : h5Recv rx [0xc0] = begun := by
    rw [h5Recv, delimiter]
    rfl
  rw [first] at memory expected ⊢
  obtain ⟨next, pkt, read, payload, passed, -⟩ := h5RecvLoop_h5Frame tx begun data pktType rel kind
    ackSmall seqSmall lenSmall start count memory expected
  obtain ⟨mem, failed | ⟨_, nskb', kind', frame, sent'⟩⟩ := h5PreparePkt_cases tx data pktType
  · simp [failed] at sent
  · obtain rfl := Option.some.inj (kind.symm.trans kind')
    obtain rfl : nskb = nskb' := by simpa [sent'] using sent.symm
    have whole : h5RecvLoop h5CompleteRxPkt h5WakeUp rx chunks.flatten = (true, next) := by
      rw [split, frame]
      exact (delimiter _).trans read
    have fed : chunks.foldl h5Recv rx = next := h5RecvLoop_chunks rx next chunks whole
    exact ⟨pkt, payload, by rw [fed, passed]⟩

theorem h5Recv_resynchronises_truncated :
    ∃ nskb, (h5PreparePkt {} [0x11] hciScodataPkt).1 = some nskb ∧
      ∃ pkt, (h5Recv (h5Recv {} [0xc0, 0x80, 0xdb]) nskb.data).log.completed = [pkt] ∧
        pkt.data.drop h5HdrSize = [0x11] := by
  obtain ⟨nskb, sent, -⟩ := h5PreparePkt_sent {} [0x11] hciScodataPkt false (by decide) (by simp)
  obtain ⟨pkt, payload, completed⟩ :=
    h5Recv_resynchronises {} {} [[0xc0, 0x80, 0xdb]] [nskb.data] [0x11]
    hciScodataPkt false nskb (by decide) (by decide) (by decide) (by decide) sent (by simp)
    (by decide) (by simp)
  exact ⟨nskb, sent, pkt, completed, by rw [payload]; rfl⟩

section Loop

variable {complete : HciH5Cb → RtkBuffer → HciH5Cb} {outOfOrder : HciH5Cb → HciH5Cb}

theorem slip_no_delimiter (oof : Bool) (bytes : List UInt8) : 0xc0 ∉ bytes.flatMap (slip oof) := by
  intro member
  obtain ⟨byte, -, inside⟩ := List.mem_flatMap.mp member
  obtain ⟨raw, more, shape, plain, rest⟩ := slip_cons oof byte
  rw [shape, List.mem_cons] at inside
  rcases inside with same | inside
  · exact plain same.symm
  · exact rest inside

variable (complete outOfOrder)

theorem h5RecvLoop_skip (h5 : HciH5Cb) (bytes rest : List UInt8) (plain : 0xc0 ∉ bytes)
    (state : h5.rxState = .w4PktDelimiter) (count : h5.rxCount = 0) :
    h5RecvLoop complete outOfOrder h5 (bytes ++ 0xc0 :: rest) =
      h5RecvLoop complete outOfOrder { h5 with rxState := .w4PktStart } rest := by
  induction bytes with
  | nil =>
    apply h5RecvLoop_consumed
    simp [h5RecvPass, count, state]
  | cons byte bytes ih =>
    rw [List.mem_cons, not_or] at plain
    rw [List.cons_append, h5RecvLoop_consumed h5 h5 byte]
    · exact ih plain.2
    · simp [h5RecvPass, count, state, Ne.symm plain.1]

theorem h5RecvLoop_noMemory (h5 : HciH5Cb) (oof : Bool) (hdr rest : List UInt8) (begun : hdr ≠ [])
    (start : h5.rxState = .w4PktStart) (count : h5.rxCount = 0) (memory : h5.mem.head? = some none) :
    h5RecvLoop complete outOfOrder h5 (hdr.flatMap (slip oof) ++ rest) = (false, { h5 with
      mem := h5.mem.tail
      rxState := .w4PktDelimiter
      rxCount := 0
      rxEscState := .noesc
      rxSkb := none
      messageCrc := h5CrcInit }) := by
  obtain ⟨hdr0, more, rfl⟩ := List.exists_cons_of_ne_nil begun
  obtain ⟨raw, tail, slipped, plain, -⟩ := slip_cons oof hdr0
  obtain ⟨outcomes, failed⟩ : ∃ outcomes, h5.mem = none :: outcomes := by
    cases outcomes : h5.mem with
    | nil => simp [outcomes] at memory
    | cons outcome rest =>
      obtain rfl : outcome = none := by simpa [outcomes] using memory
      exact ⟨rest, rfl⟩
  simp [slipped, h5RecvLoop, h5RecvByte, h5RecvPass, count, start, plain, skbAlloc, failed]

theorem h5RecvLoop_outOfOrder (settles : Settles complete) (h5 : HciH5Cb) (oof crcOn : Bool)
    (ack seq pktType : UInt8) (data rest : List UInt8) (ackSmall : ack < 8) (seqSmall : seq < 8)
    (lenSmall : data.length ≤ 0xFFF) (kind : pktType.toNat < 16)
    (start : h5.rxState = .w4PktStart) (count : h5.rxCount = 0)
    (memory : h5.mem.head? ≠ some none) (unexpected : h5.rxseqTxack ≠ seq) :
    ∃ skb crc, h5RecvLoop complete outOfOrder h5
        ((pktBody crcOn (h5Hdr ack seq true crcOn data.length pktType) data).flatMap (slip oof) ++
          0xc0 :: rest) =
      h5RecvLoop complete outOfOrder
        { dropRxPkt (outOfOrder { rxIn { h5 with mem := h5.mem.tail } .w4Hdr 0 skb crc with
            isTxackReq := true }) with rxState := .w4PktStart } rest := by
  generalize header : h5Hdr ack seq true crcOn data.length pktType = hdr
  have four : hdr.length = h5HdrSize := by rw [← header]; rfl
  obtain ⟨tail, split⟩ : ∃ tail, (pktBody crcOn hdr data).flatMap (slip oof) ++ 0xc0 :: rest =
      hdr.flatMap (slip oof) ++ (tail.flatMap (slip oof) ++ 0xc0 :: rest) :=
    ⟨data ++ if crcOn then crcTrailer ((hdr ++ data).foldl h5CrcUpdate h5CrcInit) else [],
      by simp [pktBody]⟩
  obtain ⟨skb, bytes, -, toHeader⟩ := h5RecvLoop_toHeader complete outOfOrder settles h5
    oof hdr (tail.flatMap (slip oof) ++ 0xc0 :: rest) four start count memory
  have decodes := decodes_h5Hdr skb ack seq true crcOn data.length pktType [] ackSmall seqSmall
    lenSmall kind (by rw [bytes, header, List.append_nil])
  refine ⟨skb, rxCrc .w4Hdr (skb.byteAt 0) h5CrcInit hdr, ?_⟩
  rw [split, toHeader, h5RecvLoop_settle settles _ (dropRxPkt (outOfOrder
    { rxIn { h5 with mem := h5.mem.tail } .w4Hdr 0 skb (rxCrc .w4Hdr (skb.byteAt 0) h5CrcInit hdr) with
      isTxackReq := true })) _ (by simp)]
  · exact h5RecvLoop_skip complete outOfOrder _ _ _ (slip_no_delimiter oof tail) rfl rfl
  · intro byte
    have late : h5HdrReliable skb = 1 ∧ h5HdrSeq skb ≠ h5.rxseqTxack := by
      simp [decodes.reliable, decodes.seq, Ne.symm unexpected]
    simp only [h5RecvPass, rxIn, h5RecvPkt, Option.getD_some, decodes.checksum, late, ne_eq,
      not_true_eq_false, if_false, not_false_eq_true, and_self, if_true]

end Loop

end UnionpiTiger.H5
