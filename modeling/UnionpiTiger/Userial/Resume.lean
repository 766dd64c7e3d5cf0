import UnionpiTiger.Userial.Reassembly
import Mathlib.Tactic.Basic

set_option autoImplicit false

namespace UnionpiTiger.Userial

open Lib

def headerSize (type : UInt8) : Nat :=
  if type = dataTypeAcl then 4 else if type = dataTypeSco then 3 else 2

def HciPacket.wire (p : HciPacket) : List UInt8 := p.type :: p.bytes

-- Where an event carries num_hci_command_packets: the first parameter of Command Complete, the
-- second of Command Status.
def HciPacket.numHciCommandPackets (p : HciPacket) : Option Nat :=
  if p.type = dataTypeEvent then
    if p.bytes.getD 0 0 = hciCommandCompleteEvt then some 2
    else if p.bytes.getD 0 0 = hciCommandStatusEvt then some 3
    else none
  else none

structure HciPacket.Framed (p : HciPacket) : Prop where
  type : p.type = dataTypeAcl ∨ p.type = dataTypeSco ∨ p.type = dataTypeEvent
  header : headerSize p.type ≤ p.bytes.length
  length : p.bytes.length = headerSize p.type + contentSize p.type p.bytes

instance HciPacket.Framed.decidable (p : HciPacket) : Decidable p.Framed :=
  decidable_of_iff
    ((p.type = dataTypeAcl ∨ p.type = dataTypeSco ∨ p.type = dataTypeEvent) ∧
      headerSize p.type ≤ p.bytes.length ∧
      p.bytes.length = headerSize p.type + contentSize p.type p.bytes)
    ⟨fun ⟨type, header, length⟩ => ⟨type, header, length⟩,
      fun framed => ⟨framed.type, framed.header, framed.length⟩⟩

structure HciPacket.WellFormed (p : HciPacket) : Prop where
  type : p.type = dataTypeAcl ∨ p.type = dataTypeSco ∨ p.type = dataTypeEvent
  header : headerSize p.type ≤ p.bytes.length
  length : p.bytes.length = headerSize p.type + contentSize p.type p.bytes
  fits : p.bytes.length ≤ resveredSize
  counts : ∀ offset ∈ p.numHciCommandPackets, offset < p.bytes.length

instance HciPacket.WellFormed.decidable (p : HciPacket) : Decidable p.WellFormed :=
  decidable_of_iff
    ((p.type = dataTypeAcl ∨ p.type = dataTypeSco ∨ p.type = dataTypeEvent) ∧
      headerSize p.type ≤ p.bytes.length ∧
      p.bytes.length = headerSize p.type + contentSize p.type p.bytes ∧
      p.bytes.length ≤ resveredSize ∧ ∀ offset ∈ p.numHciCommandPackets, offset < p.bytes.length)
    ⟨fun ⟨type, header, length, fits, counts⟩ => ⟨type, header, length, fits, counts⟩,
      fun wf => ⟨wf.type, wf.header, wf.length, wf.fits, wf.counts⟩⟩

theorem HciPacket.WellFormed.framed {p : HciPacket} (wf : p.WellFormed) : p.Framed :=
  ⟨wf.type, wf.header, wf.length⟩

def HciPacket.rewritten (p : HciPacket) : HciPacket :=
  match p.numHciCommandPackets with
  | some offset => { p with bytes := p.bytes.set offset 1 }
  | none => p

def HciPacket.overwritten (p : HciPacket) (follows : List UInt8) : List UInt8 :=
  match p.numHciCommandPackets with
  | some offset =>
    if offset < p.bytes.length then follows else follows.set (offset - p.bytes.length) 1
  | none => follows

def Reassembler.inHeader (q : HciPacket) (j : Nat) : Reassembler :=
  { packetState := .packetHeader
    bytesNeed := headerSize q.type - j
    currentType := q.type
    resvered := q.bytes.take j }

def Reassembler.inContent (q : HciPacket) (j : Nat) : Reassembler :=
  { packetState := .packetContent
    bytesNeed := q.bytes.length - j
    currentType := q.type
    resvered := q.bytes.take j }

def Reassembler.during (q : HciPacket) : Nat → Reassembler
  | 0 => {}
  | j + 1 => if j < headerSize q.type then .inHeader q j else .inContent q j

theorem Reassembler.during_zero (q : HciPacket) : Reassembler.during q 0 = {} := rfl

structure Rewrites (handler : RecvHandler) (rewritten : HciPacket → HciPacket)
    (overwrite : HciPacket → List UInt8 → List UInt8) : Prop where
  preamble : ∀ p : HciPacket, p.Framed → handler.preambleSize p.type = headerSize p.type
  type : ∀ p : HciPacket, (rewritten p).type = p.type
  length : ∀ p : HciPacket, (rewritten p).bytes.length = p.bytes.length
  same_length : ∀ (p : HciPacket) rest, (overwrite p rest).length = rest.length
  header : ∀ p : HciPacket, p.Framed →
    (rewritten p).bytes.take (headerSize p.type) = p.bytes.take (headerSize p.type)
  within : ∀ (p : HciPacket) j pData more, p.Framed → headerSize p.type ≤ j →
    j ≤ p.bytes.length → p.bytes.drop j = pData ++ more →
    handler.rewrite (.inContent (rewritten p) j) pData =
      ((rewritten p).bytes.drop j).take pData.length
  past : ∀ (p : HciPacket) j rest, p.Framed → headerSize p.type ≤ j → j ≤ p.bytes.length →
    handler.rewrite (.inContent (rewritten p) j) (p.bytes.drop j ++ rest) =
      (rewritten p).bytes.drop j ++ overwrite p rest

theorem headerSize_pos (type : UInt8) : 0 < headerSize type := by
  unfold headerSize
  split_ifs <;> decide

theorem headerSize_le (type : UInt8) : headerSize type ≤ 4 := by
  unfold headerSize
  split_ifs <;> decide

theorem headerSize_le_resveredSize (type : UInt8) : headerSize type ≤ resveredSize :=
  Nat.le_trans (headerSize_le type) (by decide)

theorem Reassembler.memcpy_eq {s : Reassembler} {src : List UInt8}
    (fits : s.resvered.length + src.length ≤ resveredSize) :
    s.memcpy src = .ok { s with resvered := s.resvered ++ src } := if_pos fits

theorem Reassembler.memcpy_overruns {s : Reassembler} {src : List UInt8}
    (long : ¬ s.resvered.length + src.length ≤ resveredSize) :
    s.memcpy src = .error .overruns := if_neg long

theorem take_append_piece {bytes : List UInt8} {j n : Nat} :
    bytes.take j ++ (bytes.drop j).take n = bytes.take (j + n) := by
  rw [List.take_add]

theorem contentSize_take {type : UInt8} (bytes : List UInt8)
    (known : type = dataTypeAcl ∨ type = dataTypeSco ∨ type = dataTypeEvent) :
    contentSize type (bytes.take (headerSize type)) = contentSize type bytes := by
  have reads : ∀ n i, i < n → (bytes.take n).getD i 0 = bytes.getD i 0 := by
    intro n i lt
    rw [List.getD_eq_getElem?_getD, List.getD_eq_getElem?_getD, List.getElem?_take_of_lt lt]
  rcases known with acl | sco | event
  · rw [acl]
    simp only [contentSize, headerSize, if_true, uint16At]
    rw [reads 4 2 (by decide), reads 4 3 (by decide)]
  · rw [sco]
    exact congrArg UInt8.toNat (reads 3 2 (by decide))
  · rw [event]
    exact congrArg UInt8.toNat (reads 2 1 (by decide))

section Rewrites

variable {handler : RecvHandler} {rewritten : HciPacket → HciPacket}
  {overwrite : HciPacket → List UInt8 → List UInt8}

theorem Rewrites.header_piece (rewrites : Rewrites handler rewritten overwrite) {p : HciPacket}
    (framed : p.Framed) {j n : Nat} (short : j + n ≤ headerSize p.type) :
    ((rewritten p).bytes.drop j).take n = (p.bytes.drop j).take n := by
  have whole := rewrites.header p framed
  have cut := congrArg (List.take (j + n)) whole
  rw [List.take_take, List.take_take, Nat.min_eq_left short] at cut
  rw [List.take_drop, List.take_drop, cut]

theorem Rewrites.contentSize (rewrites : Rewrites handler rewritten overwrite) {p : HciPacket}
    (framed : p.Framed) :
    Userial.contentSize p.type ((rewritten p).bytes.take (headerSize p.type)) =
      p.bytes.length - headerSize p.type := by
  rw [rewrites.header p framed, contentSize_take p.bytes framed.type, framed.length,
    Nat.add_sub_cancel_left]

theorem length_of_drop {bytes pData more : List UInt8} {j : Nat}
    (here : bytes.drop j = pData ++ more) (waits : more ≠ []) : j + pData.length < bytes.length := by
  have size := congrArg List.length here
  rw [List.length_drop, List.length_append] at size
  have positive := List.length_pos_iff.mpr waits
  omega

theorem Rewrites.take_length (rewrites : Rewrites handler rewritten overwrite) (p : HciPacket)
    {j : Nat} (inside : j ≤ p.bytes.length) : ((rewritten p).bytes.take j).length = j := by
  rw [List.length_take, rewrites.length p]
  exact Nat.min_eq_left inside

theorem Rewrites.content_pauses (rewrites : Rewrites handler rewritten overwrite) {p : HciPacket}
    (framed : p.Framed) {j : Nat} {seen pData more : List UInt8} (content : headerSize p.type ≤ j)
    (here : p.bytes.drop j = pData ++ more) (waits : more ≠ []) :
    recvContent handler (.inContent (rewritten p) j) seen pData =
      if j + pData.length ≤ resveredSize then .ok
        { next := .inContent (rewritten p) (j + pData.length)
          buffer := seen ++ ((rewritten p).bytes.drop j).take pData.length
          readLength := seen.length + pData.length
          packet := none }
      else .error .overruns := by
  have short := length_of_drop here waits
  have same := rewrites.length p
  have piece : (((rewritten p).bytes.drop j).take pData.length).length = pData.length := by
    rw [List.length_take, List.length_drop]
    omega
  have start := rewrites.take_length p (j := j) (by omega)
  have unfinished : ¬ (rewritten p).bytes.length - j ≤ pData.length := by omega
  simp only [recvContent]
  rw [rewrites.within p j pData more framed content (by omega) here,
    if_neg (by rw [piece]; exact unfinished)]
  by_cases room : j + pData.length ≤ resveredSize
  · rw [if_pos room, Reassembler.memcpy_eq]
    · simp only [Result.map_ok, recvPending, Reassembler.inContent, take_append_piece, piece,
        Nat.sub_sub]
    · simp only [piece, Reassembler.inContent, start]
      exact room
  · rw [if_neg room, Reassembler.memcpy_overruns]
    · rfl
    · simp only [piece, Reassembler.inContent, start]
      exact room

theorem Rewrites.content_finishes (rewrites : Rewrites handler rewritten overwrite) {p : HciPacket}
    (framed : p.Framed) {j : Nat} {seen rest : List UInt8} (content : headerSize p.type ≤ j)
    (inside : j ≤ p.bytes.length) :
    recvContent handler (.inContent (rewritten p) j) seen (p.bytes.drop j ++ rest) =
      if p.bytes.length ≤ resveredSize then .ok
        { next := {}
          buffer := seen ++ (rewritten p).bytes.drop j ++ overwrite p rest
          readLength := seen.length + (p.bytes.length - j)
          packet := some (rewritten p) }
      else .error .overruns := by
  have same := rewrites.length p
  have start := rewrites.take_length p inside
  have need : (rewritten p).bytes.length - j = ((rewritten p).bytes.drop j).length := by
    rw [List.length_drop]
  have total : j + ((rewritten p).bytes.drop j).length = p.bytes.length := by
    rw [List.length_drop]
    omega
  simp only [recvContent]
  rw [rewrites.past p j rest framed content inside]
  simp only [Reassembler.inContent, need, List.length_append, Nat.le_add_right, if_true,
    List.take_left, List.drop_left]
  by_cases room : p.bytes.length ≤ resveredSize
  · rw [if_pos room, Reassembler.memcpy_eq (by simp only [start, total]; exact room)]
    simp only [Result.map_ok, recvEnd, List.take_append_drop, List.length_append,
      List.length_drop, same]
  · rw [if_neg room, Reassembler.memcpy_overruns (by simp only [start, total]; exact room)]
    rfl

theorem Rewrites.header_waits (rewrites : Rewrites handler rewritten overwrite) {p : HciPacket}
    (framed : p.Framed) {j : Nat} {seen pData more : List UInt8}
    (here : p.bytes.drop j = pData ++ more) (short : j + pData.length < headerSize p.type) :
    recvHeader handler (.inHeader (rewritten p) j) seen pData = .ok
      { next := .inHeader (rewritten p) (j + pData.length)
        buffer := seen ++ ((rewritten p).bytes.drop j).take pData.length
        readLength := seen.length + pData.length
        packet := none } := by
  have same := rewrites.length p
  have fits := headerSize_le_resveredSize p.type
  have header := framed.header
  have start := rewrites.take_length p (j := j) (by omega)
  have piece : ((rewritten p).bytes.drop j).take pData.length = pData := by
    rw [rewrites.header_piece framed (Nat.le_of_lt short), here, List.take_left]
  have waits : ¬ headerSize p.type - j ≤ pData.length := by omega
  simp only [recvHeader, Reassembler.inHeader, rewrites.type p]
  rw [if_neg waits, Reassembler.memcpy_eq (by simp only [start]; omega)]
  simp only [Result.map_ok, recvPending, Nat.sub_sub, piece, ← take_append_piece]

theorem Rewrites.header_ends (rewrites : Rewrites handler rewritten overwrite) {p : HciPacket}
    (framed : p.Framed) {j : Nat} {seen piece pData : List UInt8}
    (ends : j + piece.length = headerSize p.type)
    (here : (p.bytes.drop j).take piece.length = piece) :
    recvHeader handler (.inHeader (rewritten p) j) seen (piece ++ pData) =
      recvContent handler (.inContent (rewritten p) (headerSize p.type)) (seen ++ piece) pData := by
  have same := rewrites.length p
  have fits := headerSize_le_resveredSize p.type
  have header := framed.header
  have start := rewrites.take_length p (j := j) (by omega)
  have need : headerSize p.type - j = piece.length := by omega
  have joined : (rewritten p).bytes.take j ++ piece =
      (rewritten p).bytes.take (headerSize p.type) := by
    rw [← ends, ← take_append_piece, rewrites.header_piece framed (Nat.le_of_eq ends), here]
  simp only [recvHeader, Reassembler.inHeader, rewrites.type p, need, List.length_append,
    Nat.le_add_right, if_true, List.take_left, List.drop_left]
  rw [Reassembler.memcpy_eq (by simp only [start]; omega)]
  simp only [Result.bind_ok, joined, rewrites.contentSize framed, Reassembler.inContent,
    rewrites.type p, same]

def resume (handler : RecvHandler) (q : HciPacket) (j : Nat) (seen pData : List UInt8) :
    Result HandledData :=
  if j < headerSize q.type then recvHeader handler (.inHeader q j) seen pData
  else recvContent handler (.inContent q j) seen pData

structure Crosses (p : HciPacket) (j : Nat) (piece : List UInt8) : Prop where
  ends : j + piece.length = headerSize p.type
  here : (p.bytes.drop j).take piece.length = piece

theorem Crosses.of_drop {p : HciPacket} {j : Nat} {pData more : List UInt8}
    (header : j < headerSize p.type) (long : headerSize p.type ≤ j + pData.length)
    (here : p.bytes.drop j = pData ++ more) :
    ∃ piece tail, pData = piece ++ tail ∧ Crosses p j piece ∧
      p.bytes.drop (headerSize p.type) = tail ++ more := by
  have size : (pData.take (headerSize p.type - j)).length = headerSize p.type - j := by
    rw [List.length_take]
    omega
  have ends : j + (pData.take (headerSize p.type - j)).length = headerSize p.type := by
    rw [size]
    omega
  have split : p.bytes.drop j =
      pData.take (headerSize p.type - j) ++ (pData.drop (headerSize p.type - j) ++ more) := by
    rw [here, ← List.append_assoc, List.take_append_drop]
  refine ⟨pData.take (headerSize p.type - j), pData.drop (headerSize p.type - j),
    (List.take_append_drop _ pData).symm, ⟨ends, ?_⟩, ?_⟩
  · rw [split, List.take_left]
  · have drops := congrArg (List.drop (pData.take (headerSize p.type - j)).length) split
    rw [List.drop_drop, ends, List.drop_left] at drops
    exact drops

theorem Rewrites.crossing_piece (rewrites : Rewrites handler rewritten overwrite) {p : HciPacket}
    (framed : p.Framed) {j : Nat} {piece : List UInt8} (crosses : Crosses p j piece) :
    (rewritten p).bytes.drop j = piece ++ (rewritten p).bytes.drop (headerSize p.type) := by
  have first := rewrites.header_piece framed (Nat.le_of_eq crosses.ends)
  rw [crosses.here] at first
  have split := List.take_append_drop piece.length ((rewritten p).bytes.drop j)
  rw [first, List.drop_drop, crosses.ends] at split
  exact split.symm

theorem Rewrites.resume_crosses (rewrites : Rewrites handler rewritten overwrite) {p : HciPacket}
    (framed : p.Framed) {j : Nat} {piece : List UInt8} (header : j < headerSize p.type)
    (crosses : Crosses p j piece) (seen tail : List UInt8) :
    resume handler (rewritten p) j seen (piece ++ tail) =
      recvContent handler (.inContent (rewritten p) (headerSize p.type)) (seen ++ piece) tail := by
  rw [resume, rewrites.type p, if_pos header]
  exact rewrites.header_ends framed crosses.ends crosses.here

theorem Rewrites.resume_pauses (rewrites : Rewrites handler rewritten overwrite) {p : HciPacket}
    (framed : p.Framed) {j : Nat} {seen pData more : List UInt8}
    (here : p.bytes.drop j = pData ++ more) (waits : more ≠ []) :
    resume handler (rewritten p) j seen pData =
      if j + pData.length ≤ resveredSize then .ok
        { next := .during (rewritten p) (j + pData.length + 1)
          buffer := seen ++ ((rewritten p).bytes.drop j).take pData.length
          readLength := seen.length + pData.length
          packet := none }
      else .error .overruns := by
  have small := headerSize_le p.type
  by_cases header : j < headerSize p.type
  · by_cases short : j + pData.length < headerSize p.type
    · rw [resume, Reassembler.during, rewrites.type p, if_pos header, if_pos short,
        if_pos (Nat.le_trans (Nat.le_of_lt short) (headerSize_le_resveredSize p.type))]
      exact rewrites.header_waits framed here short
    · obtain ⟨piece, tail, rfl, crosses, rest⟩ := Crosses.of_drop header (by omega) here
      have ends := crosses.ends
      rw [rewrites.resume_crosses framed header crosses,
        rewrites.content_pauses framed (Nat.le_refl _) rest waits,
        rewrites.crossing_piece framed crosses, Reassembler.during, rewrites.type p, if_neg short]
      simp only [List.length_append, List.take_length_add_append, List.append_assoc,
        ← Nat.add_assoc, ends]
  · have later : ¬ j + pData.length < headerSize p.type := by omega
    rw [resume, Reassembler.during, rewrites.type p, if_neg header, if_neg later]
    exact rewrites.content_pauses framed (Nat.le_of_not_lt header) here waits

theorem Rewrites.resume_finishes (rewrites : Rewrites handler rewritten overwrite) {p : HciPacket}
    (framed : p.Framed) {j : Nat} {seen rest : List UInt8} (inside : j ≤ p.bytes.length) :
    resume handler (rewritten p) j seen (p.bytes.drop j ++ rest) =
      if p.bytes.length ≤ resveredSize then .ok
        { next := {}
          buffer := seen ++ (rewritten p).bytes.drop j ++ overwrite p rest
          readLength := seen.length + (p.bytes.length - j)
          packet := some (rewritten p) }
      else .error .overruns := by
  by_cases header : j < headerSize p.type
  · have long : headerSize p.type ≤ j + (p.bytes.drop j).length := by
      rw [List.length_drop]
      exact Nat.le_trans framed.header (by omega)
    obtain ⟨piece, tail, split, crosses, after⟩ :=
      Crosses.of_drop header long (List.append_nil (p.bytes.drop j)).symm
    have ends := crosses.ends
    have bound := framed.header
    rw [List.append_nil] at after
    rw [split, List.append_assoc, rewrites.resume_crosses framed header crosses, ← after,
      rewrites.content_finishes framed (Nat.le_refl _) framed.header,
      rewrites.crossing_piece framed crosses]
    have read : seen.length + piece.length + (p.bytes.length - headerSize p.type) =
        seen.length + (p.bytes.length - j) := by omega
    simp only [List.length_append, List.append_assoc, read]
  · rw [resume, rewrites.type p, if_neg header]
    exact rewrites.content_finishes framed (Nat.le_of_not_lt header) inside

theorem not_invalid {p : HciPacket} (framed : p.Framed) :
    ¬ (p.type < dataTypeAcl ∨ dataTypeEvent < p.type) := by
  rcases framed.type with acl | sco | event
  · rw [acl]
    decide
  · rw [sco]
    decide
  · rw [event]
    decide

theorem Rewrites.recvData_type (rewrites : Rewrites handler rewritten overwrite) {p : HciPacket}
    (framed : p.Framed) (pData : List UInt8) :
    recvData handler {} (p.type :: pData) = resume handler (rewritten p) 0 [p.type] pData := by
  simp only [recvData, recvIdle]
  rw [if_neg (not_invalid framed), resume, rewrites.type p, if_pos (headerSize_pos p.type)]
  simp only [recvType, Reassembler.inHeader, rewrites.type p, rewrites.preamble p framed,
    List.take_zero, Nat.sub_zero, List.nil_append]

theorem recvData_during (handler : RecvHandler) (q : HciPacket) (j : Nat) (buffer : List UInt8) :
    recvData handler (.during q (j + 1)) buffer = resume handler q j [] buffer := by
  rw [Reassembler.during, resume]
  split_ifs with header
  · rfl
  · rfl

theorem Rewrites.recvData_pauses (rewrites : Rewrites handler rewritten overwrite) {p : HciPacket}
    (framed : p.Framed) {k : Nat} {buffer more : List UInt8}
    (here : p.wire.drop k = buffer ++ more) (nonempty : buffer ≠ []) (waits : more ≠ []) :
    recvData handler (.during (rewritten p) k) buffer =
      if k + buffer.length ≤ resveredSize + 1 then .ok
        { next := .during (rewritten p) (k + buffer.length)
          buffer := ((rewritten p).wire.drop k).take buffer.length
          readLength := buffer.length
          packet := none }
      else .error .overruns := by
  cases k with
  | zero =>
    cases buffer with
    | nil => exact absurd rfl nonempty
    | cons type pData =>
      rw [List.drop_zero, HciPacket.wire, List.cons_append, List.cons.injEq] at here
      obtain ⟨rfl, body⟩ := here
      rw [Reassembler.during_zero, rewrites.recvData_type framed,
        rewrites.resume_pauses framed (by rw [List.drop_zero]; exact body) waits]
      simp only [HciPacket.wire, rewrites.type p, List.length_cons, List.length_nil,
        List.drop_zero, List.take_succ_cons, List.cons_append, List.nil_append,
        Nat.zero_add, Nat.add_comm 1, Nat.add_le_add_iff_right]
  | succ j =>
    rw [HciPacket.wire, List.drop_succ_cons] at here
    rw [recvData_during, rewrites.resume_pauses framed here waits]
    simp only [HciPacket.wire, List.drop_succ_cons, List.nil_append, List.length_nil,
      Nat.zero_add, Nat.add_right_comm j 1, Nat.add_le_add_iff_right]

theorem Rewrites.recvData_finishes (rewrites : Rewrites handler rewritten overwrite)
    {p : HciPacket} (framed : p.Framed) {k : Nat} (rest : List UInt8)
    (inside : k < p.wire.length) :
    recvData handler (.during (rewritten p) k) (p.wire.drop k ++ rest) =
      if p.bytes.length ≤ resveredSize then .ok
        { next := {}
          buffer := (rewritten p).wire.drop k ++ overwrite p rest
          readLength := p.wire.length - k
          packet := some (rewritten p) }
      else .error .overruns := by
  cases k with
  | zero =>
    have call := rewrites.recvData_type framed (p.bytes ++ rest)
    have done : resume handler (rewritten p) 0 [p.type] (p.bytes.drop 0 ++ rest) = _ :=
      rewrites.resume_finishes framed (Nat.zero_le _)
    rw [List.drop_zero] at done
    simp only [Reassembler.during_zero, HciPacket.wire, List.drop_zero, List.cons_append, call, done,
      rewrites.type p, List.length_cons, List.length_nil, List.nil_append, Nat.sub_zero,
      Nat.zero_add, Nat.add_comm 1]
  | succ j =>
    have within : j ≤ p.bytes.length := Nat.le_of_lt (Nat.lt_of_succ_lt_succ inside)
    simp only [HciPacket.wire, List.drop_succ_cons, recvData_during]
    rw [rewrites.resume_finishes framed within]
    simp only [List.nil_append, List.length_nil, List.length_cons, Nat.zero_add,
      Nat.add_sub_add_right]

theorem Rewrites.overwriting (rewrites : Rewrites handler rewritten overwrite) :
    Overwriting (recvData handler) HciPacket.wire rewritten overwrite {}
      (fun p k => .during (rewritten p) k) HciPacket.Framed
      (fun p => p.bytes.length ≤ resveredSize) where
  wire_pos := fun p _ => Nat.succ_pos p.bytes.length
  wire_rewritten := fun p _ => congrArg Nat.succ (rewrites.length p)
  during_zero := fun _ _ => rfl
  same_length := rewrites.same_length
  pauses := by
    intro p k buffer more framed here nonempty waits
    rw [rewrites.recvData_pauses framed here nonempty waits]
    split_ifs with room
    · exact .inl rfl
    · refine .inr ⟨?_, rfl⟩
      have size := congrArg List.length here
      have some_left := List.length_pos_iff.mpr waits
      simp only [HciPacket.wire, List.length_drop, List.length_cons, List.length_append] at size
      omega
  finishes := by
    intro p k rest framed room inside
    rw [rewrites.recvData_finishes framed rest inside, if_pos room]
  overruns := by
    intro p k rest framed long inside
    rw [rewrites.recvData_finishes framed rest inside, if_neg long]

end Rewrites

theorem HciPacket.rewritten_type (p : HciPacket) : p.rewritten.type = p.type := by
  unfold HciPacket.rewritten
  cases p.numHciCommandPackets with
  | some offset => rfl
  | none => rfl

theorem HciPacket.rewritten_length (p : HciPacket) :
    p.rewritten.bytes.length = p.bytes.length := by
  unfold HciPacket.rewritten
  cases p.numHciCommandPackets with
  | some offset => exact List.length_set
  | none => rfl

theorem HciPacket.rewritten_bytes (p : HciPacket) :
    p.rewritten.bytes = match p.numHciCommandPackets with
      | some offset => p.bytes.set offset 1
      | none => p.bytes := by
  unfold HciPacket.rewritten
  cases p.numHciCommandPackets with
  | some offset => rfl
  | none => rfl

theorem HciPacket.header_le_numHciCommandPackets {p : HciPacket} {offset : Nat}
    (counted : p.numHciCommandPackets = some offset) : headerSize p.type ≤ offset := by
  unfold HciPacket.numHciCommandPackets at counted
  by_cases event : p.type = dataTypeEvent
  · rw [if_pos event] at counted
    rw [event]
    by_cases complete : p.bytes.getD 0 0 = hciCommandCompleteEvt
    · rw [if_pos complete, Option.some.injEq] at counted
      subst counted
      decide
    · rw [if_neg complete] at counted
      by_cases status : p.bytes.getD 0 0 = hciCommandStatusEvt
      · rw [if_pos status, Option.some.injEq] at counted
        subst counted
        decide
      · rw [if_neg status] at counted
        cases counted
  · rw [if_neg event] at counted
    cases counted

theorem HciPacket.rewritten_header (p : HciPacket) :
    p.rewritten.bytes.take (headerSize p.type) = p.bytes.take (headerSize p.type) := by
  rw [HciPacket.rewritten_bytes]
  cases counted : p.numHciCommandPackets with
  | none => rfl
  | some offset =>
    exact List.take_set_of_le (HciPacket.header_le_numHciCommandPackets counted)

theorem HciPacket.rewritten_event (p : HciPacket) {j : Nat} (content : headerSize p.type ≤ j) :
    (p.rewritten.bytes.take j).getD 0 0 = p.bytes.getD 0 0 := by
  have header := HciPacket.rewritten_header p
  have positive := headerSize_pos p.type
  have first := congrArg (fun bytes => bytes[0]?) header
  simp only [List.getElem?_take_of_lt positive] at first
  rw [List.getD_eq_getElem?_getD, List.getD_eq_getElem?_getD,
    List.getElem?_take_of_lt (Nat.lt_of_lt_of_le positive content), first]

theorem rewriteNumHciCommandPackets_eq {p : HciPacket} {j : Nat} (pData : List UInt8)
    (content : headerSize p.type ≤ j) (inside : j ≤ p.bytes.length) :
    rewriteNumHciCommandPackets (.inContent p.rewritten j) pData =
      match p.numHciCommandPackets with
      | some offset => if offset < j then pData else pData.set (offset - j) 1
      | none => pData := by
  have size : (p.rewritten.bytes.take j).length = j := by
    rw [List.length_take, p.rewritten_length]
    omega
  unfold rewriteNumHciCommandPackets HciPacket.numHciCommandPackets
  simp only [Reassembler.inContent, size, p.rewritten_type, p.rewritten_event content]
  by_cases event : p.type = dataTypeEvent
  · rw [event] at content
    have two : 2 ≤ j := content
    rw [if_pos event, if_pos event]
    by_cases complete : p.bytes.getD 0 0 = hciCommandCompleteEvt
    · rw [if_pos complete, if_pos complete]
      by_cases first : j = 2
      · subst first
        cases pData with
        | nil => rfl
        | cons byte rest => rfl
      · rw [if_neg first]
        exact (if_pos (by omega)).symm
    · rw [if_neg complete, if_neg complete]
      by_cases status : p.bytes.getD 0 0 = hciCommandStatusEvt
      · rw [if_pos status, if_pos status]
        by_cases early : j < 4
        · rw [if_pos early, Nat.sub_right_comm 4 j 1]
          by_cases reaches : 4 - j ≤ pData.length
          · rw [if_pos reaches]
            exact (if_neg (by omega)).symm
          · rw [if_neg reaches]
            refine ((if_neg (by omega)).trans (List.set_eq_of_length_le ?_)).symm
            omega
        · rw [if_neg early]
          exact (if_pos (by omega)).symm
      · rw [if_neg status, if_neg status]
  · rw [if_neg event, if_neg event]

theorem coexHandler_rewrites : Rewrites coexHandler id fun _ rest => rest where
  preamble := by
    intro p framed
    rcases framed.type with acl | sco | event
    · rw [acl]
      rfl
    · rw [sco]
      rfl
    · rw [event]
      rfl
  type := fun _ => rfl
  length := fun _ => rfl
  same_length := fun _ _ => rfl
  header := fun _ _ => rfl
  within := by
    intro p j pData more _ _ _ here
    rw [id, here, List.take_left]
    rfl
  past := fun _ _ _ _ _ _ => rfl

theorem HciPacket.overwritten_length (p : HciPacket) (rest : List UInt8) :
    (p.overwritten rest).length = rest.length := by
  unfold HciPacket.overwritten
  cases p.numHciCommandPackets with
  | none => rfl
  | some offset =>
    dsimp only
    split_ifs with inside
    · rfl
    · exact List.length_set

theorem HciPacket.WellFormed.overwritten {p : HciPacket} (wf : p.WellFormed) (rest : List UInt8) :
    p.overwritten rest = rest := by
  unfold HciPacket.overwritten
  cases counted : p.numHciCommandPackets with
  | none => rfl
  | some offset => exact if_pos (wf.counts offset counted)

theorem recvHandler_rewrites :
    Rewrites recvHandler HciPacket.rewritten HciPacket.overwritten where
  preamble := by
    intro p framed
    rcases framed.type with acl | sco | event
    · rw [acl]
      rfl
    · rw [sco]
      rfl
    · rw [event]
      rfl
  type := HciPacket.rewritten_type
  length := HciPacket.rewritten_length
  same_length := HciPacket.overwritten_length
  header := fun p _ => p.rewritten_header
  within := by
    intro p j pData more framed content inside here
    have piece : (p.bytes.drop j).take pData.length = pData := by
      rw [here, List.take_left]
    change rewriteNumHciCommandPackets _ _ = _
    rw [rewriteNumHciCommandPackets_eq pData content inside, HciPacket.rewritten_bytes]
    cases p.numHciCommandPackets with
    | none => exact piece.symm
    | some offset =>
      simp only [List.drop_set]
      split_ifs with before
      · exact piece.symm
      · rw [List.take_set, piece]
  past := by
    intro p j rest framed content inside
    change rewriteNumHciCommandPackets _ _ = _
    rw [rewriteNumHciCommandPackets_eq _ content inside, HciPacket.rewritten_bytes,
      HciPacket.overwritten]
    cases counted : p.numHciCommandPackets with
    | none => rfl
    | some offset =>
      simp only [List.drop_set]
      by_cases before : offset < j
      · rw [if_pos before, if_pos before, if_pos (Nat.lt_of_lt_of_le before inside)]
      · rw [if_neg before, if_neg before]
        by_cases known : offset < p.bytes.length
        · rw [if_pos known, List.set_append_left]
          rw [List.length_drop]
          omega
        · have beyond : (p.bytes.drop j).length ≤ offset - j := by
            rw [List.length_drop]
            omega
          have same : offset - j - (p.bytes.length - j) = offset - p.bytes.length := by omega
          rw [if_neg known, List.set_append_right _ _ beyond, List.set_eq_of_length_le beyond,
            List.length_drop, same]

theorem userialHandleRecvData_eq (s : Reassembler) {recvBuffer : List UInt8}
    (nonempty : recvBuffer ≠ []) :
    userialHandleRecvData s recvBuffer = recvData recvHandler s recvBuffer :=
  if_neg fun empty => nonempty (List.eq_nil_of_length_eq_zero empty)

theorem userialHandleRecvData_overwriting :
    Overwriting userialHandleRecvData HciPacket.wire HciPacket.rewritten HciPacket.overwritten {}
      (fun p k => .during p.rewritten k) HciPacket.Framed
      (fun p => p.bytes.length ≤ resveredSize) := by
  have overwriting := recvHandler_rewrites.overwriting
  have nonempty : ∀ (p : HciPacket) k rest, k < p.wire.length → p.wire.drop k ++ rest ≠ [] := by
    intro p k rest inside empty
    have spent := List.drop_eq_nil_iff.mp (List.append_eq_nil_iff.mp empty).1
    omega
  refine { overwriting with pauses := ?_, finishes := ?_, overruns := ?_ }
  · intro p k buffer more framed here some_data waits
    rw [userialHandleRecvData_eq _ some_data]
    exact overwriting.pauses p k buffer more framed here some_data waits
  · intro p k rest framed room inside
    rw [userialHandleRecvData_eq _ (nonempty p k rest inside)]
    exact overwriting.finishes p k rest framed room inside
  · intro p k rest framed long inside
    rw [userialHandleRecvData_eq _ (nonempty p k rest inside)]
    exact overwriting.overruns p k rest framed long inside

theorem userialHandleRecvData_resumable :
    Resumable userialHandleRecvData HciPacket.wire HciPacket.rewritten {}
      (fun p k => .during p.rewritten k) HciPacket.WellFormed :=
  userialHandleRecvData_overwriting.resumable (fun _ wf => wf.framed) (fun _ wf => wf.fits)
    fun _ rest wf => wf.overwritten rest

theorem userialCoexRecvDataHandler_resumable :
    Resumable userialCoexRecvDataHandler HciPacket.wire id {} (fun p k => .during p k)
      HciPacket.WellFormed :=
  coexHandler_rewrites.overwriting.resumable (fun _ wf => wf.framed) (fun _ wf => wf.fits)
    fun _ _ _ => rfl

theorem HciPacket.rewritten_numHciCommandPackets (p : HciPacket) :
    p.rewritten.numHciCommandPackets = p.numHciCommandPackets := by
  have first : p.rewritten.bytes.getD 0 0 = p.bytes.getD 0 0 := by
    have header := p.rewritten_event (Nat.le_refl (headerSize p.type))
    rwa [List.getD_eq_getElem?_getD, List.getElem?_take_of_lt (headerSize_pos p.type),
      ← List.getD_eq_getElem?_getD] at header
  unfold HciPacket.numHciCommandPackets
  rw [p.rewritten_type, first]

theorem HciPacket.WellFormed.rewritten {p : HciPacket} (wf : p.WellFormed) :
    p.rewritten.WellFormed := by
  refine ⟨?_, ?_, ?_, ?_, ?_⟩
  · rw [p.rewritten_type]
    exact wf.type
  · rw [p.rewritten_type, p.rewritten_length]
    exact wf.header
  · rw [p.rewritten_type, p.rewritten_length, ← contentSize_take p.rewritten.bytes wf.type,
      p.rewritten_header, contentSize_take p.bytes wf.type]
    exact wf.length
  · rw [p.rewritten_length]
    exact wf.fits
  · rw [p.rewritten_numHciCommandPackets, p.rewritten_length]
    exact wf.counts

end UnionpiTiger.Userial
