import Mathlib.Data.List.Forall2
import UnionpiTiger.Lib.Reads
import UnionpiTiger.Userial.Chunking

set_option autoImplicit false

namespace UnionpiTiger.Userial

open Lib

def forwards (chunks : List (List UInt8)) : List UserialEvent :=
  chunks.map fun chunk => .read chunk chunk.length

-- What the host may get of a stream: every packet as it was, or with its own
-- num_hci_command_packets replaced (`rewritten` is `p` where the count lies past its end).
def Forwarded (packets : List HciPacket) (host : List UInt8) : Prop :=
  ∃ outs, List.Forall₂ (fun p q => q = p ∨ q = p.rewritten) packets outs ∧
    host = stream HciPacket.wire outs

def HciPacket.Spares (p : HciPacket) (follows : List UInt8) : Prop :=
  ∀ offset ∈ p.numHciCommandPackets, p.bytes.length ≤ offset →
    ∀ byte ∈ follows[offset - p.bytes.length]?, byte = 1

instance HciPacket.Spares.decidable (p : HciPacket) (follows : List UInt8) :
    Decidable (p.Spares follows) :=
  inferInstanceAs (Decidable (∀ offset ∈ p.numHciCommandPackets, p.bytes.length ≤ offset →
    ∀ byte ∈ follows[offset - p.bytes.length]?, byte = 1))

theorem set_eq_self_iff (bytes : List UInt8) (i : Nat) (value : UInt8) :
    bytes.set i value = bytes ↔ ∀ byte ∈ bytes[i]?, byte = value := by
  constructor
  · intro same byte found
    have here := congrArg (fun list => list[i]?) same
    obtain ⟨within, _⟩ := List.getElem?_eq_some_iff.mp found
    simp only [List.getElem?_set_self within] at here
    exact Option.some.inj (here.trans found).symm
  · intro already
    by_cases within : i < bytes.length
    · have byte := already bytes[i] (List.getElem?_eq_getElem within)
      rw [← byte, List.set_getElem_self]
    · exact List.set_eq_of_length_le (Nat.le_of_not_lt within)

theorem HciPacket.spares_iff (p : HciPacket) (follows : List UInt8) :
    p.overwritten follows = follows ↔ p.Spares follows := by
  unfold HciPacket.overwritten HciPacket.Spares
  cases p.numHciCommandPackets with
  | none =>
    constructor
    · intro _ offset found
      cases found
    · intro _
      rfl
  | some offset =>
    dsimp only
    split_ifs with inside
    · constructor
      · intro _ other found outside
        cases found
        omega
      · intro _
        rfl
    · rw [set_eq_self_iff]
      constructor
      · intro already other found _
        cases found
        exact already
      · intro spares
        exact spares offset rfl (Nat.le_of_not_lt inside)

theorem rewriteNumHciCommandPackets_keepsMarks (s : Reassembler) (pData : List UInt8) :
    KeepsMarks 1 pData (rewriteNumHciCommandPackets s pData) := by
  unfold rewriteNumHciCommandPackets
  dsimp only
  split_ifs
  all_goals first
    | exact KeepsMarks.set pData _
    | exact KeepsMarks.refl pData

section Stages

variable {s : Reassembler} {seen pData : List UInt8} {handled : HandledData}

theorem recvContent_keepsMarks (call : recvContent recvHandler s seen pData = .ok handled) :
    KeepsMarks 1 (seen ++ pData) handled.buffer := by
  have rewritten := (rewriteNumHciCommandPackets_keepsMarks s pData).append_left seen
  unfold recvContent at call
  dsimp only at call
  split_ifs at call with enough
  · obtain ⟨copied, _, rfl⟩ := Result.map_eq_ok.mp call
    simp only [recvEnd, List.append_assoc, List.take_append_drop]
    exact rewritten
  · obtain ⟨copied, _, rfl⟩ := Result.map_eq_ok.mp call
    exact rewritten

theorem recvHeader_keepsMarks (call : recvHeader recvHandler s seen pData = .ok handled) :
    KeepsMarks 1 (seen ++ pData) handled.buffer := by
  unfold recvHeader at call
  split_ifs at call with enough
  · obtain ⟨copied, _, content⟩ := Result.bind_eq_ok.mp call
    have later := recvContent_keepsMarks content
    rw [List.append_assoc, List.take_append_drop] at later
    exact later
  · obtain ⟨copied, _, rfl⟩ := Result.map_eq_ok.mp call
    exact KeepsMarks.refl _

theorem recvIdle_keepsMarks (call : recvIdle recvHandler s seen pData = .ok handled) :
    KeepsMarks 1 (seen ++ pData) handled.buffer := by
  cases pData with
  | nil =>
    unfold recvIdle recvType at call
    exact recvHeader_keepsMarks call
  | cons type pData =>
    rw [List.append_cons]
    simp only [recvIdle] at call
    split_ifs at call with invalid
    exact recvHeader_keepsMarks call

end Stages

theorem userialHandleRecvData_keepsMarks (s : Reassembler) (buffer : List UInt8)
    (handled : HandledData) (call : userialHandleRecvData s buffer = .ok handled) :
    KeepsMarks 1 buffer handled.buffer := by
  unfold userialHandleRecvData recvData at call
  split_ifs at call with nothing
  · cases call
    exact KeepsMarks.refl buffer
  · split at call
    · exact recvIdle_keepsMarks call
    · exact recvHeader_keepsMarks call
    · exact recvHeader_keepsMarks call
    · exact recvContent_keepsMarks call
    · cases call
      exact KeepsMarks.refl buffer

theorem userialRecvUartRawdata_host {u : VndUserial} {buffer : List UInt8}
    {driven : Driven Reassembler UInt8 HciPacket} (written : Nat)
    (loop : drive userialHandleRecvData (buffer.length + 1) u.received buffer = .ok driven) :
    ∃ next, userialRecvUartRawdata u buffer written = .ok next ∧
      next.received = driven.next ∧ next.host = u.host ++ driven.buffer.take written := by
  simp only [userialRecvUartRawdata, loop, Result.map_ok]
  split_ifs with nothing
  · exact ⟨_, rfl, rfl, rfl⟩
  · exact ⟨_, rfl, rfl, rfl⟩

theorem userialRun_forwards (chunks : List (List UInt8)) (u : VndUserial) :
    (userialRun u (forwards chunks)).map VndUserial.host =
      (driveReads userialHandleRecvData u.received chunks).map fun out => u.host ++ out := by
  induction chunks generalizing u with
  | nil => exact congrArg Except.ok (List.append_nil u.host).symm
  | cons chunk chunks ih =>
    change ((userialRecvUartRawdata u chunk chunk.length).bind fun next =>
      userialRun next (forwards chunks)).map VndUserial.host = _
    rw [driveReads]
    cases loop : drive userialHandleRecvData (chunk.length + 1) u.received chunk with
    | error stop =>
      rw [userialRecvUartRawdata, loop]
      rfl
    | ok driven =>
      have length := (drive_keepsMarks userialHandleRecvData_keepsMarks loop).length
      obtain ⟨next, read, received, host⟩ := userialRecvUartRawdata_host chunk.length loop
      rw [← length, List.take_length] at host
      rw [read, Result.bind_ok, ih next, received, host]
      simp only [Result.bind_ok, Result.map_map, Function.comp_def, List.append_assoc]

theorem drive_userialHandleRecvData_nil (s : Reassembler) :
    drive userialHandleRecvData 1 s [] = .ok ⟨s, [], []⟩ := rfl

theorem wire_length_of_forwarded {p q : HciPacket} (same : q = p ∨ q = p.rewritten) :
    q.wire.length = p.wire.length := by
  rcases same with rfl | rfl
  · rfl
  · exact congrArg Nat.succ p.rewritten_length

theorem HciPacket.rewritten_wire_take (p : HciPacket) : p.rewritten.wire.take 2 = p.wire.take 2 := by
  have header := congrArg (List.take 1) p.rewritten_header
  rw [List.take_take, List.take_take, Nat.min_eq_left (headerSize_pos p.type)] at header
  rw [HciPacket.wire, HciPacket.wire, List.take_succ_cons, List.take_succ_cons, p.rewritten_type,
    header]

theorem Forwarded.first {n : HciPacket} {packets : List HciPacket} {host : List UInt8}
    (framed : n.Framed) (forwarded : Forwarded (n :: packets) host) {i : Nat} (early : i < 2) :
    host[i]? = n.wire[i]? := by
  obtain ⟨outs, each, rfl⟩ := forwarded
  obtain ⟨q, rest, same, others, rfl⟩ := List.forall₂_cons_left_iff.mp each
  have header : q.wire.take 2 = n.wire.take 2 := by
    rcases same with rfl | rfl
    · rfl
    · exact n.rewritten_wire_take
  have long : i < q.wire.length := by
    rw [wire_length_of_forwarded same]
    have positive := headerSize_pos n.type
    have fits := framed.header
    rw [HciPacket.wire, List.length_cons]
    omega
  rw [stream_cons, List.getElem?_append_left long, ← List.getElem?_take_of_lt early, header,
    List.getElem?_take_of_lt early]

theorem Forwarded.after {packets rest : List HciPacket} {front host : List UInt8}
    (forwarded : Forwarded (packets ++ rest) (front ++ host))
    (length : front.length = (stream HciPacket.wire packets).length) : Forwarded rest host := by
  induction packets generalizing front with
  | nil =>
    rw [List.eq_nil_of_length_eq_zero length] at forwarded
    exact forwarded
  | cons p packets ih =>
    obtain ⟨outs, each, split⟩ := forwarded
    rw [List.cons_append] at each
    obtain ⟨q, later, same, others, rfl⟩ := List.forall₂_cons_left_iff.mp each
    have size := wire_length_of_forwarded same
    rw [stream_cons, List.length_append, ← size] at length
    have cut := congrArg (List.drop q.wire.length) split
    rw [stream_cons, List.drop_left, List.drop_append_of_le_length (by omega)] at cut
    apply ih ⟨later, others, cut⟩
    rw [List.length_drop]
    omega

theorem Forwarded.of_rewritten (packets : List HciPacket) :
    Forwarded packets (stream HciPacket.wire (packets.map HciPacket.rewritten)) := by
  refine ⟨_, ?_, rfl⟩
  rw [List.forall₂_map_right_iff, List.forall₂_same]
  intro p _
  exact .inr rfl

theorem Forwarded.refl (packets : List HciPacket) :
    Forwarded packets (stream HciPacket.wire packets) :=
  ⟨packets, List.forall₂_same.mpr fun _ _ => .inl rfl, rfl⟩

theorem HciPacket.numHciCommandPackets_early {p : HciPacket} (framed : p.Framed) {offset : Nat}
    (counted : p.numHciCommandPackets = some offset) : offset - p.bytes.length < 2 := by
  have header := framed.header
  unfold HciPacket.numHciCommandPackets at counted
  split_ifs at counted with event complete status
  · rw [event] at header
    have two : 2 ≤ p.bytes.length := header
    cases counted
    omega
  · rw [event] at header
    have two : 2 ≤ p.bytes.length := header
    cases counted
    omega

theorem HciPacket.overwritten_changed {p : HciPacket} (framed : p.Framed) {follows : List UInt8}
    (changed : p.overwritten follows ≠ follows) :
    ∃ i byte, i < 2 ∧ follows[i]? = some byte ∧ byte ≠ 1 ∧
      (p.overwritten follows)[i]? = some 1 := by
  unfold HciPacket.overwritten at changed ⊢
  cases counted : p.numHciCommandPackets with
  | none =>
    rw [counted] at changed
    exact absurd rfl changed
  | some offset =>
    rw [counted] at changed
    dsimp only at changed ⊢
    split_ifs at changed ⊢ with inside
    · exact absurd rfl changed
    · rw [Ne, set_eq_self_iff] at changed
      push Not at changed
      obtain ⟨byte, found, other⟩ := changed
      obtain ⟨within, _⟩ := List.getElem?_eq_some_iff.mp found
      exact ⟨_, byte, p.numHciCommandPackets_early framed counted, found, other,
        List.getElem?_set_self within⟩

theorem not_forwarded_of_overwritten {packets : List HciPacket} {host : List UInt8}
    (framed : ∀ p ∈ packets, p.Framed)
    (overwritten : Overwritten HciPacket.wire HciPacket.overwritten 1 packets 0 host) :
    ¬ Forwarded packets host := by
  intro forwarded
  obtain ⟨done, p, rest, tail, rfl, ⟨more, follows⟩, changed, front, back, later, rfl, length,
    keeps⟩ := overwritten.place
  rw [List.append_cons done, List.append_assoc front] at forwarded
  have ahead := forwarded.after length
  obtain ⟨i, byte, early, found, other, marked⟩ :=
    HciPacket.overwritten_changed (framed p (by simp)) changed
  have kept := keeps.marks i marked
  obtain ⟨within, _⟩ := List.getElem?_eq_some_iff.mp kept
  obtain ⟨inside, _⟩ := List.getElem?_eq_some_iff.mp found
  cases rest with
  | nil =>
    rw [stream_nil, List.append_eq_nil_iff] at follows
    rw [follows.1] at inside
    cases inside
  | cons n rest =>
    have next : n.Framed := framed n (by simp)
    have got := ahead.first next early
    have sent := (Forwarded.refl (n :: rest)).first next early
    rw [List.getElem?_append_left within, kept] at got
    rw [← follows, List.getElem?_append_left inside, found, ← got] at sent
    exact other (Option.some.inj sent)

theorem forwarded_iff (packets : List HciPacket) (framed : ∀ p ∈ packets, p.Framed)
    (chunks : List (List UInt8)) (split : chunks.flatten = stream HciPacket.wire packets) :
    (∃ u, userialRun {} (forwards chunks) = .ok u ∧ Forwarded packets u.host) ↔
      (∀ p ∈ packets, p.bytes.length ≤ resveredSize) ∧
        AtEnds HciPacket.Spares HciPacket.wire chunks 0 packets := by
  have overwriting := userialHandleRecvData_overwriting
  have run := userialRun_forwards chunks {}
  have idle : stateAt {} (fun p k => Reassembler.during (HciPacket.rewritten p) k) packets 0 = {} :=
    stateAt_zero fun p mem => overwriting.during_zero p (framed p mem)
  have cases := overwriting.driveReads_cases drive_userialHandleRecvData_nil
    userialHandleRecvData_keepsMarks chunks packets 0 framed
    (inside_zero fun p mem => overwriting.wire_pos p (framed p mem)) split
  rw [idle, atEndsAfter_zero, atEnds_congr HciPacket.spares_iff, List.drop_zero] at cases
  rcases cases with ⟨out, room, spared⟩ | ⟨strays, touched⟩
  · refine iff_of_true ?_ ⟨room, spared⟩
    rw [show ({} : VndUserial).received = {} from rfl, out] at run
    obtain ⟨u, found, host⟩ := Result.map_eq_ok.mp run
    refine ⟨u, found, ?_⟩
    rw [host]
    exact Forwarded.of_rewritten packets
  · refine iff_of_false ?_ ?_
    · rintro ⟨u, found, forwarded⟩
      rw [found, Result.map_ok] at run
      obtain ⟨out, loop, host⟩ := Result.map_eq_ok.mp run.symm
      have host' : out = u.host := host
      subst host'
      exact not_forwarded_of_overwritten framed (strays _ loop) forwarded
    · rintro ⟨room, spared⟩
      exact touched room spared

-- A Command Complete and a Command Status without parameters, each followed by another packet.
def shortEvents : List HciPacket :=
  [⟨dataTypeEvent, [0x0E, 0]⟩, ⟨dataTypeSco, [0x40, 0, 1, 0xAA]⟩, ⟨dataTypeEvent, [0x0F, 0]⟩,
    ⟨dataTypeAcl, [1, 0x20, 0, 0]⟩]

def sparingReads : List (List UInt8) :=
  [[4, 0x0E], [0], [3, 0x40, 0, 1, 0xAA, 4, 0x0F, 0, 2, 1], [0x20, 0, 0]]

theorem forwarded_shortEvents :
    ∃ u, userialRun {} (forwards sparingReads) = .ok u ∧ Forwarded shortEvents u.host :=
  (forwarded_iff shortEvents (by decide) sparingReads (by decide)).mpr (by decide +kernel)

theorem not_forwarded_one_read :
    (∀ p ∈ shortEvents, p.Framed) ∧
    [shortEvents.flatMap HciPacket.wire].flatten = stream HciPacket.wire shortEvents ∧
    userialRun {} (forwards [shortEvents.flatMap HciPacket.wire]) = .error .aborts ∧
    ¬ ∃ u, userialRun {} (forwards [shortEvents.flatMap HciPacket.wire]) = .ok u ∧
      Forwarded shortEvents u.host := by
  have stops : userialRun {} (forwards [shortEvents.flatMap HciPacket.wire]) = .error .aborts := by
    rfl
  refine ⟨by decide, by decide, stops, ?_⟩
  rintro ⟨u, run, forwarded⟩
  rw [stops] at run
  cases run

def invalidType (type : UInt8) : Bool := type < dataTypeAcl ∨ dataTypeEvent < type

def Reassembler.announced (s : Reassembler) (buffer : List UInt8) : Option Nat :=
  match s.packetState with
  | .packetIdle =>
    match buffer with
    | [] => none
    | type :: rest => if type = dataTypeAcl ∧ 4 ≤ rest.length then some (uint16At rest 2) else none
  | .packetHeader =>
    if s.currentType = dataTypeAcl ∧ s.bytesNeed ≤ buffer.length then
      some (uint16At (s.resvered ++ buffer.take s.bytesNeed) 2)
    else none
  | _ => none

def Reassembler.AclFits (s : Reassembler) (buffer : List UInt8) : Prop :=
  ∀ size ∈ s.announced buffer, size + 4 ≤ resveredSize

instance Reassembler.AclFits.decidable (s : Reassembler) (buffer : List UInt8) :
    Decidable (s.AclFits buffer) :=
  inferInstanceAs (Decidable (∀ size ∈ s.announced buffer, size + 4 ≤ resveredSize))

def Reassembler.Room (s : Reassembler) : Prop :=
  match s.packetState with
  | .packetIdle => True
  | .packetHeader => 0 < s.bytesNeed ∧ s.resvered.length + s.bytesNeed ≤ 4
  | .packetContent => 0 < s.bytesNeed ∧ s.resvered.length + s.bytesNeed ≤ resveredSize
  | .packetType => False
  | .packetEnd => False

structure RecvHandler.Sound (handler : RecvHandler) : Prop where
  preamble : ∀ type, invalidType type = false →
    0 < handler.preambleSize type ∧ handler.preambleSize type ≤ 4 ∧
      (type = dataTypeAcl → handler.preambleSize type = 4)
  rewrite : ∀ s pData, (handler.rewrite s pData).length = pData.length

theorem contentSize_le (type : UInt8) (resvered : List UInt8) (other : type ≠ dataTypeAcl) :
    contentSize type resvered ≤ 255 := by
  unfold contentSize
  rw [if_neg other]
  split_ifs
  · exact Nat.le_of_lt_succ (resvered.getD 1 0).toNat_lt
  · exact Nat.le_of_lt_succ (resvered.getD 2 0).toNat_lt

section Stages

variable {handler : RecvHandler} {s : Reassembler} {seen pData : List UInt8}

theorem recvContent_proceeds (sound : handler.Sound) (state : s.packetState = .packetContent)
    (room : s.resvered.length + s.bytesNeed ≤ resveredSize)
    (moves : 0 < seen.length + min s.bytesNeed pData.length) :
    ∃ handled, recvContent handler s seen pData = .ok handled ∧
      Proceeds Reassembler.Room (seen ++ pData) handled := by
  have length := sound.rewrite s pData
  unfold recvContent
  dsimp only
  by_cases enough : s.bytesNeed ≤ (handler.rewrite s pData).length
  · have taken : ((handler.rewrite s pData).take s.bytesNeed).length = s.bytesNeed := by
      rw [List.length_take]
      omega
    rw [if_pos enough, Reassembler.memcpy_eq (by rw [taken]; exact room), Result.map_ok]
    refine ⟨_, rfl, trivial, ?_, ?_⟩
    · simp only [recvEnd, List.length_append, taken]
      omega
    · simp only [recvEnd, List.append_assoc, List.take_append_drop, List.length_append, length]
  · rw [if_neg enough, Reassembler.memcpy_eq (by omega), Result.map_ok]
    refine ⟨_, rfl, ?_, ?_, ?_⟩
    · simp only [recvPending, Reassembler.Room, state, List.length_append]
      omega
    · simp only [recvPending, length]
      omega
    · simp only [recvPending, List.length_append, length]

theorem recvHeader_proceeds (sound : handler.Sound) (state : s.packetState = .packetHeader)
    (need : 0 < s.bytesNeed) (room : s.resvered.length + s.bytesNeed ≤ 4)
    (moves : 0 < seen.length + pData.length)
    (fits : s.currentType = dataTypeAcl → s.bytesNeed ≤ pData.length →
      uint16At (s.resvered ++ pData.take s.bytesNeed) 2 + 4 ≤ resveredSize) :
    ∃ handled, recvHeader handler s seen pData = .ok handled ∧
      Proceeds Reassembler.Room (seen ++ pData) handled := by
  have small : 4 ≤ resveredSize := by decide
  unfold recvHeader
  by_cases enough : s.bytesNeed ≤ pData.length
  · have taken : (pData.take s.bytesNeed).length = s.bytesNeed := by
      rw [List.length_take]
      omega
    have size : s.resvered.length + s.bytesNeed +
        contentSize s.currentType (s.resvered ++ pData.take s.bytesNeed) ≤ resveredSize := by
      by_cases acl : s.currentType = dataTypeAcl
      · have announced := fits acl enough
        rw [contentSize, if_pos acl]
        omega
      · have content := contentSize_le s.currentType (s.resvered ++ pData.take s.bytesNeed) acl
        have bound : 4 + 255 ≤ resveredSize := by decide
        omega
    rw [if_pos enough, Reassembler.memcpy_eq (by omega), Result.bind_ok]
    have later : ∃ handled, recvContent handler
        { s with
          packetState := .packetContent
          bytesNeed := contentSize s.currentType (s.resvered ++ pData.take s.bytesNeed)
          resvered := s.resvered ++ pData.take s.bytesNeed }
        (seen ++ pData.take s.bytesNeed) (pData.drop s.bytesNeed) = .ok handled ∧
        Proceeds Reassembler.Room (seen ++ pData.take s.bytesNeed ++ pData.drop s.bytesNeed)
          handled := by
      apply recvContent_proceeds sound rfl
      · simp only [List.length_append, taken]
        exact size
      · rw [List.length_append, taken]
        omega
    rw [List.append_assoc, List.take_append_drop] at later
    exact later
  · rw [if_neg enough, Reassembler.memcpy_eq (by omega), Result.map_ok]
    refine ⟨_, rfl, ?_, ?_, rfl⟩
    · simp only [recvPending, Reassembler.Room, state, List.length_append]
      omega
    · simp only [recvPending]
      exact moves

theorem uint16At_take (bytes : List UInt8) {offset count : Nat} (within : offset + 1 < count) :
    uint16At (bytes.take count) offset = uint16At bytes offset := by
  simp only [uint16At, List.getD_eq_getElem?_getD]
  rw [List.getElem?_take_of_lt (by omega), List.getElem?_take_of_lt within]

theorem not_invalidType {type : UInt8} (valid : invalidType type = false) :
    ¬ (type < dataTypeAcl ∨ dataTypeEvent < type) := by
  rw [invalidType, decide_eq_false_iff_not] at valid
  exact valid

theorem recvIdle_proceeds (sound : handler.Sound) (nonempty : pData ≠ [])
    (fits : ∀ type rest, pData = type :: rest → type = dataTypeAcl → 4 ≤ rest.length →
      uint16At rest 2 + 4 ≤ resveredSize) :
    recvIdle handler s seen pData = .error .aborts ∨
    ∃ handled, recvIdle handler s seen pData = .ok handled ∧
      Proceeds Reassembler.Room (seen ++ pData) handled := by
  cases pData with
  | nil => exact absurd rfl nonempty
  | cons type pData =>
    rw [List.append_cons]
    simp only [recvIdle]
    cases invalid : invalidType type with
    | true =>
      refine .inl (if_pos ?_)
      rw [invalidType, decide_eq_true_iff] at invalid
      exact invalid
    | false =>
      rw [if_neg (not_invalidType invalid)]
      obtain ⟨positive, small, four⟩ := sound.preamble type invalid
      refine .inr (recvHeader_proceeds sound rfl positive ?_ ?_ ?_)
      · simp only [List.length_nil]
        omega
      · rw [List.length_append, List.length_singleton]
        omega
      · intro acl enough
        have size : handler.preambleSize type = 4 := four acl
        dsimp only at enough ⊢
        rw [size] at enough ⊢
        rw [List.nil_append, uint16At_take pData (by decide)]
        exact fits type pData rfl acl enough

end Stages

theorem recvData_proceeds {handler : RecvHandler} (sound : handler.Sound) (s : Reassembler)
    (buffer : List UInt8) (room : s.Room) (nonempty : buffer ≠ []) (fits : s.AclFits buffer) :
    recvData handler s buffer = .error .aborts ∨
    ∃ handled, recvData handler s buffer = .ok handled ∧
      Proceeds Reassembler.Room buffer handled := by
  have positive := List.length_pos_iff.mpr nonempty
  unfold recvData
  unfold Reassembler.AclFits Reassembler.announced at fits
  unfold Reassembler.Room at room
  split
  next state =>
    rw [state] at fits
    refine recvIdle_proceeds sound nonempty ?_
    intro type rest split acl long
    rw [split] at fits
    exact fits _ (if_pos ⟨acl, long⟩)
  next state =>
    rw [state] at room
    exact absurd room id
  next state =>
    rw [state] at fits room
    refine .inr (recvHeader_proceeds sound state room.1 room.2 (by rw [List.length_nil]; omega) ?_)
    intro acl enough
    exact fits _ (if_pos ⟨acl, enough⟩)
  next state =>
    rw [state] at room
    exact .inr (recvContent_proceeds sound state room.2 (by rw [List.length_nil]; omega))
  next state =>
    rw [state] at room
    exact absurd room id

theorem rewriteNumHciCommandPackets_length (s : Reassembler) (pData : List UInt8) :
    (rewriteNumHciCommandPackets s pData).length = pData.length :=
  (rewriteNumHciCommandPackets_keepsMarks s pData).length

theorem invalidType_cases {type : UInt8} (valid : invalidType type = false) :
    type = dataTypeAcl ∨ type = dataTypeSco ∨ type = dataTypeEvent := by
  have bounds := not_invalidType valid
  rw [not_or, UInt8.not_lt, UInt8.not_lt, UInt8.le_iff_toNat_le, UInt8.le_iff_toNat_le] at bounds
  have low : 2 ≤ type.toNat := bounds.1
  have high : type.toNat ≤ 4 := bounds.2
  rw [← UInt8.toNat_inj, ← UInt8.toNat_inj, ← UInt8.toNat_inj]
  change type.toNat = 2 ∨ type.toNat = 3 ∨ type.toNat = 4
  omega

theorem recvHandler_sound : recvHandler.Sound where
  preamble := by
    intro type valid
    rcases invalidType_cases valid with rfl | rfl | rfl
    · decide
    · decide
    · decide
  rewrite := rewriteNumHciCommandPackets_length

theorem coexHandler_sound : coexHandler.Sound where
  preamble := by
    intro type valid
    rcases invalidType_cases valid with rfl | rfl | rfl
    · decide
    · decide
    · decide
  rewrite := fun _ _ => rfl

theorem userialHandleRecvData_proceeds (s : Reassembler) (buffer : List UInt8) (room : s.Room)
    (nonempty : buffer ≠ []) (fits : s.AclFits buffer) :
    userialHandleRecvData s buffer = .error .aborts ∨
    ∃ handled, userialHandleRecvData s buffer = .ok handled ∧
      Proceeds Reassembler.Room buffer handled := by
  rw [userialHandleRecvData_eq s nonempty]
  exact recvData_proceeds recvHandler_sound s buffer room nonempty fits

theorem userialCoexRecvDataHandler_proceeds (s : Reassembler) (buffer : List UInt8) (room : s.Room)
    (nonempty : buffer ≠ []) (fits : s.AclFits buffer) :
    userialCoexRecvDataHandler s buffer = .error .aborts ∨
    ∃ handled, userialCoexRecvDataHandler s buffer = .ok handled ∧
      Proceeds Reassembler.Room buffer handled :=
  recvData_proceeds coexHandler_sound s buffer room nonempty fits

end UnionpiTiger.Userial
