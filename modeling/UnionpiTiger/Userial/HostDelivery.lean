import UnionpiTiger.Userial.HostResume

set_option autoImplicit false

namespace UnionpiTiger.Userial

open Lib

section Delivery

theorem getD_set_of_ne {bytes : List UInt8} {i j : Nat} (ne : i ≠ j) (value : UInt8) :
    (bytes.set i value).getD j 0 = bytes.getD j 0 := by
  rw [List.getD_eq_getElem?_getD, List.getD_eq_getElem?_getD, List.getElem?_set_ne ne]

-- The opcode of a command lies before everything userial_handle_cmd writes.
structure KeepsOpcode (before after : List UInt8) : Prop where
  length : after.length = before.length
  opcode : uint16At after 0 = uint16At before 0

theorem KeepsOpcode.refl (bytes : List UInt8) : KeepsOpcode bytes bytes := ⟨rfl, rfl⟩

theorem KeepsOpcode.trans {first second third : List UInt8} (early : KeepsOpcode first second)
    (late : KeepsOpcode second third) : KeepsOpcode first third :=
  ⟨late.length.trans early.length, late.opcode.trans early.opcode⟩

theorem KeepsOpcode.set (bytes : List UInt8) {offset : Nat} (late : 2 ≤ offset) (value : UInt8) :
    KeepsOpcode bytes (bytes.set offset value) where
  length := List.length_set
  opcode := by
    unfold uint16At
    rw [getD_set_of_ne (by omega), getD_set_of_ne (by omega)]

theorem KeepsOpcode.setUint16 (bytes : List UInt8) {offset : Nat} (late : 2 ≤ offset) (value : Nat) :
    KeepsOpcode bytes (setUint16 bytes offset value) :=
  (KeepsOpcode.set bytes late _).trans (KeepsOpcode.set _ (by omega) _)

theorem KeepsOpcode.limitScan (bytes : List UInt8) {intervalAt windowAt lastAt : Nat}
    (interval : 2 ≤ intervalAt) (window : 2 ≤ windowAt) (last : 2 ≤ lastAt) :
    KeepsOpcode bytes (limitScan intervalAt windowAt lastAt bytes) := by
  unfold Userial.limitScan
  dsimp only
  split_ifs
  · exact (KeepsOpcode.setUint16 bytes interval _).trans (KeepsOpcode.setUint16 _ window _)
  · exact (KeepsOpcode.setUint16 bytes interval _).trans (KeepsOpcode.setUint16 _ window _)
  · exact KeepsOpcode.setUint16 bytes interval _
  · exact KeepsOpcode.setUint16 bytes last _
  · exact KeepsOpcode.refl bytes

def HostSender.Handles (s : HostSender) (done : HostSender × List HostAction) : Prop :=
  ∃ recvBuffer advCon, done.1 = { s.rewrite recvBuffer with advCon := advCon } ∧
    KeepsOpcode (s.h4ReadBuffer.drop 1) recvBuffer

theorem HostSender.Handles.either {s : HostSender} {test : Prop} [Decidable test]
    {first second : HostSender × List HostAction} (left : s.Handles first)
    (right : s.Handles second) : s.Handles (if test then first else second) := by
  split
  · exact left
  · exact right

theorem HostSender.Handles.rewrites (s : HostSender) {recvBuffer : List UInt8}
    (keeps : KeepsOpcode (s.h4ReadBuffer.drop 1) recvBuffer) : s.Handles (s.rewrite recvBuffer, []) :=
  ⟨recvBuffer, s.advCon, rfl, keeps⟩

theorem HostSender.Handles.leaves (s : HostSender) (advCon : AdvCon) (actions : List HostAction) :
    s.Handles ({ s with advCon := advCon }, actions) := by
  refine ⟨s.h4ReadBuffer.drop 1, advCon, ?_, KeepsOpcode.refl _⟩
  rw [HostSender.rewrite, List.take_append_drop]

theorem HostSender.userialHandleCmd_sender (s : HostSender) :
    ∃ recvBuffer advCon, s.userialHandleCmd.1 = { s.rewrite recvBuffer with advCon := advCon } ∧
      KeepsOpcode (s.h4ReadBuffer.drop 1) recvBuffer := by
  have same : s.Handles (s, []) := Handles.leaves s s.advCon []
  have scans : s.Handles (s.rewrite (limitScan 4 6 4 (s.h4ReadBuffer.drop 1)), []) :=
    Handles.rewrites s (KeepsOpcode.limitScan _ (by decide) (by decide) (by decide))
  have extended : s.Handles (s.rewrite (limitScan 7 9 9 (s.h4ReadBuffer.drop 1)), []) :=
    Handles.rewrites s (KeepsOpcode.limitScan _ (by decide) (by decide) (by decide))
  have accepts : s.Handles (s.rewrite ((s.h4ReadBuffer.drop 1).set 9 0), []) :=
    Handles.rewrites s (KeepsOpcode.set _ (by decide) _)
  have advertises := Handles.leaves s
  exact scans.either
    (extended.either ((accepts.either same).either ((same.either (advertises _ _)).either
    ((same.either ((advertises _ _).either ((advertises _ _).either same))).either
      ((same.either ((advertises _ _).either same)).either same)))))

def HciPacket.opcode (p : HciPacket) : Nat := uint16At p.bytes 0

def HostSender.SendsCmd (s : HostSender) (p : HciPacket) : Prop :=
  p.type = dataTypeCommand ∧ s.transH4 = false ∧ p.opcode ≠ hciVscH5Init

def HostSent.handed (s : HostSent) : List HostAction := s.actions.filter HostAction.toTransport

variable {p : HciPacket}

theorem HostSender.laid_opcode (s : HostSender) (host : p.FromHost) :
    uint16At ((s.laid p.wire).h4ReadBuffer.drop 1) 0 = p.opcode := by
  have three := Nat.le_trans host.header_pos host.header
  unfold HciPacket.opcode uint16At
  simp only [HostSender.laid, HciPacket.wire, List.cons_append, List.drop_succ_cons, List.drop_zero,
    List.getD_eq_getElem?_getD]
  rw [List.getElem?_append_left (by omega), List.getElem?_append_left (by omega)]

theorem HostSender.userialHandleCmd_laid (s : HostSender) (host : p.FromHost)
    (size : s.h4ReadBuffer.length = h4ReadBufferSize) :
    (s.laid p.wire).userialHandleCmd.1.h4ReadBuffer.length = h4ReadBufferSize ∧
    (s.laid p.wire).userialHandleCmd.1.transH4 = s.transH4 ∧
    uint16At (s.laid p.wire).userialHandleCmd.1.h4ReadBuffer 1 = p.opcode := by
  obtain ⟨recvBuffer, advCon, sender, keeps⟩ := (s.laid p.wire).userialHandleCmd_sender
  have whole := HostSender.laid_length size host.fits
  have length := keeps.length
  have opcode := keeps.opcode
  rw [HostSender.laid_opcode s host] at opcode
  rw [List.length_drop, whole] at length
  obtain ⟨first, rest, buffer⟩ := List.exists_cons_of_length_eq_add_one whole
  rw [sender]
  simp only [HostSender.rewrite, buffer, List.take_succ_cons, List.take_zero, List.cons_append,
    List.nil_append]
  refine ⟨?_, rfl, ?_⟩
  · rw [List.length_cons, length]
    rfl
  · rw [← opcode]
    rfl

theorem HostSent.deliver_sender (s : HostSent) (type : UInt8) (p : HciPacket) :
    (s.deliver type p).sender = if p.type = dataTypeCommand
      then (s.sender.laid p.wire).userialHandleCmd.1 else s.sender.laid p.wire := by
  unfold HostSent.deliver HostSender.deliver HostSender.packetEnd
  split_ifs <;> rfl

theorem HostSent.deliver_size {s : HostSent} (type : UInt8) (host : p.FromHost)
    (size : s.sender.h4ReadBuffer.length = h4ReadBufferSize) :
    (s.deliver type p).sender.h4ReadBuffer.length = h4ReadBufferSize := by
  rw [deliver_sender]
  split_ifs with command
  · exact (s.sender.userialHandleCmd_laid host size).1
  · exact HostSender.laid_length size host.fits

theorem HostSent.deliver_transH4 {s : HostSent} (type : UInt8) (host : p.FromHost)
    (size : s.sender.h4ReadBuffer.length = h4ReadBufferSize) :
    (s.deliver type p).sender.transH4 = s.sender.transH4 := by
  rw [deliver_sender]
  split_ifs with command
  · exact (s.sender.userialHandleCmd_laid host size).2.1
  · rfl

theorem HostSent.deliver_command (s : HostSent) (host : p.FromHost)
    (size : s.sender.h4ReadBuffer.length = h4ReadBufferSize) (command : p.type = dataTypeCommand) :
    ∃ first data, ∀ type, (s.deliver type p).actions = s.actions ++ (first ++
      ((if s.sender.transH4 then [.h4IntTransmitData data]
        else if p.opcode = hciVscH5Init then [.h5SendSyncCmd p.opcode p.bytes.length]
        else hciH5SendCmd type (data.drop 1)) ++ [.userialEnqueueCoexRawdata data])) := by
  obtain ⟨_, trans, opcode⟩ := s.sender.userialHandleCmd_laid host size
  refine ⟨(s.sender.laid p.wire).userialHandleCmd.2,
    (s.sender.laid p.wire).userialHandleCmd.1.h4ReadBuffer.take (p.bytes.length + 1), ?_⟩
  intro type
  unfold HostSent.deliver HostSender.deliver HostSender.packetEnd
  rw [if_pos command]
  dsimp only [HostSender.sendCmd]
  rw [trans, opcode]

-- Only a command sent with h5_send_cmd depends on the type the call has.
theorem HostSent.deliver_same {s : HostSent} (type : UInt8) (host : p.FromHost)
    (size : s.sender.h4ReadBuffer.length = h4ReadBufferSize) (other : ¬ s.sender.SendsCmd p) :
    s.deliver type p = s.deliver p.type p := by
  apply HostSent.ext
  · rw [deliver_sender, deliver_sender]
  by_cases command : p.type = dataTypeCommand
  · obtain ⟨first, data, actions⟩ := s.deliver_command host size command
    rw [actions, actions]
    by_cases h4 : s.sender.transH4
    · rw [if_pos h4, if_pos h4]
    · by_cases init : p.opcode = hciVscH5Init
      · rw [if_neg h4, if_neg h4, if_pos init, if_pos init]
      · exact absurd ⟨command, Bool.eq_false_iff.mpr h4, init⟩ other
  · unfold HostSent.deliver HostSender.deliver HostSender.packetEnd
    rw [if_neg command, if_neg command]

theorem HostSent.deliver_refused {s : HostSent} (host : p.FromHost)
    (size : s.sender.h4ReadBuffer.length = h4ReadBufferSize) (sends : s.sender.SendsCmd p) :
    (s.deliver p.type p).handed.length = (s.deliver 0 p).handed.length + 1 := by
  obtain ⟨command, h5, init⟩ := sends
  obtain ⟨first, data, actions⟩ := s.deliver_command host size command
  have h4 : ¬ s.sender.transH4 = true := by
    rw [h5]
    decide
  unfold HostSent.handed
  rw [actions, actions, if_neg h4, if_neg h4, if_neg init, if_neg init, command]
  have refused : hciH5SendCmd 0 (data.drop 1) = [] := rfl
  have sent : hciH5SendCmd dataTypeCommand (data.drop 1) =
      [.h5Enqueue ⟨dataTypeCommand, data.drop 1⟩] := rfl
  rw [refused, sent]
  simp only [List.filter_append, List.length_append, List.filter_cons, HostAction.toTransport,
    List.filter_nil, if_true, List.length_cons, List.length_nil]
  omega

end Delivery

def HostReader.ResumesCmd (r : HostReader) : Prop :=
  r.packetRecvState ≠ .packetIdle ∧ r.currentType = dataTypeCommand ∧
    uint16At ((r.sender.h4ReadBuffer.drop 1).take r.h4ReadLength ++ r.uart) 0 ≠ hciVscH5Init

def HostReader.ResumesNoCmd : HostReader → List (List ReadResult) → Prop
  | _, [] => True
  | r, results :: calls =>
    ¬ r.ResumesCmd ∧ ∀ next ∈ (r.userialRecvH4Rawdata results).toOption, next.ResumesNoCmd calls

def HostSent.deliverAll (s : HostSent) (packets : List HciPacket) : HostSent :=
  packets.foldl (fun s p => s.deliver p.type p) s

inductive HostAt (s : HostSent) : List HciPacket → HostReader → Prop where
  | idle (packets : List HciPacket) (r : HostReader) (state : r.packetRecvState = .packetIdle)
      (sent : s = ⟨r.sender, r.actions⟩) (uart : r.uart = stream HciPacket.wire packets) :
    HostAt s packets r
  | inside (p : HciPacket) (packets : List HciPacket) (j : Nat) (short : j < p.bytes.length) :
    HostAt s (p :: packets) (.during s (stream HciPacket.wire packets) p j)

structure Behind (s t : HostSent) (lost : Prop) : Prop where
  sender : s.sender = t.sender
  same : ¬ lost → s.actions = t.actions
  fewer : lost → s.handed.length < t.handed.length

section Run

variable {s t : HostSent} {lost : Prop} {p : HciPacket} {packets : List HciPacket} {r : HostReader}

theorem Behind.congr {lost' : Prop} (behind : Behind s t lost) (iff : lost ↔ lost') :
    Behind s t lost' :=
  ⟨behind.sender, fun kept => behind.same (mt iff.mp kept),
    fun missing => behind.fewer (iff.mpr missing)⟩

theorem HostSent.deliver_handed_length (s : HostSent) (type : UInt8) (p : HciPacket) :
    (s.deliver type p).handed.length = s.handed.length +
      ((s.sender.deliver type p).2.filter HostAction.toTransport).length := by
  rw [HostSent.handed, HostSent.handed, HostSent.deliver, List.filter_append, List.length_append]

theorem Behind.deliver (behind : Behind s t lost) (type : UInt8) (p : HciPacket) :
    Behind (s.deliver type p) (t.deliver type p) lost where
  sender := by rw [HostSent.deliver, HostSent.deliver, behind.sender]
  same := by
    intro kept
    rw [HostSent.deliver, HostSent.deliver, behind.sender, behind.same kept]
  fewer := by
    intro missing
    have less := behind.fewer missing
    rw [s.deliver_handed_length, t.deliver_handed_length, behind.sender]
    omega

theorem Behind.refused (behind : Behind s t lost) (host : p.FromHost)
    (size : s.sender.h4ReadBuffer.length = h4ReadBufferSize) (sends : s.sender.SendsCmd p) :
    Behind (s.deliver 0 p) (t.deliver p.type p) True where
  sender := by
    rw [HostSent.deliver_sender, HostSent.deliver_sender, behind.sender]
  same := fun kept => absurd trivial kept
  fewer := by
    intro _
    have length := HostSent.deliver_refused host size sends
    have le : (s.deliver p.type p).handed.length ≤ (t.deliver p.type p).handed.length := by
      by_cases missing : lost
      · exact Nat.le_of_lt ((behind.deliver p.type p).fewer missing)
      · have same := (behind.deliver p.type p).same missing
        apply Nat.le_of_eq
        rw [HostSent.handed, HostSent.handed, same]
    omega

theorem HostReader.during_resumesCmd {more : List UInt8} {j : Nat} (host : p.FromHost)
    (short : j < p.bytes.length) :
    (during s more p j).ResumesCmd ↔ p.type = dataTypeCommand ∧ p.opcode ≠ hciVscH5Init := by
  have state : (during s more p j).packetRecvState ≠ .packetIdle := by
    unfold during
    dsimp only
    split_ifs <;> decide
  have three := Nat.le_trans host.header_pos host.header
  have length : (p.bytes.take j).length = j := by
    rw [List.length_take]
    omega
  have collected : ((during s more p j).sender.h4ReadBuffer.drop 1).take
      (during s more p j).h4ReadLength ++ (during s more p j).uart = p.bytes ++ more := by
    simp only [during, HostSender.laid, List.cons_append, List.drop_succ_cons, List.drop_zero]
    rw [List.take_left' length, ← List.append_assoc, List.take_append_drop]
  have opcode : uint16At (p.bytes ++ more) 0 = p.opcode := by
    simp only [HciPacket.opcode, uint16At, List.getD_eq_getElem?_getD]
    rw [List.getElem?_append_left (by omega), List.getElem?_append_left (by omega)]
  unfold ResumesCmd
  rw [collected, opcode]
  exact and_iff_right state

theorem HostReader.resumesNoCmd_of_not {next : HostReader} {results : List ReadResult}
    {calls : List (List ReadResult)} (call : r.userialRecvH4Rawdata results = .ok next)
    (other : ¬ r.ResumesCmd) :
    r.ResumesNoCmd (results :: calls) ↔ next.ResumesNoCmd calls := by
  constructor
  · intro all
    exact all.2 next (Result.mem_toOption.mpr call)
  · intro later
    refine ⟨other, ?_⟩
    intro found mem
    rw [call] at mem
    cases mem
    exact later

theorem HostReader.call_nothing (idle : r.packetRecvState = .packetIdle) (uart : r.uart = [])
    (results : List ReadResult) :
    r.userialRecvH4Rawdata results = .ok { r with packetBytesNeed := 1 } := by
  rw [userialRecvH4Rawdata, idle]
  cases results with
  | nil => rfl
  | cons result results =>
    cases result with
    | error => rfl
    | bytes count =>
      dsimp only
      rw [readIdle, uart, List.take_nil]

theorem HostReader.not_resumesCmd_of_idle (idle : r.packetRecvState = .packetIdle) :
    ¬ r.ResumesCmd := fun resumes => resumes.1 idle

theorem HostAt.finished (s : HostSent) (packets : List HciPacket) (p : HciPacket) (type : UInt8) :
    HostAt (s.deliver type p) packets
      (.finished s (stream HciPacket.wire packets) p type) :=
  .idle packets _ rfl rfl rfl

inductive HostCall (s : HostSent) (packets : List HciPacket) (r next : HostReader) : Prop where
  | stays (place : HostAt s packets next) (again : r.ResumesCmd → next.ResumesCmd)
  | begins (p : HciPacket) (rest : List HciPacket) (split : packets = p :: rest)
      (place : HostAt (s.deliver p.type p) rest next) (other : ¬ r.ResumesCmd)
  | resumes (p : HciPacket) (rest : List HciPacket) (split : packets = p :: rest)
      (place : HostAt (s.deliver 0 p) rest next)
      (command : r.ResumesCmd ↔ p.type = dataTypeCommand ∧ p.opcode ≠ hciVscH5Init)

theorem HostAt.call (place : HostAt s packets r) (host : ∀ p ∈ packets, p.FromHost)
    (size : s.sender.h4ReadBuffer.length = h4ReadBufferSize) (results : List ReadResult) :
    ∃ next, r.userialRecvH4Rawdata results = .ok next ∧ HostCall s packets r next := by
  cases place with
  | idle _ _ state sent uart =>
    have other := HostReader.not_resumesCmd_of_idle state
    have waits : HostAt s packets { r with packetBytesNeed := 1 } := .idle packets _ state sent uart
    subst sent
    cases packets with
    | nil =>
      exact ⟨_, HostReader.call_nothing state uart results,
        .stays waits fun resumes => absurd resumes other⟩
    | cons p rest =>
      rcases HostReader.call_idle (host p List.mem_cons_self) size state uart results with
        call | ⟨next, call, reached | ⟨j, _, short, inside⟩⟩
      · exact ⟨_, call, .stays waits fun resumes => absurd resumes other⟩
      · refine ⟨next, call, .begins p rest rfl ?_ other⟩
        rw [reached]
        exact HostAt.finished _ rest p p.type
      · refine ⟨next, call, .stays ?_ fun resumes => absurd resumes other⟩
        rw [inside]
        exact .inside p rest j short
  | inside p rest j short =>
    have known := host p List.mem_cons_self
    obtain ⟨next, call, reached | ⟨j', _, later, inside⟩⟩ :=
      HostReader.call_during known size results short
    · refine ⟨next, call, .resumes p rest rfl ?_ (HostReader.during_resumesCmd known short)⟩
      rw [reached]
      exact HostAt.finished s rest p 0
    · refine ⟨next, call, .stays ?_ ?_⟩
      · rw [inside]
        exact .inside p rest j' later
      · rw [inside, HostReader.during_resumesCmd known later,
          HostReader.during_resumesCmd known short]
        exact id

theorem HostAt.spent (place : HostAt s packets r) (spent : r.uart = []) :
    packets = [] ∧ s = ⟨r.sender, r.actions⟩ ∧ ¬ r.ResumesCmd := by
  cases place with
  | idle _ _ state sent uart =>
    refine ⟨?_, sent, HostReader.not_resumesCmd_of_idle state⟩
    cases packets with
    | nil => rfl
    | cons p rest =>
      rw [spent, stream_cons, HciPacket.wire] at uart
      cases uart
  | inside p rest j short =>
    have empty := (List.append_eq_nil_iff.mp spent).1
    rw [List.drop_eq_nil_iff] at empty
    omega

-- By induction on the calls; a call that stays in a resumed command is not the last one where the
-- stream was read to its end.
theorem HostAt.run (place : HostAt s packets r) (host : ∀ p ∈ packets, p.FromHost)
    (size : s.sender.h4ReadBuffer.length = h4ReadBufferSize) (behind : Behind s t lost)
    (calls : List (List ReadResult)) :
    ∃ final, r.run calls = .ok final ∧ (final.uart = [] →
      Behind ⟨final.sender, final.actions⟩ (t.deliverAll packets)
        (lost ∨ s.sender.transH4 = false ∧ ¬ r.ResumesNoCmd calls)) := by
  induction calls generalizing s t lost packets r with
  | nil =>
    refine ⟨r, rfl, ?_⟩
    intro spent
    obtain ⟨rfl, rfl, _⟩ := place.spent spent
    refine behind.congr ?_
    simp [HostReader.ResumesNoCmd]
  | cons results calls ih =>
    obtain ⟨next, call, outcome⟩ := place.call host size results
    have run : r.run (results :: calls) = next.run calls := by
      rw [HostReader.run, call, Result.bind_ok]
    rw [run]
    cases outcome with
    | stays place' again =>
      obtain ⟨final, later, ends⟩ := ih place' host size behind
      refine ⟨final, later, ?_⟩
      intro spent
      refine (ends spent).congr ?_
      by_cases resumed : r.ResumesCmd
      · have lostHere : ¬ r.ResumesNoCmd (results :: calls) := fun all => all.1 resumed
        have lostLater : ¬ next.ResumesNoCmd calls := by
          cases calls with
          | nil =>
            cases later
            exact absurd (again resumed) (place'.spent spent).2.2
          | cons more calls => exact fun all => all.1 (again resumed)
        rw [iff_true_intro lostHere, iff_true_intro lostLater]
      · rw [HostReader.resumesNoCmd_of_not call resumed]
    | begins p rest split place' other =>
      subst split
      have first := host p List.mem_cons_self
      have others : ∀ q ∈ rest, q.FromHost := fun q mem => host q (List.mem_cons_of_mem p mem)
      have kept := ih place' others (HostSent.deliver_size p.type first size)
        (behind.deliver p.type p)
      rw [HostSent.deliver_transH4 p.type first size,
        ← HostReader.resumesNoCmd_of_not call other] at kept
      exact kept
    | resumes p rest split place' command =>
      subst split
      have first := host p List.mem_cons_self
      have others : ∀ q ∈ rest, q.FromHost := fun q mem => host q (List.mem_cons_of_mem p mem)
      by_cases sends : s.sender.SendsCmd p
      · obtain ⟨final, later, ends⟩ := ih place' others (HostSent.deliver_size 0 first size)
          (behind.refused first size sends)
        refine ⟨final, later, fun spent => (ends spent).congr ?_⟩
        have lostHere : ¬ r.ResumesNoCmd (results :: calls) :=
          fun all => all.1 (command.mpr ⟨sends.1, sends.2.2⟩)
        exact iff_of_true (.inl trivial) (.inr ⟨sends.2.1, lostHere⟩)
      · rw [HostSent.deliver_same 0 first size sends] at place'
        obtain ⟨final, later, ends⟩ := ih place' others (HostSent.deliver_size p.type first size)
          (behind.deliver p.type p)
        refine ⟨final, later, fun spent => (ends spent).congr ?_⟩
        rw [HostSent.deliver_transH4 p.type first size]
        refine or_congr_right (and_congr_right fun h5 => ?_)
        have other : ¬ r.ResumesCmd := by
          rw [command]
          exact fun ⟨known, init⟩ => sends ⟨known, h5, init⟩
        rw [HostReader.resumesNoCmd_of_not call other]

theorem HostReader.run_whole (host : ∀ p ∈ packets, p.FromHost)
    (size : r.sender.h4ReadBuffer.length = h4ReadBufferSize)
    (idle : r.packetRecvState = .packetIdle) (uart : r.uart = stream HciPacket.wire packets) :
    ∃ whole, r.run (packets.map fun _ => wholeReads) = .ok whole ∧ whole.uart = [] ∧
      ⟨whole.sender, whole.actions⟩ = HostSent.deliverAll ⟨r.sender, r.actions⟩ packets := by
  induction packets generalizing r with
  | nil => exact ⟨r, rfl, uart, rfl⟩
  | cons p packets ih =>
    have first := host p List.mem_cons_self
    have others : ∀ q ∈ packets, q.FromHost := fun q mem => host q (List.mem_cons_of_mem p mem)
    have sized := HostSent.deliver_size (s := ⟨r.sender, r.actions⟩) p.type first size
    obtain ⟨whole, run, spent, sent⟩ := ih
      (r := .finished ⟨r.sender, r.actions⟩ (stream HciPacket.wire packets) p p.type) others sized
      rfl rfl
    refine ⟨whole, ?_, spent, sent⟩
    rw [stream_cons] at uart
    rw [List.map_cons, HostReader.run, HostReader.call_whole first size idle uart, Result.bind_ok,
      run]

end Run

def HostReader.handed (r : HostReader) : List HostAction := r.actions.filter HostAction.toTransport

theorem host_packets_iff (r : HostReader) (idle : r.packetRecvState = .packetIdle)
    (size : r.sender.h4ReadBuffer.length = h4ReadBufferSize) (packets : List HciPacket)
    (host : ∀ p ∈ packets, p.FromHost) (sent : r.uart = stream HciPacket.wire packets)
    (calls : List (List ReadResult)) :
    ∃ final whole, r.run calls = .ok final ∧
      r.run (packets.map fun _ => wholeReads) = .ok whole ∧ whole.uart = [] ∧
      (final.uart = [] → (final.handed = whole.handed ↔
        r.sender.transH4 = true ∨ r.ResumesNoCmd calls)) := by
  have start : HostAt ⟨r.sender, r.actions⟩ packets r := .idle packets r idle rfl sent
  have level : Behind ⟨r.sender, r.actions⟩ ⟨r.sender, r.actions⟩ False :=
    ⟨rfl, fun _ => rfl, False.elim⟩
  obtain ⟨whole, wholeRun, wholeSpent, delivered⟩ :=
    HostReader.run_whole host size idle sent
  obtain ⟨final, run, ends⟩ := start.run host size level calls
  refine ⟨final, whole, run, wholeRun, wholeSpent, ?_⟩
  intro spent
  have behind := ends spent
  rw [← delivered] at behind
  constructor
  · intro same
    by_contra lost
    rw [not_or, Bool.not_eq_true] at lost
    have fewer := behind.fewer (.inr lost)
    have equal := congrArg List.length same
    exact absurd equal (Nat.ne_of_lt fewer)
  · intro kept
    apply congrArg (List.filter HostAction.toTransport)
    apply behind.same
    rintro (impossible | ⟨h5, lost⟩)
    · exact impossible
    · rcases kept with h4 | none_lost
      · rw [h4] at h5
        cases h5
      · exact lost none_lost

def hostPackets : List HciPacket :=
  [⟨dataTypeCommand, [0x03, 0x0C, 0]⟩, ⟨dataTypeAcl, [1, 0x20, 2, 0, 7, 8]⟩]

def hostCalls : List (List ReadResult) :=
  [[.error], [.bytes 1, .bytes 1, .bytes 2], [.bytes 1, .bytes 2, .error], [.bytes 9, .bytes 0],
    [.bytes 9]]

theorem host_packets_split_acl :
    ∃ final whole : HostReader,
      HostReader.run { uart := stream HciPacket.wire hostPackets } hostCalls = .ok final ∧
      HostReader.run { uart := stream HciPacket.wire hostPackets }
        (hostPackets.map fun _ => wholeReads) = .ok whole ∧
      final.uart = [] ∧ whole.uart = [] ∧ (final.handed = whole.handed ↔ false = true ∨
        HostReader.ResumesNoCmd { uart := stream HciPacket.wire hostPackets } hostCalls) := by
  obtain ⟨final, whole, run, wholeRun, wholeSpent, iff⟩ :=
    host_packets_iff { uart := stream HciPacket.wire hostPackets } rfl List.length_replicate
      hostPackets (by decide) rfl hostCalls
  have spent : (HostReader.run { uart := stream HciPacket.wire hostPackets } hostCalls).map
      HostReader.uart = .ok [] := by decide +kernel
  rw [run, Result.map_ok, Except.ok.injEq] at spent
  exact ⟨final, whole, run, wholeRun, spent, wholeSpent, iff spent⟩

theorem host_packets_lost_command :
    ∃ final whole : HostReader,
      HostReader.run { uart := [1, 0x03, 0x0C, 0] } [[.bytes 1, .bytes 1], [.bytes 2]] =
        .ok final ∧
      HostReader.run { uart := [1, 0x03, 0x0C, 0] } [wholeReads] = .ok whole ∧
      final.uart = [] ∧ whole.uart = [] ∧ final.handed = [] ∧
      whole.handed = [.h5Enqueue ⟨dataTypeCommand, [0x03, 0x0C, 0]⟩] := by
  have cut : (HostReader.run { uart := [1, 0x03, 0x0C, 0] } [[.bytes 1, .bytes 1], [.bytes 2]]).map
      (fun r => (r.uart, r.handed)) = .ok ([], []) := by decide +kernel
  have uncut : (HostReader.run { uart := [1, 0x03, 0x0C, 0] } [wholeReads]).map
      (fun r => (r.uart, r.handed)) =
        .ok ([], [.h5Enqueue ⟨dataTypeCommand, [0x03, 0x0C, 0]⟩]) := by decide +kernel
  obtain ⟨final, run, ends⟩ := Result.map_eq_ok.mp cut
  obtain ⟨whole, wholeRun, wholeEnds⟩ := Result.map_eq_ok.mp uncut
  exact ⟨final, whole, run, wholeRun, congrArg Prod.fst ends, congrArg Prod.fst wholeEnds,
    congrArg Prod.snd ends, congrArg Prod.snd wholeEnds⟩

end UnionpiTiger.Userial
