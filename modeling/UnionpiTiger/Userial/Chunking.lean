import UnionpiTiger.Userial.Resume

set_option autoImplicit false

namespace UnionpiTiger.Userial

open Lib

inductive DataOrder where
  | received
  | send
deriving DecidableEq, Repr

-- The receiving side of vnd_userial and the statics of its two readers. `recvPackets` and
-- `coexPackets` are the packets that reached RTKBT_PACKET_END; `sentPackets` are the buffers handed
-- to userial_coex_send_data_handler.
structure VndUserial where
  received : Reassembler := {}
  coex : Reassembler := {}
  dataOrder : List DataOrder := []
  recvData : List (List UInt8) := []
  sendData : List (List UInt8) := []
  host : List UInt8 := []
  recvPackets : List HciPacket := []
  coexPackets : List HciPacket := []
  sentPackets : List (List UInt8) := []
deriving DecidableEq, Repr

def userialEnqueueCoexRawdata (u : VndUserial) (buffer : List UInt8) : DataOrder → VndUserial
  | .received =>
    { u with recvData := u.recvData ++ [buffer], dataOrder := u.dataOrder ++ [.received] }
  | .send => { u with sendData := u.sendData ++ [buffer], dataOrder := u.dataOrder ++ [.send] }

def userialRecvUartRawdata (u : VndUserial) (buffer : List UInt8) (written : Nat) :
    Result VndUserial :=
  (drive userialHandleRecvData (buffer.length + 1) u.received buffer).map fun driven =>
    let u :=
      { u with
        received := driven.next
        recvPackets := u.recvPackets ++ driven.packets
        host := u.host ++ driven.buffer.take written }
    if buffer.length = 0 then u else userialEnqueueCoexRawdata u driven.buffer .received

def coexTurn (u : VndUserial) : Result VndUserial :=
  match u.dataOrder with
  | [] => .ok u
  | .received :: order =>
    match u.recvData with
    | [] => .ok { u with dataOrder := order }
    | skb :: rest =>
      (drive userialCoexRecvDataHandler (skb.length + 1) u.coex skb).map fun driven =>
        { u with
          dataOrder := order
          recvData := rest
          coex := driven.next
          coexPackets := u.coexPackets ++ driven.packets }
  | .send :: order =>
    match u.sendData with
    | [] => .ok { u with dataOrder := order }
    | skb :: rest =>
      .ok
        { u with
          dataOrder := order
          sendData := rest
          sentPackets := u.sentPackets ++ [skb] }

def coexTurns : Nat → VndUserial → Result VndUserial
  | 0, u => .ok u
  | turns + 1, u => (coexTurn u).bind (coexTurns turns)

def userialCoexHandler (u : VndUserial) : Result VndUserial := coexTurns u.dataOrder.length u

-- The three threads: a read from the controller, a packet from the host on its way there, a turn
-- of the coexistence thread.
inductive UserialEvent where
  | read (chunk : List UInt8) (written : Nat)
  | send (packet : List UInt8)
  | coex
deriving DecidableEq, Repr

def userialStep (u : VndUserial) : UserialEvent → Result VndUserial
  | .read chunk written => userialRecvUartRawdata u chunk written
  | .send packet => .ok (userialEnqueueCoexRawdata u packet .send)
  | .coex => coexTurn u

def userialRun : VndUserial → List UserialEvent → Result VndUserial
  | u, [] => .ok u
  | u, event :: events => (userialStep u event).bind fun next => userialRun next events

def reads : List UserialEvent → List (List UInt8)
  | [] => []
  | .read chunk _ :: events => chunk :: reads events
  | .send _ :: events => reads events
  | .coex :: events => reads events

theorem userialRecvUartRawdata_eq {u : VndUserial} {buffer : List UInt8} (written : Nat)
    {driven : Driven Reassembler UInt8 HciPacket} (nonempty : buffer ≠ [])
    (loop : drive userialHandleRecvData (buffer.length + 1) u.received buffer = .ok driven) :
    userialRecvUartRawdata u buffer written = .ok
      { u with
        received := driven.next
        recvPackets := u.recvPackets ++ driven.packets
        host := u.host ++ driven.buffer.take written
        recvData := u.recvData ++ [driven.buffer]
        dataOrder := u.dataOrder ++ [.received] } := by
  have length : buffer.length ≠ 0 := fun empty => nonempty (List.eq_nil_of_length_eq_zero empty)
  simp only [userialRecvUartRawdata, loop, Result.map_ok, if_neg length,
    userialEnqueueCoexRawdata]

theorem coexTurn_received {u : VndUserial} {order : List DataOrder} {skb : List UInt8}
    {rest : List (List UInt8)} {driven : Driven Reassembler UInt8 HciPacket}
    (first : u.dataOrder = .received :: order) (queued : u.recvData = skb :: rest)
    (loop : drive userialCoexRecvDataHandler (skb.length + 1) u.coex skb = .ok driven) :
    coexTurn u = .ok
      { u with
        dataOrder := order
        recvData := rest
        coex := driven.next
        coexPackets := u.coexPackets ++ driven.packets } := by
  simp only [coexTurn, first, queued, loop, Result.map_ok]

theorem coexTurn_send {u : VndUserial} {order : List DataOrder}
    (first : u.dataOrder = .send :: order) :
    ∃ data sent, coexTurn u =
      .ok { u with dataOrder := order, sendData := data, sentPackets := sent } := by
  cases queued : u.sendData with
  | nil =>
    refine ⟨[], u.sentPackets, ?_⟩
    simp only [coexTurn, first, queued]
  | cons skb rest =>
    refine ⟨rest, u.sentPackets ++ [skb], ?_⟩
    simp only [coexTurn, first, queued]

structure Follows (packets : List HciPacket) (more : List UInt8) (u : VndUserial) : Prop where
  readers : ∃ ahead later,
    ReaderAt HciPacket.wire HciPacket.rewritten {} (fun p k => Reassembler.during p.rewritten k)
      packets u.received u.recvPackets more ahead ∧
    ReaderAt HciPacket.wire id {} (fun p k => Reassembler.during p k)
      (packets.map HciPacket.rewritten) u.coex u.coexPackets (u.recvData.flatten ++ ahead) later
  nonempty : ∀ chunk ∈ u.recvData, chunk ≠ []
  counted : u.dataOrder.count .received = u.recvData.length

section Follows

variable {packets : List HciPacket} {more : List UInt8} {u : VndUserial}

theorem rewritten_wellFormed (wf : ∀ p ∈ packets, p.WellFormed) :
    ∀ p ∈ packets.map HciPacket.rewritten, p.WellFormed := by
  intro q mem
  obtain ⟨p, found, rfl⟩ := List.mem_map.mp mem
  exact (wf p found).rewritten

theorem Follows.start (wf : ∀ p ∈ packets, p.WellFormed) :
    Follows packets (stream HciPacket.wire packets) {} where
  readers := ⟨_, _, userialHandleRecvData_resumable.start wf,
    userialCoexRecvDataHandler_resumable.start (rewritten_wellFormed wf)⟩
  nonempty := by
    intro chunk mem
    cases mem
  counted := rfl

theorem Follows.read {chunk : List UInt8} (follows : Follows packets (chunk ++ more) u)
    (wf : ∀ p ∈ packets, p.WellFormed) (nonempty : chunk ≠ []) (written : Nat) :
    ∃ next, userialRecvUartRawdata u chunk written = .ok next ∧ Follows packets more next := by
  obtain ⟨ahead, later, recv, coex⟩ := follows.readers
  obtain ⟨driven, ahead', loop, some_data, rfl, recv'⟩ :=
    userialHandleRecvData_resumable.drive_buffer wf recv nonempty (chunk.length + 1)
      (Nat.le_succ _)
  refine ⟨_, userialRecvUartRawdata_eq written nonempty loop, ?_⟩
  refine ⟨⟨ahead', later, recv', ?_⟩, ?_, ?_⟩
  · rw [List.flatten_append, List.flatten_singleton, List.append_assoc]
    exact coex
  · intro other mem
    rcases List.mem_append.mp mem with old | new
    · exact follows.nonempty other old
    · rw [List.mem_singleton.mp new]
      exact some_data
  · rw [List.count_append, follows.counted, List.length_append]
    rfl

theorem Follows.send (follows : Follows packets more u) (packet : List UInt8) :
    Follows packets more (userialEnqueueCoexRawdata u packet .send) where
  readers := follows.readers
  nonempty := follows.nonempty
  counted := by
    have counted := follows.counted
    simp only [userialEnqueueCoexRawdata, List.count_append, counted]
    rfl

theorem Follows.turn (follows : Follows packets more u) (wf : ∀ p ∈ packets, p.WellFormed) :
    ∃ next, coexTurn u = .ok next ∧ Follows packets more next ∧
      next.dataOrder = u.dataOrder.tail := by
  have counted := follows.counted
  cases order : u.dataOrder with
  | nil =>
    refine ⟨u, ?_, follows, order⟩
    simp only [coexTurn, order]
  | cons type rest =>
    rw [order] at counted
    cases type with
    | send =>
      rw [List.count_cons_of_ne (by decide)] at counted
      obtain ⟨data, sent, turn⟩ := coexTurn_send order
      exact ⟨_, turn, ⟨follows.readers, follows.nonempty, counted⟩, rfl⟩
    | received =>
      rw [List.count_cons_self] at counted
      obtain ⟨ahead, later, recv, coex⟩ := follows.readers
      have nonempty := follows.nonempty
      cases data : u.recvData with
      | nil =>
        rw [data] at counted
        cases counted
      | cons skb queued =>
        rw [data] at counted coex nonempty
        rw [List.flatten_cons, List.append_assoc] at coex
        obtain ⟨driven, later', loop, _, _, coex'⟩ :=
          userialCoexRecvDataHandler_resumable.drive_buffer (rewritten_wellFormed wf) coex
            (nonempty skb List.mem_cons_self) (skb.length + 1) (Nat.le_succ _)
        refine ⟨_, coexTurn_received order data loop, ⟨⟨ahead, later', recv, coex'⟩, ?_, ?_⟩, rfl⟩
        · intro chunk mem
          exact nonempty chunk (List.mem_cons_of_mem skb mem)
        · exact Nat.succ.inj counted

theorem Follows.turns (follows : Follows packets more u) (wf : ∀ p ∈ packets, p.WellFormed)
    (turns : Nat) (enough : u.dataOrder.length ≤ turns) :
    ∃ final, coexTurns turns u = .ok final ∧ Follows packets more final ∧
      final.dataOrder = [] := by
  induction turns generalizing u with
  | zero =>
    exact ⟨u, rfl, follows, List.eq_nil_of_length_eq_zero (Nat.le_zero.mp enough)⟩
  | succ turns ih =>
    obtain ⟨next, turn, follows', order⟩ := follows.turn wf
    have shorter : next.dataOrder.length ≤ turns := by
      rw [order, List.length_tail]
      omega
    obtain ⟨final, rest, last⟩ := ih follows' shorter
    refine ⟨final, ?_, last⟩
    rw [coexTurns, turn, Result.bind_ok, rest]

theorem Follows.run (follows : Follows packets more u) (wf : ∀ p ∈ packets, p.WellFormed)
    (events : List UserialEvent) (split : (reads events).flatten = more)
    (nonempty : ∀ chunk ∈ reads events, chunk ≠ []) :
    ∃ final, userialRun u events = .ok final ∧ Follows packets [] final := by
  induction events generalizing u more with
  | nil =>
    have spent : more = [] := split.symm
    subst spent
    exact ⟨u, rfl, follows⟩
  | cons event events ih =>
    cases event with
    | read chunk written =>
      have split' : chunk ++ (reads events).flatten = more := split
      subst split'
      obtain ⟨next, step, follows'⟩ :=
        follows.read wf (nonempty chunk List.mem_cons_self) written
      obtain ⟨final, rest, last⟩ :=
        ih follows' rfl (fun other mem => nonempty other (List.mem_cons_of_mem chunk mem))
      refine ⟨final, ?_, last⟩
      rw [userialRun, userialStep, step, Result.bind_ok, rest]
    | send packet => exact ih (follows.send packet) split nonempty
    | coex =>
      obtain ⟨next, step, follows', _⟩ := follows.turn wf
      obtain ⟨final, rest, last⟩ := ih follows' split nonempty
      refine ⟨final, ?_, last⟩
      rw [userialRun, userialStep, step, Result.bind_ok, rest]

theorem Follows.recv_finished (follows : Follows packets [] u) :
    u.received = {} ∧ u.recvPackets = packets.map HciPacket.rewritten := by
  obtain ⟨ahead, later, recv, coex⟩ := follows.readers
  exact ⟨recv.finished.1, recv.finished.2.1⟩

theorem Follows.coex_finished (follows : Follows packets [] u) (drained : u.dataOrder = []) :
    u.coex = {} ∧ u.coexPackets = packets.map HciPacket.rewritten := by
  obtain ⟨ahead, later, recv, coex⟩ := follows.readers
  have counted := follows.counted
  rw [drained] at counted
  have empty : u.recvData = [] := List.eq_nil_of_length_eq_zero counted.symm
  rw [empty, recv.finished.2.2] at coex
  refine ⟨coex.finished.1, ?_⟩
  rw [coex.finished.2.1, List.map_id]

end Follows

theorem reassemblers_agree (packets : List HciPacket) (wf : ∀ p ∈ packets, p.WellFormed)
    (events : List UserialEvent)
    (split : (reads events).flatten = stream HciPacket.wire packets)
    (nonempty : ∀ chunk ∈ reads events, chunk ≠ []) :
    ∃ u final, userialRun {} events = .ok u ∧ userialCoexHandler u = .ok final ∧
      u.received = {} ∧ u.recvPackets = packets.map HciPacket.rewritten ∧
      final.coex = {} ∧ final.coexPackets = packets.map HciPacket.rewritten := by
  obtain ⟨u, run, follows⟩ := (Follows.start wf).run wf events split nonempty
  obtain ⟨final, drain, follows', drained⟩ := follows.turns wf u.dataOrder.length (Nat.le_refl _)
  obtain ⟨idle, recv⟩ := follows.recv_finished
  obtain ⟨coexIdle, coex⟩ := follows'.coex_finished drained
  exact ⟨u, final, run, drain, idle, recv, coexIdle, coex⟩

def cutReads : List UserialEvent :=
  [.read [4, 0x0E] 2, .coex, .read [4] 1, .send [1, 3, 0x0C, 0], .read [5, 0x03, 0x0C, 0, 3, 0x40] 0,
    .coex, .read [0, 1, 0xAA, 4, 0x0F, 4, 0] 7, .read [9, 0x05, 0x04] 3]

def cutPackets : List HciPacket :=
  [⟨dataTypeEvent, [0x0E, 4, 5, 0x03, 0x0C, 0]⟩, ⟨dataTypeSco, [0x40, 0, 1, 0xAA]⟩,
    ⟨dataTypeEvent, [0x0F, 4, 0, 9, 0x05, 0x04]⟩]

theorem reassemblers_agree_cut :
    ∃ u final, userialRun {} cutReads = .ok u ∧ userialCoexHandler u = .ok final ∧
      u.received = {} ∧ u.recvPackets = cutPackets.map HciPacket.rewritten ∧
      final.coex = {} ∧ final.coexPackets = cutPackets.map HciPacket.rewritten :=
  reassemblers_agree cutPackets (by decide) cutReads (by decide) (by decide)

end UnionpiTiger.Userial
