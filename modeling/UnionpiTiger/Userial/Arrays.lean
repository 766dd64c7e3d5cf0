import UnionpiTiger.H5.UpQueue
import UnionpiTiger.Userial.HostOverrun

set_option autoImplicit false

namespace UnionpiTiger.Userial

open Lib

def dataReadySize : Nat := 1028

-- hci_h5_int_read_data copies the payload behind the type, whatever its length. The loop ends at the
-- length of the payload, so the last byte of the buffer may stay unread.
def h5DataReadyCb (u : VndUserial) (type : UInt8) (data : List UInt8) (written : Nat) :
    Result VndUserial :=
  if data.length + 1 ≤ dataReadySize then
    (driveUpTo 1 userialHandleRecvData (data.length + 2) u.received (type :: data)).map fun driven =>
      userialEnqueueCoexRawdata
        { u with
          received := driven.next
          recvPackets := u.recvPackets ++ driven.packets
          host := u.host ++ driven.buffer.take written }
        driven.buffer .received
  else .error .overruns

structure VendorLib where
  h5 : H5.HciH5Cb := H5.hciH5IntInit
  userial : VndUserial := {}
  host : HostReader := {}

-- One step of one of their threads: userial_recv_uart_rawdata, the coexistence thread and what is
-- queued for it, h5_recv with the bytes of a read, the rest of the transport, data_ready_cb_thread,
-- the host writing to the socket, a call of userial_recv_H4_rawdata, and the code that changes what
-- this call looks up.
inductive VendorAct where
  | userial (event : UserialEvent)
  | h5Recv (bytes : List UInt8)
  | h5 (event : H5.Event)
  | dataReady (written : Nat)
  | hostWrites (bytes : List UInt8)
  | hostRead (results : List ReadResult)
  | settings (transH4 : Bool) (hciVersion : UInt8) (advCon : AdvCon)

def VendorLib.act (lib : VendorLib) : VendorAct → Result VendorLib
  | .userial event => (userialStep lib.userial event).map fun userial => { lib with userial := userial }
  | .h5Recv bytes => .ok { lib with h5 := H5.h5Recv lib.h5 bytes }
  | .h5 event => .ok { lib with h5 := H5.step lib.h5 event }
  | .dataReady written =>
    match lib.h5.recvData with
    | [] => .ok lib
    | skb :: _ =>
      (h5DataReadyCb lib.userial skb.packetType skb.data written).map fun userial =>
        { lib with h5 := { lib.h5 with recvData := lib.h5.recvData.tail }, userial := userial }
  | .hostWrites bytes => .ok { lib with host := { lib.host with uart := lib.host.uart ++ bytes } }
  | .hostRead results =>
    (lib.host.userialRecvH4Rawdata results).map fun host => { lib with host := host }
  | .settings transH4 hciVersion advCon =>
    .ok { lib with host := { lib.host with
      sender := { lib.host.sender with
        transH4 := transH4, hciVersion := hciVersion, advCon := advCon } } }

-- Nothing follows a write outside an array or an assert that failed in one of the threads.
def vendorStep (lib : Result VendorLib) (act : VendorAct) : Result VendorLib :=
  lib.bind fun lib => lib.act act

-- No packet for the host that h5_recv accepted is longer than the array of h5_data_ready_cb.
def PayloadsFit (h5 : H5.HciH5Cb) : Prop :=
  ∀ frame ∈ h5.log.completed, H5.passUp (H5.h5HdrPktType frame) = true →
    (frame.pull H5.h5HdrSize).data.length + 1 ≤ dataReadySize

def VendorLib.Fits (lib : VendorLib) : VendorAct → Prop
  | .userial (.read chunk _) =>
    AlongDrive 0 userialHandleRecvData Reassembler.AclFits (chunk.length + 1) lib.userial.received
      chunk
  | .userial .coex =>
    lib.userial.dataOrder.head? = some .received → ∀ skb ∈ lib.userial.recvData.head?,
      AlongDrive 0 userialCoexRecvDataHandler Reassembler.AclFits (skb.length + 1) lib.userial.coex
        skb
  | .dataReady _ =>
    PayloadsFit lib.h5 ∧ ∀ skb ∈ lib.h5.recvData.head?,
      AlongDrive 1 userialHandleRecvData Reassembler.AclFits (skb.data.length + 2)
        lib.userial.received (skb.packetType :: skb.data)
  | .hostRead _ => lib.host.AclFits
  | _ => True

instance PayloadsFit.decidable (h5 : H5.HciH5Cb) : Decidable (PayloadsFit h5) :=
  inferInstanceAs (Decidable (∀ frame ∈ h5.log.completed, _ → _))

instance VendorLib.Fits.decidable (lib : VendorLib) : (act : VendorAct) → Decidable (lib.Fits act)
  | .userial (.read _ _) => inferInstanceAs (Decidable (AlongDrive _ _ _ _ _ _))
  | .userial .coex => inferInstanceAs (Decidable (_ → ∀ skb ∈ lib.userial.recvData.head?, _))
  | .dataReady _ => inferInstanceAs (Decidable (_ ∧ ∀ skb ∈ lib.h5.recvData.head?, _))
  | .hostRead _ => inferInstanceAs (Decidable lib.host.AclFits)
  | .userial (.send _) => isTrue trivial
  | .h5Recv _ => isTrue trivial
  | .h5 _ => isTrue trivial
  | .hostWrites _ => isTrue trivial
  | .settings _ _ _ => isTrue trivial

def vendorFits (lib : Result VendorLib) (act : VendorAct) : Prop :=
  ∀ l ∈ lib.toOption, l.Fits act

instance vendorFits.decidable (lib : Result VendorLib) (act : VendorAct) :
    Decidable (vendorFits lib act) :=
  inferInstanceAs (Decidable (∀ l ∈ lib.toOption, l.Fits act))

structure VndUserial.Room (u : VndUserial) : Prop where
  received : u.received.Room
  coex : u.coex.Room
  nonempty : ∀ skb ∈ u.recvData, skb ≠ []

structure VendorLib.Room (lib : VendorLib) : Prop where
  fromFrames : H5.FromFrames lib.h5
  userial : lib.userial.Room
  host : lib.host.Room

section Steps

variable {u : VndUserial}

theorem VndUserial.Room.enqueue {s : Reassembler} {buffer host : List UInt8}
    {packets : List HciPacket} (room : u.Room) (next : s.Room) (nonempty : buffer ≠ []) :
    (userialEnqueueCoexRawdata
      { u with received := s, recvPackets := packets, host := host } buffer .received).Room where
  received := next
  coex := room.coex
  nonempty := by
    intro skb mem
    rcases List.mem_append.mp mem with there | last
    · exact room.nonempty skb there
    · rw [List.mem_singleton.mp last]
      exact nonempty

theorem VndUserial.Room.userialRecvUartRawdata {chunk : List UInt8} (room : u.Room) (written : Nat)
    (fits : AlongDrive 0 userialHandleRecvData Reassembler.AclFits (chunk.length + 1) u.received
      chunk) :
    userialRecvUartRawdata u chunk written = .error .aborts ∨
    ∃ next, userialRecvUartRawdata u chunk written = .ok next ∧ next.Room := by
  by_cases nothing : chunk = []
  · subst nothing
    refine .inr ⟨_, rfl, ?_⟩
    exact { room with }
  · rcases driveUpTo_invariant userialHandleRecvData_proceeds room.received nothing (Nat.le_succ _)
      fits with stopped | ⟨driven, loop, kept, size⟩
    · rw [driveUpTo_zero] at stopped
      refine .inl ?_
      rw [Userial.userialRecvUartRawdata, stopped, Result.map_error]
    · rw [driveUpTo_zero] at loop
      refine .inr ⟨_, userialRecvUartRawdata_eq written nothing loop, ?_⟩
      refine room.enqueue kept ?_
      intro gone
      rw [gone] at size
      exact nothing (List.eq_nil_of_length_eq_zero size.symm)

theorem VndUserial.Room.coexTurn (room : u.Room)
    (fits : u.dataOrder.head? = some .received → ∀ skb ∈ u.recvData.head?,
      AlongDrive 0 userialCoexRecvDataHandler Reassembler.AclFits (skb.length + 1) u.coex skb) :
    coexTurn u = .error .aborts ∨ ∃ next, coexTurn u = .ok next ∧ next.Room := by
  cases order : u.dataOrder with
  | nil =>
    refine .inr ⟨u, ?_, room⟩
    simp only [Userial.coexTurn, order]
  | cons first order' =>
    cases first with
    | send =>
      obtain ⟨data, sent, turn⟩ := coexTurn_send order
      exact .inr ⟨_, turn, { room with }⟩
    | received =>
      cases queued : u.recvData with
      | nil =>
        refine .inr ⟨{ u with dataOrder := order' }, ?_, { room with }⟩
        simp only [Userial.coexTurn, order, queued]
      | cons skb rest =>
        have some_bytes := room.nonempty skb (by rw [queued]; exact List.mem_cons_self)
        rw [order, queued] at fits
        rcases driveUpTo_invariant userialCoexRecvDataHandler_proceeds room.coex some_bytes
          (Nat.le_succ _) (fits rfl skb rfl) with stopped | ⟨driven, loop, kept, _⟩
        · rw [driveUpTo_zero] at stopped
          refine .inl ?_
          simp only [Userial.coexTurn, order, queued, stopped, Result.map_error]
        · rw [driveUpTo_zero] at loop
          refine .inr ⟨_, coexTurn_received order queued loop, room.received, kept, ?_⟩
          intro other mem
          apply room.nonempty
          rw [queued]
          exact List.mem_cons_of_mem skb mem

theorem VndUserial.Room.h5DataReadyCb {type : UInt8} {data : List UInt8} (room : u.Room)
    (written : Nat) (size : data.length + 1 ≤ dataReadySize)
    (fits : AlongDrive 1 userialHandleRecvData Reassembler.AclFits (data.length + 2) u.received
      (type :: data)) :
    h5DataReadyCb u type data written = .error .aborts ∨
    ∃ next, h5DataReadyCb u type data written = .ok next ∧ next.Room := by
  rw [Userial.h5DataReadyCb, if_pos size]
  rcases driveUpTo_invariant userialHandleRecvData_proceeds room.received
    (List.cons_ne_nil type data) (by rw [List.length_cons]; omega) fits with
    stopped | ⟨driven, loop, kept, length⟩
  · exact .inl (by rw [stopped, Result.map_error])
  · rw [loop, Result.map_ok]
    refine .inr ⟨_, rfl, ?_⟩
    refine room.enqueue kept ?_
    intro nothing
    rw [nothing] at length
    cases length

end Steps

theorem VendorLib.Room.act {lib : VendorLib} (room : lib.Room) (act : VendorAct)
    (fits : lib.Fits act) :
    lib.act act = .error .aborts ∨ ∃ next, lib.act act = .ok next ∧ next.Room := by
  cases act with
  | userial event =>
    cases event with
    | read chunk written =>
      rcases room.userial.userialRecvUartRawdata written fits with stopped | ⟨next, read, kept⟩
      · exact .inl (congrArg (Except.map _) stopped)
      · exact .inr ⟨_, congrArg (Except.map _) read, { room with userial := kept }⟩
    | send packet =>
      exact .inr ⟨_, rfl, { room with userial := { room.userial with } }⟩
    | coex =>
      rcases room.userial.coexTurn fits with stopped | ⟨next, turn, kept⟩
      · exact .inl (congrArg (Except.map _) stopped)
      · exact .inr ⟨_, congrArg (Except.map _) turn, { room with userial := kept }⟩
  | h5Recv bytes => exact .inr ⟨_, rfl, { room with fromFrames := room.fromFrames.h5Recv bytes }⟩
  | h5 event => exact .inr ⟨_, rfl, { room with fromFrames := room.fromFrames.step event }⟩
  | dataReady written =>
    obtain ⟨payloads, calls⟩ := fits
    cases queued : lib.h5.recvData with
    | nil => exact .inr ⟨lib, by simp only [VendorLib.act, queued], room⟩
    | cons skb rest =>
      have first : skb ∈ lib.h5.recvData := by
        rw [queued]
        exact List.mem_cons_self
      have size : skb.data.length + 1 ≤ dataReadySize := by
        rcases room.fromFrames.of_recvData first with made | ⟨frame, taken, passes, data⟩
        · rw [made]
          decide
        · rw [data]
          exact payloads frame taken passes
      rw [queued] at calls
      rcases room.userial.h5DataReadyCb written size (calls skb rfl) with
        stopped | ⟨next, call, kept⟩
      · refine .inl ?_
        simp only [VendorLib.act, queued, stopped, Result.map_error]
      · refine .inr ⟨{ lib with
          h5 := { lib.h5 with recvData := lib.h5.recvData.tail }, userial := next }, ?_,
          { room with fromFrames := room.fromFrames.dequeue, userial := kept }⟩
        simp only [VendorLib.act, queued, call, Result.map_ok]
  | hostWrites bytes => exact .inr ⟨_, rfl, { room with host := room.host }⟩
  | hostRead results =>
    rcases HostReader.userialRecvH4Rawdata_room results room.host fits with
      stopped | ⟨next, call, kept⟩
    · exact .inl (congrArg (Except.map _) stopped)
    · exact .inr ⟨_, congrArg (Except.map _) call, { room with host := kept }⟩
  | settings transH4 hciVersion advCon => exact .inr ⟨_, rfl, { room with host := room.host }⟩

theorem VendorLib.init_room : ({} : VendorLib).Room where
  fromFrames := H5.hciH5IntInit_fromFrames
  userial := ⟨trivial, trivial, by intro skb mem; cases mem⟩
  host := ⟨List.length_replicate, trivial⟩

def VendorLib.Stands (lib : Result VendorLib) : Prop :=
  lib = .error .aborts ∨ ∃ l, lib = .ok l ∧ l.Room

theorem VendorLib.Stands.step {lib : Result VendorLib} (act : VendorAct) (stands : Stands lib)
    (fits : vendorFits lib act) : Stands (vendorStep lib act) := by
  rcases stands with rfl | ⟨l, rfl, room⟩
  · exact .inl rfl
  · exact room.act act (fits l rfl)

theorem arrays_hold (acts : List VendorAct) (fits : Along vendorStep vendorFits (.ok {}) acts) :
    run vendorStep (.ok {}) acts = .error .aborts ∨
    ∃ final, run vendorStep (.ok {}) acts = .ok final := by
  have kept : VendorLib.Stands (run vendorStep (.ok {}) acts) :=
    run_invariant vendorStep vendorFits VendorLib.Stands (fun _ act stands ok => stands.step act ok)
      _ (.inr ⟨{}, rfl, VendorLib.init_room⟩) acts fits
  rcases kept with stopped | ⟨final, done, _⟩
  · exact .inl stopped
  · exact .inr ⟨final, done⟩

def fittingRun : List VendorAct :=
  [.userial (.read [2, 0x01, 0x20, 4, 0, 1, 2] 7), .userial .coex, .userial (.read [3, 4] 2),
    .userial .coex, .h5Recv [0xc0, 0x00, 0x34, 0x00, 0xcb, 0x0e, 0x01, 0x01, 0xc0], .dataReady 4,
    .userial .coex, .hostWrites [2, 0x01, 0x20, 2, 0, 9, 9],
    .hostRead [.bytes 1, .bytes 4, .bytes 2]]

theorem arrays_hold_fittingRun :
    run vendorStep (.ok {}) fittingRun = .error .aborts ∨
    ∃ final, run vendorStep (.ok {}) fittingRun = .ok final :=
  arrays_hold fittingRun (by decide +kernel)

def longAcl (size : Nat) : List UInt8 :=
  [2, 0x01, 0x20, UInt8.ofNat size, UInt8.ofNat (size / 256)] ++ List.replicate size 0

def longPacket (size : Nat) : Bt.RtkBuffer :=
  { data := H5.h5Hdr 0 0 true false size H5.hciAcldataPkt ++ List.replicate size 0 }

theorem arrays_overrun :
    run vendorStep (.ok {}) [.userial (.read (longAcl 2045) 0)] = .error .overruns ∧
    run vendorStep (.ok {}) [.hostWrites (longAcl 2044), .hostRead [.bytes 1, .bytes 4, .bytes 2044]] =
      .error .overruns ∧
    run vendorStep (.ok {}) [.h5 (.packet (longPacket 1028)), .dataReady 0] = .error .overruns := by
  refine ⟨?_, ?_, ?_⟩
  · exact Result.eq_error_of_stop (by decide +kernel)
  · exact Result.eq_error_of_stop (by decide +kernel)
  · exact Result.eq_error_of_stop (by decide +kernel)

end UnionpiTiger.Userial
