import UnionpiTiger.Userial.HostDelivery
import UnionpiTiger.Userial.Overrun

set_option autoImplicit false

namespace UnionpiTiger.Userial

open Lib

def HostReader.collected (r : HostReader) : List UInt8 :=
  (r.sender.h4ReadBuffer.drop 1).take r.h4ReadLength

def HostReader.announced (r : HostReader) : Option Nat :=
  match r.packetRecvState with
  | .packetIdle =>
    match r.uart with
    | [] => none
    | type :: rest => if type = dataTypeAcl ∧ 4 ≤ rest.length then some (uint16At rest 2) else none
  | .packetHeader =>
    if r.currentType = dataTypeAcl ∧ 4 ≤ (r.collected ++ r.uart).length then
      some (uint16At (r.collected ++ r.uart) 2)
    else none
  | _ => none

def HostReader.AclFits (r : HostReader) : Prop :=
  ∀ size ∈ r.announced, size + 5 ≤ h4ReadBufferSize

instance HostReader.AclFits.decidable (r : HostReader) : Decidable r.AclFits :=
  inferInstanceAs (Decidable (∀ size ∈ r.announced, size + 5 ≤ h4ReadBufferSize))

def HostReader.Room (r : HostReader) : Prop :=
  r.sender.h4ReadBuffer.length = h4ReadBufferSize ∧
  match r.packetRecvState with
  | .packetIdle => True
  | .packetHeader => r.h4ReadLength + r.packetBytesNeed ≤ 4 ∧
      (r.currentType = dataTypeAcl → r.h4ReadLength + r.packetBytesNeed = 4)
  | .packetContent => r.h4ReadLength + 1 + r.packetBytesNeed ≤ h4ReadBufferSize
  | .packetType => False
  | .packetEnd => False

section Reads

variable {r : HostReader}

structure HostReader.Moves (r next : HostReader) : Prop where
  state : next.packetRecvState = r.packetRecvState
  type : next.currentType = r.currentType
  total : next.h4ReadLength + next.packetBytesNeed = r.h4ReadLength + r.packetBytesNeed
  size : next.sender.h4ReadBuffer.length = r.sender.h4ReadBuffer.length
  bytes : next.collected ++ next.uart = r.collected ++ r.uart

theorem HostReader.read_moves (count : Nat)
    (room : r.h4ReadLength + 1 + r.packetBytesNeed ≤ r.sender.h4ReadBuffer.length) :
    ∃ next, r.read count = .ok next ∧ r.Moves next := by
  generalize piece : r.uart.take (min count r.packetBytesNeed) = bytes
  have taken : bytes.length ≤ r.packetBytesNeed := by
    rw [← piece, List.length_take]
    omega
  have bounded : r.h4ReadLength + 1 + bytes.length ≤ r.sender.h4ReadBuffer.length := by omega
  have rest : bytes ++ r.uart.drop bytes.length = r.uart := by
    rw [← piece, List.length_take]
    have split := List.take_append_drop (min (min count r.packetBytesNeed) r.uart.length) r.uart
    rwa [← List.take_eq_take_min] at split
  have front : ((r.sender.h4ReadBuffer.drop 1).take r.h4ReadLength).length = r.h4ReadLength := by
    rw [List.length_take, List.length_drop]
    omega
  have laid : ((r.sender.h4ReadBuffer.take (r.h4ReadLength + 1) ++ bytes ++
      r.sender.h4ReadBuffer.drop (r.h4ReadLength + 1 + bytes.length)).drop 1).take
        (r.h4ReadLength + bytes.length) = r.collected ++ bytes := by
    rw [List.append_assoc, List.drop_append_of_le_length (by rw [List.length_take]; omega),
      List.drop_take, Nat.add_sub_cancel, ← List.append_assoc]
    apply List.take_left'
    rw [List.length_append, front]
  refine ⟨{ r with
    packetBytesNeed := r.packetBytesNeed - bytes.length
    h4ReadLength := r.h4ReadLength + bytes.length
    uart := r.uart.drop bytes.length
    sender := { r.sender with
      h4ReadBuffer := r.sender.h4ReadBuffer.take (r.h4ReadLength + 1) ++ bytes ++
        r.sender.h4ReadBuffer.drop (r.h4ReadLength + 1 + bytes.length) } }, ?_, rfl, rfl, ?_, ?_, ?_⟩
  · rw [HostReader.read, piece]
    exact if_pos bounded
  · dsimp only
    omega
  · simp only [List.length_append, List.length_take, List.length_drop]
    omega
  · unfold HostReader.collected at laid ⊢
    dsimp only
    rw [laid, List.append_assoc, rest]

theorem HostSender.packetEnd_size (s : HostSender) (type currentType : UInt8) (length : Nat)
    (size : s.h4ReadBuffer.length = h4ReadBufferSize) :
    (s.packetEnd type currentType length).1.h4ReadBuffer.length = h4ReadBufferSize := by
  unfold packetEnd
  by_cases command : currentType = dataTypeCommand
  · rw [if_pos command]
    obtain ⟨recvBuffer, advCon, sender, keeps⟩ := s.userialHandleCmd_sender
    have rest := keeps.length
    rw [List.length_drop, size] at rest
    dsimp only
    rw [sender]
    simp only [rewrite, List.length_append, List.length_take, size, rest]
    rfl
  · rw [if_neg command]
    exact size

theorem HostReader.readEnd_room (type : UInt8)
    (size : r.sender.h4ReadBuffer.length = h4ReadBufferSize) : (readEnd type r).Room :=
  ⟨HostSender.packetEnd_size _ _ _ _ size, trivial⟩

theorem HostReader.readContent_room (type : UInt8) (results : List ReadResult)
    (size : r.sender.h4ReadBuffer.length = h4ReadBufferSize)
    (state : r.packetRecvState = .packetContent)
    (room : r.h4ReadLength + 1 + r.packetBytesNeed ≤ h4ReadBufferSize) :
    ∃ next, readContent type r results = .ok next ∧ next.Room := by
  have stays : r.Room := by
    rw [Room, state]
    exact ⟨size, room⟩
  induction results generalizing r with
  | nil =>
    unfold readContent
    split_ifs with ends
    · exact ⟨_, rfl, readEnd_room type size⟩
    · exact ⟨r, rfl, stays⟩
  | cons result results ih =>
    unfold readContent
    split_ifs with ends
    · exact ⟨_, rfl, readEnd_room type size⟩
    · cases result with
      | error => exact ⟨r, rfl, stays⟩
      | bytes count =>
        obtain ⟨next, read, moves⟩ := read_moves count (by rw [size]; exact room)
        have total := moves.total
        have later : next.h4ReadLength + 1 + next.packetBytesNeed ≤ h4ReadBufferSize := by omega
        have sized := moves.size.trans size
        have still := moves.state.trans state
        have kept : next.Room := by
          rw [Room, still]
          exact ⟨sized, later⟩
        dsimp only
        rw [read, Result.bind_ok]
        split_ifs with nothing
        · exact ⟨next, rfl, kept⟩
        · exact ih sized still later kept

theorem h4ContentSize_le (currentType : UInt8) (buffer : List UInt8)
    (other : currentType ≠ dataTypeAcl) : h4ContentSize currentType buffer ≤ 255 := by
  unfold h4ContentSize
  rw [if_neg other]
  split_ifs
  · exact Nat.le_of_lt_succ (buffer.getD 2 0).toNat_lt
  · exact Nat.le_of_lt_succ (buffer.getD 3 0).toNat_lt

theorem HostReader.announced_collected (four : r.h4ReadLength = 4)
    (size : r.sender.h4ReadBuffer.length = h4ReadBufferSize) :
    uint16At (r.collected ++ r.uart) 2 = uint16At r.sender.h4ReadBuffer 3 := by
  have length : r.collected.length = 4 := by
    rw [collected, List.length_take, List.length_drop, four, size]
    decide
  have same : ∀ i, i < 4 → (r.collected ++ r.uart).getD i 0 = r.sender.h4ReadBuffer.getD (i + 1) 0 := by
    intro i early
    rw [List.getD_eq_getElem?_getD, List.getD_eq_getElem?_getD,
      List.getElem?_append_left (by omega), collected, four, List.getElem?_take_of_lt early,
      List.getElem?_drop, Nat.add_comm]
  rw [uint16At, uint16At, same 2 (by decide), same 3 (by decide)]

theorem HostReader.readHeader_room (type : UInt8) (results : List ReadResult) (room : r.Room)
    (state : r.packetRecvState = .packetHeader)
    (fits : r.currentType = dataTypeAcl → 4 ≤ (r.collected ++ r.uart).length →
      uint16At (r.collected ++ r.uart) 2 + 5 ≤ h4ReadBufferSize) :
    ∃ next, readHeader type r results = .ok next ∧ next.Room := by
  induction results generalizing r with
  | nil => exact ⟨r, rfl, room⟩
  | cons result results ih =>
    cases result with
    | error => exact ⟨r, rfl, room⟩
    | bytes count =>
      have inv := room
      rw [Room, state] at inv
      obtain ⟨size, small, four⟩ := inv
      have four_le : 4 + 1 ≤ h4ReadBufferSize := by decide
      obtain ⟨next, read, moves⟩ := read_moves (r := r) count (by rw [size]; omega)
      have total := moves.total
      have sized := moves.size.trans size
      have still := moves.state.trans state
      have kept : next.Room := by
        rw [Room, still, moves.type]
        refine ⟨sized, by omega, fun acl => ?_⟩
        rw [total]
        exact four acl
      unfold readHeader
      rw [read, Result.bind_ok]
      split_ifs with nothing ends
      · exact ⟨next, rfl, kept⟩
      · refine readContent_room type results ?_ rfl ?_
        · exact sized
        dsimp only
        by_cases acl : next.currentType = dataTypeAcl
        · have known := moves.type ▸ acl
          have whole : next.h4ReadLength = 4 := by
            have sum := four known
            omega
          have length : 4 ≤ (r.collected ++ r.uart).length := by
            have copied : next.collected.length = 4 := by
              rw [collected, List.length_take, List.length_drop, whole, sized]
              decide
            rw [← moves.bytes, List.length_append]
            omega
          have announced := fits known length
          rw [← moves.bytes, announced_collected whole sized] at announced
          rw [h4ContentSize, if_pos acl]
          omega
        · have content := h4ContentSize_le next.currentType next.sender.h4ReadBuffer acl
          have bound : 4 + 1 + 255 ≤ h4ReadBufferSize := by decide
          omega
      · apply ih kept still
        rw [moves.type, moves.bytes]
        exact fits

theorem hciPreambleSizes_le (i : Nat) : hciPreambleSizes.getD i 0 ≤ 4 := by
  rcases i with _ | _ | _ | _ | i
  · decide
  · decide
  · decide
  · decide
  · exact Nat.zero_le 4

theorem HostReader.readType_room (type : UInt8) (results : List ReadResult)
    (size : r.sender.h4ReadBuffer.length = h4ReadBufferSize)
    (fits : r.currentType = dataTypeAcl → 4 ≤ r.uart.length →
      uint16At r.uart 2 + 5 ≤ h4ReadBufferSize) :
    ∃ next, readType type r results = .ok next ∧ next.Room := by
  refine readHeader_room type results ?_ rfl ?_
  · refine ⟨size, ?_, ?_⟩
    · dsimp only
      rw [Nat.zero_add]
      exact hciPreambleSizes_le _
    · intro acl
      dsimp only at acl ⊢
      rw [acl]
      rfl
  · simp only [collected, List.take_zero, List.nil_append]
    exact fits

theorem HostReader.readIdle_room (results : List ReadResult) (room : r.Room)
    (fits : ∀ type rest, r.uart = type :: rest → type = dataTypeAcl → 4 ≤ rest.length →
      uint16At rest 2 + 5 ≤ h4ReadBufferSize) :
    readIdle r results = .error .aborts ∨ ∃ next, readIdle r results = .ok next ∧ next.Room := by
  cases results with
  | nil => exact .inr ⟨r, rfl, room⟩
  | cons result results =>
    cases result with
    | error => exact .inr ⟨r, rfl, room⟩
    | bytes count =>
      simp only [readIdle]
      split
      next nothing => exact .inr ⟨r, rfl, room⟩
      next type taken got =>
        obtain ⟨rest, uart⟩ : ∃ rest, r.uart = type :: rest := by
          have split := List.take_append_drop (min count 1) r.uart
          rw [got] at split
          exact ⟨_, split.symm⟩
        rw [uart, List.drop_succ_cons, List.drop_zero]
        split_ifs with invalid
        · exact .inl rfl
        · refine .inr (readType_room type results ?_ ?_)
          · rw [List.length_set]
            exact room.1
          · exact fits type rest uart

end Reads

theorem HostReader.userialRecvH4Rawdata_room {r : HostReader} (results : List ReadResult)
    (room : r.Room) (fits : r.AclFits) :
    r.userialRecvH4Rawdata results = .error .aborts ∨
    ∃ next, r.userialRecvH4Rawdata results = .ok next ∧ next.Room := by
  have size := room.1
  unfold AclFits announced at fits
  unfold userialRecvH4Rawdata
  split
  next state =>
    rw [state] at fits
    refine readIdle_room results ?_ ?_
    · rw [Room, state] at room ⊢
      exact room
    · intro type rest split acl long
      dsimp only at split
      rw [split] at fits
      exact fits _ (if_pos ⟨acl, long⟩)
  next state =>
    rw [Room, state] at room
    exact absurd room.2 id
  next state =>
    rw [state] at fits
    refine .inr (readHeader_room 0 results room state ?_)
    intro acl long
    exact fits _ (if_pos ⟨acl, long⟩)
  next state =>
    have inv := room
    rw [Room, state] at inv
    exact .inr (readContent_room 0 results size state inv.2)
  next state =>
    rw [Room, state] at room
    exact absurd room.2 id

end UnionpiTiger.Userial
