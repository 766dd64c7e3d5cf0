import Mathlib.Algebra.Order.Ring.Int
import UnionpiTiger.Audio.Fifo

set_option autoImplicit false

namespace UnionpiTiger.Audio

namespace AxgFifo

def written (fifo : AxgFifo) (reg : FifoReg) : Option UInt32 :=
  (fifo.log.filterMap fun access => match access.op with
    | .write dest val => if dest = reg then some val else none
    | _ => none).getLast?

def securecMemMaxLen : Nat := 0x7fffffff

-- How many bytes memset_s sets. A count that is too large is cut down to the size of the
-- destination.
def memsetS (destMax count : Nat) : Nat :=
  if destMax = 0 ∨ securecMemMaxLen < destMax then 0 else min destMax count

def pcmPrepareClears (fifo : AxgFifo) : Nat :=
  if !fifo.pcmOpened then 0
  else if fifo.dmaCirSize ≠ 0 then memsetS fifo.dmaArea.toNat fifo.dmaCirSize.toNat
  else 0

structure Window (fifo : AxgFifo) (start finish : UInt32) : Prop where
  start : fifo.written .startAddr = some start
  finish : fifo.written .finishAddr = some finish

@[simp] theorem access_log (fifo : AxgFifo) (op : RegOp) :
    (fifo.access op).log = fifo.log ++ [{ op, pclk := fifo.pclk }] := rfl

theorem written_access (fifo : AxgFifo) (op : RegOp) (reg : FifoReg) :
    (fifo.access op).written reg = match op with
      | .write dest val => if dest = reg then some val else fifo.written reg
      | _ => fifo.written reg := by
  cases op with
  | write dest val =>
    by_cases same : dest = reg <;> simp [written, same]
  | updateBits | writeThreshold | read => simp [written]

@[simp] theorem written_update (fifo : AxgFifo) (reg dest : FifoReg) (mask val : UInt32) :
    (fifo.regmapUpdateBits dest mask val).written reg = fifo.written reg := written_access ..

@[simp] theorem written_field (fifo : AxgFifo) (reg : FifoReg) (val : UInt32) :
    (fifo.regmapFieldWrite val).written reg = fifo.written reg := written_access ..

@[simp] theorem written_write (fifo : AxgFifo) (reg dest : FifoReg) (val : UInt32) :
    (fifo.regmapWrite dest val).written reg = if dest = reg then some val else fifo.written reg :=
      written_access ..

def endPtr (fifo : AxgFifo) (cirBufSize : UInt32) : UInt64 :=
  fifo.dmaAddr + cirBufSize.toUInt64 - axgFifoBurst.toUInt64

theorem hwParamsRegisters_window (fifo : AxgFifo) (period cirBufSize : UInt32) :
    (fifo.hwParamsRegisters period cirBufSize).Window fifo.dmaAddr.toUInt32
      (fifo.endPtr cirBufSize).toUInt32 := by
  constructor
  · unfold hwParamsRegisters
    dsimp only
    split_ifs <;> simp
  · unfold hwParamsRegisters endPtr
    dsimp only
    split_ifs <;> simp

structure SameArea (before after : AxgFifo) : Prop where
  addr : after.dmaAddr = before.dmaAddr
  area : after.dmaArea = before.dmaArea
  opened : after.pcmOpened = before.pcmOpened

theorem SameArea.access {before after : AxgFifo} (same : SameArea before after) (op : RegOp) :
    SameArea before (after.access op) := ⟨same.addr, same.area, same.opened⟩

theorem SameArea.either {before yes no : AxgFifo} {P : Prop} [Decidable P] (then_ : SameArea before yes)
    (else_ : SameArea before no) : SameArea before (if P then yes else no) := by
  split_ifs
  · exact then_
  · exact else_

theorem hwParamsRegisters_sameArea (fifo : AxgFifo) (period cirBufSize : UInt32) :
    SameArea fifo (fifo.hwParamsRegisters period cirBufSize) := by
  have unchanged : SameArea fifo fifo := ⟨rfl, rfl, rfl⟩
  have common (start finish int threshold mask val : UInt32) :=
    ((((unchanged.access (.write .startAddr start)).access
    (.write .finishAddr finish)).access (.write .intAddr int)).access
      (.writeThreshold threshold)).access
      (.updateBits .ctrl0 mask val)
  exact SameArea.either ((common _ _ _ _ _ _).access (.write .initAddr _)) (common _ _ _ _ _ _)

structure Configured (before after : AxgFifo) (cirBufSize : UInt32) : Prop where
  opened : after.pcmOpened = true
  bounded : cirBufSize.toNat ≤ before.dmaArea.toNat
  addr : after.dmaAddr = before.dmaAddr
  area : after.dmaArea = before.dmaArea
  window : after.Window before.dmaAddr.toUInt32 (before.endPtr cirBufSize).toUInt32
  cirSize : after.dmaCirSize = cirBufSize.toUInt64

theorem pcmHwParams_configured {fifo : AxgFifo} {period cirBufSize : UInt32}
    (accepted : (fifo.pcmHwParams period cirBufSize).1 = 0) :
    Configured fifo (fifo.pcmHwParams period cirBufSize).2 cirBufSize := by
  unfold pcmHwParams at accepted ⊢
  by_cases opened : fifo.pcmOpened = true
  · by_cases large : cirBufSize.toUInt64 > fifo.dmaArea
    · simp [opened, large, einval] at accepted
    · have bounded : cirBufSize.toNat ≤ fifo.dmaArea.toNat := by
        simpa [UInt64.lt_iff_toNat_lt] using large
      obtain ⟨addr, area, stays⟩ := hwParamsRegisters_sameArea fifo period cirBufSize
      have window := hwParamsRegisters_window fifo period cirBufSize
      simp only [opened, Bool.not_true, Bool.false_eq_true, if_false, large]
      exact ⟨stays.trans opened, bounded, addr, area, ⟨window.start, window.finish⟩, rfl⟩
  · simp [opened] at accepted

end AxgFifo

open AxgFifo

structure RingFits (device : AudioDevice) (stream : IfaceStream) (cirBufSize : UInt32) : Prop where
  window : ∃ start finish, (device.fifoDev stream).Window start finish ∧ start ≤ finish ∧
    (device.fifoDev stream).dmaAddr.toNat ≤ start.toNat ∧
    finish.toNat + axgFifoBurst.toNat ≤ (device.fifoDev stream).dmaAddr.toNat +
      (device.fifoDev stream).dmaArea.toNat ∧
    ∀ frameSize addr, start ≤ addr → addr.toNat < finish.toNat + axgFifoBurst.toNat →
      (device.a311dAudioDmaPointer stream frameSize addr).1.toNat * frameSize.toNat < cirBufSize.toNat
  clears : (device.fifoDev stream).pcmPrepareClears ≤ (device.fifoDev stream).dmaArea.toNat

namespace AxgFifo

variable {fifo : AxgFifo}

theorem pcmPrepareClears_le (fifo : AxgFifo) : fifo.pcmPrepareClears ≤ fifo.dmaArea.toNat := by
  unfold pcmPrepareClears memsetS
  split_ifs <;> omega

theorem endPtr_toNat (fifo : AxgFifo) (cirBufSize : UInt32) :
    (fifo.endPtr cirBufSize).toUInt32.toNat =
      (2 ^ 64 - 8 + (fifo.dmaAddr.toNat + cirBufSize.toNat) % 2 ^ 64) % 2 ^ 64 % 2 ^ 32 := by
  simp only [endPtr, axgFifoBurst, UInt64.toNat_toUInt32, UInt64.toNat_sub, UInt64.toNat_add,
    UInt32.toNat_toUInt64]
  rfl

theorem registers_ordered {base size finish : Nat} (fits : size < 2 ^ 32) (low : base < 2 ^ 32)
    (calculated : finish = (2 ^ 64 - 8 + (base + size) % 2 ^ 64) % 2 ^ 64 % 2 ^ 32)
    (ordered : base ≤ finish) :
    8 ≤ size ∧ base + size < 2 ^ 32 + 8 ∨ base + size < 8 ∧ base + size < finish + 8 := by
  omega

theorem finish_of_room {base size finish : Nat} (burst : 8 ≤ size) (room : base + size < 2 ^ 32 + 8)
    (calculated : finish = (2 ^ 64 - 8 + (base + size) % 2 ^ 64) % 2 ^ 64 % 2 ^ 32) :
    finish + 8 = base + size := by
  omega

theorem pcmPointer_offset (fifo : AxgFifo) (opened : fifo.pcmOpened = true) (addr : UInt32)
    (inside : fifo.dmaAddr.toNat ≤ addr.toNat) :
    (fifo.pcmPointer addr).1.toNat = addr.toNat - fifo.dmaAddr.toNat := by
  have small := addr.toNat_lt
  simp only [pcmPointer, opened, Bool.not_true, Bool.false_eq_true, if_false]
  split_ifs with above
  · have le : fifo.dmaAddr ≤ addr.toUInt64 := by simpa [UInt64.le_iff_toNat_le] using inside
    rw [UInt64.toNat_toUInt32, UInt64.toNat_sub_of_le _ _ le, UInt32.toNat_toUInt64]
    omega
  · have below : addr.toNat ≤ fifo.dmaAddr.toNat := by simpa [UInt64.lt_iff_toNat_lt] using above
    simp [Nat.sub_eq_zero_of_le below]

theorem bytesToFrames_offset (frameSize size : UInt32) :
    (AudioDevice.bytesToFrames frameSize size).toNat * frameSize.toNat ≤ size.toNat := by
  unfold AudioDevice.bytesToFrames
  split_ifs
  · simp
  · simpa using Nat.div_mul_le_self size.toNat frameSize.toNat

@[simp] theorem bytesToFrames_one (size : UInt32) : AudioDevice.bytesToFrames 1 size = size := by
  simp [AudioDevice.bytesToFrames]

end AxgFifo

theorem configured {device : AudioDevice} {stream : IfaceStream} {period cirBufSize : UInt32}
    (accepted : (device.a311dAudioDmaConfigChannel stream period cirBufSize).1 = 0) :
    Configured (device.fifoDev stream)
      ((device.a311dAudioDmaConfigChannel stream period cirBufSize).2.fifoDev stream)
      cirBufSize := by
  have ret : ((device.fifoDev stream).pcmHwFree.2.pcmHwParams period cirBufSize).1 = 0 := by
    by_contra failed
    simp [AudioDevice.a311dAudioDmaConfigChannel, failed, hdfFailure] at accepted
  have after := pcmHwParams_configured ret
  simp only [AudioDevice.a311dAudioDmaConfigChannel, AudioDevice.setFifo, Function.update_self]
  exact ⟨after.opened, after.bounded, after.addr, after.area, after.window, after.cirSize⟩

theorem pointer_reported (device : AudioDevice) (stream : IfaceStream) (frameSize addr : UInt32) :
    (device.a311dAudioDmaPointer stream frameSize addr).1 =
      AudioDevice.bytesToFrames frameSize ((device.fifoDev stream).pcmPointer addr).1 := rfl

section Fits

variable {device next : AudioDevice} {stream : IfaceStream} {cirBufSize : UInt32}

theorem room_of_fits (after : Configured (device.fifoDev stream) (next.fifoDev stream) cirBufSize)
    (fits : RingFits next stream cirBufSize) :
    8 ≤ cirBufSize.toNat ∧ (device.fifoDev stream).dmaAddr.toNat + cirBufSize.toNat < 2 ^ 32 + 8 := by
  obtain ⟨⟨start, finish, window, ordered, bottom, -, positions⟩, -⟩ := fits
  have addr : (next.fifoDev stream).dmaAddr.toNat = (device.fifoDev stream).dmaAddr.toNat := by
    rw [after.addr]
  have startNat := UInt64.toNat_toUInt32 (device.fifoDev stream).dmaAddr
  obtain rfl : (device.fifoDev stream).dmaAddr.toUInt32 = start :=
    Option.some.inj (after.window.start.symm.trans window.start)
  obtain rfl : ((device.fifoDev stream).endPtr cirBufSize).toUInt32 = finish :=
    Option.some.inj (after.window.finish.symm.trans window.finish)
  rw [UInt32.le_iff_toNat_le, startNat] at ordered
  rw [addr, startNat] at bottom
  have low : (device.fifoDev stream).dmaAddr.toNat < 2 ^ 32 := by omega
  rw [Nat.mod_eq_of_lt low] at ordered
  rcases registers_ordered cirBufSize.toNat_lt low (endPtr_toNat _ cirBufSize) ordered with room
    | ⟨small, behind⟩
  · exact room
  · exfalso
    generalize far : UInt32.ofNat ((device.fifoDev stream).dmaAddr.toNat + cirBufSize.toNat) = position
    have place : position.toNat = (device.fifoDev stream).dmaAddr.toNat + cirBufSize.toNat := by
      rw [← far]
      exact UInt32.toNat_ofNat_of_lt' (by show _ < 2 ^ 32; omega)
    have burst : axgFifoBurst.toNat = 8 := rfl
    have offset := pcmPointer_offset _ after.opened position (by rw [addr, place]; omega)
    have inside := positions 1 position (by rw [UInt32.le_iff_toNat_le, startNat, place]; omega)
      (by rw [place, burst]; exact behind)
    rw [pointer_reported, bytesToFrames_one, offset, place, addr] at inside
    simp at inside

theorem fits_of_room (after : Configured (device.fifoDev stream) (next.fifoDev stream) cirBufSize)
    (atLeast : 8 ≤ cirBufSize.toNat)
    (room : (device.fifoDev stream).dmaAddr.toNat + cirBufSize.toNat < 2 ^ 32 + 8) :
    RingFits next stream cirBufSize := by
  have finish := finish_of_room atLeast room (endPtr_toNat _ cirBufSize)
  have bounded := after.bounded
  have burst : axgFifoBurst.toNat = 8 := rfl
  have addr : (next.fifoDev stream).dmaAddr.toNat = (device.fifoDev stream).dmaAddr.toNat := by
    rw [after.addr]
  have startNat := UInt64.toNat_toUInt32 (device.fifoDev stream).dmaAddr
  rw [Nat.mod_eq_of_lt (by omega)] at startNat
  refine ⟨⟨_, _, after.window, ?_, ?_, ?_, ?_⟩, pcmPrepareClears_le _⟩
  · rw [UInt32.le_iff_toNat_le, startNat]
    omega
  · exact Nat.le_of_eq (addr.trans startNat.symm)
  · rw [addr, after.area]
    omega
  · intro frameSize position above below
    rw [UInt32.le_iff_toNat_le, startNat] at above
    have offset := pcmPointer_offset _ after.opened position (by rw [addr]; exact above)
    have frames := bytesToFrames_offset frameSize ((next.fifoDev stream).pcmPointer position).1
    rw [pointer_reported]
    omega

end Fits

theorem ring_fits_iff (device : AudioDevice) (stream : IfaceStream) (period cirBufSize : UInt32)
    (accepted : (device.a311dAudioDmaConfigChannel stream period cirBufSize).1 = 0) :
    RingFits (device.a311dAudioDmaConfigChannel stream period cirBufSize).2 stream cirBufSize ↔
      axgFifoBurst ≤ cirBufSize ∧
        (device.fifoDev stream).dmaAddr.toNat + cirBufSize.toNat < 2 ^ 32 + axgFifoBurst.toNat := by
  have after := configured accepted
  rw [UInt32.le_iff_toNat_le]
  constructor
  · intro fits
    exact room_of_fits after fits
  · rintro ⟨atLeast, room⟩
    exact fits_of_room after atLeast room

def renderDevice : AudioDevice where
  fifoDev _ :=
    { depth := 256, dmaAddr := 0x1000000, dmaArea := 0x100000, isFrddr := true, isG12a := true,
      pcmOpened := true }

theorem ring_fits_of_page :
    RingFits (renderDevice.a311dAudioDmaConfigChannel .playback 1024 4096).2 .playback 4096 :=
  (ring_fits_iff renderDevice .playback 1024 4096 (by decide)).mpr (by decide)

theorem short_ring_accepted :
    (renderDevice.a311dAudioDmaConfigChannel .playback 4 4).1 = 0 ∧
      ¬RingFits (renderDevice.a311dAudioDmaConfigChannel .playback 4 4).2 .playback 4 := by
  refine ⟨by decide, fun fits => ?_⟩
  obtain ⟨start, finish, window, ordered, -⟩ := fits.window
  obtain rfl : 0x1000000 = start := Option.some.inj (window.start.symm ▸ by decide)
  obtain rfl : 0xfffffc = finish := Option.some.inj (window.finish.symm ▸ by decide)
  exact absurd ordered (by decide)

end UnionpiTiger.Audio
