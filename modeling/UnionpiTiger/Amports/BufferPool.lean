import UnionpiTiger.Lib.Run
import UnionpiTiger.Lib.Words
import Mathlib.Algebra.BigOperators.Group.List.Basic
import Mathlib.Data.List.FinRange
import Mathlib.Logic.Function.Basic

set_option autoImplicit false

namespace UnionpiTiger.Amports.BufferPool

open Lib

-- Where a buffer's storage is said to be: in a block that an allocator has given out, or at a
-- bare address.
inductive Place where
  | null
  | block (id : Nat) (offset : Int)
  | bare (address : Int)
deriving DecidableEq, Repr

structure ThreadrwBuf where
  place : Place := .null
  bufferSize : Int := 0
  fromCma : Bool := false
deriving DecidableEq

def maxMmBufferNum : Nat := 16

def defaultBlockSize : Int := 64 * 1024

-- The part of a write task that has to do with its buffers. `freefifo` is what has been put into
-- the fifo of free buffers by an allocation, and `blocks` are the sizes of the blocks the task
-- was given, until they are freed.
structure ThreadrwWriteTask where
  freefifo : List Nat := []
  bufsNum : Nat := 0
  maxBufs : Int
  bufferSize : Int := 0
  defBlockSize : Int := 0
  codecMmBuffer : Fin maxMmBufferNum → Option Nat := fun _ => none
  manualWrite : Bool
  failedOnmore : Bool := false
  buf : Nat → ThreadrwBuf := fun _ => {}
  blocks : List (Option Nat) := []

-- What the memory is like for a call: how much codec_mm has, in all and free, whether it gives a
-- block out, and for which buffers dma_alloc_coherent does.
structure Memory where
  totalSize : Int
  freeSize : Int
  codecMm : Bool
  dma : Nat → Bool

def align (size : Int) : Int := s32 (size + 131071) / 131072 * 131072

namespace ThreadrwWriteTask

def put (task : ThreadrwWriteTask) (bufidx : Nat) (rwbuf : ThreadrwBuf) : ThreadrwWriteTask :=
  { task with
    buf := Function.update task.buf bufidx rwbuf
    freefifo := task.freefifo ++ [bufidx]
    bufsNum := bufidx + 1 }

def allocated (task : ThreadrwWriteTask) (size : Int) : ThreadrwWriteTask :=
  { task with
    blocks := task.blocks ++ [some size.toNat]
    bufferSize := s32 (task.bufferSize + size) }

def cutBuffers (slot : Fin maxMmBufferNum) (blockSize newNum totalMm : Int) (startIdx : Nat) :
    Nat → Nat → ThreadrwWriteTask → ThreadrwWriteTask
  | 0, _, task => task
  | left + 1, i, task =>
    let offset := s32 (blockSize * i)
    let rwbuf :=
      { task.buf (startIdx + i) with
        bufferSize := if (i : Int) = newNum - 1 then s32 (totalMm - offset) else blockSize
        place := match task.codecMmBuffer slot with
          | some id => .block id offset
          | none => .bare offset
        fromCma := true }
    cutBuffers slot blockSize newNum totalMm startIdx left (i + 1) (task.put (startIdx + i) rwbuf)

def dmaBuffers (dma : Nat → Bool) (blockSize : Int) (startIdx : Nat) :
    Nat → Nat → ThreadrwWriteTask → ThreadrwWriteTask
  | 0, _, task => task
  | left + 1, i, task =>
    let rwbuf := task.buf (startIdx + i)
    if dma i then
      dmaBuffers dma blockSize startIdx left (i + 1) ((task.allocated blockSize).put (startIdx + i)
        { rwbuf with bufferSize := blockSize, place := .block task.blocks.length 0, fromCma := false })
    else
      { task with
        buf := Function.update task.buf (startIdx + i) { rwbuf with bufferSize := 0, place := .null }
        bufsNum := startIdx + i }

def freeTaskBuffers (task : ThreadrwWriteTask) : ThreadrwWriteTask :=
  let slots := (List.finRange maxMmBufferNum).filterMap task.codecMmBuffer
  let own := (List.range task.bufsNum).filterMap fun i => match task.buf i with
    | { place := .block id _, fromCma := false, .. } => some id
    | _ => none
  { task with blocks := task.blocks.mapIdx fun id size => if id ∈ slots ++ own then none else size }

def newNumOf (task : ThreadrwWriteTask) (newBuffers : Int) : Int :=
  if task.bufsNum + newBuffers > task.maxBufs then task.maxBufs - task.bufsNum else newBuffers

def mmSlot (task : ThreadrwWriteTask) : Option (Fin maxMmBufferNum) :=
  (List.finRange maxMmBufferNum).find? fun i => (task.codecMmBuffer i).isNone

-- The slot for a block of codec_mm, where one is to be used
def codecMmSlot (task : ThreadrwWriteTask) (mem : Memory) : Option (Fin maxMmBufferNum) :=
  if task.manualWrite ∨ mem.totalSize < 80 ∨ mem.freeSize < 40 then none else task.mmSlot

def blockSizeOf (blockSize : Int) : Int := if blockSize ≤ 0 then defaultBlockSize else blockSize

def addBuffers (task : ThreadrwWriteTask) (newNum blockSize : Int) (mem : Memory) : ThreadrwWriteTask :=
  match task.codecMmSlot mem with
  | none => dmaBuffers mem.dma blockSize task.bufsNum newNum.toNat 0 task
  | some slot =>
    if s32 (blockSize * newNum) ≥ 128 * 1024 then
      let totalMm := align (s32 (blockSize * newNum))
      if mem.codecMm then
        cutBuffers slot blockSize newNum totalMm task.bufsNum newNum.toNat 0
          { task.allocated totalMm with
            codecMmBuffer := Function.update task.codecMmBuffer slot (some task.blocks.length) }
      else dmaBuffers mem.dma blockSize task.bufsNum newNum.toNat 0 task
    else cutBuffers slot blockSize newNum 0 task.bufsNum newNum.toNat 0 task

def allocTaskBuffersInlock (task : ThreadrwWriteTask) (newBuffers blockSize : Int) (mem : Memory) :
    ThreadrwWriteTask × Int :=
  let startIdx := task.bufsNum
  let newNum := task.newNumOf newBuffers
  let task := task.addBuffers newNum (blockSizeOf blockSize) mem
  if startIdx > 0 ∨ task.bufsNum ≥ 3 ∨ (task.bufsNum : Int) = newNum then
    (if task.defBlockSize = 0 then { task with defBlockSize := (task.buf 0).bufferSize } else task, 0)
  else (if task.bufsNum > 0 then task.freeTaskBuffers else task, -1)

def moreBlockSize (task : ThreadrwWriteTask) : Int :=
  if task.defBlockSize = 0 then 32 * 1024 else task.defBlockSize

def moreNum (task : ThreadrwWriteTask) (size : Int32) : Int :=
  let newNum := size.toInt.tdiv task.moreBlockSize
  if newNum = 0 then 1
  else if newNum > task.maxBufs - task.bufsNum then task.maxBufs - task.bufsNum
  else newNum

def threadrwAllocMoreBufferSize (task : ThreadrwWriteTask) (size : Int32) (mem : Memory) :
    ThreadrwWriteTask × Int :=
  let oldNum := task.bufsNum
  let newNum := task.moreNum size
  let (task, ret) := if newNum ≠ 0 then task.allocTaskBuffersInlock newNum task.moreBlockSize mem
    else (task, -1)
  ({ task with failedOnmore := task.failedOnmore || ret < 0 || oldNum == task.bufsNum }, ret)

end ThreadrwWriteTask

def newTask (num : Int) (audio : Bool) : ThreadrwWriteTask :=
  { maxBufs := if audio then num else 300, manualWrite := audio }

def threadrwAllocIn (num blockSize : Int) (audio created : Bool) (mem : Memory) :
    Option ThreadrwWriteTask :=
  if !created then none
  else
    let (task, ret) := (newTask num audio).allocTaskBuffersInlock num blockSize mem
    if ret < 0 then none else some task

structure Request where
  size : Int32
  mem : Memory

def grow (task : Option ThreadrwWriteTask) (request : Request) : Option ThreadrwWriteTask :=
  task.map fun task => (task.threadrwAllocMoreBufferSize request.size request.mem).1

namespace ThreadrwWriteTask

variable {task : ThreadrwWriteTask} {blockSize newNum : Int} {mem : Memory}

def storage (blocks : List (Option Nat)) : Nat := (blocks.map fun size => size.getD 0).sum

def Owns (task : ThreadrwWriteTask) (i : Nat) : Prop :=
  ∃ id offset size, (task.buf i).place = .block id offset ∧
    task.blocks[id]? = some (some size) ∧ 0 ≤ offset ∧
    offset + (task.buf i).bufferSize ≤ (size : Int) ∧
    ∀ j < task.bufsNum, j ≠ i → ∀ other, (task.buf j).place = .block id other →
      other + (task.buf j).bufferSize ≤ offset ∨ offset + (task.buf i).bufferSize ≤ other

structure Sound (task : ThreadrwWriteTask) : Prop where
  bounded : (task.bufsNum : Int) ≤ task.maxBufs
  free : task.freefifo = List.range task.bufsNum
  positive : ∀ i < task.bufsNum, 0 < (task.buf i).bufferSize
  owns : ∀ i < task.bufsNum, task.Owns i
  total : task.bufferSize = storage task.blocks
  sizes : 0 ≤ task.defBlockSize ∧ ∀ i, 0 ≤ (task.buf i).bufferSize

@[simp] theorem storage_append (blocks more : List (Option Nat)) :
    storage (blocks ++ more) = storage blocks + storage more := by
  simp [storage]

theorem Sound.allocated (sound : task.Sound) {size : Int} (positive : 0 ≤ size)
    (fits : task.bufferSize + size < 2147483648) : (task.allocated size).Sound where
  bounded := sound.bounded
  free := sound.free
  positive := sound.positive
  owns i below := by
    obtain ⟨id, offset, room, place, block, rest⟩ := sound.owns i below
    refine ⟨id, offset, room, place, ?_, rest⟩
    show (task.blocks ++ [some size.toNat])[id]? = some (some room)
    rw [List.getElem?_append_left (List.getElem?_eq_some_iff.mp block).1]
    exact block
  total := by
    have total := sound.total
    show s32 (task.bufferSize + size) = storage (task.blocks ++ [some size.toNat])
    rw [s32_eq (by omega) fits, storage_append]
    simp [storage] at total ⊢
    omega
  sizes := sound.sizes

theorem Sound.congr (sound : task.Sound) {next : ThreadrwWriteTask}
    (bufs : ∀ i < task.bufsNum, next.buf i = task.buf i) (num : next.bufsNum = task.bufsNum)
    (max : next.maxBufs = task.maxBufs) (fifo : next.freefifo = task.freefifo)
    (blocks : next.blocks = task.blocks) (size : next.bufferSize = task.bufferSize)
    (sizes : 0 ≤ next.defBlockSize ∧ ∀ i, 0 ≤ (next.buf i).bufferSize) : next.Sound where
  bounded := by
    rw [num, max]
    exact sound.bounded
  free := by
    rw [num, fifo]
    exact sound.free
  positive i below := by
    rw [num] at below
    rw [bufs i below]
    exact sound.positive i below
  owns i below := by
    rw [num] at below
    obtain ⟨id, offset, room, place, block, lower, upper, apart⟩ := sound.owns i below
    unfold Owns
    rw [bufs i below, blocks, num]
    refine ⟨id, offset, room, place, block, lower, upper, fun j jBelow other start there => ?_⟩
    rw [bufs j jBelow] at there ⊢
    exact apart j jBelow other start there
  total := by
    rw [size, blocks]
    exact sound.total
  sizes := sizes

theorem Sound.slot (sound : task.Sound) (slots : Fin maxMmBufferNum → Option Nat) :
    { task with codecMmBuffer := slots }.Sound :=
  sound.congr (fun _ _ => rfl) rfl rfl rfl rfl rfl sound.sizes

theorem Sound.failed (sound : task.Sound) (failed : Bool) :
    { task with failedOnmore := failed }.Sound :=
  sound.congr (fun _ _ => rfl) rfl rfl rfl rfl rfl sound.sizes

theorem Sound.fresh (sound : task.Sound) {j : Nat} (below : j < task.bufsNum) (offset : Int) :
    (task.buf j).place ≠ .block task.blocks.length offset := by
  intro place
  obtain ⟨id, _, _, same, block, -⟩ := sound.owns j below
  cases same.symm.trans place
  exact absurd (List.getElem?_eq_some_iff.mp block).1 (Nat.lt_irrefl _)

theorem Sound.put (sound : task.Sound) {rwbuf : ThreadrwBuf} {id room : Nat} {offset : Int}
    (place : rwbuf.place = .block id offset) (block : task.blocks[id]? = some (some room))
      (positive : 0 < rwbuf.bufferSize)
    (lower : 0 ≤ offset) (upper : offset + rwbuf.bufferSize ≤ room)
      (more : (task.bufsNum : Int) < task.maxBufs)
    (behind : ∀ j < task.bufsNum, ∀ other, (task.buf j).place = .block id other →
      other + (task.buf j).bufferSize ≤ offset) :
    (task.put task.bufsNum rwbuf).Sound := by
  have old : ∀ i < task.bufsNum, (task.put task.bufsNum rwbuf).buf i = task.buf i := fun i below =>
    Function.update_of_ne (Nat.ne_of_lt below) _ _
  have new : (task.put task.bufsNum rwbuf).buf task.bufsNum = rwbuf := Function.update_self ..
  have cases_ : ∀ i < (task.put task.bufsNum rwbuf).bufsNum, i < task.bufsNum ∨ i = task.bufsNum :=
    fun i below =>
    Nat.lt_succ_iff_lt_or_eq.mp below
  constructor
  case bounded =>
    show ((task.bufsNum + 1 : Nat) : Int) ≤ task.maxBufs
    omega
  case free =>
    show task.freefifo ++ [task.bufsNum] = List.range (task.bufsNum + 1)
    rw [sound.free, List.range_succ]
  case positive =>
    intro i below
    rcases cases_ i below with before | rfl
    · rw [old i before]
      exact sound.positive i before
    · rw [new]
      exact positive
  case owns =>
    intro i below
    rcases cases_ i below with before | rfl
    · obtain ⟨own, start, size, here, has, least, most, apart⟩ := sound.owns i before
      refine ⟨own, start, size,
        by rw [old i before]; exact here, has, least, by rw [old i before]; exact most, ?_⟩
      intro j jBelow other otherStart there
      rw [old i before]
      rcases cases_ j jBelow with jBefore | rfl
      · rw [old j jBefore] at there ⊢
        exact apart j jBefore other otherStart there
      · rw [new, place] at there
        cases there
        exact .inr (behind i before start here)
    · refine ⟨id, offset, room, by rw [new, place], block, lower, by rw [new]; exact upper, ?_⟩
      intro j jBelow other otherStart there
      have jBefore := (cases_ j jBelow).resolve_right other
      rw [old j jBefore] at there ⊢
      exact .inl (behind j jBefore otherStart there)
  case total => exact sound.total
  case sizes =>
    refine ⟨sound.sizes.1, fun i => ?_⟩
    show 0 ≤ (Function.update task.buf task.bufsNum rwbuf i).bufferSize
    by_cases same : i = task.bufsNum
    · rw [same, Function.update_self]
      exact Int.le_of_lt positive
    · rw [Function.update_of_ne same]
      exact sound.sizes.2 i

theorem Sound.fails (sound : task.Sound) {rwbuf : ThreadrwBuf} (empty : rwbuf.bufferSize = 0) :
    { task with buf := Function.update task.buf task.bufsNum rwbuf, bufsNum := task.bufsNum }.Sound := by
  refine sound.congr (fun i below => Function.update_of_ne (Nat.ne_of_lt below) _ _) rfl rfl rfl rfl rfl
    ⟨sound.sizes.1, fun i => ?_⟩
  dsimp only
  by_cases same : i = task.bufsNum
  · rw [same, Function.update_self, empty]
  · rw [Function.update_of_ne same]
    exact sound.sizes.2 i

def given (dma : Nat → Bool) (i left : Nat) : Nat := ((List.range' i left).takeWhile dma).length

theorem dmaBuffers_sound {dma : Nat → Bool} (positive : 0 < blockSize) {startIdx left i : Nat}
    (sound : task.Sound) (here : startIdx + i = task.bufsNum)
    (more : (task.bufsNum : Int) + left ≤ task.maxBufs)
    (fits : task.bufferSize + blockSize * given dma i left < 2147483648) :
    (dmaBuffers dma blockSize startIdx left i task).Sound ∧
      (dmaBuffers dma blockSize startIdx left i task).bufsNum = task.bufsNum + given dma i left := by
  induction left generalizing i task with
  | zero => exact ⟨sound, rfl⟩
  | succ left ih =>
    rw [dmaBuffers, here]
    by_cases gives : dma i = true
    · have count : given dma i (left + 1) = given dma (i + 1) left + 1 := by
        simp [given, List.range'_succ, gives]
      rw [count, Nat.cast_add, Nat.cast_one, Int.mul_add, Int.mul_one] at fits
      have later : 0 ≤ blockSize * (given dma (i + 1) left : Int) :=
        Int.mul_nonneg (Int.le_of_lt positive) (Int.natCast_nonneg _)
      have start := sound.total
      have grown := sound.allocated (Int.le_of_lt positive) (by omega)
      have added : ((task.allocated blockSize).put task.bufsNum { task.buf task.bufsNum with
          bufferSize := blockSize, place := .block task.blocks.length 0, fromCma := false }).Sound := by
        have block : (task.allocated blockSize).blocks[task.blocks.length]? =
            some (some blockSize.toNat) := by
          simp [ThreadrwWriteTask.allocated]
        refine grown.put rfl block positive (Int.le_refl 0) ?_ ?_ fun j below other place =>
          absurd place (sound.fresh below other)
        · dsimp only
          omega
        · show (task.bufsNum : Int) < task.maxBufs
          omega
      have size : s32 (task.bufferSize + blockSize) = task.bufferSize + blockSize :=
        s32_eq (by omega) (by omega)
      obtain ⟨last, num⟩ := ih (i := i + 1) added (by show startIdx + (i + 1) = task.bufsNum + 1; omega)
        (by show ((task.bufsNum + 1 : Nat) : Int) + left ≤ task.maxBufs; omega)
        (by show s32 (task.bufferSize + blockSize) + _ < _; omega)
      rw [if_pos gives]
      exact ⟨last, num.trans (by rw [count]; show task.bufsNum + 1 + _ = _; omega)⟩
    · have count : given dma i (left + 1) = 0 := by simp [given, List.range'_succ, gives]
      rw [if_neg gives, count]
      exact ⟨sound.fails rfl, rfl⟩

theorem cutBuffers_sound {slot : Fin maxMmBufferNum} {totalMm : Int} {id startIdx left i : Nat}
    (positive : 0 < blockSize)
    (sound : task.Sound) (here : startIdx + i = task.bufsNum)
      (more : (task.bufsNum : Int) + left ≤ task.maxBufs)
    (slotted : task.codecMmBuffer slot = some id) (block : task.blocks[id]? = some (some totalMm.toNat))
    (count : (i : Int) + left = newNum) (room : blockSize * newNum ≤ totalMm)
      (fits : totalMm < 2147483648)
    (before : ∀ j < task.bufsNum, ∀ other, (task.buf j).place = .block id other →
      other + (task.buf j).bufferSize ≤ blockSize * i) :
    (cutBuffers slot blockSize newNum totalMm startIdx left i task).Sound ∧
      (cutBuffers slot blockSize newNum totalMm startIdx left i task).bufsNum =
        task.bufsNum + left := by
  induction left generalizing i task with
  | zero => exact ⟨sound, rfl⟩
  | succ left ih =>
    rw [cutBuffers, here, slotted]
    have least : 0 ≤ blockSize * (i : Int) :=
      Int.mul_nonneg (Int.le_of_lt positive) (Int.natCast_nonneg i)
    have next : blockSize * ((i : Int) + 1) ≤ blockSize * newNum :=
      Int.mul_le_mul_of_nonneg_left (by omega) (Int.le_of_lt positive)
    have step : blockSize * ((i : Int) + 1) = blockSize * i + blockSize := by
      rw [Int.mul_add, Int.mul_one]
    have offset : s32 (blockSize * (i : Int)) = blockSize * i := s32_eq (by omega) (by omega)
    have rest : s32 (totalMm - blockSize * (i : Int)) = totalMm - blockSize * i :=
      s32_eq (by omega) (by omega)
    simp only [offset, rest]
    have added (size : Int) (some_ : 0 < size) (inside : blockSize * (i : Int) + size ≤ totalMm) :
        (task.put task.bufsNum { task.buf task.bufsNum with
          bufferSize := size, place := .block id (blockSize * i), fromCma := true }).Sound :=
      sound.put rfl block some_ least (by dsimp only; omega) (by omega) before
    by_cases last : (i : Int) = newNum - 1
    · obtain rfl : left = 0 := by omega
      rw [if_pos last]
      exact ⟨added _ (by omega) (by omega), rfl⟩
    · rw [if_neg last]
      have grown := added blockSize positive (by omega)
      obtain ⟨sound, num⟩ :=
        ih (i := i + 1) grown (by show startIdx + (i + 1) = task.bufsNum + 1; omega)
        (by show ((task.bufsNum + 1 : Nat) : Int) + left ≤ task.maxBufs; omega) slotted block
          (by omega) (by
          intro j below other place
          rw [Nat.cast_add, Nat.cast_one, step]
          rcases Nat.lt_succ_iff_lt_or_eq.mp below with old | rfl
          · simp only [ThreadrwWriteTask.put, Function.update_of_ne (Nat.ne_of_lt old)] at place ⊢
            have earlier := before j old other place
            omega
          · simp only [ThreadrwWriteTask.put, Function.update_self, Place.block.injEq,
              true_and] at place ⊢
            omega)
      exact ⟨sound, num.trans (by show task.bufsNum + 1 + left = _; omega)⟩

-- The storage of new buffers is got in one block that is large enough, or buffer by buffer.
structure Fits (task : ThreadrwWriteTask) (newNum blockSize : Int) (mem : Memory) : Prop where
  large : (task.codecMmSlot mem).isSome = true → 131072 ≤ s32 (blockSize * newNum)
  block : (task.codecMmSlot mem).isSome = true → mem.codecMm = true →
    blockSize * newNum + 131071 < 2147483648
  total : task.bufferSize + (if (task.codecMmSlot mem).isSome = true ∧
    mem.codecMm = true then align (blockSize * newNum)
    else blockSize * given mem.dma 0 newNum.toNat) < 2147483648

instance (task : ThreadrwWriteTask) (newNum blockSize : Int) (mem : Memory) :
    Decidable (task.Fits newNum blockSize mem) :=
  decidable_of_iff (_ ∧ _ ∧ _) ⟨fun ⟨large, block, total⟩ => ⟨large, block, total⟩,
    fun ⟨large, block, total⟩ => ⟨large, block, total⟩⟩

def gained (task : ThreadrwWriteTask) (newNum : Int) (mem : Memory) : Nat :=
  if (task.codecMmSlot mem).isSome = true ∧ mem.codecMm = true then newNum.toNat
    else given mem.dma 0 newNum.toNat

theorem align_bounds {size : Int} (lower : 0 ≤ size) (upper : size + 131071 < 2147483648) :
    size ≤ align size ∧ 0 ≤ align size := by
  unfold align
  rw [s32_eq (by omega) upper]
  omega

theorem addBuffers_sound (sound : task.Sound) (positive : 0 < blockSize) (some_ : 0 < newNum)
    (more : (task.bufsNum : Int) + newNum ≤ task.maxBufs) (fits : task.Fits newNum blockSize mem) :
    (task.addBuffers newNum blockSize mem).Sound ∧
      (task.addBuffers newNum blockSize mem).bufsNum = task.bufsNum + task.gained newNum mem := by
  have count : (newNum.toNat : Int) = newNum := Int.toNat_of_nonneg (Int.le_of_lt some_)
  have total := fits.total
  unfold addBuffers gained
  cases slotted : task.codecMmSlot mem with
  | none =>
    simp only [slotted, Option.isSome_none, Bool.false_eq_true, false_and, if_false] at total ⊢
    exact dmaBuffers_sound positive sound rfl (by omega) total
  | some slot =>
    have large : s32 (blockSize * newNum) ≥ 128 * 1024 := fits.large (by rw [slotted]; rfl)
    dsimp only
    rw [if_pos large]
    by_cases gives : mem.codecMm = true
    · have room := fits.block (by rw [slotted]; rfl) gives
      have product : 0 ≤ blockSize * newNum :=
        Int.mul_nonneg (Int.le_of_lt positive) (Int.le_of_lt some_)
      have exact_ : s32 (blockSize * newNum) = blockSize * newNum := s32_eq (by omega) (by omega)
      obtain ⟨enough, nonneg⟩ := align_bounds product room
      simp only [slotted, gives, Option.isSome_some, and_self, if_true] at total ⊢
      rw [exact_]
      have grown := sound.allocated nonneg total
      have start := sound.total
      exact cutBuffers_sound positive (grown.slot _) rfl
        (by show (task.bufsNum : Int) + newNum.toNat ≤ task.maxBufs; omega) (Function.update_self ..)
        (by show (task.blocks ++ [_])[task.blocks.length]? = _; simp) (by omega) enough (by omega)
        fun j below other place => absurd place (sound.fresh below other)
    · simp only [slotted, gives, Option.isSome_some, Bool.false_eq_true, and_false, if_false] at total ⊢
      exact dmaBuffers_sound positive sound rfl (by omega) total

theorem addBuffers_nothing (none_ : newNum ≤ 0) (small : s32 (blockSize * newNum) < 131072) :
    task.addBuffers newNum blockSize mem = task := by
  unfold addBuffers
  rw [Int.toNat_of_nonpos none_]
  cases task.codecMmSlot mem with
  | none => rfl
  | some slot =>
    dsimp only
    rw [if_neg (by omega)]
    rfl

theorem addBuffers_bufsNum (none_ : newNum ≤ 0) :
    (task.addBuffers newNum blockSize mem).bufsNum = task.bufsNum := by
  unfold addBuffers
  rw [Int.toNat_of_nonpos none_]
  cases task.codecMmSlot mem with
  | none => rfl
  | some slot =>
    dsimp only
    split_ifs <;> rfl

theorem newNumOf_le (task : ThreadrwWriteTask) (newBuffers : Int) :
    (task.bufsNum : Int) + task.newNumOf newBuffers ≤ task.maxBufs := by
  unfold newNumOf
  split_ifs <;> omega

theorem blockSizeOf_pos (blockSize : Int) : 0 < blockSizeOf blockSize := by
  unfold blockSizeOf defaultBlockSize
  split_ifs <;> omega

def Enough (task : ThreadrwWriteTask) (newNum : Int) (mem : Memory) : Prop :=
  task.bufsNum = 0 → task.gained newNum mem = 0 ∨ 3 ≤ task.gained newNum mem ∨
    (task.gained newNum mem : Int) = newNum

instance (task : ThreadrwWriteTask) (newNum : Int) (mem : Memory) :
    Decidable (task.Enough newNum mem) :=
  inferInstanceAs (Decidable (_ → _))

theorem Sound.defBlockSize (sound : task.Sound) :
    (if task.defBlockSize = 0 then { task with defBlockSize := (task.buf 0).bufferSize }
      else task).Sound := by
  split_ifs
  · exact sound.congr (fun _ _ => rfl) rfl rfl rfl rfl rfl ⟨sound.sizes.2 0, sound.sizes.2⟩
  · exact sound

theorem allocTaskBuffers_sound (sound : task.Sound) {newBuffers blockSize : Int}
    (fits : 0 < task.newNumOf newBuffers →
      task.Fits (task.newNumOf newBuffers) (blockSizeOf blockSize) mem)
    (nothing : task.newNumOf newBuffers ≤ 0 →
      s32 (blockSizeOf blockSize * task.newNumOf newBuffers) < 131072)
    (kept : 0 < task.newNumOf newBuffers → task.Enough (task.newNumOf newBuffers) mem ∨
      0 ≤ (task.allocTaskBuffersInlock newBuffers blockSize mem).2) :
    (task.allocTaskBuffersInlock newBuffers blockSize mem).1.Sound := by
  have after : (task.addBuffers (task.newNumOf newBuffers) (blockSizeOf blockSize) mem).Sound ∧
      (0 < task.newNumOf newBuffers →
        (task.addBuffers (task.newNumOf newBuffers) (blockSizeOf blockSize) mem).bufsNum =
        task.bufsNum + task.gained (task.newNumOf newBuffers) mem) ∧
      (task.newNumOf newBuffers ≤ 0 →
        (task.addBuffers (task.newNumOf newBuffers) (blockSizeOf blockSize) mem).bufsNum =
          task.bufsNum) := by
    by_cases some_ : 0 < task.newNumOf newBuffers
    · obtain ⟨grown, num⟩ := addBuffers_sound sound (blockSizeOf_pos blockSize) some_
        (newNumOf_le task newBuffers) (fits some_)
      exact ⟨grown, fun _ => num, fun none_ => absurd some_ (Int.not_lt.mpr none_)⟩
    · rw [addBuffers_nothing (Int.not_lt.mp some_) (nothing (Int.not_lt.mp some_))]
      exact ⟨sound, fun positive => absurd positive some_, fun _ => rfl⟩
  obtain ⟨grown, num, none_⟩ := after
  unfold allocTaskBuffersInlock at kept ⊢
  dsimp only at kept ⊢
  generalize task.addBuffers (task.newNumOf newBuffers) (blockSizeOf blockSize) mem =
    next at grown num none_ kept ⊢
  by_cases enough : task.bufsNum > 0 ∨ next.bufsNum ≥ 3 ∨
    (next.bufsNum : Int) = task.newNumOf newBuffers
  · rw [if_pos enough]
    exact grown.defBlockSize
  · rw [if_neg enough] at kept ⊢
    by_cases left : next.bufsNum > 0
    · exfalso
      rcases Int.lt_or_le 0 (task.newNumOf newBuffers) with some_ | none'
      · rcases kept some_ with swaps | returned
        · have swaps := swaps (by omega)
          have num := num some_
          omega
        · simp at returned
      · have num := none_ none'
        omega
    · rw [if_neg left]
      exact grown

def Met (task : ThreadrwWriteTask) (request : Request) : Prop :=
  0 < task.newNumOf (task.moreNum request.size) →
    task.Fits (task.newNumOf (task.moreNum request.size)) (blockSizeOf task.moreBlockSize) request.mem ∧
      task.Enough (task.newNumOf (task.moreNum request.size)) request.mem

instance (task : ThreadrwWriteTask) (request : Request) : Decidable (task.Met request) :=
  inferInstanceAs (Decidable (_ → _))

theorem Sound.moreBlockSize (sound : task.Sound) : 0 < task.moreBlockSize := by
  have sizes := sound.sizes.1
  unfold ThreadrwWriteTask.moreBlockSize
  split_ifs <;> omega

theorem moreNum_nothing (sound : task.Sound) (size : Int32)
    (none_ : task.newNumOf (task.moreNum size) ≤ 0) :
    s32 (blockSizeOf task.moreBlockSize * task.newNumOf (task.moreNum size)) < 131072 := by
  have block := sound.moreBlockSize
  have bounded := sound.bounded
  have same : blockSizeOf task.moreBlockSize = task.moreBlockSize := if_neg (Int.not_le.mpr block)
  have quotient := Int.mul_tdiv_add_tmod size.toInt task.moreBlockSize
  have lower := size.le_toInt
  rw [same]
  by_cases zero : task.newNumOf (task.moreNum size) = 0
  · rw [zero, Int.mul_zero]
    decide
  · have number : task.newNumOf (task.moreNum size) = size.toInt.tdiv task.moreBlockSize := by
      unfold newNumOf moreNum at *
      dsimp only at *
      split_ifs at * <;> omega
    rw [number] at none_ zero ⊢
    have negative : size.toInt < 0 := by
      by_contra nonneg
      have := Int.tdiv_nonneg (Int.not_lt.mp nonneg) (Int.le_of_lt block)
      omega
    have rest := Int.tmod_nonneg task.moreBlockSize (Int.le_of_lt (Int.neg_pos_of_neg negative))
    rw [Int.neg_tmod] at rest
    have product : task.moreBlockSize * size.toInt.tdiv task.moreBlockSize ≤ 0 :=
      Int.mul_nonpos_of_nonneg_of_nonpos (Int.le_of_lt block) none_
    rw [s32_eq (by omega) (by omega)]
    omega

theorem Sound.more (sound : task.Sound) {request : Request} (met : task.Met request) :
    (task.threadrwAllocMoreBufferSize request.size request.mem).1.Sound := by
  unfold threadrwAllocMoreBufferSize
  dsimp only
  split_ifs
  · exact (allocTaskBuffers_sound sound (fun some_ => (met some_).1)
      (moreNum_nothing sound request.size)
      fun some_ => .inl (met some_).2).failed _
  · exact sound.failed _

end ThreadrwWriteTask

open ThreadrwWriteTask

variable {num blockSize : Int} {audio created : Bool} {mem : Memory}

theorem newTask_sound (nonneg : 0 ≤ num) (audio : Bool) : (newTask num audio).Sound where
  bounded := by
    unfold newTask
    split_ifs
    · exact nonneg
    · show (0 : Int) ≤ 300
      decide
  free := rfl
  positive := nofun
  owns := nofun
  total := rfl
  sizes := ⟨Int.le_refl 0, fun _ => Int.le_refl 0⟩

theorem threadrwAllocIn_neg (negative : num < 0) :
    threadrwAllocIn num blockSize audio created mem = none := by
  have number : (newTask num audio).newNumOf num = num := by
    cases audio with
    | true => simp [newTask, newNumOf]
    | false =>
      have fits : ¬(((newTask num false).bufsNum : Int) + num > (newTask num false).maxBufs) := by
        show ¬((0 : Int) + num > 300)
        omega
      exact if_neg fits
  unfold threadrwAllocIn allocTaskBuffersInlock
  simp only [number, addBuffers_bufsNum (Int.le_of_lt negative)]
  have different : ((newTask num audio).bufsNum : Int) ≠ num := by
    show (0 : Int) ≠ num
    omega
  simp [newTask] at different ⊢
  simp [different]

theorem threadrwAllocIn_sound
    (fits : 0 < (newTask num audio).newNumOf num →
      (newTask num audio).Fits ((newTask num audio).newNumOf num) (blockSizeOf blockSize) mem)
    {task : ThreadrwWriteTask} (returned : threadrwAllocIn num blockSize audio created mem =
      some task) : task.Sound := by
  rcases Int.lt_or_le num 0 with negative | nonneg
  · simp [threadrwAllocIn_neg negative] at returned
  · unfold threadrwAllocIn at returned
    dsimp only at returned
    split_ifs at returned with absent failed
    obtain rfl := Option.some.inj returned
    refine allocTaskBuffers_sound (newTask_sound nonneg audio) fits (fun none_ => ?_) fun _ =>
      .inr (Int.not_lt.mp failed)
    have zero : (newTask num audio).newNumOf num = 0 := by
      have bounded := (newTask_sound nonneg audio).bounded
      unfold newNumOf at none_ ⊢
      split_ifs at none_ ⊢ <;> omega
    rw [zero, Int.mul_zero]
    decide

theorem buffers_sound (num blockSize : Int) (audio created : Bool) (mem : Memory)
    (requests : List Request)
    (fits : 0 < (newTask num audio).newNumOf num →
      (newTask num audio).Fits ((newTask num audio).newNumOf num) (blockSizeOf blockSize) mem)
    (met : Along grow (fun task request => ∀ t ∈ task,
      t.Met request) (threadrwAllocIn num blockSize audio created mem) requests) :
    ∀ task ∈ run grow (threadrwAllocIn num blockSize audio created mem) requests, task.Sound := by
  refine run_invariant grow _ (fun task => ∀ t ∈ task, t.Sound) ?_ _ ?_ requests met
  · intro task request sound ok t within
    obtain ⟨old, here, rfl⟩ := Option.mem_map.mp within
    exact (sound old here).more (ok old here)
  · intro task returned
    exact threadrwAllocIn_sound fits returned

def roomy : Memory where
  totalSize := 200 * 1024 * 1024
  freeSize := 100 * 1024 * 1024
  codecMm := true
  dma := fun _ => true

theorem video_buffers_sound :
    ∃ task, run grow (threadrwAllocIn 32 65536 false true roomy) [⟨2097152, roomy⟩] = some task ∧
      task.Sound := by
  have made : (run grow (threadrwAllocIn 32 65536 false true roomy) [⟨2097152, roomy⟩]).isSome =
      true := by decide
  obtain ⟨task, made⟩ := Option.isSome_iff_exists.mp made
  exact ⟨task, made,
    buffers_sound 32 65536 false true roomy [⟨2097152, roomy⟩] (by decide) (by decide) task made⟩

theorem one_more_without_storage :
    ¬∀ (num blockSize : Int) (audio created : Bool) (mem : Memory) (requests : List Request),
    ∀ task ∈ run grow (threadrwAllocIn num blockSize audio created mem) requests, task.Sound := by
  intro all
  have size : (run grow (threadrwAllocIn 32 65536 false true roomy) [⟨65536, roomy⟩]).map
      (fun task => (task.bufsNum, (task.buf 32).bufferSize)) = some (33, 0) := by decide
  obtain ⟨task, made, same⟩ := Option.map_eq_some_iff.mp size
  obtain ⟨number, empty⟩ := Prod.mk.inj same
  have positive := (all 32 65536 false true roomy [⟨65536, roomy⟩] task made).positive 32 (by omega)
  omega

end UnionpiTiger.Amports.BufferPool
