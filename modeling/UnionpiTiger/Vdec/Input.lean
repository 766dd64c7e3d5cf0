import Mathlib.Data.List.Basic
import Mathlib.Logic.Function.Basic
import UnionpiTiger.Lib.Words

set_option autoImplicit false

namespace UnionpiTiger.Vdec

open Lib

inductive VdecType where
  | single
  | streamParser
  | frameBlock
  | frameCircular
deriving DecidableEq, Repr

def pageSize : Nat := 4096

def spanSize : Nat := 1048576

def vframeBlockSize : Int := 524288

def vframeBlockSize4k : Int := 2097152

def vframeBlockSizeMax : Int := 4194304

def vframeBlockMinLevel : Int := 2097152

def vframeBlockMaxLevel : Int := 8388608

def vframeBlockMaxTotalSize : Nat := 16777216

def maxFrameDurationS : Int := 2

def minFramePaddingSize : Nat := 64

def extraPaddingSize : Nat := 16384

def hevcPaddingSize : Nat := 16384

def eAgain : Int := 11

def eNoMem : Int := 12

def eInval : Int := 22

def pageAlign (n : Nat) : Nat := alignUp n pageSize

-- Offsets into the memory of a block count from its start, whichever way it is mapped.
structure Block where
  type : VdecType
  isOutBuf : Bool
  isMapped : Bool
  size : Nat
  wp : Nat := 0
  rp : Nat := 0
  dataSize : Int := 0
  chunkCount : Int := 0
  mem : Nat → UInt8

structure Chunk where
  addr : Nat
  offset : Nat
  size : Nat
  padingSize : Nat
  ptsValid : Bool
  pts64 : Nat
  block : Nat

structure Input where
  secure : Bool
  type : VdecType := .single
  block : Nat → Option Block := fun _ => none
  vframeBlockList : List Nat := []
  vframeBlockFreeList : List Nat := []
  vframeChunkList : List Chunk := []
  wrBlock : Option Nat := none
  noMemErrCnt : Int := 0
  totalWrCount : Nat := 0
  totalRdCount : Nat := 0
  size : Nat := 0
  defaultBlockSize : Int := vframeBlockSize
  dataSize : Int := 0
  haveFrameNum : Int := 0
  lastInptsU64 : Nat := 0
  lastComsumedPtsU64 : Nat := 0
  lastInNoptsCnt : Int := 0
  lastComsumedNoPtsCnt : Int := 0
  lastDuration : Int := 0
  nextBlock : Nat := 0
  nextChunk : Nat := 0

structure UserBuf where
  pointer : Nat := 0
  byte : Nat → UInt8
  readable : Nat

structure Stamp where
  ptsValid : Bool := false
  pts64 : Nat := 0

structure Outcome where
  blockStruct : Bool := true
  storage : Bool := true
  mapped : Bool := true
  mem : Nat → UInt8 := fun _ => 0
  chunkStruct : Bool := true
  vmap : Nat → Nat → Bool := fun _ _ => true

structure Write where
  offset : Nat
  byte : UInt8

def writes (offset n : Nat) (byte : Nat → UInt8) : List Write :=
  (List.range n).map fun i => ⟨offset + i, byte i⟩

def Write.apply (mem : Nat → UInt8) (w : Write) : Nat → UInt8 :=
  Function.update mem w.offset w.byte

def amlCopyFromUser (offset : Nat) (buf : UserBuf) (place n : Nat) : List Write × Bool :=
  (writes offset n fun i => if place + i < buf.readable then buf.byte (place + i) else 0,
    place + n ≤ buf.readable)

def copySpans (outcome : Outcome) (buf : UserBuf) (place phys : Nat) : Nat → Nat → List Write × Bool
  | 0, _ => ([], true)
  | count + 1, i =>
    if !outcome.vmap (phys + i * spanSize) spanSize then ([], false)
    else
      let (first, copied) := amlCopyFromUser (phys + i * spanSize) buf (place + i * spanSize) spanSize
      if !copied then (first, false)
      else
        let (rest, done) := copySpans outcome buf place phys count (i + 1)
        (first ++ rest, done)

def copyFromUserToPhyaddr (outcome : Outcome) (virts : Nat) (buf : UserBuf)
    (place size phys pading : Nat) (isMapped : Bool) : List Write :=
  if isMapped then
    let (copy, copied) := amlCopyFromUser virts buf place size
    if !copied then copy else copy ++ writes (virts + size) pading fun _ => 0
  else
    let count := size / spanSize
    let remain := size % spanSize
    let (spans, done) := copySpans outcome buf place phys count 0
    if !done ∨ remain = 0 then spans
    else
      let span := size - remain
      if !outcome.vmap (phys + span) (remain + pading) then spans
      else
        let (copy, copied) := amlCopyFromUser (phys + span) buf (place + span) remain
        if !copied then spans ++ copy
        else spans ++ copy ++ writes (phys + size) pading fun _ => 0

def clear (outcome : Outcome) (virts phys n : Nat) (isMapped : Bool) : Option (List Write) :=
  if isMapped then some (writes virts n fun _ => 0)
  else if outcome.vmap phys n then some (writes phys n fun _ => 0)
  else none

def vframeChunkFill (outcome : Outcome) (chunk : Chunk) (buf : UserBuf) (count : Nat) (block : Block) :
    Option (List Write) :=
  match block.type with
  | .frameBlock =>
    some (copyFromUserToPhyaddr outcome block.wp buf 0 (u32 count) block.wp chunk.padingSize
      block.isMapped)
  | .frameCircular => do
    let len := min (u32 (block.size - block.wp)) count
    let first := copyFromUserToPhyaddr outcome block.wp buf 0 (u32 len) block.wp 0 block.isMapped
    let p := block.wp + len
    let rest :=
      if count > len then
        copyFromUserToPhyaddr outcome p buf len (u32 (count - len)) 0 0 block.isMapped
      else []
    let p := if count > len then p + (count - len) else p
    let wp := u32 (block.wp + count)
    let wp := if wp ≥ block.size then wp - block.size else wp
    let len := min (u32 (block.size - wp)) chunk.padingSize
    let zeros ← clear outcome p wp len block.isMapped
    let wrapped ←
      if chunk.padingSize > len then clear outcome 0 0 (chunk.padingSize - len) block.isMapped
      else some []
    return first ++ rest ++ zeros ++ wrapped
  | _ => some []

def vframeBlockSpace (block : Block) : Nat :=
  match block.type with
  | .frameBlock => u32 (block.size - block.wp)
  | _ =>
    if block.rp ≥ block.wp then u32 (block.rp - block.wp)
    else u32 (block.rp - block.wp + block.size)

def advance (place step size : Nat) : Nat :=
  let place := u32 (place + step)
  if place ≥ size then place - size else place

namespace Input

def put (s : Input) (addr : Nat) (b : Block) : Input :=
  { s with block := Function.update s.block addr (some b) }

def freeBlock (s : Input) (addr : Nat) : Input :=
  { s with block := Function.update s.block addr none }

def moveToFreeList (s : Input) (addr : Nat) : Input :=
  { s with
    vframeBlockList := s.vframeBlockList.erase addr
    vframeBlockFreeList := s.vframeBlockFreeList.erase addr ++ [addr] }

def moveToBlockList (s : Input) (addr : Nat) : Input :=
  { s with
    vframeBlockList := s.vframeBlockList.erase addr ++ [addr]
    vframeBlockFreeList := s.vframeBlockFreeList.erase addr }

def delBlockLocked (s : Input) (addr : Nat) (b : Block) : Input :=
  { s with
    vframeBlockList := s.vframeBlockList.erase addr
    vframeBlockFreeList := s.vframeBlockFreeList.erase addr
    size := u32 (s.size - b.size) }

def addBlock (s : Input) (b : Block) : Input :=
  { s.put s.nextBlock { b with wp := 0 } with
    vframeBlockList := s.vframeBlockList ++ [s.nextBlock]
    size := u32 (s.size + b.size)
    wrBlock := some s.nextBlock
    nextBlock := s.nextBlock + 1 }

def level (s : Input) : Int := s32 (s.totalWrCount - s.totalRdCount)

def getDurationU64 (s : Input) : Int :=
  let duration := s32 (s.lastInptsU64 - s.lastComsumedPtsU64)
  let duration :=
    if s.lastInNoptsCnt > 0 ∧ s.lastComsumedPtsU64 > 0 ∧ s.lastDuration > 0 then
      s32 (duration + (s.lastInNoptsCnt - s.lastComsumedNoPtsCnt) * s.lastDuration)
    else duration
  let duration := if duration > 1000000000 then 0 else duration
  let duration :=
    if duration ≤ 0 ∧ s.lastDuration > 0 then s32 (s.lastDuration * s.haveFrameNum) else duration
  if duration < 0 then 0 else duration

def haveBlocksEnough (s : Input) : Int :=
  (if s.level > vframeBlockMinLevel then 1 else 0) +
    (if s.level ≥ vframeBlockMaxLevel then 2 else 0) +
    (if s.getDurationU64 > maxFrameDurationS then 4 else 0) +
    (if s.haveFrameNum > 30 then 8 else -8) +
    (if s.size ≥ vframeBlockMaxTotalSize then 100 else 0)

def initAllocStorage (s : Input) (outcome : Outcome) (phyAddr : Nat) (size : Int) : Option Block :=
  if phyAddr ≠ 0 then
    some { type := s.type, isOutBuf := true, isMapped := false, size := u32 size, mem := outcome.mem }
  else if outcome.storage then
    some {
      type := s.type
      isOutBuf := false
      isMapped := outcome.mapped
      size := u32 (pageAlign (u32 s.defaultBlockSize))
      mem := outcome.mem }
  else none

def allocNewBlock (s : Input) (outcome : Outcome) (phyAddr : Nat) (size : Int) : Input × Option Nat :=
  if !outcome.blockStruct then ({ s with noMemErrCnt := s.noMemErrCnt + 1 }, none)
  else match s.initAllocStorage outcome phyAddr size with
  | none => (s, none)
  | some b => (s.addBlock b, some s.nextBlock)

def doubled (size : Int) : Nat → Int → Option Int
  | 0, _ => none
  | fuel + 1, defSize =>
    let defSize := s32 (defSize * 2)
    if defSize ≤ s32 (2 * size) ∧ defSize ≤ vframeBlockSizeMax then doubled size fuel defSize
    else some defSize

def grownBlockSize (defaultSize size : Int) : Option Int :=
  if defaultSize ≤ s32 (size * 2) then
    (doubled size 33 defaultSize).map fun defSize =>
      if defSize < size then s32 (alignUp (u32 (size + 64)) 131072) else defSize
  else some defaultSize

end Input

def padding (count : Nat) : Nat :=
  if count < pageSize then pageAlign (count + minFramePaddingSize) - count
  else minFramePaddingSize + if count % 64 ≠ 0 then 64 - count % 64 else 0

-- The size that vdec_input_get_free_block is asked for.
def frameSize (count : Nat) : Int := s32 (count + padding count + extraPaddingSize)

def Block.hasRoom (b : Block) (count : Nat) : Bool := vframeBlockSpace b > u64 (count + padding count)

-- Where a call of vdec_input_add_chunk goes on from its look at the write block: with a block, by
-- giving up the write block or with no write block to give up, or back to the caller.
inductive Way where
  | fill (addr : Nat)
  | giveUp (addr : Nat)
  | fresh
  | back (code : Int)
deriving DecidableEq, Repr

namespace Input

def lookAtWrBlock (s : Input) (count : Nat) : Option Way :=
  if s.type = .single ∨ s.type = .streamParser then some (.back (-eInval))
  else match s.wrBlock with
  | none => some .fresh
  | some addr => do
    let b ← s.block addr
    if b.hasRoom count then return .fill addr
    else if b.type = .frameCircular then return .back (-eAgain)
    else return .giveUp addr

-- The first section of the lock: a write block without data goes to the free list.
def giveUp (s : Input) (addr : Nat) : Option Input := do
  let b ← s.block addr
  if s.wrBlock = some addr ∧ b.chunkCount = 0 then
    return { (s.put addr { b with rp := 0, wp := 0 }).moveToFreeList addr with wrBlock := none }
  else return s

-- The section of vdec_input_get_free_block, and the block found there.
def takeFreeBlock (s : Input) (size : Int) : Option (Input × Option Nat) :=
  match s.vframeBlockFreeList with
  | [] => some (s, none)
  | addr :: _ => do
    let b ← s.block addr
    if b.size < u32 size then return ((s.delBlockLocked addr b).freeBlock addr, none)
    else return ({ s.moveToBlockList addr with wrBlock := some addr }, some addr)

def passLimits (s : Input) (size : Int) : Option (Input × Option Int) :=
  if s.haveBlocksEnough > 13 ∨ s.noMemErrCnt > 3 then some (s, some (-eAgain))
  else (grownBlockSize s.defaultBlockSize size).map fun defaultBlockSize =>
    ({ s with defaultBlockSize }, none)

def allocate (s : Input) (outcome : Outcome) : Input × Except Int Nat :=
  match s.allocNewBlock outcome 0 0 with
  | (s, none) => ({ s with noMemErrCnt := s.noMemErrCnt + 1 }, .error (-eAgain))
  | (s, some addr) => ({ s with noMemErrCnt := 0 }, .ok addr)

def getFreeBlock (s : Input) (outcome : Outcome) (size : Int) : Option (Input × Except Int Nat) := do
  let (s, found) ← s.takeFreeBlock size
  match found with
  | some addr => return (s, .ok addr)
  | none =>
    let (s, refused) ← s.passLimits size
    match refused with
    | some code => return (s, .error code)
    | none => return s.allocate outcome

def chooseBlock (s : Input) (outcome : Outcome) (count : Nat) : Option (Input × Except Int Nat) := do
  match ← s.lookAtWrBlock count with
  | .fill addr => return (s, .ok addr)
  | .back code => return (s, .error code)
  | .giveUp addr =>
    let s ← s.giveUp addr
    s.getFreeBlock outcome (frameSize count)
  | .fresh => s.getFreeBlock outcome (frameSize count)

def secureBlock (s : Input) (outcome : Outcome) (buf : UserBuf) (count : Nat) :
    Input × Except Int Nat :=
  match s.allocNewBlock outcome buf.pointer (s32 (pageAlign (u64 (count + hevcPaddingSize + 1)))) with
  | (s, none) => (s, .error (-eNoMem))
  | (s, some addr) => (s, .ok addr)

def noteDuration (s : Input) (stamp : Stamp) : Input :=
  if stamp.ptsValid ∧ s.lastInptsU64 > 0 ∧ s.lastInNoptsCnt = 0 then
    let d := s32 (stamp.pts64 - s.lastInptsU64)
    if d > 0 ∧ d < s.lastDuration then { s with lastDuration := d } else s
  else s

def newChunk (s : Input) (stamp : Stamp) (count addr : Nat) (b : Block) : Chunk where
  addr := s.nextChunk
  offset := if s.secure then 0 else b.wp
  size := u32 count
  padingSize :=
    if s.secure then u32 (pageAlign (u32 (u32 count + minFramePaddingSize)) - u32 count)
    else padding count
  ptsValid := stamp.ptsValid
  pts64 := stamp.pts64
  block := addr

def fillChunk (s : Input) (outcome : Outcome) (chunk : Chunk) (buf : UserBuf)
    (count : Nat) (b : Block) :
    Option (List Write) :=
  if s.secure then some [] else vframeChunkFill outcome chunk buf count b

def addChunk (s : Input) (addr : Nat) (b : Block) (chunk : Chunk) (count : Nat) : Input :=
  let b := { b with
    wp := advance b.wp (u32 (chunk.size + chunk.padingSize)) b.size
    dataSize := s32 (b.dataSize + chunk.size)
    chunkCount := s32 (b.chunkCount + 1) }
  { s.put addr b with
    wrBlock := some addr
    vframeChunkList := s.vframeChunkList ++ [chunk]
    nextChunk := s.nextChunk + 1
    dataSize := s32 (s.dataSize + chunk.size)
    haveFrameNum := s32 (s.haveFrameNum + 1)
    lastInptsU64 := if chunk.ptsValid then chunk.pts64 else s.lastInptsU64
    lastInNoptsCnt := if chunk.ptsValid then 0 else s32 (s.lastInNoptsCnt + 1)
    totalWrCount := u64 (s.totalWrCount + count) }

def finish (s : Input) (outcome : Outcome) (stamp : Stamp) (buf : UserBuf) (count addr : Nat) :
    Option (Input × Int × List Write) :=
  if !outcome.chunkStruct then some (s, -eNoMem, [])
  else do
    let s := s.noteDuration stamp
    let b ← s.block addr
    let chunk := s.newChunk stamp count addr b
    let filled ← s.fillChunk outcome chunk buf count b
    let b := { b with mem := filled.foldl Write.apply b.mem }
    return (s.addChunk addr b chunk count, s32 count, filled)

def vdecInputAddChunk (s : Input) (outcome : Outcome) (stamp : Stamp) (buf : UserBuf) (count : UInt64) :
    Option (Input × Int × List Write) := do
  let (s, chosen) ←
    if s.secure then some (s.secureBlock outcome buf count.toNat)
    else s.chooseBlock outcome count.toNat
  match chosen with
  | .error code => return (s, code, [])
  | .ok addr => s.finish outcome stamp buf count.toNat addr

def recycle (s : Input) (addr : Nat) (b : Block) : Input :=
  if b.isOutBuf then s.moveToFreeList addr
  else if b.chunkCount = 0 ∧ s.wrBlock ≠ some addr then
    if (b.size : Int) < u32 s.defaultBlockSize then (s.delBlockLocked addr b).freeBlock addr
    else (s.put addr { b with rp := 0, wp := 0 }).moveToFreeList addr
  else s

def removeChunk (s : Input) (chunk : Chunk) (b : Block) : Input :=
  { s.put chunk.block b with
    vframeChunkList := s.vframeChunkList.filter fun c => c.addr ≠ chunk.addr
    haveFrameNum := s32 (s.haveFrameNum - 1)
    lastComsumedNoPtsCnt := if chunk.ptsValid then 0 else s32 (s.lastComsumedNoPtsCnt + 1)
    lastComsumedPtsU64 := if chunk.ptsValid then chunk.pts64 else s.lastComsumedPtsU64
    dataSize := s32 (s.dataSize - chunk.size)
    totalRdCount := u64 (s.totalRdCount + chunk.size) }

def vdecInputReleaseChunk (s : Input) (addr : Nat) : Option Input :=
  match s.vframeChunkList.find? fun c => c.addr = addr with
  | none => some s
  | some chunk => do
    let b ← s.block chunk.block
    let b := { b with
      rp := advance b.rp chunk.size b.size
      dataSize := s32 (b.dataSize - chunk.size)
      chunkCount := s32 (b.chunkCount - 1) }
    return (s.removeChunk chunk b).recycle chunk.block b

def vdecInputInit (secure : Bool) : Input := { secure }

def vdecInputSetType (s : Input) (type : VdecType) : Input :=
  { s with
    type
    defaultBlockSize := if type = .frameCircular then vframeBlockSizeMax else s.defaultBlockSize }

def prepareBlocks (s : Input) : List Outcome → Input
  | [] => s
  | outcome :: rest =>
    match s.allocNewBlock outcome 0 0 with
    | (s, none) => s
    | (s, some addr) => ({ s.moveToFreeList addr with wrBlock := none } : Input).prepareBlocks rest

def vdecInputPrepareBufs (s : Input) (frameWidth frameHeight : Int)
    (outcomes : Fin 3 → Outcome) : Input :=
  if s.secure ∨ s.size > 0 then s
  else
    let s :=
      if s32 (frameWidth * frameHeight) ≥ 1920 * 1088
        then { s with defaultBlockSize := vframeBlockSize4k }
      else s
    s.prepareBlocks [outcomes 0, outcomes 1, outcomes 2]

end Input

end UnionpiTiger.Vdec
