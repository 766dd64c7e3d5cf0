import Mathlib.Data.BitVec
import Mathlib.Data.List.Basic
import Mathlib.Data.Nat.Size
import Mathlib.Logic.Function.Basic

set_option autoImplicit false

namespace UnionpiTiger.CodecMm

def flagsDma : BitVec 32 := 1
def flagsCpu : BitVec 32 := 2
def flagsTvp : BitVec 32 := 4
def flagsFromMask : BitVec 32 := 7
def flagsDmaCpu : BitVec 32 := 3
def flagsReserved : BitVec 32 := 0x100
def flagsCma : BitVec 32 := 0x200
def flagsCmaFirst : BitVec 32 := 0x400
def flagsForLocalMgr : BitVec 32 := 0x8000000
def flagsForScatter : BitVec 32 := 0x10000000
def flagsForPhysVmaped : BitVec 32 := 0x20000000

def resMemFlagsHaveMaped : BitVec 32 := 4

def has (flags mask : BitVec 32) : Bool := flags &&& mask != 0

inductive From where
  | pages
  | reserved
  | cma
  | tvp
  | cmaRes
deriving DecidableEq, Repr

inductive Loan where
  | pages (handle order : Nat)
  | reserved (handle : Nat) (size : BitVec 32)
  | cma (handle : Nat) (count : BitVec 32)
  | tvp (pool handle : Nat) (size : BitVec 32)
  | cmaRes (pool handle : Nat) (size : BitVec 32)
deriving DecidableEq, Repr

inductive PoolCall where
  | took (mem : Nat) (loan : Loan)
  | gave (mem : Nat) (loan : Loan)
deriving DecidableEq, Repr

def align (x : BitVec 32) (bits : Nat) : BitVec 32 :=
  let mask : BitVec 32 := (1 : BitVec 32) <<< bits - 1
  (x + mask) &&& ~~~mask

def pageAlign (x : BitVec 32) : BitVec 32 := align x 12

def pagesOf (x : BitVec 32) : BitVec 64 := x.signExtend 64 / 4096

def getOrder (size : BitVec 32) : Nat := ((size.signExtend 64 - 1) >>> 12).toNat.size

structure Mem where
  owner : List (Option String) := List.replicate 8 none
  memHandle : Nat := 0
  fromExt : Nat := 0
  bufferSize : BitVec 32 := 0
  pageCount : BitVec 32 := 0
  align2n : BitVec 32 := 0
  flags : BitVec 32 := 0
  fromFlags : Option From := none
  useCnt : Nat := 0

namespace Mem

def overwrite (owner : String) (maxOwner : Option String) :
    Nat → List (Option String) → List (Option String)
  | index + 1, entry :: rest =>
    (if entry = some owner then maxOwner else entry) :: overwrite owner maxOwner index rest
  | _, owners => owners

def drop (mem : Mem) (owner : String) : Mem :=
  let index := mem.useCnt - 1
  let maxOwner := mem.owner.getD index none
  { mem with
    useCnt := index
    owner := (overwrite owner maxOwner index mem.owner).set index none }

def share (mem : Mem) (owner : String) : Mem :=
  { mem with
    useCnt := mem.useCnt + 1
    owner := mem.owner.set mem.useCnt (some owner) }

def given (mem : Mem) : Option Loan :=
  match mem.fromFlags with
  | none => none
  | some .cma => some (.cma mem.memHandle mem.pageCount)
  | some .reserved => some (.reserved mem.memHandle mem.bufferSize)
  | some .tvp => some (.tvp mem.fromExt mem.memHandle mem.bufferSize)
  | some .pages => some (.pages mem.memHandle (getOrder mem.bufferSize))
  | some .cmaRes => some (.cmaRes mem.fromExt mem.memHandle mem.bufferSize)

def sizeFrom (mem : Mem) (source : From) : BitVec 32 :=
  if mem.fromFlags = some source then mem.bufferSize else 0

end Mem

structure ExtPool where
  genPool : List (Option Nat) := []
  totalSize : BitVec 32 := 0

structure Config where
  resPool : Bool := false
  tvpPool : ExtPool := {}
  cmaResPool : ExtPool := {}
  totalCodecMemSize : BitVec 32 := 0
  totalCmaSize : BitVec 32 := 0
  totalReservedSize : BitVec 32 := 0
  allocFromSysPagesMax : BitVec 32 := 0
  enableKmallocOnNomem : Bool := false
  resMemFlags : BitVec 32 := 0
  tvpEnable : BitVec 32 := 0
  debugMode : BitVec 32 := 0

structure Pending where
  addr : Nat
  owner : String
  mem : Mem

structure Mgt where
  config : Config
  mem : Nat → Mem := fun _ => {}
  memList : List Nat := []
  totalAllocedSize : BitVec 32 := 0
  maxUsedMemSize : BitVec 32 := 0
  allocedResSize : BitVec 32 := 0
  allocedCmaSize : BitVec 32 := 0
  allocedSysSize : BitVec 32 := 0
  allocedTvpSize : BitVec 32 := 0
  allocedCmaResSize : BitVec 32 := 0
  allocedForScSize : BitVec 32 := 0
  allocedForScCnt : BitVec 32 := 0
  physVmapedPageCnt : BitVec 32 := 0
  pending : List Pending := []
  pools : List PoolCall := []

-- What the pools answer to one codec_mm_alloc_in, and whether what CMA gives is high memory.
structure Answers where
  pages : Option Nat := none
  cmaFirst : Option Nat := none
  reserved : Option Nat := none
  cmaRes : Nat → Option Nat := fun _ => none
  cma : Option Nat := none
  highMem : Bool := false
  tvp : Nat → Option Nat := fun _ => none
  pagesAgain : Option Nat := none

def extpoolAlloc (genPoolAlloc : Nat → Option Nat) : List (Option Nat) → Option (Nat × Nat)
  | [] => none
  | none :: _ => none
  | some pool :: rest =>
    match genPoolAlloc pool with
    | some handle => some (pool, handle)
    | none => extpoolAlloc genPoolAlloc rest

def Mem.mapPhyaddr (mem : Mem) (highMem : Bool) : Mem :=
  if highMem then { mem with flags := mem.flags ||| flagsForPhysVmaped } else mem

namespace Mgt

def preCheckIn (m : Mgt) (needSize : BitVec 32) : BitVec 32 :=
  let alignedSize := pageAlign needSize
  let haveSpace : BitVec 32 :=
    (if alignedSize.sle (m.config.totalReservedSize - m.allocedResSize) then 1 else 0) |||
    (if alignedSize.sle (m.config.cmaResPool.totalSize - m.allocedCmaResSize) then 1 else 0) |||
    (if alignedSize.sle (m.config.totalCmaSize - m.allocedCmaSize) then 2 else 0) |||
    (if pagesOf alignedSize ≤ m.config.allocFromSysPagesMax.signExtend 64 then 4 else 0) |||
    (if alignedSize.sle (m.config.tvpPool.totalSize - m.allocedTvpSize) then 8 else 0)
  let debugMode := m.config.debugMode
  if has debugMode 0xf then
    let haveSpace := haveSpace &&& ~~~(debugMode &&& 1) &&& ~~~(debugMode &&& 2) &&&
      ~~~(debugMode &&& 4)
    if has debugMode 8 && (m.config.totalCodecMemSize.sdiv 2).slt m.totalAllocedSize then 0
      else haveSpace
  else haveSpace

structure CanFrom where
  res : Bool
  cma : Bool
  sys : Bool
  tvp : Bool

def canFrom (m : Mgt) (mem : Mem) : CanFrom :=
  let flags := mem.flags
  if has flags flagsTvp then { res := false, cma := false, sys := false, tvp := true }
  else
    { res := (m.config.resPool || (0 : BitVec 32).slt m.config.cmaResPool.totalSize) &&
      !has flags flagsCma ||
        (has flags flagsReserved || flags &&& flagsFromMask == flagsDma ||
          has flags flagsCpu && has m.config.resMemFlags resMemFlagsHaveMaped)
      cma := (0 : BitVec 32).slt m.config.totalCmaSize && !has flags flagsReserved || has flags flagsCma
      sys := has flags flagsDmaCpu && mem.pageCount.sle m.config.allocFromSysPagesMax
      tvp := false }

def CanFrom.within (can : CanFrom) (haveSpace : BitVec 32) : CanFrom :=
  { res := can.res && has haveSpace 1
    cma := can.cma && has haveSpace 2
    sys := can.sys && has haveSpace 4
    tvp := can.tvp && has haveSpace 8 }

-- The tries of codec_mm_alloc_in in their order. The loop around them is run once.
def tries (m : Mgt) (mem : Mem) (can : CanFrom) (answers : Answers) : List (Option (Mem × Loan)) :=
  let align2n : BitVec 32 := if mem.align2n.slt 12 then 12 else mem.align2n
  let alignedBufferSize := align mem.bufferSize 17
  let fromSys := has mem.flags flagsDmaCpu && mem.pageCount.sle m.config.allocFromSysPagesMax &&
    align2n.sle 12
  [ if fromSys then
      answers.pages.map fun handle =>
        ({ mem with fromFlags := some .pages, memHandle := handle },
          .pages handle (getOrder mem.bufferSize))
    else none,
    if has mem.flags flagsCmaFirst && can.cma then
      answers.cmaFirst.map fun handle =>
        ({ mem with fromFlags := some .cma, memHandle := handle }, .cma handle mem.pageCount)
    else none,
    if can.res && m.config.resPool && align2n.sle 17 then
      answers.reserved.map fun handle =>
        ({ mem with fromFlags := some .reserved, memHandle := handle, bufferSize := alignedBufferSize },
          .reserved handle alignedBufferSize)
    else none,
    if can.res && (0 : BitVec 32).slt m.config.cmaResPool.totalSize &&
        (m.allocedCmaResSize + mem.bufferSize).slt m.config.cmaResPool.totalSize then
      (extpoolAlloc answers.cmaRes m.config.cmaResPool.genPool).map fun (pool, handle) =>
        ({ mem with
            fromFlags := some .cmaRes, memHandle := handle, fromExt := pool, bufferSize :=
              alignedBufferSize },
          .cmaRes pool handle alignedBufferSize)
    else none,
    if can.cma then
      answers.cma.map fun handle =>
        let mem := { mem with fromFlags := some .cma, memHandle := handle }
        (if has mem.flags flagsCpu then mem.mapPhyaddr answers.highMem
          else mem, .cma handle mem.pageCount)
    else none,
    if can.tvp && align2n.sle 17 then
      (extpoolAlloc answers.tvp m.config.tvpPool.genPool).map fun (pool, handle) =>
        ({ mem with
            fromFlags := some .tvp, memHandle := handle, fromExt := pool, bufferSize :=
              alignedBufferSize },
          .tvp pool handle alignedBufferSize)
    else none,
    if has mem.flags flagsDmaCpu && m.config.enableKmallocOnNomem && !fromSys then
      answers.pagesAgain.map fun handle =>
        ({ mem with fromFlags := some .pages, memHandle := handle },
          .pages handle (getOrder mem.bufferSize))
    else none ]

def allocIn (m : Mgt) (mem : Mem) (answers : Answers) : Except Int (Mem × Loan) :=
  let haveSpace := m.preCheckIn mem.bufferSize
  if haveSpace = 0 then .error (-10001)
  else
    let can := (m.canFrom mem).within haveSpace
    if !can.res && !can.cma && !can.sys && !can.tvp then .error (-10002)
    else
      match (m.tries mem can answers).findSome? id with
      | some found => .ok found
      | none => .error (-10003)

def register (m : Mgt) (addr : Nat) (owner : String) (mem : Mem) (loan : Loan) : Mgt :=
  let mem := { mem with useCnt := 1, owner := mem.owner.set 0 (some owner) }
  let forLocalMgr := has mem.flags flagsForLocalMgr
  let total := if forLocalMgr then m.totalAllocedSize else m.totalAllocedSize + mem.bufferSize
  { m with
    mem := Function.update m.mem addr mem
    memList := m.memList ++ [addr]
    allocedSysSize := m.allocedSysSize + mem.sizeFrom .pages
    allocedCmaSize := m.allocedCmaSize + mem.sizeFrom .cma
    allocedTvpSize := m.allocedTvpSize + mem.sizeFrom .tvp
    allocedResSize := m.allocedResSize + mem.sizeFrom .reserved
    allocedCmaResSize := m.allocedCmaResSize + mem.sizeFrom .cmaRes
    totalAllocedSize := total
    maxUsedMemSize := if !forLocalMgr && m.maxUsedMemSize.slt total then total else m.maxUsedMemSize
    allocedForScSize := m.allocedForScSize + if has mem.flags flagsForScatter then mem.bufferSize else 0
    allocedForScCnt := m.allocedForScCnt + if has mem.flags flagsForScatter then 1 else 0
    physVmapedPageCnt := m.physVmapedPageCnt + if has mem.flags flagsForPhysVmaped
      then mem.pageCount else 0
    pools := m.pools ++ [.took addr loan] }

def allocFlags (m : Mgt) (memflags : BitVec 32) : BitVec 32 :=
  let memflags :=
    if has m.config.tvpEnable 3 && has memflags flagsTvp then memflags &&& ~~~flagsFromMask ||| flagsTvp
    else memflags
  if memflags &&& flagsFromMask = 0 then memflags ||| flagsDma else memflags

def used (m : Mgt) (addr : Nat) : Bool := addr ∈ m.memList || m.pending.any fun p => p.addr = addr

-- codec_mm_alloc up to where it has codec_mm_scatter_free_all_ignorecache free the caches. `addr` is
-- what kmalloc gives, 0 when it has no room.
def alloc (m : Mgt) (addr : Nat) (owner : String) (size align2n memflags : BitVec 32)
    (answers : Answers) : Mgt :=
  if addr = 0 ∨ m.used addr then m
  else
    let memflags := m.allocFlags memflags
    let bufferSize := pageAlign size
    let mem : Mem := { bufferSize, pageCount := (pagesOf bufferSize).setWidth 32, align2n, flags := memflags }
    match m.allocIn mem answers with
    | .ok (mem, loan) => m.register addr owner mem loan
    | .error _ =>
      if (0 : BitVec 32).slt m.allocedForScCnt && !has memflags flagsForScatter then
        { m with pending := m.pending ++ [{ addr, owner, mem }] }
      else m

def retry (m : Mgt) (addr : Nat) (answers : Answers) : Mgt :=
  match m.pending.find? fun p => p.addr = addr with
  | none => m
  | some { owner, mem, .. } =>
    let m := { m with pending := m.pending.filter fun p => p.addr ≠ addr }
    match m.allocIn mem answers with
    | .ok (mem, loan) => m.register addr owner mem loan
    | .error _ => m

def freeIn (m : Mgt) (addr : Nat) (mem : Mem) : Mgt :=
  { m with
    pools := m.pools ++ (mem.given.map (PoolCall.gave addr)).toList
    totalAllocedSize :=
      if has mem.flags flagsForLocalMgr then m.totalAllocedSize else m.totalAllocedSize - mem.bufferSize
    allocedForScSize := m.allocedForScSize - if has mem.flags flagsForScatter then mem.bufferSize else 0
    allocedForScCnt := m.allocedForScCnt - if has mem.flags flagsForScatter then 1 else 0
    physVmapedPageCnt := m.physVmapedPageCnt - if has mem.flags flagsForPhysVmaped
      then mem.pageCount else 0
    allocedCmaSize := m.allocedCmaSize - mem.sizeFrom .cma
    allocedResSize := m.allocedResSize - mem.sizeFrom .reserved
    allocedTvpSize := m.allocedTvpSize - mem.sizeFrom .tvp
    allocedSysSize := m.allocedSysSize - mem.sizeFrom .pages
    allocedCmaResSize := m.allocedCmaResSize - mem.sizeFrom .cmaRes }

def release (m : Mgt) (addr : Nat) (owner : String) : Mgt :=
  if addr ∈ m.memList then
    let mem := (m.mem addr).drop owner
    let m := { m with mem := Function.update m.mem addr mem }
    if mem.useCnt = 0 then { m with memList := m.memList.erase addr }.freeIn addr mem else m
  else m

def hasOwner (m : Mgt) (addr : Nat) (owner : String) : Bool :=
  addr ∈ m.memList ∧ some owner ∈ (m.mem addr).owner.take (m.mem addr).useCnt

-- codec_mm_request_shared_mem forgets what it has found out, and returns 0.
def requestSharedMem (m : Mgt) (addr : Nat) (owner : String) : Mgt × Int :=
  if addr ∉ m.memList then (m, 0)
  else if (m.mem addr).useCnt > 7 then (m, 0)
  else ({ m with mem := Function.update m.mem addr ((m.mem addr).share owner) }, 0)

end Mgt

inductive Call where
  | alloc (addr : Nat) (owner : String) (size align2n memflags : BitVec 32) (answers : Answers)
  | retry (addr : Nat) (answers : Answers)
  | request (addr : Nat) (owner : String)
  | release (addr : Nat) (owner : String)
  | configure (config : Config)

def Mgt.step (m : Mgt) : Call → Mgt
  | .alloc addr owner size align2n memflags answers => m.alloc addr owner size align2n memflags answers
  | .retry addr answers => m.retry addr answers
  | .request addr owner => (m.requestSharedMem addr owner).1
  | .release addr owner => m.release addr owner
  | .configure config => { m with config }

end UnionpiTiger.CodecMm
