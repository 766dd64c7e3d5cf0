import Mathlib.Data.Finset.Basic
import Mathlib.Logic.Function.Basic
import Mathlib.Order.Interval.Finset.Nat
import UnionpiTiger.Lib.Words

set_option autoImplicit false

namespace UnionpiTiger.Scatter

open Lib

def pageSize : Nat := 4096

def sidMask : Nat := 0xfff

def maxSid : Nat := sidMask - 1

def onePageSid : Nat := sidMask

def addrSeed (paddr : Nat) : Nat := paddr / 2 ^ 24 + paddr / 2 ^ 12 + paddr

def hashPageAddr (paddr : Nat) : Nat := addrSeed paddr % maxSid

def addr2Page (addr sid : Nat) : Nat := addr / pageSize * pageSize + sid

def pageSid (page : Nat) : Nat := page % pageSize

def pageAddr (page : Nat) : Nat := page / pageSize * pageSize

def validSid (sid : Nat) : Bool := sid < maxSid || sid = onePageSid

structure Slot where
  phyAddr : Nat := 0
  pageNum : Nat := 0
  pagemap : Finset Nat := ∅
  allocedPageNum : Int := 0
  nextBit : Nat := 0
  onAllocFree : Int := 0
deriving DecidableEq

namespace Slot

def sid (slot : Slot) : Nat := hashPageAddr (slot.phyAddr / pageSize)

def pagemapSize (slot : Slot) : Nat := slot.pageNum / 8 + 2

def validBit (slot : Slot) (bit : Nat) : Bool := bit < 8 * slot.pagemapSize

def addr2Bit (slot : Slot) (addr : Nat) : Nat := (addr - slot.phyAddr) / pageSize

def bit2Page (slot : Slot) (bit : Nat) : Nat := addr2Page (slot.phyAddr + pageSize * bit) slot.sid

def covers (slot : Slot) (addr : Nat) : Bool :=
  slot.phyAddr ≤ addr && addr < slot.phyAddr + slot.pageNum * pageSize

def frames (slot : Slot) : Finset Nat :=
  Finset.Ico (slot.phyAddr / pageSize) (slot.phyAddr / pageSize + slot.pageNum)

end Slot

structure Slots where
  slot : Nat → Slot := fun _ => {}
  next : Nat := 0
  live : Finset Nat := ∅
  frames : Finset Nat := ∅
  slotListMap : Nat → List Nat := fun _ => []
  freeList : List Nat := []
  totalPageNum : Int := 0
  allocedPageNum : Int := 0
  slotCnt : Int := 0
  onePageCnt : Int := 0
  keepSizePage : Nat := 5120

namespace Slots

def put (s : Slots) (id : Nat) (slot : Slot) : Slots :=
  { s with slot := Function.update s.slot id slot }

def room (s : Slots) (taken : Finset Nat) (offer : Option (Nat × Nat)) : Option (Nat × Nat) :=
  offer.filter fun (frame, pages) => 0 < pages ∧ pages < 2 ^ 19 ∧ frame + pages ≤ 2 ^ 20 ∧
    ∀ f ∈ Finset.Ico frame (frame + pages), f ∉ s.frames ∧ f ∉ taken

def setSlotInHash (s : Slots) (slot : Slot) : Slots :=
  { s.put s.next slot with
    next := s.next + 1
    live := insert s.next s.live
    frames := s.frames ∪ slot.frames
    slotListMap := Function.update s.slotListMap slot.sid (s.slotListMap slot.sid ++ [s.next])
    freeList := s.freeList ++ [s.next]
    totalPageNum := s.totalPageNum + slot.pageNum
    slotCnt := s.slotCnt + 1 }

def slotAlloc (s : Slots) (taken : Finset Nat) (offer : Option (Nat × Nat)) : Slots × Option Nat :=
  match s.room taken offer with
  | none => (s, none)
  | some (frame, pages) =>
      (s.setSlotInHash { phyAddr := frame * pageSize, pageNum := pages }, some s.next)

def ring : List Nat → List Nat
  | [] => []
  | root :: rest => root :: rest.reverse

def findSlotInHash (s : Slots) (sid addr : Nat) : Option Nat :=
  if validSid sid && sid != onePageSid then (ring (s.slotListMap sid)).find? fun id =>
    (s.slot id).covers addr
  else none

def slotFreePage (s : Slots) (id addr : Nat) : Slots × Int :=
  let slot := s.slot id
  if slot.pageNum = 0 then (s, -1004)
  else if slot.validBit (slot.addr2Bit addr) then
    if slot.addr2Bit addr ∈ slot.pagemap then
      (s.put id { slot with
          pagemap := slot.pagemap.erase (slot.addr2Bit addr), allocedPageNum :=
            slot.allocedPageNum - 1 }, 0)
    else (s, -1006)
  else (s, -1005)

-- codec_mm_slot_free up to where it gives up the lock: says whether the slot is then released.
def slotTakeOut (s : Slots) (id : Nat) : Slots × Bool :=
  let slot := s.slot id
  if slot.allocedPageNum > 0 || slot.onAllocFree ≠ 0 then (s, false)
  else
    ({ s with
        freeList := s.freeList.erase id
        slotListMap := Function.update s.slotListMap slot.sid ((s.slotListMap slot.sid).erase id)
        slotCnt := s.slotCnt - 1
        totalPageNum := s.totalPageNum - slot.pageNum }, true)

def slotRelease (s : Slots) (id : Nat) : Slots :=
  { s with live := s.live.erase id, frames := s.frames \ (s.slot id).frames }

-- codec_mm_slot_try_free keeps a slot while few pages are free. The two sizes are compared unsigned.
def keepsFree (s : Slots) : Bool :=
  s.keepSizePage > 0 && u32 (s.totalPageNum - s.allocedPageNum) < s.keepSizePage

def relist (s : Slots) (id : Nat) : Slots :=
  if id ∉ s.freeList ∧ (s.slot id).allocedPageNum < (s.slot id).pageNum then
    { s with freeList := s.freeList ++ [id] }
  else s

def wantsSlot (s : Slots) : Bool :=
  s.totalPageNum ≤ 0 || s.allocedPageNum = s.totalPageNum || s.freeList.isEmpty

def idle (s : Slots) (id : Nat) : Bool := (s.slot id).onAllocFree = 0

def claim (s : Slots) (made : Option Nat) : Slots × Option Nat :=
  match (made.filter s.idle).or (s.freeList.head?.filter s.idle) with
  | none => (s, none)
  | some id =>
    let slot := s.slot id
    ({ s.put id { slot with onAllocFree := slot.onAllocFree + 1 } with freeList := s.freeList.erase id }, some id)

-- Where codec_mm_slot_alloc_pages is in the map of its slot, and the pages it has.
structure Fill where
  bit : Nat
  need : Int
  tryn : Nat
  pages : List Nat := []

def beginFill (s : Slots) (id : Nat) (num : Int) : Option Fill :=
  let slot := s.slot id
  if slot.allocedPageNum ≥ slot.pageNum then none
  else some { bit := slot.nextBit, need := min num (slot.pageNum - slot.allocedPageNum), tryn := slot.pageNum }

def fills (s : Slots) (id : Nat) (fill : Fill) : Bool :=
  0 < fill.tryn && fill.need > 0 && (s.slot id).onAllocFree = 1 && (s.slot id).validBit fill.bit

def fillBit (s : Slots) (id : Nat) (fill : Fill) : Slots × Fill :=
  let slot := s.slot id
  let bit := if fill.bit + 1 ≥ slot.pageNum then 0 else fill.bit + 1
  if fill.bit ∈ slot.pagemap then (s, { fill with bit, tryn := fill.tryn - 1 })
  else
    (s.put id { slot with
        pagemap := insert fill.bit slot.pagemap, allocedPageNum := slot.allocedPageNum + 1 },
      { bit, need := fill.need - 1, tryn := fill.tryn - 1,
        pages := fill.pages ++ [slot.bit2Page fill.bit] })

-- The rest of the call, and of the round of codec_mm_page_alloc_from_slot.
def endFill (s : Slots) (id : Nat) (fill : Fill) : Slots :=
  let slot := s.slot id
  s.put id { slot with nextBit := if fill.bit ≥ slot.pageNum then 0 else fill.bit }

def unclaim (s : Slots) (id : Nat) : Slots :=
  let slot := s.slot id
  (s.put id { slot with onAllocFree := slot.onAllocFree - 1 }).relist id

-- What codec_mm_free_all_free_slots_in takes off the free list, from its end.
def takeFree (s : Slots) : Slots × Option Nat :=
  match s.freeList.reverse.find? fun id => (s.slot id).allocedPageNum = 0 with
  | none => (s, none)
  | some id => ({ s with freeList := s.freeList.erase id }, some id)

end Slots

end UnionpiTiger.Scatter
