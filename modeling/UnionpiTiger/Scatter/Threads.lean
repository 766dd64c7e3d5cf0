import UnionpiTiger.Scatter.Slots

set_option autoImplicit false

namespace UnionpiTiger.Scatter

-- What codec_mm_page_alloc_from_slot has still to get, and has.
structure Work where
  need : Int
  pages : List Nat := []

-- Where a thread is between two sections of the list lock.
inductive Pc where
  | idle
  -- codec_mm_page_free_to_slot
  | find (sid addr : Nat)
  | freePage (id addr : Nat)
  | returned (id : Nat)
  | tryFree (id : Nat)
  | relist (id : Nat)
  -- codec_mm_slot_free, for the upkeep or for a page given back
  | slotFree (upkeep : Bool) (id : Nat)
  | release (upkeep : Bool) (id : Nat)
  -- codec_mm_free_all_free_slots_in
  | upkeep
  -- codec_mm_page_alloc_from_slot
  | begin_ (num : Int) (short : Bool)
  | round (work : Work)
  | make (work : Work)
  | claim (made : Option Nat) (work : Work)
  | alloc (id : Nat) (work : Work)
  | fill (id : Nat) (at_ : Slots.Fill) (work : Work)
  | bit (id : Nat) (at_ : Slots.Fill) (work : Work)
  | unclaim (id : Nat) (pages : List Nat) (work : Work)
  | account (work : Work)

def Pc.hand : Pc → Option Nat
  | .freePage id _ | .returned id | .tryFree id | .relist id | .slotFree _ id | .release _ id
  | .alloc id _ | .fill id _ _ | .bit id _ _ | .unclaim id _ _ => some id
  | .claim made _ => made
  | .idle | .find .. | .upkeep | .begin_ .. | .round _ | .make _ | .account _ => none

-- `out` are the pages that are given out and not being given back, each to one owner. `released` is
-- no part of the code: it tells what was released.
structure Threads where
  slots : Slots := {}
  pc : Nat → Pc := fun _ => .idle
  out : List Nat := []
  released : List Nat := []

-- A thread that is in no call starts one, or a thread goes on by a section or by what it does
-- between two. The callers of codec_mm_page_free_to_slot count alloced_page_num down on their own.
inductive ThreadAct where
  | giveBack (t page : Nat)
  | allocate (t : Nat) (num : Int) (short : Bool)
  | upkeep (t : Nat)
  | go (t : Nat) (offer : Option (Nat × Nat))
  | count (freeNum : Int)

def ThreadAct.by_ : ThreadAct → Option Nat
  | .giveBack t _ | .allocate t _ _ | .upkeep t | .go t _ => some t
  | .count _ => none

namespace Threads

def goTo (s : Threads) (t : Nat) (pc : Pc) : Threads := { s with pc := Function.update s.pc t pc }

def go (s : Threads) (t : Nat) (offer : Option (Nat × Nat)) : Threads :=
  match s.pc t with
  | .idle => s
  | .find sid addr =>
    match s.slots.findSlotInHash sid addr with
    | none => s.goTo t .idle
    | some id => s.goTo t (.freePage id addr)
  | .freePage id addr => { s with slots := (s.slots.slotFreePage id addr).1 }.goTo t (.returned id)
  | .returned id => s.goTo t (if (s.slots.slot id).allocedPageNum = 0 then .tryFree id else .relist id)
  | .tryFree id => s.goTo t (if s.slots.keepsFree then .relist id else .slotFree false id)
  | .relist id => { s with slots := s.slots.relist id }.goTo t .idle
  | .slotFree upkeep id =>
    match s.slots.slotTakeOut id with
    | (slots, true) => { s with slots }.goTo t (.release upkeep id)
    | (_, false) => s.goTo t (if upkeep then .upkeep else .relist id)
  | .release upkeep id =>
    { s with slots := s.slots.slotRelease id, released := id :: s.released }.goTo t (if upkeep then .upkeep else .idle)
  | .upkeep =>
    match s.slots.takeFree with
    | (_, none) => s.goTo t .idle
    | (slots, some id) => { s with slots }.goTo t (.slotFree true id)
  | .begin_ num short => s.goTo t (if s.slots.freeList.isEmpty && short then .idle
      else .round { need := num })
  | .round work => s.goTo t (if s.slots.wantsSlot then .make work else .claim none work)
  | .make work =>
    match s.slots.slotAlloc ∅ offer with
    | (_, none) => s.goTo t (.account work)
    | (slots, some id) => { s with slots }.goTo t (.claim (some id) work)
  | .claim made work =>
    match s.slots.claim made with
    | (_, none) => s.goTo t (.account work)
    | (slots, some id) => { s with slots }.goTo t (.alloc id work)
  | .alloc id work =>
    match s.slots.beginFill id work.need with
    | none => s.goTo t (.unclaim id [] work)
    | some fill => s.goTo t (.fill id fill work)
  | .fill id at_ work =>
    if s.slots.fills id at_ then s.goTo t (.bit id at_ work)
    else { s with slots := s.slots.endFill id at_ }.goTo t (.unclaim id at_.pages work)
  | .bit id at_ work =>
    let (slots, at_) := s.slots.fillBit id at_
    { s with slots }.goTo t (.fill id at_ work)
  | .unclaim id pages work =>
    let work : Work := { need := work.need - pages.length, pages := work.pages ++ pages }
    { s with slots := s.slots.unclaim id }.goTo t (if work.need > 0 then .round work else .account work)
  | .account work =>
    { s with
        slots := { s.slots with allocedPageNum := s.slots.allocedPageNum + work.pages.length }
        out := s.out ++ work.pages }.goTo t .idle

def step (s : Threads) : ThreadAct → Threads
  | .giveBack t page =>
    if s.pc t matches .idle then
      if page ∈ s.out then { s with out := s.out.erase page }.goTo t
        (.find (pageSid page) (pageAddr page)) else s
    else s
  | .allocate t num short => if s.pc t matches .idle then s.goTo t (.begin_ num short) else s
  | .upkeep t => if s.pc t matches .idle then s.goTo t .upkeep else s
  | .go t offer => s.go t offer
  | .count freeNum =>
      { s with slots := { s.slots with allocedPageNum := s.slots.allocedPageNum - freeNum } }

def touched (s : Threads) (t : Nat) (offer : Option (Nat × Nat)) : List Nat :=
  (s.pc t).hand.toList ++
    match s.pc t with
    | .find sid _ => s.slots.slotListMap sid
    | .slotFree _ id => s.slots.freeList ++ s.slots.slotListMap (s.slots.slot id).sid
    | .upkeep | .relist _ | .claim .. | .unclaim .. => s.slots.freeList
    | .make _ =>
      match s.slots.room ∅ offer with
      | none => []
      | some (frame, _) => s.slots.freeList ++ s.slots.slotListMap (hashPageAddr frame)
    | _ => []

structure SafeStep (s : Threads) (t : Nat) (offer : Option (Nat × Nat)) : Prop where
  live : ∀ id ∈ s.touched t offer, id ∉ s.released
  empty : ∀ upkeep id, s.pc t = .release upkeep id → (s.slots.slot id).pagemap = ∅

def Safe (s : Threads) : ThreadAct → Prop
  | .go t offer => s.SafeStep t offer
  | _ => True

def Alone (s : Threads) : ThreadAct → Prop
  | .go t _ => ∀ upkeep id, s.pc t = .slotFree upkeep id → (s.slots.slotTakeOut id).2 = true →
    ∀ u, u ≠ t → (s.pc u).hand ≠ some id
  | _ => True

end Threads

end UnionpiTiger.Scatter
