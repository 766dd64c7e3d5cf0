import UnionpiTiger.Demux.Reception

set_option autoImplicit false

namespace UnionpiTiger.Demux

def maxTsFeedNum : Nat := 20

def maxSecFeedNum : Nat := 20

def maxFilterPerSecFeed : Nat := 8

abbrev TsIndex := Fin maxTsFeedNum

abbrev SecIndex := Fin maxSecFeedNum

abbrev FilterIndex := Fin maxFilterPerSecFeed

def dmxFilterLen : Nat := secFilterLen + 2

def eInval : Int := 22

def eBusy : Int := 16

def eRestartSys : Int := 512

def swdmxMaxPid : UInt16 := 0x1fff

def tsDecoder : UInt32 := 4

def dmxPesOther : UInt32 := 20

inductive DmxState where
  | free
  | allocated
  | set
  | ready
  | go
deriving DecidableEq, Repr

inductive DmxType where
  | ts
  | sec
  | pes
deriving DecidableEq, Repr

inductive CbData where
  | tsFeed (i : TsIndex)
  | secFilter (i : SecIndex) (j : FilterIndex)
deriving DecidableEq, Repr

structure TsFeed where
  tsf : Option Nat := none
  tschan : Bool := false
  tsCb : Option Nat := none
  type : DmxType := .ts
  tsType : UInt32 := 0
  pesType : UInt32 := 0
  pid : UInt16 := 0
  state : DmxState := .free
  isFiltering : Bool := false

structure SecFilter where
  filterValue : Fin dmxFilterLen → UInt8 := fun _ => 0
  filterMask : Fin dmxFilterLen → UInt8 := fun _ => 0
  filterMode : Fin dmxFilterLen → UInt8 := fun _ => 0
  secf : Option Nat := none
  state : DmxState := .free

structure SecFeed where
  filter : FilterIndex → SecFilter := fun _ => {}
  secchan : Bool := false
  secCb : Option Nat := none
  pid : UInt16 := 0
  checkCrc : Bool := false
  type : DmxType := .sec
  state : DmxState := .free
  isFiltering : Bool := false

structure AmlDmx where
  swdmx : SwDemux CbData
  usedHwdmx : Bool
  tsFeed : TsIndex → TsFeed := fun _ => {}
  sectionFeed : SecIndex → SecFeed := fun _ => {}
  pmutex : Bool := false

-- How the calls out of an operation end: whether mutex_lock_interruptible is interrupted, vmalloc
-- gives memory (and what the filters in it hold) and hwdmx_alloc_chan a channel.
structure Outcome where
  interrupted : Bool := false
  vmalloc : Bool := true
  held : FilterIndex → SecFilter := fun _ => {}
  hwChan : Bool := true

namespace AmlDmx

def putTs (dmx : AmlDmx) (i : TsIndex) (feed : TsFeed) : AmlDmx :=
  { dmx with tsFeed := Function.update dmx.tsFeed i feed }

def putSec (dmx : AmlDmx) (i : SecIndex) (feed : SecFeed) : AmlDmx :=
  { dmx with sectionFeed := Function.update dmx.sectionFeed i feed }

def mutexLock (dmx : AmlDmx) : Option AmlDmx :=
  if dmx.pmutex then none else some { dmx with pmutex := true }

def mutexUnlock (dmx : AmlDmx) : AmlDmx := { dmx with pmutex := false }

def mutexLockInterruptible {R : Type} (dmx : AmlDmx) (outcome : Outcome) (failed : R)
    (body : AmlDmx → Option (AmlDmx × R)) : Option (AmlDmx × R) :=
  if outcome.interrupted then some (dmx, failed) else dmx.mutexLock.bind body

def sectionFeedAlloc (dmx : AmlDmx) : Option SecIndex :=
  (List.finRange maxSecFeedNum).find? fun i => (dmx.sectionFeed i).state = .free

def tsFeedAlloc (dmx : AmlDmx) : Option TsIndex :=
  (List.finRange maxTsFeedNum).find? fun i => (dmx.tsFeed i).state = .free

def secFilterAlloc (feed : SecFeed) : Option FilterIndex :=
  (List.finRange maxFilterPerSecFeed).find? fun j => (feed.filter j).state = .free

def tsFeedSet (dmx : AmlDmx) (outcome : Outcome) (i : TsIndex) (pid : UInt16)
    (tsType pesType : UInt32) : Option (AmlDmx × Int) :=
  if pid ≥ swdmxMaxPid then some (dmx, -eInval)
  else dmx.mutexLockInterruptible outcome (-eRestartSys) fun dmx =>
    if tsType &&& tsDecoder ≠ 0 ∧ pesType ≥ dmxPesOther then some (dmx.mutexUnlock, -eInval)
    else
      let feed := { dmx.tsFeed i with pid, tsType, pesType, state := .ready }
      some ((dmx.putTs i feed).mutexUnlock, 0)

-- The type of a TS feed is DMX_TYPE_TS, never TS_PACKET, so no PVR PID is added or removed.
def tsFeedStartFiltering (dmx : AmlDmx) (outcome : Outcome) (i : TsIndex) : Option (AmlDmx × Int) :=
  dmx.mutexLockInterruptible outcome (-eRestartSys) fun dmx =>
    let feed := dmx.tsFeed i
    if feed.state ≠ .ready ∨ feed.type ≠ .ts then some (dmx.mutexUnlock, -eInval)
    else do
      let tsf ← feed.tsf
      let (swdmx, _) ← swdmxTsFilterSetParams dmx.swdmx tsf feed.pid
      let (swdmx, _) ← swdmxTsFilterAddTsPacketCb swdmx tsf (.tsFeed i)
      let (swdmx, enabled) ← swdmxTsFilterEnable swdmx tsf
      let dmx := { dmx with swdmx }
      if enabled ≠ .ok then return (dmx.mutexUnlock, -eInval)
      return ((dmx.putTs i { feed with isFiltering := true, state := .go }).mutexUnlock, 0)

def tsFeedStopFiltering (dmx : AmlDmx) (i : TsIndex) : Option (AmlDmx × Int) := do
  let dmx ← dmx.mutexLock
  let feed := dmx.tsFeed i
  if feed.state ≠ .go then return (dmx.mutexUnlock, -eInval)
  let tsf ← feed.tsf
  let (swdmx, disabled) ← swdmxTsFilterDisable dmx.swdmx tsf
  let dmx := { dmx with swdmx }
  if disabled ≠ .ok then return (dmx.mutexUnlock, -eInval)
  return ((dmx.putTs i { feed with isFiltering := false, state := .allocated }).mutexUnlock, 0)

-- swdmx_demux_alloc_sec_filter has no null pointer to return: it would have written through it.
def sectionFeedAllocateFilter (dmx : AmlDmx) (outcome : Outcome) (i : SecIndex) :
    Option (AmlDmx × Int) :=
  dmx.mutexLockInterruptible outcome (-eRestartSys) fun dmx =>
    let feed := dmx.sectionFeed i
    match secFilterAlloc feed with
    | none => some (dmx.mutexUnlock, -eBusy)
    | some j => do
      let (secf, swdmx) ← swdmxDemuxAllocSecFilter dmx.swdmx
      let filter := { feed.filter j with state := .allocated, secf := some secf }
      let feed := { feed with filter := Function.update feed.filter j filter }
      return ((({ dmx with swdmx } : AmlDmx).putSec i feed).mutexUnlock, 0)

def sectionFeedSet (dmx : AmlDmx) (outcome : Outcome) (i : SecIndex) (pid : UInt16)
    (checkCrc : Bool) : Option (AmlDmx × Int) :=
  if pid ≥ swdmxMaxPid then some (dmx, -eInval)
  else dmx.mutexLockInterruptible outcome (-eRestartSys) fun dmx =>
    let feed := { dmx.sectionFeed i with pid, checkCrc, type := .sec, state := .ready }
    some ((dmx.putSec i feed).mutexUnlock, 0)

def closeGap (field : Fin dmxFilterLen → UInt8) (k : Fin dmxFilterLen) : UInt8 :=
  if inside : 1 ≤ k.val ∧ k.val < secFilterLen then
    field ⟨k.val + 2, by have := inside.2; unfold dmxFilterLen; omega⟩
  else field k

def invertMode (mode : Fin dmxFilterLen → UInt8) (k : Fin dmxFilterLen) : UInt8 :=
  if k.val < secFilterLen then mode k ^^^ 0xff else mode k

def prepare (filter : SecFilter) : SecFilter :=
  { filter with
    filterValue := closeGap filter.filterValue
    filterMask := closeGap filter.filterMask
    filterMode := invertMode (closeGap filter.filterMode) }

def paramsOf (feed : SecFeed) (filter : SecFilter) : SecFilterParams where
  pid := feed.pid
  crc32 := feed.checkCrc
  value k := filter.filterValue (k.castAdd 2)
  mask k := filter.filterMask (k.castAdd 2)
  mode k := filter.filterMode (k.castAdd 2)

-- The demux and the filters of the feed in the loop over its filters, and `start_flag`.
structure Starting where
  swdmx : SwDemux CbData
  filter : FilterIndex → SecFilter
  startFlag : Bool := false

def Starting.put (starting : Starting) (swdmx : SwDemux CbData) (j : FilterIndex)
    (filter : SecFilter) : Starting :=
  { starting with swdmx, filter := Function.update starting.filter j filter }

def startFilter (i : SecIndex) (feed : SecFeed) (starting : Starting) (j : FilterIndex) :
    Option Starting :=
  let filter := starting.filter j
  match filter.state with
  | .allocated => do
    let filter := prepare filter
    let secf ← filter.secf
    let (swdmx, set) ← swdmxSecFilterSetParams starting.swdmx secf (paramsOf feed filter)
    if set ≠ .ok then return starting.put swdmx j filter
    let (swdmx, _) ← swdmxSecFilterAddSectionCb swdmx secf (.secFilter i j)
    let (swdmx, enabled) ← swdmxSecFilterEnable swdmx secf
    if enabled ≠ .ok then return starting.put swdmx j filter
    return { starting.put swdmx j { filter with state := .go } with startFlag := true }
  | .ready => do
    let secf ← filter.secf
    let (swdmx, enabled) ← swdmxSecFilterEnable starting.swdmx secf
    if enabled ≠ .ok then return starting.put swdmx j filter
    return { starting.put swdmx j { filter with state := .go } with startFlag := true }
  | _ => some starting

def sectionFeedStartFiltering (dmx : AmlDmx) (outcome : Outcome) (i : SecIndex) :
    Option (AmlDmx × Int) :=
  dmx.mutexLockInterruptible outcome (-eRestartSys) fun dmx =>
    let feed := dmx.sectionFeed i
    if feed.isFiltering then some (dmx.mutexUnlock, -eBusy)
    else do
      let starting ← (List.finRange maxFilterPerSecFeed).foldlM (startFilter i feed)
        { swdmx := dmx.swdmx, filter := feed.filter }
      let dmx : AmlDmx := { dmx with swdmx := starting.swdmx }
      let feed := { feed with filter := starting.filter }
      -- This way out does not unlock.
      if !starting.startFlag then return (dmx.putSec i feed, -1)
      return ((dmx.putSec i { feed with state := .go, isFiltering := true }).mutexUnlock, 0)

def stopFilter (starting : Starting) (j : FilterIndex) : Option Starting :=
  let filter := starting.filter j
  if filter.state = .go then do
    let secf ← filter.secf
    let (swdmx, disabled) ← swdmxSecFilterDisable starting.swdmx secf
    if disabled ≠ .ok then return starting.put swdmx j filter
    return { starting.put swdmx j { filter with state := .ready } with startFlag := true }
  else some starting

def sectionFeedStopFiltering (dmx : AmlDmx) (outcome : Outcome) (i : SecIndex) :
    Option (AmlDmx × Int) :=
  dmx.mutexLockInterruptible outcome (-eRestartSys) fun dmx =>
    let feed := dmx.sectionFeed i
    if !feed.isFiltering then some (dmx.mutexUnlock, -eInval)
    else do
      let starting ← (List.finRange maxFilterPerSecFeed).foldlM stopFilter
        { swdmx := dmx.swdmx, filter := feed.filter }
      let dmx : AmlDmx := { dmx with swdmx := starting.swdmx }
      let feed := { feed with filter := starting.filter }
      if !starting.startFlag then return ((dmx.putSec i feed).mutexUnlock, 0)
      return ((dmx.putSec i { feed with isFiltering := false }).mutexUnlock, 0)

def sectionFeedReleaseFilter (dmx : AmlDmx) (outcome : Outcome) (i : SecIndex) (j : FilterIndex) :
    Option (AmlDmx × Int) :=
  dmx.mutexLockInterruptible outcome (-eRestartSys) fun dmx =>
    let feed := dmx.sectionFeed i
    if feed.type ≠ .sec then some (dmx.mutexUnlock, -eInval)
    else if (feed.filter j).state = .free then some (dmx.mutexUnlock, 0)
    else do
      let secf ← (feed.filter j).secf
      let swdmx ← swdmxSecFilterFree dmx.swdmx secf
      let feed := { feed with filter := Function.update feed.filter j {} }
      return ((({ dmx with swdmx } : AmlDmx).putSec i feed).mutexUnlock, 0)

def allocateTsFeed (dmx : AmlDmx) (outcome : Outcome) (callback : Nat) : Option (AmlDmx × Int) :=
  dmx.mutexLockInterruptible outcome (-eRestartSys) fun dmx =>
    match dmx.tsFeedAlloc with
    | none => some (dmx.mutexUnlock, -eBusy)
    | some i => do
      let feed := { dmx.tsFeed i with
        state := .allocated, type := .ts, tsCb := some callback, isFiltering := false }
      let (tsf, swdmx) ← swdmxDemuxAllocTsFilter dmx.swdmx
      let feed := { feed with tsf := some tsf }
      if dmx.usedHwdmx ∧ ¬outcome.hwChan then
        let swdmx ← swdmxTsFilterFree swdmx tsf
        let feed := { feed with tschan := false, state := .free }
        return ((({ dmx with swdmx } : AmlDmx).putTs i feed).mutexUnlock, eRestartSys)
      let feed := { feed with tschan := if dmx.usedHwdmx then true else feed.tschan }
      return ((({ dmx with swdmx } : AmlDmx).putTs i feed).mutexUnlock, 0)

def releaseTsFeed (dmx : AmlDmx) (outcome : Outcome) (i : TsIndex) : Option (AmlDmx × Int) :=
  dmx.mutexLockInterruptible outcome (-eRestartSys) fun dmx => do
    let feed := dmx.tsFeed i
    let tsf ← feed.tsf
    let swdmx ← swdmxTsFilterFree dmx.swdmx tsf
    return ((({ dmx with swdmx } : AmlDmx).putTs i { feed with state := .free }).mutexUnlock, 0)

def allocateSectionFeed (dmx : AmlDmx) (outcome : Outcome) (callback : Nat) : Option (AmlDmx × Int) :=
  dmx.mutexLockInterruptible outcome (-eRestartSys) fun dmx =>
    match dmx.sectionFeedAlloc with
    | none => some (dmx.mutexUnlock, -eBusy)
    | some i =>
      let feed := { dmx.sectionFeed i with
        state := .allocated, filter := fun j => { outcome.held j with state := .free } }
      if !outcome.vmalloc then some ((dmx.putSec i feed).mutexUnlock, -eBusy)
      else
        let feed := { feed with
          secCb := some callback, type := .sec, isFiltering := false
          secchan := if dmx.usedHwdmx then outcome.hwChan else feed.secchan }
        some ((dmx.putSec i feed).mutexUnlock, 0)

def releaseSectionFeed (dmx : AmlDmx) (outcome : Outcome) (i : SecIndex) : Option (AmlDmx × Int) :=
  dmx.mutexLockInterruptible outcome (-eRestartSys) fun dmx =>
    let feed := { dmx.sectionFeed i with
      state := .free
      secchan := if dmx.usedHwdmx then false else (dmx.sectionFeed i).secchan }
    some ((dmx.putSec i feed).mutexUnlock, 0)

end AmlDmx

inductive FeedCall where
  | ts (feed : TsIndex) (cb : Nat) (packet : List UInt8)
  | sec (feed : SecIndex) (filter : FilterIndex) (cb : Nat) (bytes : List UInt8)
deriving DecidableEq, Repr

namespace AmlDmx

def tsPktCb (dmx : AmlDmx) (i : TsIndex) (pkt : TsPacket) : List FeedCall :=
  if (dmx.tsFeed i).state = .go then
    (dmx.tsFeed i).tsCb.toList.map fun cb => .ts i cb pkt.packet
  else []

def secCb (dmx : AmlDmx) (i : SecIndex) (j : FilterIndex) (bytes : List UInt8) : List FeedCall :=
  if (dmx.sectionFeed i).state = .go then
    (dmx.sectionFeed i).secCb.toList.map fun cb => .sec i j cb bytes
  else []

def calls (dmx : AmlDmx) : Delivery CbData → List FeedCall
  | .packet _ (.tsFeed i) pkt => dmx.tsPktCb i pkt
  | .sec _ (.secFilter i j) bytes => dmx.secCb i j bytes
  | _ => []

def write (dmx : AmlDmx) (path : Path) (outcome : Outcome) (buf : List UInt8) :
    Option (AmlDmx × Int × List FeedCall) :=
  dmx.mutexLockInterruptible outcome (-eRestartSys, []) fun dmx => do
    let (swdmx, out, consumed) ← path.run dmx.swdmx buf
    return (({ dmx with swdmx } : AmlDmx).mutexUnlock, consumed, out.flatMap dmx.calls)

end AmlDmx

end UnionpiTiger.Demux
