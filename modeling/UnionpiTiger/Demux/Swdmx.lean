import Mathlib.Data.List.Basic
import Mathlib.Data.List.Nodup
import Mathlib.Logic.Function.Basic

set_option autoImplicit false

namespace UnionpiTiger.Demux

def secFilterLen : Nat := 16

inductive FilterKind where
  | ts
  | sec
deriving DecidableEq, Repr

inductive FilterState where
  | init
  | set
  | run
deriving DecidableEq, Repr

inductive SwdmxResult where
  | ok
  | err
deriving DecidableEq, Repr

structure SecFilterParams where
  pid : UInt16
  crc32 : Bool := false
  value : Fin secFilterLen → UInt8 := fun _ => 0
  mask : Fin secFilterLen → UInt8 := fun _ => 0
  mode : Fin secFilterLen → UInt8 := fun _ => 0

-- SWDMX_TsFilter and SWDMX_SecFilter in one: a TS filter uses no parameter but the PID. What a new
-- filter's parameters hold is not read before they are set.
structure Filter (D : Type) where
  kind : FilterKind
  state : FilterState := .init
  pidFilter : Option Nat := none
  params : SecFilterParams := { pid := 0 }
  value : Fin (secFilterLen + 2) → UInt8 := fun _ => 0
  mam : Fin (secFilterLen + 2) → UInt8 := fun _ => 0
  manm : Fin (secFilterLen + 2) → UInt8 := fun _ => 0
  cbList : List D := []

structure PidFilter where
  addr : Nat
  pid : UInt16
  filterList : FilterKind → List Nat := fun _ => []
  secData : Option (Nat → UInt8) := none
  secRecv : Nat := 0

-- `filters` are the allocated filters by address. `memory` is how many more allocations succeed and
-- `held` what the memory given out holds. An operation without a result never returns.
structure SwDemux (D : Type) where
  pidFilterList : List PidFilter := []
  filters : Nat → Option (Filter D) := fun _ => none
  next : Nat := 0
  memory : Nat
  held : Nat → Nat → UInt8

def swdmxIsValidPid (pid : UInt16) : Bool := pid ≤ 0x1fff

def PidFilter.append (kind : FilterKind) (filter : Nat) (f : PidFilter) : PidFilter :=
  { f with filterList := Function.update f.filterList kind (f.filterList kind ++ [filter]) }

def PidFilter.unlink (filter : Nat) (f : PidFilter) : PidFilter :=
  { f with filterList := fun kind => (f.filterList kind).erase filter }

def PidFilter.isEmpty (f : PidFilter) : Bool :=
  (f.filterList .ts).isEmpty && (f.filterList .sec).isEmpty

variable {D : Type}

def swdmxDemuxNew (memory : Nat) (held : Nat → Nat → UInt8) : SwDemux D := { memory, held }

-- The SWDMX_ASSERT behind an allocation is a loop that a null pointer does not leave, and where
-- there is none the null pointer is dereferenced at once.
def swdmxMalloc (dmx : SwDemux D) : Option (Nat × SwDemux D) :=
  if dmx.memory = 0 then none
  else some (dmx.next, { dmx with next := dmx.next + 1, memory := dmx.memory - 1 })

namespace SwDemux

def store (dmx : SwDemux D) (addr : Nat) (filter : Filter D) : SwDemux D :=
  { dmx with filters := Function.update dmx.filters addr (some filter) }

def link (dmx : SwDemux D) (kind : FilterKind) (pidFilter filter : Nat) : SwDemux D :=
  { dmx with
    pidFilterList := dmx.pidFilterList.map fun f =>
      if f.addr = pidFilter then f.append kind filter else f }

def unlink (dmx : SwDemux D) (filter : Nat) : SwDemux D :=
  { dmx with pidFilterList := dmx.pidFilterList.map (PidFilter.unlink filter) }

end SwDemux

def pidFilterGet (dmx : SwDemux D) (pid : UInt16) : Option (Nat × SwDemux D) :=
  match dmx.pidFilterList.find? (·.pid == pid) with
  | some f => some (f.addr, dmx)
  | none =>
    (swdmxMalloc dmx).map fun (addr, dmx) =>
      (addr, { dmx with pidFilterList := dmx.pidFilterList ++ [{ addr, pid }] })

def pidFilterRemove (dmx : SwDemux D) (addr : Nat) : SwDemux D :=
  { dmx with
    pidFilterList := dmx.pidFilterList.filter fun f => !(f.addr == addr && f.isEmpty) }

def allocFilter (kind : FilterKind) (dmx : SwDemux D) : Option (Nat × SwDemux D) :=
  (swdmxMalloc dmx).map fun (addr, dmx) => (addr, dmx.store addr { kind })

def joinPidFilter (dmx : SwDemux D) (addr : Nat) (filter : Filter D) : Option (SwDemux D) :=
  (pidFilterGet dmx filter.params.pid).map fun (pidFilter, dmx) =>
    (dmx.store addr { filter with pidFilter := some pidFilter }).link filter.kind pidFilter addr

def leavePidFilter (dmx : SwDemux D) (addr : Nat) (filter : Filter D) :
    Option (SwDemux D × Filter D) :=
  filter.pidFilter.map fun pidFilter =>
    (pidFilterRemove (dmx.unlink addr) pidFilter, { filter with pidFilter := none })

def filterSetParams (write : SecFilterParams → Filter D → Filter D) (dmx : SwDemux D) (addr : Nat)
    (params : SecFilterParams) : Option (SwDemux D × SwdmxResult) :=
  if !swdmxIsValidPid params.pid || params.pid == 0x1fff then some (dmx, .err)
  else do
    let filter ← dmx.filters addr
    if filter.state = .run then
      let _ ← filter.pidFilter
      if filter.params.pid ≠ params.pid then
        let (dmx, filter) ← leavePidFilter dmx addr filter
        let dmx ← joinPidFilter dmx addr (write params filter)
        return (dmx, .ok)
      return (dmx.store addr (write params filter), .ok)
    return (dmx.store addr { write params filter with state := .set }, .ok)

def filterEnable (dmx : SwDemux D) (addr : Nat) : Option (SwDemux D × SwdmxResult) := do
  let filter ← dmx.filters addr
  match filter.state with
  | .init => return (dmx, .err)
  | .set =>
    let dmx ← joinPidFilter dmx addr { filter with state := .run }
    return (dmx, .ok)
  | .run => return (dmx, .ok)

def filterDisable (dmx : SwDemux D) (addr : Nat) : Option (SwDemux D × SwdmxResult) := do
  let filter ← dmx.filters addr
  if filter.state = .run then
    let (dmx, filter) ← leavePidFilter dmx addr filter
    return (dmx.store addr { filter with state := .set }, .ok)
  return (dmx, .ok)

def filterFree (dmx : SwDemux D) (addr : Nat) : Option (SwDemux D) := do
  let (dmx, _) ← filterDisable dmx addr
  return { dmx with filters := Function.update dmx.filters addr none }

def filterAddCb (dmx : SwDemux D) (addr : Nat) (cb : D) : Option (SwDemux D × SwdmxResult) := do
  let (_, dmx) ← swdmxMalloc dmx
  let filter ← dmx.filters addr
  return (dmx.store addr { filter with cbList := filter.cbList ++ [cb] }, .ok)

def swdmxDemuxAllocTsFilter : SwDemux D → Option (Nat × SwDemux D) := allocFilter .ts

def swdmxTsFilterSetParams : SwDemux D → Nat → UInt16 → Option (SwDemux D × SwdmxResult) :=
  fun dmx addr pid =>
    filterSetParams (fun params filter => { filter with params }) dmx addr { pid }

def swdmxTsFilterAddTsPacketCb : SwDemux D → Nat → D → Option (SwDemux D × SwdmxResult) :=
  filterAddCb

def swdmxTsFilterEnable : SwDemux D → Nat → Option (SwDemux D × SwdmxResult) := filterEnable

def swdmxTsFilterDisable : SwDemux D → Nat → Option (SwDemux D × SwdmxResult) := filterDisable

def swdmxTsFilterFree : SwDemux D → Nat → Option (SwDemux D) := filterFree

def swdmxDemuxAllocSecFilter : SwDemux D → Option (Nat × SwDemux D) := allocFilter .sec

def spread (field : Fin secFilterLen → UInt8) (j : Fin (secFilterLen + 2)) : UInt8 :=
  if j.val = 0 then field ⟨0, by decide⟩
  else if j.val ≤ 2 then 0
  else field ⟨j.val - 2, by have := j.isLt; unfold secFilterLen at *; omega⟩

def writeSecParams (params : SecFilterParams) (filter : Filter D) : Filter D :=
  { filter with
    params
    value := spread params.value
    mam := spread fun i => params.mask i &&& ~~~params.mode i
    manm := spread fun i => params.mask i &&& params.mode i }

def swdmxSecFilterSetParams :
    SwDemux D → Nat → SecFilterParams → Option (SwDemux D × SwdmxResult) :=
  filterSetParams writeSecParams

def swdmxSecFilterAddSectionCb : SwDemux D → Nat → D → Option (SwDemux D × SwdmxResult) :=
  filterAddCb

def swdmxSecFilterEnable : SwDemux D → Nat → Option (SwDemux D × SwdmxResult) := filterEnable

def swdmxSecFilterDisable : SwDemux D → Nat → Option (SwDemux D × SwdmxResult) := filterDisable

def swdmxSecFilterFree : SwDemux D → Nat → Option (SwDemux D) := filterFree

end UnionpiTiger.Demux
