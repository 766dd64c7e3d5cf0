import UnionpiTiger.Demux.RoundTrip

set_option autoImplicit false

namespace UnionpiTiger.Demux

open Lib

variable {D : Type} {dmx next other : SwDemux D} {pid : UInt16} {pkt : TsPacket} {addr : Nat}

section Completed

def completedBy (dmx : SwDemux D) (f : PidFilter) (pkt : TsPacket) :
    Option (SwDemux D × List SecState) :=
  if (f.filterList .sec).isEmpty then some (dmx, [])
  else
    match pkt.payloadBytes with
    | none => some (dmx, [])
    | some payload =>
      if pkt.scramble ≠ 0 then some (dmx, [])
      else do
        let (sec, dmx) ← secBuffer dmx f
        let (s, completed) ← secPayload { sec, recv := f.secRecv } pkt.payloadStart payload
        return (dmx.putSection f.addr s, completed)

def packetCompletes (dmx : SwDemux D) (pkt : TsPacket) : Option (SwDemux D × List SecState) :=
  match dmx.pidFilterList.find? fun f => pkt.pid == f.pid with
  | none => some (dmx, [])
  | some f => completedBy dmx f pkt

def sectionsOn (pid : UInt16) (dmx : SwDemux D) : List TsPacket → Option (List SecState)
  | [] => some []
  | pkt :: rest => do
    let (dmx, completed) ← packetCompletes dmx pkt
    let later ← sectionsOn pid dmx rest
    return (if pkt.pid = pid then completed else []) ++ later

def SwDemux.filtersOn (dmx : SwDemux D) (pid : UInt16) : List (Nat × Filter D) :=
  ((dmx.pidFilterList.find? fun f => pid == f.pid).map fun f => dmx.filtersOf f .sec).getD []

theorem secBuffer_frame {f : PidFilter} {sec : Nat → UInt8}
    (given : secBuffer dmx f = some (sec, next)) :
    next.pidFilterList = dmx.pidFilterList ∧ next.filters = dmx.filters := by
  cases has : f.secData with
  | some buffer =>
    simp only [secBuffer, has, Option.some.injEq, Prod.mk.injEq] at given
    simp [← given.2]
  | none =>
    simp only [secBuffer, has, swdmxMalloc] at given
    by_cases full : dmx.memory = 0
    · simp [full] at given
    · simp only [full, if_false, Option.map_some, Option.some.injEq, Prod.mk.injEq] at given
      simp [← given.2]

theorem filtersOf_congr (same : next.filters = dmx.filters) (f : PidFilter) (kind : FilterKind) :
    next.filtersOf f kind = dmx.filtersOf f kind := by
  simp [SwDemux.filtersOf, same]

def PidFilter.Skips (f : PidFilter) (pkt : TsPacket) : Prop :=
  (f.filterList .sec).isEmpty = true ∨ pkt.payloadBytes = none ∨ pkt.scramble ≠ 0

theorem completedBy_idle {f : PidFilter} (idle : f.Skips pkt) :
    completedBy dmx f pkt = some (dmx, []) := by
  unfold completedBy
  rcases idle with none_ | none_ | scrambled
  · simp [none_]
  · simp [none_]
  · cases pkt.payloadBytes <;> simp [scrambled]

theorem completedBy_payload (dmx : SwDemux D) {f : PidFilter} (busy : ¬f.Skips pkt) :
    ∃ payload, pkt.payloadBytes = some payload ∧
      completedBy dmx f pkt = (secBuffer dmx f).bind fun (sec, dmx) =>
      (secPayload { sec, recv := f.secRecv } pkt.payloadStart payload).map fun (s, completed) =>
        (dmx.putSection f.addr s, completed) := by
  unfold PidFilter.Skips at busy
  push Not at busy
  obtain ⟨listens, carries, clear⟩ := busy
  obtain ⟨payload, carries⟩ := Option.ne_none_iff_exists'.mp carries
  refine ⟨payload, carries, ?_⟩
  simp only [completedBy, listens, carries, clear, ne_eq, not_true, if_false, Option.bind_eq_bind,
    Option.pure_def, Bool.false_eq_true]
  congr 1
  funext ⟨sec, mid⟩
  cases secPayload _ _ payload <;> rfl

theorem pidFilterData_eq (dmx : SwDemux D) (f : PidFilter) (pkt : TsPacket) :
    pidFilterData dmx f pkt = (completedBy dmx f pkt).map fun (next, completed) =>
      (next, packetCbs dmx f pkt ++ completed.flatMap fun c =>
        sectionCbs c false (dmx.filtersOf f .sec)) := by
  by_cases idle : f.Skips pkt
  · simp [pidFilterData_idle idle, completedBy_idle idle]
  · obtain ⟨payload, carries, parts⟩ := completedBy_payload dmx idle
    unfold PidFilter.Skips at idle
    push Not at idle
    simp only [parts, pidFilterData, packetCbs, idle.1, carries, idle.2.2, ne_eq, not_true, if_false,
      Option.bind_eq_bind, Option.pure_def, Bool.false_eq_true]
    cases given : secBuffer dmx f with
    | none => rfl
    | some result =>
      have frame : result.2.pidFilterList = dmx.pidFilterList ∧ result.2.filters = dmx.filters :=
        secBuffer_frame given
      simp only [Option.bind_some, filtersOf_congr frame.2]
      cases secPayload _ _ payload <;> rfl

theorem completedBy_frame {f : PidFilter} {completed : List SecState}
    (done : completedBy dmx f pkt = some (next, completed)) :
    next.filters = dmx.filters ∧
      (next.pidFilterList = dmx.pidFilterList ∨ ∃ s,
        next.pidFilterList = (dmx.putSection f.addr s).pidFilterList) := by
  by_cases idle : f.Skips pkt
  · simp only [completedBy_idle idle, Option.some.injEq, Prod.mk.injEq] at done
    simp [← done.1]
  · obtain ⟨payload, -, parts⟩ := completedBy_payload dmx idle
    rw [parts] at done
    obtain ⟨⟨sec, mid⟩, given, done⟩ := Option.bind_eq_some_iff.mp done
    obtain ⟨⟨s, found⟩, -, same⟩ := Option.map_eq_some_iff.mp done
    cases same
    obtain ⟨list, filters⟩ := secBuffer_frame given
    exact ⟨filters, .inr ⟨s, by simp [SwDemux.putSection, list]⟩⟩

theorem filtersOn_packetCompletes {completed : List SecState}
    (done : packetCompletes dmx pkt = some (next, completed)) (pid : UInt16) :
    next.filtersOn pid = dmx.filtersOn pid := by
  unfold packetCompletes at done
  cases present : dmx.pidFilterList.find? fun f => pkt.pid == f.pid with
  | none =>
    rw [present] at done
    cases done
    rfl
  | some f =>
    rw [present] at done
    obtain ⟨filters, list | ⟨s, list⟩⟩ := completedBy_frame done
    · simp [SwDemux.filtersOn, list, SwDemux.filtersOf, filters]
    · have keepsPid : ((fun g : PidFilter => pid == g.pid) ∘ fun g : PidFilter =>
        if g.addr = f.addr then
          { g with secData := some s.sec, secRecv := s.recv } else g) = fun g => pid == g.pid := by
        funext g
        simp only [Function.comp_apply]
        split_ifs <;> rfl
      simp only [SwDemux.filtersOn, list, SwDemux.putSection, List.find?_map, keepsPid, Option.map_map]
      congr 2
      funext g
      simp only [Function.comp_apply, SwDemux.filtersOf, filters]
      split_ifs <;> rfl

theorem swdmxDemuxTsPacketCb_eq (dmx : SwDemux D) (pkt : TsPacket) (addr : Nat) :
    (swdmxDemuxTsPacketCb dmx pkt).map (fun done => (done.1, done.2.filterMap (Delivery.secOf addr))) =
      (packetCompletes dmx pkt).map fun (next, completed) =>
        (next, completed.flatMap fun c =>
          (sectionCbs c false (dmx.filtersOn pkt.pid)).filterMap (Delivery.secOf addr)) := by
  unfold swdmxDemuxTsPacketCb packetCompletes SwDemux.filtersOn
  cases dmx.pidFilterList.find? fun f => pkt.pid == f.pid with
  | none => rfl
  | some f =>
    simp only [pidFilterData_eq, Option.map_map]
    congr 1
    funext ⟨next, completed⟩
    simp [packetCbs_secOf, List.filterMap_flatMap]

theorem receive_secOf (apart : ∀ other ≠ pid, ∀ entry ∈ dmx.filtersOn other, entry.1 ≠ addr)
    (pkts : List TsPacket) :
    (receive dmx pkts).map (fun done => done.2.filterMap (Delivery.secOf addr)) =
      (sectionsOn pid dmx pkts).map fun completed =>
        completed.flatMap fun c =>
          (sectionCbs c false (dmx.filtersOn pid)).filterMap (Delivery.secOf addr) := by
  induction pkts generalizing dmx with
  | nil => rfl
  | cons pkt rest ih =>
    have cb := swdmxDemuxTsPacketCb_eq dmx pkt addr
    simp only [receive, sectionsOn]
    cases parts : packetCompletes dmx pkt with
    | none =>
      rw [parts] at cb
      simp [Option.map_eq_none_iff.mp cb]
    | some result =>
      obtain ⟨next, completed⟩ := result
      rw [parts] at cb
      obtain ⟨⟨mid, out⟩, first, same⟩ := Option.map_eq_some_iff.mp cb
      obtain ⟨rfl, delivered⟩ := Prod.mk.inj same
      have kept := filtersOn_packetCompletes parts
      have restApart : ∀ other ≠ pid, ∀ entry ∈ mid.filtersOn other, entry.1 ≠ addr := by
        simpa only [kept] using apart
      have later := ih restApart
      rw [kept] at later
      have here : out.filterMap (Delivery.secOf addr) =
          (if pkt.pid = pid then completed else []).flatMap fun c =>
          (sectionCbs c false (dmx.filtersOn pid)).filterMap (Delivery.secOf addr) := by
        split_ifs with own
        · rw [← own]
          exact delivered
        · refine delivered.trans (List.flatMap_eq_nil_iff.mpr fun c _ => ?_)
          exact sectionCbs_secOf_other c false _ (apart _ own)
      simp only [first, Option.bind_eq_bind, Option.bind_some, Option.pure_def]
      cases behind : receive mid rest with
      | none =>
        rw [behind] at later
        simp [Option.map_eq_none_iff.mp later.symm]
      | some last =>
        rw [behind] at later
        obtain ⟨sections, done, same⟩ := Option.map_eq_some_iff.mp later.symm
        simp [done, here, ← same]

end Completed

section Alike

structure Reception where
  addr : Nat
  pid : UInt16
  idle : Bool
  secData : Option (Nat → UInt8)
  secRecv : Nat

def PidFilter.reception (f : PidFilter) : Reception :=
  { f with idle := (f.filterList .sec).isEmpty }

structure SwDemux.Alike (dmx other : SwDemux D) : Prop where
  list : dmx.pidFilterList.map PidFilter.reception = other.pidFilterList.map PidFilter.reception
  next : dmx.next = other.next
  memory : dmx.memory = other.memory
  held : dmx.held = other.held

theorem SwDemux.Alike.symm (alike : dmx.Alike other) : other.Alike dmx :=
  ⟨alike.list.symm, alike.next.symm, alike.memory.symm, alike.held.symm⟩

theorem SwDemux.Alike.secBuffer (alike : dmx.Alike other) {f g : PidFilter}
    (same : f.reception = g.reception) {sec : Nat → UInt8}
    (given : secBuffer dmx f = some (sec, next)) :
    ∃ last, Demux.secBuffer other g = some (sec, last) ∧ next.Alike last := by
  have data : f.secData = g.secData := congrArg Reception.secData same
  cases has : f.secData with
  | some buffer =>
    simp only [Demux.secBuffer, has, Option.some.injEq, Prod.mk.injEq] at given
    obtain ⟨rfl, rfl⟩ := given
    exact ⟨other, by simp [Demux.secBuffer, ← data, has], alike⟩
  | none =>
    simp only [Demux.secBuffer, has, swdmxMalloc] at given
    by_cases full : dmx.memory = 0
    · simp [full] at given
    · simp only [full, if_false, Option.map_some, Option.some.injEq, Prod.mk.injEq] at given
      obtain ⟨rfl, rfl⟩ := given
      refine ⟨{ other with next := other.next + 1, memory := other.memory - 1 }, ?_, alike.list, ?_,
        ?_, alike.held⟩
      · simp [Demux.secBuffer, ← data, has, swdmxMalloc, ← alike.memory, full, alike.held, alike.next]
      · simp [alike.next]
      · simp [alike.memory]

theorem SwDemux.Alike.putSection (alike : dmx.Alike other) (addr : Nat) (s : SecState) :
    (dmx.putSection addr s).Alike (other.putSection addr s) := by
  have put (demux : SwDemux D) : (demux.putSection addr s).pidFilterList.map PidFilter.reception =
      (demux.pidFilterList.map PidFilter.reception).map fun r =>
        if r.addr = addr then { r with secData := some s.sec, secRecv := s.recv } else r := by
    simp only [SwDemux.putSection, List.map_map]
    congr 1
    funext f
    by_cases here : f.addr = addr <;> simp [PidFilter.reception, here]
  exact ⟨by rw [put, put, alike.list], alike.next, alike.memory, alike.held⟩

theorem SwDemux.Alike.packetCompletes (alike : dmx.Alike other) {completed : List SecState}
    (done : packetCompletes dmx pkt = some (next, completed)) :
    ∃ last, Demux.packetCompletes other pkt = some (last, completed) ∧ next.Alike last := by
  have found (demux : SwDemux D) :
      (demux.pidFilterList.find? fun f => pkt.pid == f.pid).map PidFilter.reception =
      (demux.pidFilterList.map PidFilter.reception).find? fun r => pkt.pid == r.pid := by
    simp [List.find?_map, Function.comp_def, PidFilter.reception]
  have present := (found dmx).trans (alike.list ▸ (found other).symm)
  unfold Demux.packetCompletes at done ⊢
  cases here : dmx.pidFilterList.find? fun f => pkt.pid == f.pid with
  | none =>
    rw [here] at done present
    cases done
    rw [Option.map_eq_none_iff.mp present.symm]
    exact ⟨other, rfl, alike⟩
  | some f =>
    rw [here] at done present
    obtain ⟨g, there, same⟩ := Option.map_eq_some_iff.mp present.symm
    rw [there]
    dsimp only at done ⊢
    have idleSame : g.Skips pkt ↔ f.Skips pkt := by
      unfold PidFilter.Skips
      rw [show (g.filterList .sec).isEmpty =
        (f.filterList .sec).isEmpty from congrArg Reception.idle same]
    by_cases idle : f.Skips pkt
    · rw [completedBy_idle idle] at done
      cases done
      exact ⟨other, completedBy_idle (idleSame.mpr idle), alike⟩
    · obtain ⟨payload, carries, parts⟩ := completedBy_payload dmx idle
      obtain ⟨_, again, otherParts⟩ := completedBy_payload other (idleSame.not.mpr idle)
      cases carries.symm.trans again
      rw [parts] at done
      obtain ⟨⟨sec, mid⟩, buffer, done⟩ := Option.bind_eq_some_iff.mp done
      obtain ⟨⟨s, sections⟩, received, same'⟩ := Option.map_eq_some_iff.mp done
      cases same'
      obtain ⟨last, otherBuffer, stays⟩ := alike.secBuffer same.symm buffer
      refine ⟨last.putSection g.addr s, ?_, ?_⟩
      · rw [otherParts, otherBuffer, Option.bind_some,
          show g.secRecv = f.secRecv from congrArg Reception.secRecv same]
        exact Option.map_eq_some_iff.mpr ⟨_, received, rfl⟩
      · rw [show g.addr = f.addr from congrArg Reception.addr same]
        exact stays.putSection f.addr s

theorem SwDemux.Alike.sectionsOn (alike : dmx.Alike other) (pid : UInt16) (pkts : List TsPacket) :
    sectionsOn pid dmx pkts = Demux.sectionsOn pid other pkts := by
  induction pkts generalizing dmx other with
  | nil => rfl
  | cons pkt rest ih =>
    unfold Demux.sectionsOn
    cases parts : Demux.packetCompletes dmx pkt with
    | some result =>
      obtain ⟨last, same, stays⟩ := alike.packetCompletes parts
      simp [same, ih stays]
    | none =>
      cases otherParts : Demux.packetCompletes other pkt with
      | none => rfl
      | some result =>
        obtain ⟨last, same, -⟩ := alike.symm.packetCompletes otherParts
        cases parts.symm.trans same

end Alike

section Alone

def SwDemux.othersOn (dmx : SwDemux D) (addr : Nat) (pid : UInt16) : List Nat :=
  ((dmx.filtersOn pid).map Prod.fst).filter fun place => place ≠ addr

def SwDemux.alone (dmx : SwDemux D) (addr : Nat) (pid : UInt16) : SwDemux D :=
  run FilterOp.step dmx ((dmx.othersOn addr pid).map FilterOp.disable)

variable {filter : Filter D}

theorem SwDemux.Tabled.find_pid (tabled : dmx.Tabled none) {f : PidFilter}
    (mem : f ∈ dmx.pidFilterList) :
    dmx.pidFilterList.find? (fun g => f.pid == g.pid) = some f := by
  cases present : dmx.pidFilterList.find? fun g => f.pid == g.pid with
  | none => simpa using List.find?_eq_none.mp present f mem
  | some g =>
    have same : f.pid = g.pid := by simpa using List.find?_some present
    rw [tabled.same_of_pid mem (List.mem_of_find?_eq_some present) same]

theorem mem_filtersOn {entry : Nat × Filter D} (tabled : dmx.Tabled none)
    (mem : entry ∈ dmx.filtersOn pid) :
    dmx.filters entry.1 = some entry.2 ∧ entry.2.Runs .sec pid := by
  unfold SwDemux.filtersOn at mem
  cases present : dmx.pidFilterList.find? fun f => pid == f.pid with
  | none => simp [present] at mem
  | some f =>
    have own : pid = f.pid := by simpa using List.find?_some present
    simp only [present, Option.map_some, Option.getD_some, SwDemux.filtersOf, List.mem_filterMap] at mem
    obtain ⟨place, inList, stored⟩ := mem
    obtain ⟨stored, found, rfl⟩ := Option.map_eq_some_iff.mp stored
    obtain ⟨_, again, runs⟩ :=
      (tabled.linked f (List.mem_of_find?_eq_some present) .sec place).mp inList
    cases found.symm.trans again
    exact ⟨found, own ▸ runs⟩

structure Leaves (addr : Nat) (dmx next : SwDemux D) : Prop where
  tabled : next.Tabled none
  alike : dmx.Alike next
  kept : next.filters addr = dmx.filters addr
  fewer : ∀ place stored, next.filters place = some stored → stored.state = .run →
    dmx.filters place = some stored

theorem Leaves.refl (tabled : dmx.Tabled none) : Leaves addr dmx dmx :=
  ⟨tabled, ⟨rfl, rfl, rfl, rfl⟩, rfl, fun _ _ found _ => found⟩

theorem Leaves.trans (first : Leaves addr dmx next) (second : Leaves addr next other) :
    Leaves addr dmx other where
  tabled := second.tabled
  alike := ⟨first.alike.list.trans second.alike.list, first.alike.next.trans second.alike.next,
    first.alike.memory.trans second.alike.memory, first.alike.held.trans second.alike.held⟩
  kept := second.kept.trans first.kept
  fewer place stored found running :=
    first.fewer place stored (second.fewer place stored found running) running

theorem unlink_stays (tabled : dmx.Tabled none) {f : PidFilter} (mem : f ∈ dmx.pidFilterList)
    {place : Nat} (still : (f.filterList .sec).erase place ≠ []) :
    pidFilterRemove (dmx.unlink place) f.addr = dmx.unlink place := by
  have used : ∀ g ∈ (dmx.unlink place).pidFilterList, (!(g.addr == f.addr && g.isEmpty)) = true := by
    intro g gMem
    obtain ⟨old, oldMem, rfl⟩ := List.mem_map.mp gMem
    by_cases same : old.addr = f.addr
    · rw [tabled.same_of_addr oldMem mem same]
      simp [PidFilter.isEmpty, PidFilter.unlink, still]
    · simp [PidFilter.unlink, same]
  unfold pidFilterRemove
  rw [List.filter_eq_self.mpr used]

theorem unlink_receptions (tabled : dmx.Tabled none) {f : PidFilter} (mem : f ∈ dmx.pidFilterList)
    {place : Nat} (still : (f.filterList .sec).erase place ≠ []) {stored : Filter D}
    (there : dmx.filters place = some stored) (here : f.pid = stored.params.pid) :
    (dmx.unlink place).pidFilterList.map PidFilter.reception =
      dmx.pidFilterList.map PidFilter.reception := by
  simp only [SwDemux.unlink, List.map_map]
  refine List.map_congr_left fun g gMem => ?_
  have emptySame : ((g.filterList .sec).erase place).isEmpty = (g.filterList .sec).isEmpty := by
    by_cases same : g.addr = f.addr
    · rw [tabled.same_of_addr gMem mem same, List.isEmpty_eq_false_iff.mpr still,
        List.isEmpty_eq_false_iff.mpr fun none_ => still (by rw [none_, List.erase_nil])]
    · rw [List.erase_of_not_mem]
      intro inList
      obtain ⟨_, again, -, -, gPid⟩ := (tabled.linked g gMem .sec place).mp inList
      cases there.symm.trans again
      exact same (congrArg PidFilter.addr (tabled.same_of_pid gMem mem (gPid.symm.trans here.symm)))
  simp [PidFilter.reception, PidFilter.unlink, emptySame]

theorem disable_none {place : Nat}
    (idle : ∀ stored, dmx.filters place = some stored → stored.state ≠ .run) :
    (FilterOp.disable place).step dmx = dmx := by
  cases there : dmx.filters place with
  | none => simp [FilterOp.step, FilterOp.apply, filterDisable, there]
  | some stored => simp [FilterOp.step, FilterOp.apply, filterDisable, there, idle stored there]

theorem disable_leaves (tabled : dmx.Tabled none) (found : dmx.filters addr = some filter)
    (runs : filter.Runs .sec pid) {place : Nat} (apart : place ≠ addr)
    (own : ∀ stored, dmx.filters place = some stored → stored.state = .run → stored.Runs .sec pid) :
    Leaves addr dmx ((FilterOp.disable place).step dmx) ∧
      ∀ stored, ((FilterOp.disable place).step dmx).filters place = some stored →
        stored.state ≠ .run := by
  by_cases idle : ∀ stored, dmx.filters place = some stored → stored.state ≠ .run
  · rw [disable_none idle]
    exact ⟨Leaves.refl tabled, idle⟩
  · push Not at idle
    obtain ⟨stored, there, running⟩ := idle
    obtain ⟨f, mem, designated, here⟩ := tabled.designates place stored there running
    obtain ⟨kind, -, pid_⟩ := own stored there running
    have linked : addr ∈ f.filterList .sec :=
      (tabled.linked f mem .sec addr).mpr ⟨filter, found, runs.1, runs.2.1,
        by rw [runs.2.2, here, pid_]⟩
    have still := List.ne_nil_of_mem ((List.mem_erase_of_ne apart.symm).mpr linked)
    have stopped : (FilterOp.disable place).step dmx =
        (dmx.unlink place).store place { stored with pidFilter := none, state := .set } := by
      simp [FilterOp.step, FilterOp.apply, filterDisable, there, running, leavePidFilter, designated,
        unlink_stays tabled mem still]
    refine ⟨⟨FilterOp.step_tabled dmx _ tabled, ⟨?_, ?_, ?_, ?_⟩, ?_, ?_⟩, ?_⟩
    · rw [stopped]
      exact (unlink_receptions tabled mem still there here).symm
    · rw [stopped]; rfl
    · rw [stopped]; rfl
    · rw [stopped]; rfl
    · rw [stopped]
      exact Function.update_of_ne apart.symm _ _
    · intro other last was runs
      rw [stopped] at was
      simp only [SwDemux.store, SwDemux.unlink] at was
      by_cases same : other = place
      · rw [same, Function.update_self] at was
        cases was
        cases runs
      · rwa [Function.update_of_ne same] at was
    · intro last was
      rw [stopped] at was
      simp only [SwDemux.store, Function.update_self] at was
      cases was
      simp

theorem disables_leave (tabled : dmx.Tabled none) (found : dmx.filters addr = some filter)
    (runs : filter.Runs .sec pid) (places : List Nat) (apart : ∀ place ∈ places, place ≠ addr)
    (own : ∀ place ∈ places, ∀ stored, dmx.filters place = some stored → stored.state = .run →
      stored.Runs .sec pid) :
    Leaves addr dmx (run FilterOp.step dmx (places.map FilterOp.disable)) ∧
      ∀ place ∈ places, ∀ stored,
        (run FilterOp.step dmx (places.map FilterOp.disable)).filters place = some stored →
          stored.state ≠ .run := by
  induction places generalizing dmx with
  | nil => exact ⟨Leaves.refl tabled, nofun⟩
  | cons place rest ih =>
    obtain ⟨leaves, stopped⟩ := disable_leaves tabled found runs (apart place List.mem_cons_self)
      (own place List.mem_cons_self)
    obtain ⟨behind, others⟩ := ih leaves.tabled (leaves.kept.trans found)
      (fun other mem => apart other (List.mem_cons_of_mem _ mem)) fun other mem stored there running =>
        own other (List.mem_cons_of_mem _ mem) stored (leaves.fewer other stored there running) running
    refine ⟨leaves.trans behind, fun other mem stored there running => ?_⟩
    rcases List.mem_cons.mp mem with rfl | later
    · exact stopped stored (behind.fewer other stored there running) running
    · exact others other later stored there running

theorem alone_leaves (tabled : dmx.Tabled none) (found : dmx.filters addr = some filter)
    (runs : filter.Runs .sec pid) :
    Leaves addr dmx (dmx.alone addr pid) ∧
      ∀ place ≠ addr, ∀ stored, (dmx.alone addr pid).filters place = some stored →
        ¬stored.Runs .sec pid := by
  have others : ∀ place ∈ dmx.othersOn addr pid, place ≠ addr ∧ ∃ stored,
      (place, stored) ∈ dmx.filtersOn pid := by
    intro place mem
    simpa [SwDemux.othersOn, and_comm] using mem
  obtain ⟨leaves, stopped⟩ := disables_leave tabled found runs (dmx.othersOn addr pid)
    (fun place mem => (others place mem).1) fun place mem stored there _ => by
      obtain ⟨-, listed, isListed⟩ := others place mem
      obtain ⟨again, runs⟩ := mem_filtersOn tabled isListed
      cases there.symm.trans again
      exact runs
  refine ⟨leaves, fun place apart stored there alsoRuns => ?_⟩
  have before := leaves.fewer place stored there alsoRuns.2.1
  refine stopped place ?_ stored there alsoRuns.2.1
  obtain ⟨f, mem, -, here⟩ := tabled.designates place stored before alsoRuns.2.1
  obtain ⟨kind, running, pid_⟩ := alsoRuns
  have listed : (place, stored) ∈ dmx.filtersOn pid := by
    rw [← pid_, ← here, SwDemux.filtersOn, tabled.find_pid mem]
    exact List.mem_filterMap.mpr ⟨place,
      (tabled.linked f mem .sec place).mpr ⟨stored, before, kind, running, here.symm⟩,
      by simp [before]⟩
  simpa [SwDemux.othersOn, apart] using ⟨stored, listed⟩

end Alone

section Isolation

variable {filter : Filter D}

theorem passesCrc_append (bytes : List UInt8) (before : List (Nat × Filter D))
    (entry : Nat × Filter D) :
    PassesCrc bytes (before ++ [entry]) ↔ PassesCrc bytes before ∧
      (swdmxCrc32 bytes = 0 ∨ entry.2.params.crc32 = false) := by
  unfold PassesCrc
  by_cases free : swdmxCrc32 bytes = 0
  · simp [free]
  · simp [free, or_imp, forall_and]

theorem filtersOn_splits (tabled : dmx.Tabled none) (found : dmx.filters addr = some filter)
    (runs : filter.Runs .sec pid) :
    ∃ after, dmx.filtersOn pid = dmx.sectionFiltersBefore addr ++ (addr, filter) :: after ∧
      ∀ entry ∈ dmx.sectionFiltersBefore addr ++ after, entry.1 ≠ addr := by
  obtain ⟨f, mem, -, here⟩ := tabled.designates addr filter found runs.2.1
  rw [← runs.2.2, ← here, SwDemux.filtersOn, tabled.find_pid mem]
  exact tabled.splits mem found ⟨runs.1, runs.2.1, here.symm⟩

theorem filtersOn_alone (tabled : dmx.Tabled none) (found : dmx.filters addr = some filter)
    (runs : filter.Runs .sec pid) :
    (dmx.alone addr pid).filtersOn pid = [(addr, filter)] := by
  obtain ⟨leaves, stopped⟩ := alone_leaves tabled found runs
  obtain ⟨after, split, once⟩ := filtersOn_splits leaves.tabled (leaves.kept.trans found) runs
  have no_other : ∀ entry ∈ (dmx.alone addr pid).sectionFiltersBefore addr ++ after, False := by
    intro entry mem
    have listed : entry ∈ (dmx.alone addr pid).filtersOn pid := by
      rw [split]
      rcases List.mem_append.mp mem with before | behind
      · exact List.mem_append_left _ before
      · exact List.mem_append_right _ (List.mem_cons_of_mem _ behind)
    obtain ⟨stored, runs⟩ := mem_filtersOn leaves.tabled listed
    exact stopped _ (once entry mem) _ stored runs
  obtain ⟨none_, last⟩ := List.append_eq_nil_iff.mp (List.eq_nil_iff_forall_not_mem.mpr no_other)
  rw [split, none_, last, List.nil_append]

def passedOn (filter : Filter D) (before : List (Nat × Filter D)) (c : SecState) :
    List (D × List UInt8) :=
  if PassesCrc c.bytes before ∧ (swdmxCrc32 c.bytes = 0 ∨ filter.params.crc32 = false) ∧
    secFilterMatch c.sec filter = true then
    filter.cbList.map fun cb => (cb, c.bytes)
  else []

theorem receive_passedOn (tabled : dmx.Tabled none) (found : dmx.filters addr = some filter)
    (runs : filter.Runs .sec pid) (pkts : List TsPacket) :
    (receive dmx pkts).map (fun done => done.2.filterMap (Delivery.secOf addr)) =
      (sectionsOn pid dmx pkts).map
        (List.flatMap (passedOn filter (dmx.sectionFiltersBefore addr))) := by
  have apart : ∀ other ≠ pid, ∀ entry ∈ dmx.filtersOn other, entry.1 ≠ addr := by
    rintro other moved entry mem rfl
    obtain ⟨again, otherRuns⟩ := mem_filtersOn tabled mem
    cases found.symm.trans again
    exact moved (otherRuns.2.2.symm.trans runs.2.2)
  obtain ⟨after, split, once⟩ := filtersOn_splits tabled found runs
  rw [receive_secOf apart]
  congr 1
  funext completed
  congr 1
  funext c
  rw [split, sectionCbs_secOf_any c false _ after once nofun]
  exact if_congr (by rw [passesCrc_append, and_assoc]) rfl rfl

theorem passesCrc_nil (bytes : List UInt8) : PassesCrc bytes ([] : List (Nat × Filter D)) :=
  .inr (by simp)

theorem passedOn_passes (filter : Filter D) {before : List (Nat × Filter D)} {c : SecState}
    (passes : PassesCrc c.bytes before) : passedOn filter before c = passedOn filter [] c :=
  if_congr (and_congr_left' (iff_of_true passes (passesCrc_nil _))) rfl rfl

theorem passedOn_part (filter : Filter D) (before : List (Nat × Filter D)) (c : SecState) :
    passedOn filter before c = passedOn filter [] c ∨ passedOn filter before c = [] := by
  by_cases passes : PassesCrc c.bytes before
  · exact .inl (passedOn_passes filter passes)
  · exact .inr (if_neg fun all => passes all.1)

theorem passedOn_eq_iff (filter : Filter D) (before : List (Nat × Filter D)) (c : SecState) :
    passedOn filter before c = passedOn filter [] c ↔
      (filter.cbList = [] ∨ filter.params.crc32 = true ∨ ¬secFilterMatch c.sec filter = true) ∨
        PassesCrc c.bytes before := by
  by_cases passes : PassesCrc c.bytes before
  · exact iff_of_true (passedOn_passes filter passes) (.inr passes)
  · have broken : swdmxCrc32 c.bytes ≠ 0 := fun free => passes (.inl free)
    have nothing : passedOn filter before c = [] := if_neg fun all => passes all.1
    rw [nothing, eq_comm, passedOn]
    simp only [passes, or_false, passesCrc_nil, true_and, broken, false_or]
    by_cases checks : filter.params.crc32 = true <;>
      by_cases matched : secFilterMatch c.sec filter = true <;>
      simp [checks, matched]

theorem flatMap_eq_iff_forall {A B : Type} (list : List A) (less more : A → List B)
    (part : ∀ a, less a = more a ∨ less a = []) :
    list.flatMap less = list.flatMap more ↔ ∀ a ∈ list, less a = more a := by
  have bounded : ∀ list : List A, (list.flatMap less).length ≤ (list.flatMap more).length := by
    intro list
    induction list with
    | nil => simp
    | cons a rest ih =>
      rcases part a with same | nothing
      · simpa [same] using ih
      · simp only [List.flatMap_cons, nothing, List.nil_append, List.length_append]
        omega
  induction list with
  | nil => simp
  | cons a rest ih =>
    simp only [List.flatMap_cons, List.forall_mem_cons]
    constructor
    · intro same
      have here : less a = more a := by
        rcases part a with same_ | nothing
        · exact same_
        · have lengths := congrArg List.length same
          have rests := bounded rest
          simp only [nothing, List.nil_append, List.length_append] at lengths
          rw [nothing]
          exact (List.eq_nil_of_length_eq_zero (by omega)).symm
      exact ⟨here, ih.mp (List.append_cancel_left (here ▸ same))⟩
    · rintro ⟨here, rest⟩
      rw [here, ih.mpr rest]

theorem section_filter_isolated_iff (memory : Nat) (held : Nat → Nat → UInt8)
    (history : List (DemuxOp D)) (addr : Nat) (filter : Filter D)
    (found : (reached memory held history).filters addr = some filter) (kind : filter.kind = .sec)
    (running : filter.state = .run) (pkts : List TsPacket) :
    (receive (reached memory held history) pkts).map (fun done =>
      done.2.filterMap (Delivery.secOf addr)) =
        (receive ((reached memory held history).alone addr filter.params.pid) pkts).map
          (fun done => done.2.filterMap (Delivery.secOf addr)) ↔
      filter.cbList = [] ∨ filter.params.crc32 = true ∨
        ∀ completed ∈ sectionsOn filter.params.pid (reached memory held history) pkts, ∀ c ∈ completed,
          secFilterMatch c.sec filter = true →
            PassesCrc c.bytes ((reached memory held history).sectionFiltersBefore addr) := by
  have tabled := reached_tabled memory held history
  generalize reached memory held history = dmx at *
  have runs : filter.Runs .sec filter.params.pid := ⟨kind, running, rfl⟩
  obtain ⟨leaves, -⟩ := alone_leaves tabled found runs
  have nobody : (dmx.alone addr filter.params.pid).sectionFiltersBefore addr = [] := by
    obtain ⟨after, split, -⟩ := filtersOn_splits leaves.tabled (leaves.kept.trans found) runs
    have lengths := congrArg List.length (split.symm.trans (filtersOn_alone tabled found runs))
    simp only [List.length_append, List.length_cons, List.length_nil] at lengths
    exact List.eq_nil_of_length_eq_zero (by omega)
  rw [receive_passedOn tabled found runs,
    receive_passedOn leaves.tabled (leaves.kept.trans found) runs, nobody,
    ← leaves.alike.sectionsOn]
  cases sectionsOn filter.params.pid dmx pkts with
  | none => simp
  | some completed =>
    simp only [Option.map_some, Option.some.injEq, Option.mem_def, forall_eq']
    rw [flatMap_eq_iff_forall _ _ _ (passedOn_part filter _)]
    simp only [passedOn_eq_iff]
    constructor
    · intro each
      by_cases calls : filter.cbList = []
      · exact .inl calls
      by_cases checks : filter.params.crc32 = true
      · exact .inr (.inl checks)
      · exact .inr (.inr fun c mem matched => (each c mem).resolve_left fun either =>
          either.elim calls (·.elim checks (· matched)))
    · rintro (none_ | checks | passes) c mem
      · exact .inl (.inl none_)
      · exact .inl (.inr (.inl checks))
      · by_cases matched : secFilterMatch c.sec filter = true
        · exact .inr (passes c mem matched)
        · exact .inl (.inr (.inr matched))

theorem section_filter_not_isolated :
    ∃ filter, (reached 9 (fun _ _ => 0) (listen 0 true ++ listen 3 false)).filters 3 = some filter ∧
      filter.kind = .sec ∧
      filter.state = .run ∧
      (receive (reached 9 (fun _ _ => 0) (listen 0 true ++ listen 3 false))
        (plainPath.packets [onePacket.bytes])).map
          (fun done => done.2.filterMap (Delivery.secOf 3)) = some [] ∧
      (receive ((reached 9 (fun _ _ => 0) (listen 0 true ++ listen 3 false)).alone 3 filter.params.pid)
          (plainPath.packets [onePacket.bytes])).map
          (fun done => done.2.filterMap (Delivery.secOf 3)) = some [((), [0, 0, 0])] :=
  ⟨_, rfl, rfl, rfl, by decide +kernel, by decide +kernel⟩

theorem section_filter_isolated_before_check :
    ∃ filter, (reached 9 (fun _ _ => 0) (listen 0 false ++ listen 3 true)).filters 0 = some filter ∧
      (receive (reached 9 (fun _ _ => 0) (listen 0 false ++ listen 3 true))
        (plainPath.packets [onePacket.bytes])).map
          (fun done => done.2.filterMap (Delivery.secOf 0)) =
        (receive ((reached 9 (fun _ _ => 0) (listen 0 false ++ listen 3 true)).alone 0
          filter.params.pid)
          (plainPath.packets [onePacket.bytes])).map (fun done =>
            done.2.filterMap (Delivery.secOf 0)) :=
  ⟨_, rfl, (section_filter_isolated_iff 9 _ _ 0 _ rfl rfl rfl _).mpr
    (.inr (.inr fun _ _ c _ _ => .inr (by
      have nobody : (reached 9 (fun _ _ => 0)
          (listen 0 false ++ listen 3 true)).sectionFiltersBefore 0 = [] := rfl
      simp [nobody])))⟩

end Isolation

end UnionpiTiger.Demux
