import UnionpiTiger.Demux.Section
import UnionpiTiger.Lib.Run
import Mathlib.Algebra.BigOperators.Group.List.Basic

set_option autoImplicit false

namespace UnionpiTiger.Demux

open Lib

variable {D : Type}

def Filter.Runs (filter : Filter D) (kind : FilterKind) (pid : UInt16) : Prop :=
  filter.kind = kind ∧ filter.state = .run ∧ filter.params.pid = pid

def PidFilter.Safe (f : PidFilter) : Prop :=
  f.secData = none ∧ f.secRecv = 0 ∨
    ∃ sec, f.secData = some sec ∧ SecState.Safe { sec, recv := f.secRecv }

structure SwDemux.Tabled (dmx : SwDemux D) (spare : Option UInt16) : Prop where
  fresh : ∀ addr, dmx.next ≤ addr → dmx.filters addr = none
  placed : ∀ f ∈ dmx.pidFilterList, f.addr < dmx.next
  addrs : (dmx.pidFilterList.map PidFilter.addr).Nodup
  pids : (dmx.pidFilterList.map PidFilter.pid).Nodup
  lists : ∀ f ∈ dmx.pidFilterList, ∀ kind, (f.filterList kind).Nodup
  linked : ∀ f ∈ dmx.pidFilterList, ∀ kind addr,
    addr ∈ f.filterList kind ↔ ∃ filter, dmx.filters addr = some filter ∧ filter.Runs kind f.pid
  designates : ∀ addr filter, dmx.filters addr = some filter → filter.state = .run →
    ∃ f ∈ dmx.pidFilterList, filter.pidFilter = some f.addr ∧ f.pid = filter.params.pid
  used : ∀ f ∈ dmx.pidFilterList, spare = some f.pid ∨ ∃ kind addr, addr ∈ f.filterList kind
  received : ∀ f ∈ dmx.pidFilterList, f.Safe

namespace SwDemux.Tabled

variable {dmx : SwDemux D} {spare : Option UInt16} {pid : UInt16}

theorem new (memory : Nat) (held : Nat → Nat → UInt8) :
    (swdmxDemuxNew (D := D) memory held).Tabled none where
  fresh _ _ := rfl
  placed _ mem := nomatch mem
  addrs := List.nodup_nil
  pids := List.nodup_nil
  lists _ mem := nomatch mem
  linked _ mem := nomatch mem
  designates _ _ found := nomatch found
  used _ mem := nomatch mem
  received _ mem := nomatch mem

theorem same_of_pid (tabled : dmx.Tabled spare) {f g : PidFilter} (fMem : f ∈ dmx.pidFilterList)
    (gMem : g ∈ dmx.pidFilterList) (pid : f.pid = g.pid) : f = g :=
  List.inj_on_of_nodup_map tabled.pids fMem gMem pid

theorem same_of_addr (tabled : dmx.Tabled spare) {f g : PidFilter} (fMem : f ∈ dmx.pidFilterList)
    (gMem : g ∈ dmx.pidFilterList) (addr : f.addr = g.addr) : f = g :=
  List.inj_on_of_nodup_map tabled.addrs fMem gMem addr

theorem lt_next (tabled : dmx.Tabled spare) {addr : Nat} {filter : Filter D}
    (found : dmx.filters addr = some filter) : addr < dmx.next := by
  by_contra beyond
  rw [tabled.fresh addr (Nat.not_lt.mp beyond)] at found
  cases found

theorem malloc (tabled : dmx.Tabled spare) {addr : Nat} {next : SwDemux D}
    (given : swdmxMalloc dmx = some (addr, next)) :
    next.Tabled spare ∧ addr = dmx.next ∧ next.next = dmx.next + 1 ∧
      next.pidFilterList = dmx.pidFilterList ∧ next.filters = dmx.filters := by
  unfold swdmxMalloc at given
  split at given
  · cases given
  · cases given
    exact ⟨{ tabled with
      fresh := fun addr beyond => tabled.fresh addr (Nat.le_of_succ_le beyond)
      placed := fun f mem => Nat.lt_succ_of_lt (tabled.placed f mem) }, rfl, rfl, rfl, rfl⟩

theorem store_alike (tabled : dmx.Tabled spare) {addr : Nat} {filter other : Filter D}
    (found : dmx.filters addr = some filter)
    (alike : ∀ kind pid, other.Runs kind pid ↔ filter.Runs kind pid)
    (same : other.pidFilter = filter.pidFilter) : (dmx.store addr other).Tabled spare :=
  { tabled with
    fresh := by
      intro place beyond
      have apart : place ≠ addr := fun eq => by
        rw [eq] at beyond
        exact absurd (tabled.lt_next found) (Nat.not_lt.mpr beyond)
      show Function.update dmx.filters addr (some other) place = none
      rw [Function.update_of_ne apart]
      exact tabled.fresh place beyond
    linked := by
      intro f mem kind place
      rw [tabled.linked f mem kind place]
      by_cases here : place = addr
      · subst here
        show _ ↔ ∃ new, Function.update dmx.filters place (some other) place = some new ∧ _
        rw [Function.update_self, found]
        constructor
        · rintro ⟨_, ⟨⟩, runs⟩
          exact ⟨other, rfl, (alike kind f.pid).mpr runs⟩
        · rintro ⟨_, ⟨⟩, runs⟩
          exact ⟨filter, rfl, (alike kind f.pid).mp runs⟩
      · show _ ↔ ∃ new, Function.update dmx.filters addr (some other) place = some new ∧ _
        rw [Function.update_of_ne here]
    designates := by
      intro place new stored running
      replace stored : Function.update dmx.filters addr (some other) place = some new := stored
      by_cases here : place = addr
      · subst here
        rw [Function.update_self] at stored
        cases stored
        obtain ⟨-, state, pid⟩ := (alike other.kind other.params.pid).mp ⟨rfl, running, rfl⟩
        rw [same, ← pid]
        exact tabled.designates place filter found state
      · rw [Function.update_of_ne here] at stored
        exact tabled.designates place new stored running }

theorem pidFilterGet (tabled : dmx.Tabled none) {addr : Nat} {next : SwDemux D}
    (got : Demux.pidFilterGet dmx pid = some (addr, next)) :
    next.Tabled (some pid) ∧ next.filters = dmx.filters ∧
      ∃ f ∈ next.pidFilterList, f.addr = addr ∧ f.pid = pid := by
  unfold Demux.pidFilterGet at got
  split at got
  case h_1 f present =>
    cases got
    have known : f.pid = pid := by simpa using List.find?_some present
    refine ⟨{ tabled with used := fun g mem => ?_ }, rfl, f, List.mem_of_find?_eq_some present, rfl,
      known⟩
    exact Or.inr ((tabled.used g mem).resolve_left nofun)
  case h_2 absent =>
    obtain ⟨⟨place, later⟩, given, rest⟩ := Option.map_eq_some_iff.mp got
    obtain ⟨allocated, rfl, nextEq, listEq, filtersEq⟩ := tabled.malloc given
    cases rest
    have other : ∀ f ∈ dmx.pidFilterList, f.pid ≠ pid := by simpa using absent
    rw [listEq]
    refine ⟨?_, filtersEq, _, List.mem_append_right _ List.mem_cons_self, rfl, rfl⟩
    constructor
    case fresh => exact allocated.fresh
    case placed =>
      intro f mem
      show f.addr < later.next
      rw [nextEq]
      rcases List.mem_append.mp mem with old | new
      · exact Nat.lt_succ_of_lt (tabled.placed f old)
      · rw [List.mem_singleton.mp new]
        exact Nat.lt_succ_self _
    case addrs =>
      show List.Nodup (List.map PidFilter.addr (_ ++ [_]))
      rw [List.map_append, List.nodup_append]
      refine ⟨tabled.addrs, List.nodup_singleton _, ?_⟩
      rintro _ old _ new rfl
      obtain ⟨f, mem, eq⟩ := List.mem_map.mp old
      exact absurd (tabled.placed f mem) (by rw [eq, List.mem_singleton.mp new]; exact Nat.lt_irrefl _)
    case pids =>
      show List.Nodup (List.map PidFilter.pid (_ ++ [_]))
      rw [List.map_append, List.nodup_append]
      refine ⟨tabled.pids, List.nodup_singleton _, ?_⟩
      rintro _ old _ new rfl
      obtain ⟨f, mem, eq⟩ := List.mem_map.mp old
      exact other f mem (eq.trans (List.mem_singleton.mp new))
    case lists =>
      intro f mem kind
      rcases List.mem_append.mp mem with old | new
      · exact tabled.lists f old kind
      · rw [List.mem_singleton.mp new]
        exact List.nodup_nil
    case linked =>
      intro f mem kind addr
      show _ ↔ ∃ filter, later.filters addr = some filter ∧ _
      rw [filtersEq]
      rcases List.mem_append.mp mem with old | new
      · exact tabled.linked f old kind addr
      · rw [List.mem_singleton.mp new]
        constructor
        · intro empty
          cases empty
        · rintro ⟨filter, found, -, running, sets⟩
          obtain ⟨g, old, -, same⟩ := tabled.designates addr filter found running
          exact absurd (same.trans sets) (other g old)
    case designates =>
      intro addr filter found running
      replace found : later.filters addr = some filter := found
      rw [filtersEq] at found
      obtain ⟨f, old, here⟩ := tabled.designates addr filter found running
      exact ⟨f, List.mem_append_left _ old, here⟩
    case used =>
      intro f mem
      rcases List.mem_append.mp mem with old | new
      · exact Or.inr ((tabled.used f old).resolve_left nofun)
      · rw [List.mem_singleton.mp new]
        exact Or.inl rfl
    case received =>
      intro f mem
      rcases List.mem_append.mp mem with old | new
      · exact tabled.received f old
      · rw [List.mem_singleton.mp new]
        exact Or.inl ⟨rfl, rfl⟩

theorem map_addr {change : PidFilter → PidFilter} (addr : ∀ f, (change f).addr = f.addr)
    (list : List PidFilter) :
    (list.map change).map PidFilter.addr = list.map PidFilter.addr := by
  rw [List.map_map]
  exact List.map_congr_left fun f _ => addr f

theorem map_pid {change : PidFilter → PidFilter} (pid : ∀ f, (change f).pid = f.pid)
    (list : List PidFilter) :
    (list.map change).map PidFilter.pid = list.map PidFilter.pid := by
  rw [List.map_map]
  exact List.map_congr_left fun f _ => pid f

theorem mem_append (kind : FilterKind) (addr : Nat) (f : PidFilter) (other : FilterKind)
    (place : Nat) :
    place ∈ (f.append kind addr).filterList other ↔
      place ∈ f.filterList other ∨ other = kind ∧ place = addr := by
  unfold PidFilter.append
  by_cases same : other = kind
  · subst same
    simp
  · simp [same]

theorem link (tabled : dmx.Tabled (some pid)) {f : PidFilter} (mem : f ∈ dmx.pidFilterList)
    {addr : Nat} {filter : Filter D} (within : addr < dmx.next)
    (idle : ∀ old, dmx.filters addr = some old → old.state ≠ .run) (running : filter.state = .run)
    (here : f.pid = pid) (sets : filter.params.pid = pid) :
    ((dmx.store addr { filter with pidFilter := some f.addr }).link filter.kind f.addr
      addr).Tabled none := by
  have keepsAddr : ∀ g : PidFilter,
      (if g.addr = f.addr then g.append filter.kind addr else g).addr = g.addr := fun g => by
    split_ifs <;> rfl
  have keepsPid : ∀ g : PidFilter,
      (if g.addr = f.addr then g.append filter.kind addr else g).pid = g.pid := fun g => by
    split_ifs <;> rfl
  have absent : ∀ g ∈ dmx.pidFilterList, ∀ kind, addr ∉ g.filterList kind := by
    intro g gMem kind linked
    obtain ⟨old, found, -, state, -⟩ := (tabled.linked g gMem kind addr).mp linked
    exact idle old found state
  constructor
  case fresh =>
    intro place beyond
    show Function.update dmx.filters addr _ place = none
    rw [Function.update_of_ne (Nat.ne_of_gt (Nat.lt_of_lt_of_le within beyond))]
    exact tabled.fresh place beyond
  case placed =>
    intro new newMem
    obtain ⟨g, gMem, rfl⟩ := List.mem_map.mp newMem
    rw [keepsAddr]
    exact tabled.placed g gMem
  case addrs => exact (map_addr keepsAddr _).symm ▸ tabled.addrs
  case pids => exact (map_pid keepsPid _).symm ▸ tabled.pids
  case lists =>
    intro new newMem kind
    obtain ⟨g, gMem, rfl⟩ := List.mem_map.mp newMem
    split_ifs
    · unfold PidFilter.append
      by_cases same : kind = filter.kind
      · subst same
        simp only [Function.update_self]
        refine List.nodup_append.mpr ⟨tabled.lists g gMem _, List.nodup_singleton _, ?_⟩
        rintro place old _ new rfl
        rw [List.mem_singleton.mp new] at old
        exact absent g gMem _ old
      · simp only [Function.update_of_ne same]
        exact tabled.lists g gMem kind
    · exact tabled.lists g gMem kind
  case linked =>
    intro new newMem kind place
    obtain ⟨g, gMem, rfl⟩ := List.mem_map.mp newMem
    rw [keepsPid]
    show _ ↔ ∃ stored, Function.update dmx.filters addr _ place = some stored ∧ _
    by_cases at_ : place = addr
    · subst at_
      rw [Function.update_self]
      constructor
      · intro linked
        split_ifs at linked with same
        · obtain rfl := tabled.same_of_addr gMem mem same
          rcases (mem_append _ _ _ _ _).mp linked with old | ⟨rfl, -⟩
          · exact absurd old (absent g gMem kind)
          · exact ⟨_, rfl, rfl, running, sets.trans here.symm⟩
        · exact absurd linked (absent g gMem kind)
      · rintro ⟨_, ⟨⟩, rfl, -, pidEq⟩
        obtain rfl := tabled.same_of_pid gMem mem
          (pidEq.symm.trans (sets.trans here.symm))
        rw [if_pos rfl]
        exact (mem_append _ _ _ _ _).mpr (Or.inr ⟨rfl, rfl⟩)
    · rw [Function.update_of_ne at_, ← tabled.linked g gMem kind place]
      split_ifs
      · rw [mem_append]
        exact or_iff_left fun both => at_ both.2
      · rfl
  case designates =>
    intro place stored found state
    replace found : Function.update dmx.filters addr _ place = some stored := found
    by_cases at_ : place = addr
    · subst at_
      rw [Function.update_self] at found
      cases found
      refine ⟨_, List.mem_map_of_mem mem, ?_, ?_⟩
      · rw [keepsAddr]
      · rw [keepsPid]
        exact here.trans sets.symm
    · rw [Function.update_of_ne at_] at found
      obtain ⟨g, gMem, designated, same⟩ := tabled.designates place stored found state
      refine ⟨_, List.mem_map_of_mem gMem, ?_, ?_⟩
      · rw [keepsAddr]
        exact designated
      · rw [keepsPid]
        exact same
  case used =>
    intro new newMem
    obtain ⟨g, gMem, rfl⟩ := List.mem_map.mp newMem
    right
    split_ifs with same
    · exact ⟨filter.kind, addr, (mem_append _ _ _ _ _).mpr (Or.inr ⟨rfl, rfl⟩)⟩
    · rcases tabled.used g gMem with spare | used
      · obtain rfl := tabled.same_of_pid gMem mem (by rw [here]; exact (Option.some.inj spare).symm)
        exact absurd rfl same
      · exact used
  case received =>
    intro new newMem
    obtain ⟨g, gMem, rfl⟩ := List.mem_map.mp newMem
    split_ifs <;> exact tabled.received g gMem

theorem unlink (tabled : dmx.Tabled none) {addr : Nat} {filter other : Filter D}
    (found : dmx.filters addr = some filter) (idle : other.state ≠ .run) :
    ((dmx.unlink addr).store addr other).Tabled (some filter.params.pid) := by
  have unlinked : ∀ g ∈ dmx.pidFilterList, ∀ kind place,
      place ∈ (g.unlink addr).filterList kind ↔ place ≠ addr ∧ place ∈ g.filterList kind :=
    fun g gMem kind place => (tabled.lists g gMem kind).mem_erase_iff
  constructor
  case fresh =>
    intro place beyond
    show Function.update dmx.filters addr _ place = none
    rw [Function.update_of_ne (Nat.ne_of_gt (Nat.lt_of_lt_of_le (tabled.lt_next found) beyond))]
    exact tabled.fresh place beyond
  case placed =>
    intro new newMem
    obtain ⟨g, gMem, rfl⟩ := List.mem_map.mp newMem
    exact tabled.placed g gMem
  case addrs => exact (map_addr (fun f => rfl : ∀ f : PidFilter,
    (f.unlink addr).addr = f.addr) _).symm ▸ tabled.addrs
  case pids => exact (map_pid (fun f => rfl : ∀ f : PidFilter,
    (f.unlink addr).pid = f.pid) _).symm ▸ tabled.pids
  case lists =>
    intro new newMem kind
    obtain ⟨g, gMem, rfl⟩ := List.mem_map.mp newMem
    exact (tabled.lists g gMem kind).erase addr
  case linked =>
    intro new newMem kind place
    obtain ⟨g, gMem, rfl⟩ := List.mem_map.mp newMem
    rw [unlinked g gMem]
    show _ ↔ ∃ stored, Function.update dmx.filters addr _ place = some stored ∧ _
    by_cases at_ : place = addr
    · subst at_
      rw [Function.update_self]
      constructor
      · rintro ⟨apart, -⟩
        exact absurd rfl apart
      · rintro ⟨_, ⟨⟩, -, state, -⟩
        exact absurd state idle
    · rw [Function.update_of_ne at_, tabled.linked g gMem kind place]
      exact and_iff_right at_
  case designates =>
    intro place stored found state
    replace found : Function.update dmx.filters addr _ place = some stored := found
    by_cases at_ : place = addr
    · subst at_
      rw [Function.update_self] at found
      cases found
      exact absurd state idle
    · rw [Function.update_of_ne at_] at found
      obtain ⟨g, gMem, designated⟩ := tabled.designates place stored found state
      exact ⟨_, List.mem_map_of_mem gMem, designated⟩
  case used =>
    intro new newMem
    obtain ⟨g, gMem, rfl⟩ := List.mem_map.mp newMem
    obtain ⟨kind, place, linked⟩ := (tabled.used g gMem).resolve_left nofun
    by_cases at_ : place = addr
    · subst at_
      obtain ⟨same, stored, -, -, pid⟩ := (tabled.linked g gMem kind place).mp linked
      rw [found] at stored
      cases stored
      exact Or.inl (congrArg some pid)
    · exact Or.inr ⟨kind, place, (unlinked g gMem kind place).mpr ⟨at_, linked⟩⟩
  case received =>
    intro new newMem
    obtain ⟨g, gMem, rfl⟩ := List.mem_map.mp newMem
    exact tabled.received g gMem

theorem isEmpty_iff (f : PidFilter) : f.isEmpty = true ↔ ∀ kind addr, addr ∉ f.filterList kind := by
  simp only [PidFilter.isEmpty, Bool.and_eq_true, List.isEmpty_iff, List.eq_nil_iff_forall_not_mem]
  constructor
  · rintro ⟨ts, sec⟩ kind
    cases kind with
    | ts => exact ts
    | sec => exact sec
  · exact fun empty => ⟨empty .ts, empty .sec⟩

theorem pidFilterRemove (tabled : dmx.Tabled (some pid)) {f : PidFilter}
    (mem : f ∈ dmx.pidFilterList) (here : f.pid = pid) :
    (Demux.pidFilterRemove dmx f.addr).Tabled none := by
  have kept : ∀ g, g ∈ (Demux.pidFilterRemove dmx f.addr).pidFilterList ↔
      g ∈ dmx.pidFilterList ∧ ¬(g.addr = f.addr ∧ g.isEmpty = true) := by
    intro g
    rw [Demux.pidFilterRemove, List.mem_filter, Bool.not_eq_true', Bool.and_eq_false_iff]
    by_cases same : g.addr = f.addr <;> simp [same]
  have within : List.Sublist (Demux.pidFilterRemove dmx f.addr).pidFilterList dmx.pidFilterList :=
    List.filter_sublist
  constructor
  case fresh => exact tabled.fresh
  case placed => exact fun g gMem => tabled.placed g ((kept g).mp gMem).1
  case addrs => exact tabled.addrs.sublist (within.map _)
  case pids => exact tabled.pids.sublist (within.map _)
  case lists => exact fun g gMem => tabled.lists g ((kept g).mp gMem).1
  case linked => exact fun g gMem => tabled.linked g ((kept g).mp gMem).1
  case designates =>
    intro addr filter found running
    obtain ⟨g, gMem, designated, same⟩ := tabled.designates addr filter found running
    refine ⟨g, (kept g).mpr ⟨gMem, fun gone => ?_⟩, designated, same⟩
    have linked := (tabled.linked g gMem filter.kind addr).mpr ⟨filter, found, rfl, running, same.symm⟩
    exact (isEmpty_iff g).mp gone.2 _ _ linked
  case used =>
    intro g gMem
    obtain ⟨old, stays⟩ := (kept g).mp gMem
    right
    rcases tabled.used g old with spare | used
    · obtain rfl := tabled.same_of_pid old mem (by rw [here]; exact (Option.some.inj spare).symm)
      by_contra unused
      exact stays ⟨rfl, (isEmpty_iff g).mpr fun kind addr linked => unused ⟨kind, addr, linked⟩⟩
    · exact used
  case received => exact fun g gMem => tabled.received g ((kept g).mp gMem).1

theorem join (tabled : dmx.Tabled none) {addr : Nat} {old filter : Filter D} {next : SwDemux D}
    (found : dmx.filters addr = some old) (idle : old.state ≠ .run) (running : filter.state = .run)
    (joined : joinPidFilter dmx addr filter = some next) : next.Tabled none := by
  obtain ⟨⟨place, got⟩, given, rfl⟩ := Option.map_eq_some_iff.mp joined
  obtain ⟨spared, filtersEq, f, mem, rfl, here⟩ := tabled.pidFilterGet given
  refine spared.link mem (spared.lt_next (filtersEq ▸ found)) ?_ running here rfl
  intro other same
  rw [filtersEq, found] at same
  cases same
  exact idle

theorem leave (tabled : dmx.Tabled none) (other : Filter D) {addr : Nat} {filter left : Filter D}
    {next : SwDemux D} (found : dmx.filters addr = some filter) (running : filter.state = .run)
    (idle : other.state ≠ .run) (gone : leavePidFilter dmx addr filter = some (next, left)) :
    (next.store addr other).Tabled none ∧ left = { filter with pidFilter := none } := by
  obtain ⟨place, was, same⟩ := Option.map_eq_some_iff.mp gone
  cases same
  obtain ⟨f, mem, designated, here⟩ := tabled.designates addr filter found running
  rw [designated] at was
  cases was
  have unlinked := tabled.unlink found idle
  exact ⟨unlinked.pidFilterRemove (f := f.unlink addr) (List.mem_map_of_mem mem) here, rfl⟩

theorem join_of_stored {dmx next : SwDemux D} {addr : Nat} (other : Filter D) {filter : Filter D}
    (joined : joinPidFilter dmx addr filter = some next) :
    joinPidFilter (dmx.store addr other) addr filter = some next := by
  have overwritten : ∀ filters : Nat → Option (Filter D), ∀ last : Filter D,
      Function.update (Function.update filters addr (some other)) addr (some last) =
        Function.update filters addr (some last) :=
    fun filters last => Function.update_idem _ _ _
  have given : Demux.pidFilterGet (dmx.store addr other) filter.params.pid =
      (Demux.pidFilterGet dmx filter.params.pid).map fun result =>
        (result.1, result.2.store addr other) := by
    unfold Demux.pidFilterGet swdmxMalloc SwDemux.store
    dsimp only
    cases dmx.pidFilterList.find? (·.pid == filter.params.pid) with
    | some f => rfl
    | none => split_ifs <;> rfl
  rw [joinPidFilter, given, Option.map_map, ← joined, joinPidFilter]
  congr 1
  funext ⟨place, got⟩
  simp only [Function.comp_apply, SwDemux.store, overwritten]

theorem allocFilter (tabled : dmx.Tabled none) {kind : FilterKind} {addr : Nat} {next : SwDemux D}
    (allocates : Demux.allocFilter kind dmx = some (addr, next)) : next.Tabled none := by
  obtain ⟨⟨place, got⟩, given, same⟩ := Option.map_eq_some_iff.mp allocates
  cases same
  obtain ⟨allocated, rfl, nextEq, listEq, filtersEq⟩ := tabled.malloc given
  have absent := tabled.fresh dmx.next (Nat.le_refl _)
  exact { allocated with
    fresh := by
      intro place beyond
      replace beyond : got.next ≤ place := beyond
      have later : dmx.next < place := by omega
      show Function.update got.filters dmx.next _ place = none
      rw [Function.update_of_ne (Nat.ne_of_gt later)]
      exact allocated.fresh place beyond
    linked := by
      intro f mem kind place
      rw [allocated.linked f mem kind place]
      show _ ↔ ∃ stored, Function.update got.filters dmx.next _ place = some stored ∧ _
      by_cases here : place = dmx.next
      · subst here
        rw [Function.update_self, filtersEq, absent]
        constructor
        · rintro ⟨_, ⟨⟩, _⟩
        · rintro ⟨_, ⟨⟩, -, state, -⟩
          cases state
      · rw [Function.update_of_ne here]
    designates := by
      intro place stored found running
      replace found : Function.update got.filters dmx.next _ place = some stored := found
      by_cases here : place = dmx.next
      · subst here
        rw [Function.update_self] at found
        cases found
        cases running
      · rw [Function.update_of_ne here] at found
        exact allocated.designates place stored found running }

def Writes (write : SecFilterParams → Filter D → Filter D) : Prop :=
  ∀ params filter, (write params filter).kind = filter.kind ∧
    (write params filter).state = filter.state ∧
    (write params filter).pidFilter = filter.pidFilter ∧ (write params filter).params = params

theorem writesTs : Writes (D := D) fun params filter => { filter with params } :=
  fun _ _ => ⟨rfl, rfl, rfl, rfl⟩

theorem writesSec : Writes (D := D) writeSecParams := fun _ _ => ⟨rfl, rfl, rfl, rfl⟩

theorem setParams (tabled : dmx.Tabled none) {write : SecFilterParams → Filter D → Filter D}
    (writes : Writes write) {addr : Nat} {params : SecFilterParams} {next : SwDemux D}
    {result : SwdmxResult} (done : filterSetParams write dmx addr params = some (next, result)) :
    next.Tabled none := by
  unfold filterSetParams at done
  split at done
  · cases done
    exact tabled
  · obtain ⟨filter, found, done⟩ := Option.bind_eq_some_iff.mp done
    obtain ⟨kind, state, designated, sets⟩ := writes params filter
    by_cases running : filter.state = .run
    · rw [if_pos running] at done
      obtain ⟨place, was, done⟩ := Option.bind_eq_some_iff.mp done
      by_cases moved : filter.params.pid ≠ params.pid
      · rw [if_pos moved] at done
        obtain ⟨⟨left, out⟩, gone, done⟩ := Option.bind_eq_some_iff.mp done
        obtain ⟨joined, came, done⟩ := Option.bind_eq_some_iff.mp done
        cases done
        obtain ⟨unlinked, rfl⟩ := tabled.leave { filter with state := .set } found running
          nofun gone
        refine unlinked.join (Function.update_self _ _ _) nofun ?_ (join_of_stored _ came)
        rw [(writes params _).2.1]
        exact running
      · rw [if_neg moved] at done
        cases done
        refine tabled.store_alike found (fun other pid => ?_) designated
        unfold Filter.Runs
        rw [kind, state, sets, not_not.mp moved]
    · rw [if_neg running] at done
      cases done
      refine tabled.store_alike found (fun other pid => ?_) designated
      unfold Filter.Runs
      exact ⟨fun runs => (nomatch runs.2.1), fun runs => absurd runs.2.1 running⟩

theorem enable (tabled : dmx.Tabled none) {addr : Nat} {next : SwDemux D} {result : SwdmxResult}
    (done : filterEnable dmx addr = some (next, result)) : next.Tabled none := by
  obtain ⟨filter, found, done⟩ := Option.bind_eq_some_iff.mp done
  cases state : filter.state with
  | init =>
    rw [state] at done
    cases done
    exact tabled
  | set =>
    rw [state] at done
    obtain ⟨joined, came, done⟩ := Option.bind_eq_some_iff.mp done
    cases done
    exact tabled.join found (by rw [state]; nofun) rfl came
  | run =>
    rw [state] at done
    cases done
    exact tabled

theorem disable (tabled : dmx.Tabled none) {addr : Nat} {next : SwDemux D} {result : SwdmxResult}
    (done : filterDisable dmx addr = some (next, result)) :
    next.Tabled none ∧ ∃ filter, next.filters addr = some filter ∧ filter.state ≠ .run := by
  obtain ⟨filter, found, done⟩ := Option.bind_eq_some_iff.mp done
  by_cases running : filter.state = .run
  · rw [if_pos running] at done
    obtain ⟨⟨left, out⟩, gone, done⟩ := Option.bind_eq_some_iff.mp done
    cases done
    exact ⟨(tabled.leave { out with state := .set } found running nofun gone).1, _,
      Function.update_self _ _ _, nofun⟩
  · rw [if_neg running] at done
    cases done
    exact ⟨tabled, filter, found, running⟩

theorem free (tabled : dmx.Tabled none) {addr : Nat} {next : SwDemux D}
    (done : filterFree dmx addr = some next) : next.Tabled none := by
  obtain ⟨⟨disabled, result⟩, stopped, done⟩ := Option.bind_eq_some_iff.mp done
  cases done
  obtain ⟨idle, filter, found, state⟩ := tabled.disable stopped
  exact { idle with
    fresh := by
      intro place beyond
      show Function.update disabled.filters addr none place = none
      by_cases here : place = addr
      · rw [here, Function.update_self]
      · rw [Function.update_of_ne here]
        exact idle.fresh place beyond
    linked := by
      intro f mem kind place
      rw [idle.linked f mem kind place]
      show _ ↔ ∃ stored, Function.update disabled.filters addr none place = some stored ∧ _
      by_cases here : place = addr
      · subst here
        rw [Function.update_self, found]
        constructor
        · rintro ⟨_, ⟨⟩, -, running, -⟩
          exact absurd running state
        · rintro ⟨_, ⟨⟩, _⟩
      · rw [Function.update_of_ne here]
    designates := by
      intro place stored kept running
      replace kept : Function.update disabled.filters addr none place = some stored := kept
      by_cases here : place = addr
      · rw [here, Function.update_self] at kept
        cases kept
      · rw [Function.update_of_ne here] at kept
        exact idle.designates place stored kept running }

theorem addCb (tabled : dmx.Tabled none) {addr : Nat} {cb : D} {next : SwDemux D}
    {result : SwdmxResult} (done : filterAddCb dmx addr cb = some (next, result)) :
    next.Tabled none := by
  obtain ⟨⟨place, got⟩, given, done⟩ := Option.bind_eq_some_iff.mp done
  obtain ⟨filter, found, done⟩ := Option.bind_eq_some_iff.mp done
  cases done
  exact (tabled.malloc given).1.store_alike found (fun _ _ => Iff.rfl) rfl

end SwDemux.Tabled

inductive FilterOp (D : Type) where
  | allocTs
  | allocSec
  | setParams (addr : Nat) (params : SecFilterParams)
  | addCb (addr : Nat) (cb : D)
  | enable (addr : Nat)
  | disable (addr : Nat)
  | free (addr : Nat)

def swdmxFilterSetParams (dmx : SwDemux D) (addr : Nat) (params : SecFilterParams) :
    Option (SwDemux D × SwdmxResult) := do
  let filter ← dmx.filters addr
  match filter.kind with
  | .ts => swdmxTsFilterSetParams dmx addr params.pid
  | .sec => swdmxSecFilterSetParams dmx addr params

def FilterOp.apply (dmx : SwDemux D) : FilterOp D → Option (SwDemux D)
  | .allocTs => (swdmxDemuxAllocTsFilter dmx).map Prod.snd
  | .allocSec => (swdmxDemuxAllocSecFilter dmx).map Prod.snd
  | .setParams addr params => (swdmxFilterSetParams dmx addr params).map Prod.fst
  | .addCb addr cb => (filterAddCb dmx addr cb).map Prod.fst
  | .enable addr => (filterEnable dmx addr).map Prod.fst
  | .disable addr => (filterDisable dmx addr).map Prod.fst
  | .free addr => filterFree dmx addr

def FilterOp.step (dmx : SwDemux D) (op : FilterOp D) : SwDemux D := (op.apply dmx).getD dmx

theorem FilterOp.apply_tabled {dmx next : SwDemux D} {op : FilterOp D} (tabled : dmx.Tabled none)
    (applied : op.apply dmx = some next) : next.Tabled none := by
  cases op with
  | allocTs =>
    obtain ⟨⟨addr, _⟩, given, rfl⟩ := Option.map_eq_some_iff.mp applied
    exact tabled.allocFilter given
  | allocSec =>
    obtain ⟨⟨addr, _⟩, given, rfl⟩ := Option.map_eq_some_iff.mp applied
    exact tabled.allocFilter given
  | setParams addr params =>
    obtain ⟨⟨_, result⟩, done, rfl⟩ := Option.map_eq_some_iff.mp applied
    obtain ⟨filter, found, done⟩ := Option.bind_eq_some_iff.mp done
    cases kind : filter.kind with
    | ts =>
      rw [kind] at done
      exact tabled.setParams SwDemux.Tabled.writesTs done
    | sec =>
      rw [kind] at done
      exact tabled.setParams SwDemux.Tabled.writesSec done
  | addCb addr cb =>
    obtain ⟨⟨_, result⟩, done, rfl⟩ := Option.map_eq_some_iff.mp applied
    exact tabled.addCb done
  | enable addr =>
    obtain ⟨⟨_, result⟩, done, rfl⟩ := Option.map_eq_some_iff.mp applied
    exact tabled.enable done
  | disable addr =>
    obtain ⟨⟨_, result⟩, done, rfl⟩ := Option.map_eq_some_iff.mp applied
    exact (tabled.disable done).1
  | free addr => exact tabled.free applied

theorem FilterOp.step_tabled (dmx : SwDemux D) (op : FilterOp D) (tabled : dmx.Tabled none) :
    (op.step dmx).Tabled none := by
  unfold FilterOp.step
  cases applied : op.apply dmx with
  | none => exact tabled
  | some next => exact apply_tabled tabled applied

def SwDemux.links (dmx : SwDemux D) : List Nat :=
  dmx.pidFilterList.flatMap fun f => f.filterList .ts ++ f.filterList .sec

structure SwDemux.PidTable (dmx : SwDemux D) : Prop where
  onePerPid : ∀ pid, (dmx.pidFilterList.filter (·.pid == pid)).length ≤ 1
  present : ∀ pid, (∃ f ∈ dmx.pidFilterList, f.pid = pid) ↔
    ∃ addr filter, dmx.filters addr = some filter ∧ filter.state = .run ∧ filter.params.pid = pid
  linked : ∀ addr filter, dmx.filters addr = some filter → filter.state = .run →
    dmx.links.count addr = 1 ∧ ∃ f ∈ dmx.pidFilterList,
      f.pid = filter.params.pid ∧ addr ∈ f.filterList filter.kind ∧
        filter.pidFilter = some f.addr ∧ ∀ g ∈ dmx.pidFilterList, g.addr = f.addr → g = f
  unlinked : ∀ addr, (∀ filter, dmx.filters addr = some filter → filter.state ≠ .run) →
    addr ∉ dmx.links

namespace SwDemux.Tabled

variable {dmx : SwDemux D}

theorem runs_of_linked {spare : Option UInt16} (tabled : dmx.Tabled spare) {f : PidFilter}
    (mem : f ∈ dmx.pidFilterList) {addr : Nat} (linked : addr ∈ f.filterList .ts ++ f.filterList .sec) :
    ∃ filter, dmx.filters addr = some filter ∧ filter.state = .run ∧ filter.params.pid = f.pid := by
  rcases List.mem_append.mp linked with ts | sec
  · obtain ⟨filter, found, -, running, pid⟩ := (tabled.linked f mem .ts addr).mp ts
    exact ⟨filter, found, running, pid⟩
  · obtain ⟨filter, found, -, running, pid⟩ := (tabled.linked f mem .sec addr).mp sec
    exact ⟨filter, found, running, pid⟩

theorem links_nodup {spare : Option UInt16} (tabled : dmx.Tabled spare) : dmx.links.Nodup := by
  refine List.nodup_flatMap.mpr ⟨fun f mem => ?_, ?_⟩
  · refine List.nodup_append.mpr ⟨tabled.lists f mem .ts, tabled.lists f mem .sec, ?_⟩
    rintro addr ts _ sec rfl
    obtain ⟨filter, found, kind, -⟩ := (tabled.linked f mem .ts addr).mp ts
    obtain ⟨same, again, other, -⟩ := (tabled.linked f mem .sec addr).mp sec
    rw [found] at again
    cases again
    exact nomatch kind.symm.trans other
  · refine (List.pairwise_map.mp tabled.pids).imp_of_mem ?_
    intro f g fMem gMem apart addr fLinked gLinked
    obtain ⟨filter, found, -, pid⟩ := tabled.runs_of_linked fMem fLinked
    obtain ⟨same, again, -, other⟩ := tabled.runs_of_linked gMem gLinked
    rw [found] at again
    cases again
    exact apart (pid.symm.trans other)

theorem pidTable (tabled : dmx.Tabled none) : dmx.PidTable where
  onePerPid pid := by
    rw [← List.countP_eq_length_filter]
    have once := List.nodup_iff_count_le_one.mp tabled.pids pid
    rw [List.count, List.countP_map] at once
    exact once
  present pid := by
    constructor
    · rintro ⟨f, mem, rfl⟩
      obtain ⟨kind, addr, linked⟩ := (tabled.used f mem).resolve_left nofun
      obtain ⟨filter, found, -, runs⟩ := (tabled.linked f mem kind addr).mp linked
      exact ⟨addr, filter, found, runs⟩
    · rintro ⟨addr, filter, found, running, rfl⟩
      obtain ⟨f, mem, -, here⟩ := tabled.designates addr filter found running
      exact ⟨f, mem, here⟩
  linked addr filter found running := by
    obtain ⟨f, mem, designated, here⟩ := tabled.designates addr filter found running
    have linked := (tabled.linked f mem filter.kind addr).mpr ⟨filter, found, rfl, running, here.symm⟩
    refine ⟨List.count_eq_one_of_mem tabled.links_nodup ?_, f, mem, here, linked, designated,
      fun g other same => tabled.same_of_addr other mem same⟩
    refine List.mem_flatMap.mpr ⟨f, mem, ?_⟩
    cases kind : filter.kind with
    | ts => exact List.mem_append_left _ (kind ▸ linked)
    | sec => exact List.mem_append_right _ (kind ▸ linked)
  unlinked addr idle linked := by
    obtain ⟨f, mem, here⟩ := List.mem_flatMap.mp linked
    obtain ⟨filter, found, running, -⟩ := tabled.runs_of_linked mem here
    exact idle filter found running

end SwDemux.Tabled

theorem pid_table_of_every_run (memory : Nat) (held : Nat → Nat → UInt8) (ops : List (FilterOp D)) :
    (run FilterOp.step (swdmxDemuxNew memory held) ops).PidTable :=
  (run_always FilterOp.step (fun dmx => dmx.Tabled none) FilterOp.step_tabled _
    (SwDemux.Tabled.new memory held) ops).pidTable

end UnionpiTiger.Demux
