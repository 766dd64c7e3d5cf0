import UnionpiTiger.Demux.PidTable

set_option autoImplicit false

namespace UnionpiTiger.Demux

variable {D : Type} {dmx next : SwDemux D} {addr : Nat} {filter : Filter D}

namespace SwDemux

def hasPid (dmx : SwDemux D) (pid : UInt16) : Bool := dmx.pidFilterList.any (·.pid == pid)

def joinNeeds (dmx : SwDemux D) (pid : UInt16) : Nat := if dmx.hasPid pid then 0 else 1

theorem hasPid_iff {pid : UInt16} : dmx.hasPid pid = true ↔ ∃ f ∈ dmx.pidFilterList, f.pid = pid := by
  simp [hasPid]

end SwDemux

structure Effect (dmx next : SwDemux D) (addr : Nat) (new : Filter D) (needs : Nat) : Prop where
  filters : ∃ place, next.filters =
    Function.update dmx.filters addr (some { new with pidFilter := place })
  memory : next.memory + needs = dmx.memory

theorem Effect.at_ {new : Filter D} {needs : Nat} (effect : Effect dmx next addr new needs) :
    ∃ place, next.filters addr = some { new with pidFilter := place } := by
  obtain ⟨place, filters⟩ := effect.filters
  exact ⟨place, by rw [filters, Function.update_self]⟩

theorem Effect.other {new : Filter D} {needs : Nat} (effect : Effect dmx next addr new needs)
    {place : Nat} (apart : place ≠ addr) : next.filters place = dmx.filters place := by
  obtain ⟨_, filters⟩ := effect.filters
  rw [filters, Function.update_of_ne apart]

theorem Effect.trans {mid : SwDemux D} {new last : Filter D} {needs more : Nat}
    (first : Effect dmx mid addr new needs) (second : Effect mid next addr last more) :
    Effect dmx next addr last (needs + more) := by
  obtain ⟨place, filters⟩ := first.filters
  obtain ⟨other, same⟩ := second.filters
  refine ⟨⟨other, ?_⟩, ?_⟩
  · rw [same, filters, Function.update_idem]
  · have := first.memory
    have := second.memory
    omega

theorem Effect.placed {new : Filter D} {needs : Nat} {place : Option Nat}
    (effect : Effect dmx next addr { new with pidFilter := place } needs) :
    Effect dmx next addr new needs :=
  ⟨effect.filters, effect.memory⟩

theorem swdmxMalloc_none (out : dmx.memory = 0) : swdmxMalloc dmx = none := by
  unfold swdmxMalloc
  rw [if_pos out]

theorem swdmxMalloc_some (room : 0 < dmx.memory) :
    swdmxMalloc dmx =
      some (dmx.next, { dmx with next := dmx.next + 1, memory := dmx.memory - 1 }) := by
  unfold swdmxMalloc
  rw [if_neg (Nat.ne_of_gt room)]

theorem find_of_hasPid {pid : UInt16} (has : dmx.hasPid pid = true) :
    ∃ f, dmx.pidFilterList.find? (·.pid == pid) = some f := by
  obtain ⟨f, mem, same⟩ := List.any_eq_true.mp has
  exact Option.isSome_iff_exists.mp (List.find?_isSome.mpr ⟨f, mem, same⟩)

theorem find_of_not_hasPid {pid : UInt16} (lacks : dmx.hasPid pid = false) :
    dmx.pidFilterList.find? (·.pid == pid) = none :=
  List.find?_eq_none.mpr fun f mem same =>
    Bool.false_ne_true (lacks.symm.trans (List.any_eq_true.mpr ⟨f, mem, same⟩))

theorem pidFilterGet_none {pid : UInt16} (out : dmx.memory < dmx.joinNeeds pid) :
    pidFilterGet dmx pid = none := by
  unfold SwDemux.joinNeeds at out
  cases has : dmx.hasPid pid with
  | true =>
    rw [if_pos has] at out
    exact absurd out (Nat.not_lt_zero _)
  | false =>
    rw [if_neg (Bool.eq_false_iff.mp has)] at out
    unfold pidFilterGet
    rw [find_of_not_hasPid has]
    dsimp only
    rw [swdmxMalloc_none (Nat.lt_one_iff.mp out)]
    rfl

theorem pidFilterGet_some {pid : UInt16} (room : dmx.joinNeeds pid ≤ dmx.memory) :
    ∃ place next, pidFilterGet dmx pid = some (place, next) ∧ next.filters = dmx.filters ∧
      next.memory + dmx.joinNeeds pid = dmx.memory ∧
      ∀ other, next.hasPid other = (dmx.hasPid other || pid == other) := by
  unfold SwDemux.joinNeeds at *
  cases has : dmx.hasPid pid with
  | true =>
    obtain ⟨f, present⟩ := find_of_hasPid has
    refine ⟨f.addr, dmx, ?_, rfl, rfl, fun other => ?_⟩
    · unfold pidFilterGet
      rw [present]
    · by_cases same : pid = other
      · rw [← same, has, Bool.true_or]
      · rw [beq_false_of_ne same, Bool.or_false]
  | false =>
    rw [has] at room
    have given := swdmxMalloc_some room
    refine ⟨dmx.next, { dmx with
      next := dmx.next + 1
      memory := dmx.memory - 1
      pidFilterList := dmx.pidFilterList ++ [{ addr := dmx.next, pid }] }, ?_, rfl,
      Nat.sub_add_cancel room, fun other => ?_⟩
    · unfold pidFilterGet
      rw [find_of_not_hasPid has]
      dsimp only
      rw [given]
      rfl
    · unfold SwDemux.hasPid
      rw [List.any_append]
      simp

theorem hasPid_link (kind : FilterKind) (place filter : Nat) (pid : UInt16) :
    (dmx.link kind place filter).hasPid pid = dmx.hasPid pid := by
  unfold SwDemux.hasPid SwDemux.link
  rw [List.any_map]
  congr 1
  funext f
  show ((if f.addr = place then f.append kind filter else f).pid == pid) = (f.pid == pid)
  split_ifs <;> rfl

theorem joinPidFilter_none (filter : Filter D)
    (out : dmx.memory < dmx.joinNeeds filter.params.pid) :
    joinPidFilter dmx addr filter = none := by
  unfold joinPidFilter
  rw [pidFilterGet_none out]
  rfl

theorem joinPidFilter_some (addr : Nat) (filter : Filter D)
    (room : dmx.joinNeeds filter.params.pid ≤ dmx.memory) :
    ∃ next, joinPidFilter dmx addr filter = some next ∧
      Effect dmx next addr filter (dmx.joinNeeds filter.params.pid) ∧
      ∀ other, next.hasPid other = (dmx.hasPid other || filter.params.pid == other) := by
  obtain ⟨place, mid, got, filters, memory, pids⟩ := pidFilterGet_some room
  refine ⟨(mid.store addr { filter with pidFilter := some place }).link filter.kind place addr, ?_,
    ⟨⟨some place, ?_⟩, memory⟩, fun other => ?_⟩
  · unfold joinPidFilter
    rw [got]
    rfl
  · show Function.update mid.filters addr _ = _
    rw [filters]
  · rw [hasPid_link]
    exact pids other

theorem leavePidFilter_some (tabled : dmx.Tabled none) (found : dmx.filters addr = some filter)
    (running : filter.state = .run) :
    ∃ next, leavePidFilter dmx addr filter = some (next, { filter with pidFilter := none }) ∧
      next.filters = dmx.filters ∧ next.memory = dmx.memory ∧
      ∀ pid, pid ≠ filter.params.pid → next.hasPid pid = dmx.hasPid pid := by
  obtain ⟨f, mem, designated, here⟩ := tabled.designates addr filter found running
  refine ⟨pidFilterRemove (dmx.unlink addr) f.addr, ?_, rfl, rfl, fun pid apart => ?_⟩
  · unfold leavePidFilter
    rw [designated]
    rfl
  · rw [Bool.eq_iff_iff, SwDemux.hasPid_iff, SwDemux.hasPid_iff]
    unfold pidFilterRemove SwDemux.unlink
    constructor
    · rintro ⟨g, kept, rfl⟩
      obtain ⟨old, oldMem, rfl⟩ := List.mem_map.mp (List.mem_filter.mp kept).1
      exact ⟨old, oldMem, rfl⟩
    · rintro ⟨g, gMem, rfl⟩
      refine ⟨g.unlink addr, List.mem_filter.mpr ⟨List.mem_map_of_mem gMem, ?_⟩, rfl⟩
      have elsewhere : g.addr ≠ f.addr := fun same => by
        rw [tabled.same_of_addr gMem mem same] at apart
        exact apart here
      show (!(g.addr == f.addr && _)) = true
      rw [beq_false_of_ne elsewhere]
      rfl

theorem hasPid_of_run (tabled : dmx.Tabled none) (found : dmx.filters addr = some filter)
    (running : filter.state = .run) : dmx.hasPid filter.params.pid = true := by
  obtain ⟨f, mem, -, here⟩ := tabled.designates addr filter found running
  exact SwDemux.hasPid_iff.mpr ⟨f, mem, here⟩

def Blind (write : SecFilterParams → Filter D → Filter D) : Prop :=
  ∀ params filter place other,
    { write params { filter with pidFilter := place } with pidFilter := other } =
      { write params filter with pidFilter := other }

theorem blindTs : Blind (D := D) fun params filter => { filter with params } :=
  fun _ _ _ _ => rfl

theorem blindSec : Blind (D := D) writeSecParams := fun _ _ _ _ => rfl

theorem pid_refused {pid : UInt16} :
    (!swdmxIsValidPid pid || pid == 0x1fff) = true ↔ ¬pid < 0x1fff := by
  unfold swdmxIsValidPid
  rw [Bool.or_eq_true, Bool.not_eq_true', decide_eq_false_iff_not, beq_iff_eq]
  show ¬pid ≤ 0x1fff ∨ pid = 0x1fff ↔ _
  rw [UInt16.le_iff_toNat_le, UInt16.lt_iff_toNat_lt, ← UInt16.toNat_inj]
  omega

section SetParams

variable {write : SecFilterParams → Filter D → Filter D} {params : SecFilterParams}

theorem filterSetParams_refused (invalid : ¬params.pid < 0x1fff) :
    filterSetParams write dmx addr params = some (dmx, .err) := by
  unfold filterSetParams
  rw [if_pos (pid_refused.mpr invalid)]

def setNeeds (dmx : SwDemux D) (filter : Filter D) (pid : UInt16) : Nat :=
  if filter.state = .run then dmx.joinNeeds pid else 0

theorem filterSetParams_idle (write : SecFilterParams → Filter D → Filter D)
    (found : dmx.filters addr = some filter)
    (valid : params.pid < 0x1fff) (idle : filter.state ≠ .run) :
    filterSetParams write dmx addr params =
      some (dmx.store addr { write params filter with state := .set }, .ok) := by
  unfold filterSetParams
  rw [if_neg (fun refused => pid_refused.mp refused valid), found]
  simp only [Option.bind_eq_bind, Option.bind_some, if_neg idle]
  rfl

theorem filterSetParams_same (tabled : dmx.Tabled none) (found : dmx.filters addr = some filter)
    (valid : params.pid < 0x1fff) (running : filter.state = .run)
    (same : filter.params.pid = params.pid) :
    filterSetParams write dmx addr params = some (dmx.store addr (write params filter), .ok) := by
  obtain ⟨f, -, designated, -⟩ := tabled.designates addr filter found running
  unfold filterSetParams
  rw [if_neg (fun refused => pid_refused.mp refused valid), found]
  simp only [Option.bind_eq_bind, Option.bind_some, if_pos running, designated]
  rw [if_neg (not_not.mpr same)]
  rfl

theorem filterSetParams_moved (write : SecFilterParams → Filter D → Filter D)
    (tabled : dmx.Tabled none) (found : dmx.filters addr = some filter)
    (valid : params.pid < 0x1fff) (running : filter.state = .run)
    (moved : filter.params.pid ≠ params.pid) :
    ∃ left, left.filters = dmx.filters ∧ left.memory = dmx.memory ∧
      left.joinNeeds params.pid = dmx.joinNeeds params.pid ∧
      filterSetParams write dmx addr params =
        (joinPidFilter left addr (write params { filter with pidFilter := none })).map
          fun next => (next, .ok) := by
  obtain ⟨f, -, designated, -⟩ := tabled.designates addr filter found running
  obtain ⟨left, gone, filters, memory, pids⟩ := leavePidFilter_some tabled found running
  refine ⟨left, filters, memory, ?_, ?_⟩
  · unfold SwDemux.joinNeeds
    rw [pids _ (Ne.symm moved)]
  · unfold filterSetParams
    rw [if_neg (fun refused => pid_refused.mp refused valid), found]
    simp only [Option.bind_eq_bind, Option.bind_some, if_pos running, designated, gone]
    rw [if_pos moved]
    cases joinPidFilter left addr (write params { filter with pidFilter := none }) <;> rfl

theorem filterSetParams_some (writes : SwDemux.Tabled.Writes write) (blind : Blind write)
    (tabled : dmx.Tabled none) (found : dmx.filters addr = some filter)
    (valid : params.pid < 0x1fff) (room : setNeeds dmx filter params.pid ≤ dmx.memory) :
    ∃ next, filterSetParams write dmx addr params = some (next, .ok) ∧
      Effect dmx next addr
        { write params filter with state := if filter.state = .run then .run else .set }
        (setNeeds dmx filter params.pid) := by
  unfold setNeeds at *
  by_cases running : filter.state = .run
  · simp only [if_pos running] at *
    have runs : (write params filter).state = .run := (writes params filter).2.1.trans running
    by_cases moved : filter.params.pid = params.pid
    · have has : dmx.joinNeeds params.pid = 0 := by
        unfold SwDemux.joinNeeds
        rw [← moved, if_pos (hasPid_of_run tabled found running)]
      refine ⟨_, filterSetParams_same tabled found valid running moved,
        ⟨⟨(write params filter).pidFilter, ?_⟩, ?_⟩⟩
      · rw [← runs]
        rfl
      · rw [has]
        rfl
    · obtain ⟨left, filters, memory, needs, done⟩ :=
        filterSetParams_moved write tabled found valid running moved
      have sets := (writes params { filter with pidFilter := none }).2.2.2
      have fits : left.joinNeeds (write params { filter with pidFilter := none }).params.pid ≤
          left.memory := by
        rw [sets, needs, memory]
        exact room
      obtain ⟨next, joined, effect, -⟩ := joinPidFilter_some addr _ fits
      refine ⟨next, by rw [done, joined]; rfl, ?_⟩
      obtain ⟨place, stored⟩ := effect.filters
      refine ⟨⟨place, ?_⟩, ?_⟩
      · rw [stored, filters, blind, ← runs]
      · have spent := effect.memory
        rw [sets, needs, memory] at spent
        exact spent
  · simp only [if_neg running] at *
    exact ⟨_, filterSetParams_idle write found valid running,
      ⟨⟨(write params filter).pidFilter, rfl⟩, rfl⟩⟩

theorem filterSetParams_none (writes : SwDemux.Tabled.Writes write)
    (tabled : dmx.Tabled none) (found : dmx.filters addr = some filter)
    (valid : params.pid < 0x1fff) (out : dmx.memory < setNeeds dmx filter params.pid) :
    filterSetParams write dmx addr params = none := by
  unfold setNeeds at out
  by_cases running : filter.state = .run
  · rw [if_pos running] at out
    by_cases moved : filter.params.pid = params.pid
    · unfold SwDemux.joinNeeds at out
      rw [← moved, if_pos (hasPid_of_run tabled found running)] at out
      exact absurd out (Nat.not_lt_zero _)
    · obtain ⟨left, filters, memory, needs, done⟩ :=
        filterSetParams_moved write tabled found valid running moved
      rw [done, joinPidFilter_none]
      · rfl
      · rw [(writes params { filter with pidFilter := none }).2.2.2, needs, memory]
        exact out
  · rw [if_neg running] at out
    exact absurd out (Nat.not_lt_zero _)

end SetParams

theorem filterAddCb_some (found : dmx.filters addr = some filter) (cb : D)
    (room : 0 < dmx.memory) :
    ∃ next, filterAddCb dmx addr cb = some (next, .ok) ∧
      Effect dmx next addr { filter with cbList := filter.cbList ++ [cb] } 1 ∧
      next.pidFilterList = dmx.pidFilterList := by
  refine ⟨({ dmx with next := dmx.next + 1, memory := dmx.memory - 1 } : SwDemux D).store addr
    { filter with cbList := filter.cbList ++ [cb] }, ?_,
    ⟨⟨filter.pidFilter, rfl⟩, Nat.sub_add_cancel room⟩, rfl⟩
  unfold filterAddCb
  simp only [swdmxMalloc_some room, found, Option.bind_eq_bind, Option.bind_some, Option.pure_def]

theorem filterAddCb_none (cb : D) (out : dmx.memory = 0) : filterAddCb dmx addr cb = none := by
  unfold filterAddCb
  rw [swdmxMalloc_none out]
  rfl

theorem filterEnable_set (found : dmx.filters addr = some filter) (set : filter.state = .set) :
    filterEnable dmx addr =
      (joinPidFilter dmx addr { filter with state := .run }).map fun next => (next, .ok) := by
  unfold filterEnable
  rw [found]
  simp only [Option.bind_eq_bind, Option.bind_some, set]
  cases joinPidFilter dmx addr { filter with state := .run } <;> rfl

theorem filterEnable_run (found : dmx.filters addr = some filter) (running : filter.state = .run) :
    filterEnable dmx addr = some (dmx, .ok) := by
  unfold filterEnable
  rw [found]
  simp only [Option.bind_eq_bind, Option.bind_some, running]
  rfl

theorem filterEnable_some (found : dmx.filters addr = some filter) (set : filter.state = .set)
    (room : dmx.joinNeeds filter.params.pid ≤ dmx.memory) :
    ∃ next, filterEnable dmx addr = some (next, .ok) ∧
      Effect dmx next addr { filter with state := .run } (dmx.joinNeeds filter.params.pid) ∧
      ∀ other, next.hasPid other = (dmx.hasPid other || filter.params.pid == other) := by
  obtain ⟨next, joined, effect, pids⟩ :=
    joinPidFilter_some addr { filter with state := .run } room
  exact ⟨next, by rw [filterEnable_set found set, joined]; rfl, effect, pids⟩

theorem filterEnable_none (found : dmx.filters addr = some filter) (set : filter.state = .set)
    (out : dmx.memory < dmx.joinNeeds filter.params.pid) : filterEnable dmx addr = none := by
  rw [filterEnable_set found set, joinPidFilter_none { filter with state := .run } out]
  rfl

theorem filterDisable_some (tabled : dmx.Tabled none) (found : dmx.filters addr = some filter) :
    ∃ next, filterDisable dmx addr = some (next, .ok) ∧
      Effect dmx next addr
        { filter with state := if filter.state = .run then .set else filter.state } 0 := by
  unfold filterDisable
  rw [found]
  by_cases running : filter.state = .run
  · obtain ⟨left, gone, filters, memory, -⟩ := leavePidFilter_some tabled found running
    simp only [Option.bind_eq_bind, Option.bind_some, if_pos running, gone, Option.pure_def]
    refine ⟨_, rfl, ⟨none, ?_⟩, memory⟩
    show Function.update left.filters addr _ = _
    rw [filters]
  · simp only [Option.bind_eq_bind, Option.bind_some, if_neg running, Option.pure_def]
    exact ⟨dmx, rfl, ⟨filter.pidFilter, (Function.update_eq_self_iff.mpr found.symm).symm⟩, rfl⟩

theorem filterFree_some (tabled : dmx.Tabled none) (found : dmx.filters addr = some filter) :
    ∃ next, filterFree dmx addr = some next ∧
      next.filters = Function.update dmx.filters addr none ∧ next.memory = dmx.memory := by
  obtain ⟨disabled, done, effect⟩ := filterDisable_some tabled found
  obtain ⟨place, filters⟩ := effect.filters
  refine ⟨{ disabled with filters := Function.update disabled.filters addr none },
    by unfold filterFree; rw [done]; rfl, ?_, effect.memory⟩
  show Function.update disabled.filters addr none = _
  rw [filters, Function.update_idem]

theorem allocFilter_some (kind : FilterKind) (room : 0 < dmx.memory) :
    ∃ next, allocFilter kind dmx = some (dmx.next, next) ∧
      next.filters = Function.update dmx.filters dmx.next (some { kind }) ∧
      next.memory + 1 = dmx.memory := by
  have given := swdmxMalloc_some room
  exact ⟨_, by unfold allocFilter; rw [given]; rfl, rfl, Nat.sub_add_cancel room⟩

theorem allocFilter_none (kind : FilterKind) (out : dmx.memory = 0) :
    allocFilter kind dmx = none := by
  unfold allocFilter
  rw [swdmxMalloc_none out]
  rfl

-- What the start of a feed does with a filter that is not to keep its parameters.
section Start

variable {write : SecFilterParams → Filter D → Filter D} {params : SecFilterParams}

def startedFilter (write : SecFilterParams → Filter D → Filter D) (params : SecFilterParams) (cb : D)
    (filter : Filter D) : Filter D :=
  { write params filter with
    state := .run
    cbList := (write params filter).cbList ++ [cb] }

theorem start_some (params : SecFilterParams) (writes : SwDemux.Tabled.Writes write)
    (blind : Blind write)
    (tabled : dmx.Tabled none) (found : dmx.filters addr = some filter)
    (valid : params.pid < 0x1fff) (cb : D) (room : 1 + dmx.joinNeeds params.pid ≤ dmx.memory) :
    ∃ set added next, filterSetParams write dmx addr params = some (set, .ok) ∧
      filterAddCb set addr cb = some (added, .ok) ∧ filterEnable added addr = some (next, .ok) ∧
      Effect dmx next addr (startedFilter write params cb filter) (1 + dmx.joinNeeds params.pid) ∧
      (filter.state ≠ .run →
        ∀ other, next.hasPid other = (dmx.hasPid other || params.pid == other)) := by
  have sets := (writes params filter).2.2.2
  by_cases running : filter.state = .run
  · have needs : setNeeds dmx filter params.pid = dmx.joinNeeds params.pid := if_pos running
    obtain ⟨set, done, first⟩ :=
      filterSetParams_some writes blind tabled found valid (by rw [needs]; omega)
    rw [needs, if_pos running] at first
    obtain ⟨place, setFound⟩ := first.at_
    have left := first.memory
    obtain ⟨added, addDone, second, -⟩ := filterAddCb_some setFound cb (by omega)
    obtain ⟨other, addFound⟩ := second.at_
    refine ⟨set, added, added, done, addDone, filterEnable_run addFound rfl, ?_,
      fun idle => absurd running idle⟩
    rw [Nat.add_comm]
    exact first.trans second.placed
  · have needs : setNeeds dmx filter params.pid = 0 := if_neg running
    have done := filterSetParams_idle write found valid running
    have stored : (dmx.store addr { write params filter with state := .set }).filters addr =
        some { write params filter with state := .set } := Function.update_self _ _ _
    obtain ⟨added, addDone, second, list⟩ :=
      filterAddCb_some stored cb (by show 0 < dmx.memory; omega)
    obtain ⟨other, addFound⟩ := second.at_
    have pids : ∀ pid, added.hasPid pid = dmx.hasPid pid := fun pid => by
      unfold SwDemux.hasPid
      rw [list]
      rfl
    have joins : added.joinNeeds params.pid = dmx.joinNeeds params.pid := by
      unfold SwDemux.joinNeeds
      rw [pids]
    have left : added.memory + 1 = dmx.memory := second.memory
    obtain ⟨next, enabled, third, has⟩ := filterEnable_some addFound rfl (by
      show added.joinNeeds (write params filter).params.pid ≤ _
      rw [sets, joins]
      omega)
    replace has : ∀ other, next.hasPid other =
      (added.hasPid other || (write params filter).params.pid == other) := has
    have same : added.joinNeeds (write params filter).params.pid = dmx.joinNeeds params.pid := by
      rw [sets, joins]
    refine ⟨_, added, next, done, addDone, enabled, ?_, fun _ other => by
      rw [has, pids, sets]⟩
    have first : Effect dmx (dmx.store addr { write params filter with state := .set }) addr
        { write params filter with state := .set } 0 := ⟨⟨(write params filter).pidFilter, rfl⟩, rfl⟩
    have last : Effect added next addr (startedFilter write params cb filter)
        (added.joinNeeds (write params filter).params.pid) := ⟨third.filters, third.memory⟩
    rw [← same]
    exact (first.trans second).trans last

theorem start_none (params : SecFilterParams) (writes : SwDemux.Tabled.Writes write)
    (blind : Blind write)
    (tabled : dmx.Tabled none) (found : dmx.filters addr = some filter)
    (valid : params.pid < 0x1fff) (cb : D) (out : dmx.memory < 1 + dmx.joinNeeds params.pid) :
    filterSetParams write dmx addr params = none ∨
      ∃ set, filterSetParams write dmx addr params = some (set, .ok) ∧
        (filterAddCb set addr cb = none ∨
          ∃ added, filterAddCb set addr cb = some (added, .ok) ∧ filterEnable added addr = none) := by
  have sets := (writes params filter).2.2.2
  by_cases lacks : dmx.memory < setNeeds dmx filter params.pid
  · exact Or.inl (filterSetParams_none writes tabled found valid lacks)
  · obtain ⟨set, done, first⟩ :=
      filterSetParams_some writes blind tabled found valid (Nat.not_lt.mp lacks)
    refine Or.inr ⟨set, done, ?_⟩
    have left := first.memory
    by_cases empty : set.memory = 0
    · exact Or.inl (filterAddCb_none cb empty)
    · obtain ⟨place, setFound⟩ := first.at_
      obtain ⟨added, addDone, second, list⟩ :=
        filterAddCb_some setFound cb (Nat.pos_of_ne_zero empty)
      obtain ⟨other, addFound⟩ := second.at_
      refine Or.inr ⟨added, addDone, ?_⟩
      unfold setNeeds at *
      have last := second.memory
      by_cases running : filter.state = .run
      · rw [if_pos running] at left
        omega
      · rw [if_neg running] at left
        have alone := filterSetParams_idle write found valid running
        rw [done] at alone
        cases alone
        refine filterEnable_none addFound (if_neg running) ?_
        show added.memory < added.joinNeeds (write params filter).params.pid
        have joins : added.joinNeeds params.pid = dmx.joinNeeds params.pid := by
          unfold SwDemux.joinNeeds SwDemux.hasPid
          rw [list]
          rfl
        rw [sets, joins]
        omega

end Start

end UnionpiTiger.Demux
