import UnionpiTiger.Demux.Calls
import UnionpiTiger.Demux.Locking

set_option autoImplicit false

namespace UnionpiTiger.Demux

structure TsSpec where
  cb : Nat
  pid : Option UInt16 := none
  started : Bool := false
  used : Bool := false

structure SecSpec where
  cb : Nat
  set : Option (UInt16 × Bool) := none
  started : Option (UInt16 × Bool) := none

-- What the caller writes to a section filter after its allocation.
structure SecFill where
  value : Fin dmxFilterLen → UInt8
  mask : Fin dmxFilterLen → UInt8
  mode : Fin dmxFilterLen → UInt8

def SecFilter.fill (slot : SecFilter) : SecFill :=
  { value := slot.filterValue, mask := slot.filterMask, mode := slot.filterMode }

def SecFilter.filled (slot : SecFilter) (fill : SecFill) : SecFilter :=
  { slot with filterValue := fill.value, filterMask := fill.mask, filterMode := fill.mode }

def SecFill.passes (fill : SecFill) (data : Nat → UInt8) : Bool :=
  secFilterMatch data (writeSecParams
    (AmlDmx.paramsOf {} (AmlDmx.prepare (SecFilter.filled {} fill))) ({ kind := .sec } : Filter CbData))

structure FeedSpec where
  ts : TsIndex → Option TsSpec := fun _ => none
  sec : SecIndex → Option SecSpec := fun _ => none
  fill : SecIndex → FilterIndex → Option SecFill := fun _ _ => none

namespace FeedSpec

def putTs (spec : FeedSpec) (i : TsIndex) (entry : Option TsSpec) : FeedSpec :=
  { spec with ts := Function.update spec.ts i entry }

def putSec (spec : FeedSpec) (i : SecIndex) (entry : Option SecSpec) : FeedSpec :=
  { spec with sec := Function.update spec.sec i entry }

def putFill (spec : FeedSpec) (i : SecIndex) (j : FilterIndex) (fill : Option SecFill) : FeedSpec :=
  { spec with fill := Function.update spec.fill i (Function.update (spec.fill i) j fill) }

def after (spec : FeedSpec) (dmx : AmlDmx) : FeedOp → FeedSpec
  | .tsSet i pid _ _ => spec.putTs i ((spec.ts i).map fun s => { s with pid := some pid })
  | .tsStart i => spec.putTs i ((spec.ts i).map fun s => { s with started := true, used := true })
  | .tsStop i => spec.putTs i ((spec.ts i).map fun s => { s with started := false })
  | .secAllocateFilter i =>
    -- Until the caller fills it, the filter holds what its memory held.
    ((AmlDmx.secFilterAlloc (dmx.sectionFeed i)).map fun j =>
      spec.putFill i j (some ((dmx.sectionFeed i).filter j).fill)).getD spec
  | .secSet i pid checkCrc =>
    spec.putSec i ((spec.sec i).map fun s => { s with set := some (pid, checkCrc) })
  | .secStart i => spec.putSec i ((spec.sec i).map fun s => { s with started := s.set })
  | .secStop i => spec.putSec i ((spec.sec i).map fun s => { s with started := none })
  | .secReleaseFilter i j => spec.putFill i j none
  | .allocateTs cb => (dmx.tsFeedAlloc.map fun i => spec.putTs i (some { cb })).getD spec
  | .releaseTs i => spec.putTs i none
  | .allocateSec cb => (dmx.sectionFeedAlloc.map fun i => spec.putSec i (some { cb })).getD spec
  | .releaseSec i => spec.putSec i none

def tsExpected (spec : FeedSpec) (i : TsIndex) (pkts : List TsPacket) : List (Nat × List UInt8) :=
  match spec.ts i with
  | some { cb, pid := some pid, started := true, .. } =>
    (pkts.filter fun pkt => pkt.pid == pid).map fun pkt => (cb, pkt.packet)
  | _ => []

end FeedSpec

def FeedSpec.matched (spec : FeedSpec) (i : SecIndex) (j : FilterIndex) (s : SecState) : Bool :=
  (spec.fill i j).any fun fill => fill.passes s.sec

def FeedSpec.secExpected (spec : FeedSpec) (dmx : AmlDmx) (i : SecIndex) (j : FilterIndex)
    (pkts : List TsPacket) : List (Nat × List UInt8) :=
  match spec.sec i with
  | some { cb, started := some (pid, checkCrc), .. } =>
    ((dmx.swdmx.completions pid pkts).filter fun s =>
      spec.matched i j s && (!checkCrc || swdmxCrc32 s.bytes == 0)).map fun s => (cb, s.bytes)
  | _ => []

structure Demuxing where
  dmx : AmlDmx
  spec : FeedSpec := {}

inductive DemuxCall where
  | feed (outcome : Outcome) (op : FeedOp)
  | fill (i : SecIndex) (j : FilterIndex) (fill : SecFill)
  | write (outcome : Outcome) (path : Path) (buf : List UInt8)

def Demuxing.step (s : Demuxing) : DemuxCall → Demuxing
  | .feed outcome op =>
    match op.apply s.dmx outcome with
    | none => s
    | some (dmx, code) =>
      { dmx, spec := if code = 0 then s.spec.after s.dmx op else s.spec }
  | .fill i j fill =>
    { dmx := s.dmx.putSlot i j (((s.dmx.sectionFeed i).filter j).filled fill)
      spec := s.spec.putFill i j (some fill) }
  | .write outcome path buf =>
    match s.dmx.write path outcome buf with
    | none => s
    | some (dmx, _) => { s with dmx }

def DemuxCall.Legal (s : Demuxing) : DemuxCall → Prop
  | .feed _ op => match op with
    | .tsSet i _ _ _ | .tsStart i | .tsStop i | .releaseTs i => s.spec.ts i ≠ none
    | .secAllocateFilter i | .secSet i _ _ | .secStart i | .secStop i => s.spec.sec i ≠ none
    | .secReleaseFilter i j =>
      s.spec.sec i ≠ none ∧ ((s.dmx.sectionFeed i).filter j).state ≠ .free
    | .releaseSec i =>
      s.spec.sec i ≠ none ∧ ∀ j, ((s.dmx.sectionFeed i).filter j).state = .free
    | .allocateTs _ | .allocateSec _ => True
  | .fill i j _ => s.spec.sec i ≠ none ∧ ((s.dmx.sectionFeed i).filter j).state ≠ .free
  | .write _ _ _ => True

def FeedOp.Fits (s : Demuxing) : FeedOp → Prop
  | .tsSet i pid tsType pesType => pid < swdmxMaxPid →
    ¬(tsType &&& tsDecoder ≠ 0 ∧ pesType ≥ dmxPesOther) → (s.dmx.tsFeed i).state ≠ .go
  | .tsStart i => (s.dmx.tsFeed i).state = .ready →
    ∀ spec, s.spec.ts i = some spec → spec.used = false
  | .secStart i => (s.dmx.sectionFeed i).isFiltering = false →
    ∃ spec pid checkCrc, s.spec.sec i = some spec ∧ spec.set = some (pid, checkCrc) ∧
      ∀ j, ((s.dmx.sectionFeed i).filter j).state = .ready →
        ∀ filter, s.dmx.filterOf (.secFilter i j) = some filter →
          filter.params.pid = pid ∧ filter.params.crc32 = checkCrc
  | _ => True

def DemuxCall.Fits (s : Demuxing) : DemuxCall → Prop
  | .feed _ (.allocateSec _) => True
  | .feed outcome op => outcome.interrupted = true ∨ op.Meets s.dmx outcome ∧ op.Fits s
  | .fill i j _ => ((s.dmx.sectionFeed i).filter j).state = .allocated
  | .write outcome _ _ => outcome.interrupted = true ∨ s.dmx.swdmx.Enough

def Demuxing.Delivers (s : Demuxing) : Prop :=
  ∀ path outcome buf, outcome.interrupted = false → s.dmx.swdmx.Enough →
    ∃ next consumed calls, s.dmx.write path outcome buf = some (next, consumed, calls) ∧
      (∀ i, calls.filterMap (FeedCall.ofTs i) = s.spec.tsExpected i (path.received buf)) ∧
      ∀ i j, (calls.filterMap (FeedCall.ofSec i j)).Sublist
        (s.spec.secExpected s.dmx i j (path.received buf))

end UnionpiTiger.Demux

namespace UnionpiTiger.Demux

open Lib

structure TsFeed.Tuned (feed : TsFeed) (i : TsIndex) (spec : Option TsSpec)
    (filter : Filter CbData) : Prop where
  kind : filter.kind = .ts
  valid : feed.state = .ready → feed.pid < 0x1fff
  runs : filter.state = .run ↔ feed.state = .go
  passes : feed.state = .go → filter.cbList = [.tsFeed i] ∧ filter.params.pid = feed.pid
  unused : ∀ s, spec = some s → s.used = false → filter.cbList = []

structure SecFilter.Tuned (slot : SecFilter) (i : SecIndex) (j : FilterIndex)
    (spec : Option SecSpec) (fill : Option SecFill) (filter : Filter CbData) : Prop where
  kind : filter.kind = .sec
  suits : slot.Suits filter
  fresh : slot.state = .allocated → filter.cbList = []
  passes : slot.state ≠ .allocated → filter.cbList = [.secFilter i j]
  started : slot.state = .go →
    ∃ s, spec = some s ∧ s.started = some (filter.params.pid, filter.params.crc32)
  waits : slot.state = .allocated → fill = some slot.fill
  matched : slot.state ≠ .allocated →
    ∃ f, fill = some f ∧ ∀ data, secFilterMatch data filter = f.passes data

structure TsFeed.Follows (feed : TsFeed) (spec : Option TsSpec) : Prop where
  live : spec = none ↔ feed.state = .free
  cb : ∀ s, spec = some s → feed.tsCb = some s.cb
  started : ∀ s, spec = some s → (s.started = true ↔ feed.state = .go)
  pid : ∀ s pid, spec = some s → s.pid = some pid → feed.pid = pid
  set : ∀ s, spec = some s → feed.state = .ready ∨ feed.state = .go → s.pid.isSome

structure SecFeed.Follows (feed : SecFeed) (spec : Option SecSpec) : Prop where
  live : spec ≠ none → feed.state ≠ .free
  bare : spec = none → feed.state = .free ∨ ∀ j, (feed.filter j).state = .free
  cb : ∀ s, spec = some s → feed.secCb = some s.cb
  set : ∀ s pid checkCrc, spec = some s → s.set = some (pid, checkCrc) →
    feed.pid = pid ∧ feed.checkCrc = checkCrc
  valid : ∀ s pid checkCrc, spec = some s → s.set = some (pid, checkCrc) → pid < 0x1fff
  busy : ∀ s, spec = some s → s.started.isSome → feed.isFiltering = true

namespace Demuxing

def Tuned (dmx : AmlDmx) (spec : FeedSpec) : CbData → Filter CbData → Prop
  | .tsFeed i, filter => (dmx.tsFeed i).Tuned i (spec.ts i) filter
  | .secFilter i j, filter =>
    ((dmx.sectionFeed i).filter j).Tuned i j (spec.sec i) (spec.fill i j) filter

structure Tracked (s : Demuxing) : Prop where
  unlocked : s.dmx.pmutex = false
  owned : s.dmx.Owned (Tuned s.dmx s.spec)
  held : ∀ addr, s.dmx.swdmx.filters addr ≠ none →
    ∃ holder, s.dmx.Live holder ∧ s.dmx.pointer holder = some addr
  ts : ∀ i, (s.dmx.tsFeed i).Follows (s.spec.ts i)
  sec : ∀ i, (s.dmx.sectionFeed i).Follows (s.spec.sec i)

variable {s : Demuxing}

theorem Tracked.linked (tracked : s.Tracked) : s.dmx.Linked where
  tabled := tracked.owned.tabled
  valid holder live := by
    obtain ⟨addr, filter, points, found, tuned⟩ := tracked.owned.valid holder live
    refine ⟨addr, filter, points, found, ?_⟩
    cases holder with
    | tsFeed i => exact ⟨tuned.kind, tuned.valid⟩
    | secFilter i j => exact ⟨tuned.kind, tuned.suits⟩
  apart := tracked.owned.apart

theorem going_of_run {slot : SecFilter} {filter : Filter CbData} (suits : slot.Suits filter)
    (running : filter.state = .run) : slot.state = .go := by
  rcases suits with ⟨-, init⟩ | ⟨-, set⟩ | ⟨going, -⟩
  · rw [running] at init
    cases init
  · rw [running] at set
    cases set
  · exact going

theorem Tracked.serves (tracked : s.Tracked) : s.dmx.Serves where
  owner addr filter found running := by
    obtain ⟨holder, live, points⟩ := tracked.held addr (by rw [found]; exact nofun)
    obtain ⟨place, other, there, stored, tuned⟩ := tracked.owned.valid holder live
    obtain rfl := Option.some.inj (there.symm.trans points)
    obtain rfl := Option.some.inj (stored.symm.trans found)
    refine ⟨holder, live, points, ?_⟩
    cases holder with
    | tsFeed i => exact ⟨tuned.kind, (tuned.passes (tuned.runs.mp running)).1⟩
    | secFilter i j =>
      have going := going_of_run tuned.suits running
      exact ⟨tuned.kind, tuned.passes (by rw [going]; exact nofun)⟩
  apart := tracked.owned.apart

theorem Tracked.listens (tracked : s.Tracked) {holder : CbData} {pid : UInt16}
    (listens : s.dmx.listens holder pid = true) :
    ∃ filter, s.dmx.filterOf holder = some filter ∧ Tuned s.dmx s.spec holder filter ∧
      filter.state = .run ∧ filter.params.pid = pid := by
  obtain ⟨filter, found, here⟩ := (Option.any_eq_true _ _).mp listens
  obtain ⟨live, addr, points, stored⟩ := AmlDmx.filterOf_spec found
  obtain ⟨place, other, there, own, tuned⟩ := tracked.owned.valid holder live
  obtain rfl := Option.some.inj (there.symm.trans points)
  obtain rfl := Option.some.inj (own.symm.trans stored)
  rw [Bool.and_eq_true, beq_iff_eq, beq_iff_eq] at here
  exact ⟨other, found, tuned, here⟩

theorem Tracked.listens_ts (tracked : s.Tracked) {i : TsIndex} {pid : UInt16} :
    s.dmx.listens (.tsFeed i) pid = true ↔
      ∃ spec, s.spec.ts i = some spec ∧ spec.started = true ∧ spec.pid = some pid := by
  have follows := tracked.ts i
  constructor
  · intro listens
    obtain ⟨filter, found, tuned, running, same⟩ := tracked.listens listens
    have going := tuned.runs.mp running
    cases entry : s.spec.ts i with
    | none =>
      rw [follows.live.mp entry] at going
      cases going
    | some spec =>
      obtain ⟨last, set⟩ := Option.isSome_iff_exists.mp (follows.set spec entry (Or.inr going))
      refine ⟨spec, rfl, (follows.started spec entry).mpr going, ?_⟩
      rw [set, ← same, (tuned.passes going).2, follows.pid spec last entry set]
  · rintro ⟨spec, entry, started, set⟩
    have going := (follows.started spec entry).mp started
    have live : s.dmx.Live (.tsFeed i) := fun free => absurd (going.symm.trans free) nofun
    obtain ⟨addr, filter, points, found, tuned⟩ := tracked.owned.valid (.tsFeed i) live
    refine (Option.any_eq_true _ _).mpr ⟨filter, ?_, ?_⟩
    · rw [AmlDmx.filterOf_some live points]
      exact found
    · rw [Bool.and_eq_true, beq_iff_eq, beq_iff_eq]
      exact ⟨tuned.runs.mpr going,
        (tuned.passes going).2.trans (follows.pid spec pid entry set)⟩

theorem Tracked.onPacket (tracked : s.Tracked) (i : TsIndex) (pkts : List TsPacket) :
    pkts.flatMap (s.dmx.onPacket i) = s.spec.tsExpected i pkts := by
  have follows := tracked.ts i
  have deaf : (∀ pid, s.dmx.listens (.tsFeed i) pid ≠ true) → pkts.flatMap (s.dmx.onPacket i) = [] :=
    fun none_ => List.flatMap_eq_nil_iff.mpr fun pkt _ => if_neg (none_ pkt.pid)
  unfold FeedSpec.tsExpected
  cases entry : s.spec.ts i with
  | none =>
    refine deaf fun pid listens => ?_
    obtain ⟨spec, has, -⟩ := tracked.listens_ts.mp listens
    rw [entry] at has
    cases has
  | some spec =>
    obtain ⟨cb, set, started, used⟩ := spec
    have idle : set = none ∨ started = false → pkts.flatMap (s.dmx.onPacket i) = [] := by
      intro either
      refine deaf fun pid listens => ?_
      obtain ⟨spec, has, on, same⟩ := tracked.listens_ts.mp listens
      rw [entry] at has
      cases has
      rcases either with rfl | rfl
      · cases same
      · cases on
    cases started with
    | false => cases set <;> exact idle (Or.inr rfl)
    | true =>
      cases set with
      | none => exact idle (Or.inl rfl)
      | some pid =>
        dsimp only
        have going := (follows.started _ entry).mp rfl
        have each : ∀ pkt, s.dmx.onPacket i pkt =
            if pkt.pid == pid then [(cb, pkt.packet)] else [] := by
          intro pkt
          unfold AmlDmx.onPacket
          by_cases same : pkt.pid = pid
          · have listens : s.dmx.listens (.tsFeed i) pkt.pid = true :=
              tracked.listens_ts.mpr ⟨_, entry, rfl, by rw [same]⟩
            rw [if_pos listens, if_pos (beq_iff_eq.mpr same)]
            unfold AmlDmx.tsPktCb
            rw [if_pos going, follows.cb _ entry]
            simp [FeedCall.ofTs]
          · rw [if_neg, if_neg (fun eq => same (beq_iff_eq.mp eq))]
            intro listens
            obtain ⟨spec, has, -, other⟩ := tracked.listens_ts.mp listens
            rw [entry] at has
            cases has
            exact same (Option.some.inj other).symm
        clear idle deaf
        induction pkts with
        | nil => rfl
        | cons pkt rest ih =>
          rw [List.flatMap_cons, ih, each, List.filter_cons]
          split_ifs <;> rfl

theorem Tracked.listens_sec (tracked : s.Tracked) {i : SecIndex} {j : FilterIndex} {pid : UInt16}
    (listens : s.dmx.listens (.secFilter i j) pid = true) :
    ∃ spec checkCrc filter fill, s.spec.sec i = some spec ∧ spec.started = some (pid, checkCrc) ∧
      s.dmx.filterOf (.secFilter i j) = some filter ∧ filter.params.crc32 = checkCrc ∧
      s.spec.fill i j = some fill ∧ ∀ data, secFilterMatch data filter = fill.passes data := by
  obtain ⟨filter, found, tuned, running, same⟩ := tracked.listens listens
  have going := going_of_run tuned.suits running
  obtain ⟨spec, entry, started⟩ := tuned.started going
  obtain ⟨fill, filled, matched⟩ := tuned.matched (by rw [going]; exact nofun)
  exact ⟨spec, filter.params.crc32, filter, fill, entry, by rw [started, same], found, rfl, filled,
    matched⟩

theorem onSection_sublist (tracked : s.Tracked) {i : SecIndex} {j : FilterIndex} {spec : SecSpec}
    {pid : UInt16} {checkCrc : Bool} (entry : s.spec.sec i = some spec)
    (started : spec.started = some (pid, checkCrc)) (c : SecState) :
    (s.dmx.heard i j pid c).Sublist
      (if s.spec.matched i j c && (!checkCrc || swdmxCrc32 c.bytes == 0) then
        [(spec.cb, c.bytes)] else []) := by
  unfold AmlDmx.heard
  by_cases listens : s.dmx.listens (.secFilter i j) pid = true
  · obtain ⟨other, crc, filter, fill, has, set, found, same, filled, matched⟩ :=
      tracked.listens_sec listens
    rw [entry] at has
    cases has
    rw [started] at set
    cases set
    have alike : s.dmx.passes (.secFilter i j) c =
        (s.spec.matched i j c && (!filter.params.crc32 || swdmxCrc32 c.bytes == 0)) := by
      unfold AmlDmx.passes FeedSpec.matched
      rw [found, filled, Option.any_some, Option.any_some, matched]
    rw [if_pos listens]
    unfold AmlDmx.onSection
    rw [alike, same]
    split_ifs
    · unfold AmlDmx.secCb
      rw [(tracked.sec i).cb spec entry]
      split_ifs
      · simp [FeedCall.ofSec]
      · exact List.nil_sublist _
    · exact List.Sublist.refl _
  · rw [if_neg listens]
    exact List.nil_sublist _

theorem Tracked.onSections (tracked : s.Tracked) {pkts : List TsPacket}
    {received : SecIndex → FilterIndex → List (Nat × List UInt8)}
    (heard : s.dmx.Heard s.dmx.swdmx pkts received) (i : SecIndex) (j : FilterIndex) :
    (received i j).Sublist (s.spec.secExpected s.dmx i j pkts) := by
  have deaf : (∀ pid, s.dmx.listens (.secFilter i j) pid ≠ true) → received i j = [] := by
    intro none_
    have all := heard i j 0 fun other listens => absurd listens (none_ other)
    have silent : ((s.dmx.swdmx.completions 0 pkts).flatMap (s.dmx.heard i j 0)) = [] :=
      List.flatMap_eq_nil_iff.mpr fun c _ => if_neg (none_ 0)
    rw [silent] at all
    exact List.sublist_nil.mp all
  have unstarted : (∀ spec, s.spec.sec i = some spec → spec.started = none) →
      received i j = [] := by
    intro idle
    refine deaf fun pid listens => ?_
    obtain ⟨spec, _, _, _, entry, started, -⟩ := tracked.listens_sec listens
    rw [idle spec entry] at started
    cases started
  unfold FeedSpec.secExpected
  cases entry : s.spec.sec i with
  | none =>
    have silent := unstarted fun spec has => by rw [entry] at has; cases has
    exact silent.symm ▸ List.nil_sublist _
  | some spec =>
    obtain ⟨cb, set, started⟩ := spec
    cases started with
    | none =>
      have silent := unstarted fun spec has => by rw [entry] at has; cases has; rfl
      exact silent.symm ▸ List.nil_sublist _
    | some setting =>
      obtain ⟨pid, checkCrc⟩ := setting
      have only : ∀ other, s.dmx.listens (.secFilter i j) other = true → other = pid := by
        intro other listens
        obtain ⟨spec, _, _, _, has, set, -⟩ := tracked.listens_sec listens
        rw [entry] at has
        cases has
        cases set
        rfl
      refine (heard i j pid only).trans ?_
      dsimp only
      generalize s.dmx.swdmx.completions pid pkts = completed
      induction completed with
      | nil => exact List.nil_sublist _
      | cons c rest ih =>
        have first := onSection_sublist (j := j) tracked entry rfl c
        rw [List.flatMap_cons, List.filter_cons]
        split_ifs at first ⊢ with good
        · exact first.append ih
        · rw [List.sublist_nil.mp first]
          exact ih

theorem Tracked.delivers (tracked : s.Tracked) : s.Delivers := by
  intro path outcome buf running enough
  obtain ⟨swdmx, consumed, calls, done, -, -, ts, sec⟩ := tracked.serves.write_calls
    ⟨tracked.owned.tabled, enough⟩ tracked.unlocked running path buf
  exact ⟨_, consumed, calls, done, fun i => (ts i).trans (tracked.onPacket i _),
    fun i j => tracked.onSections sec i j⟩

end Demuxing

end UnionpiTiger.Demux
