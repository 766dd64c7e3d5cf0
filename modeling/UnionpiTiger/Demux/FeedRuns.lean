import UnionpiTiger.Demux.RoundTrip
import UnionpiTiger.Demux.SecFeeds

set_option autoImplicit false

namespace UnionpiTiger.Demux

open Lib

namespace Demuxing

variable {s : Demuxing} {swdmx : SwDemux CbData} {outcome : Outcome}
  {next : AmlDmx} {code : Int}

theorem Tracked.write (tracked : s.Tracked) {path : Path} {buf : List UInt8}
    (fits : (DemuxCall.write outcome path buf).Fits s) :
    (s.step (.write outcome path buf)).Tracked := by
  cases interrupted : outcome.interrupted with
  | true =>
    have same : s.dmx.write path outcome buf = some (s.dmx, -eRestartSys, []) :=
      (AmlDmx.lockInterruptible_eq tracked.unlocked _ _).trans (if_pos interrupted)
    simp only [Demuxing.step, same]
    exact tracked
  | false =>
    have enough : s.dmx.swdmx.Enough := by
      rcases fits with bad | enough
      · rw [interrupted] at bad
        cases bad
      · exact enough
    obtain ⟨swdmx, consumed, calls, done, ready, filters, -⟩ := tracked.serves.write_calls
      ⟨tracked.owned.tabled, enough⟩ tracked.unlocked interrupted path buf
    simp only [Demuxing.step, done]
    constructor
    case unlocked => exact tracked.unlocked
    case owned =>
      refine tracked.owned.step ready.tabled (fun holder live => ?_) (fun holder _ => ?_) ?_
      · cases holder <;> exact live
      · cases holder <;> rfl
      · intro holder addr filter _ _ found tuned
        refine ⟨filter, by rw [← found]; exact congrFun filters addr, ?_⟩
        cases holder <;> exact tuned
    case held =>
      intro addr has
      replace has : swdmx.filters addr ≠ none := has
      rw [filters] at has
      obtain ⟨holder, live, there⟩ := tracked.held addr has
      refine ⟨holder, ?_, ?_⟩
      · cases holder <;> exact live
      · cases holder <;> exact there
    case ts => exact tracked.ts
    case sec => exact tracked.sec

theorem Tracked.feed (tracked : s.Tracked) {op : FeedOp} (legal : (DemuxCall.feed outcome op).Legal s)
    (fits : (DemuxCall.feed outcome op).Fits s)
    (applied : op.apply s.dmx outcome = some (next, code)) : (s.after op next code).Tracked := by
  cases interrupted : outcome.interrupted with
  | true =>
    rcases FeedOp.apply_interrupted tracked.unlocked interrupted op with ⟨i, rfl⟩ | ⟨_, failed, same⟩
    · obtain ⟨entry, has⟩ := Option.ne_none_iff_exists'.mp legal
      exact tracked.tsStop has applied
    · rw [same] at applied
      cases applied
      exact tracked.failed failed
  | false =>
    have goes : ¬outcome.interrupted = true := by rw [interrupted]; exact Bool.false_ne_true
    cases op with
    | tsSet i pid tsType pesType =>
      obtain ⟨entry, has⟩ := Option.ne_none_iff_exists'.mp legal
      exact tracked.tsSet has (fits.resolve_left goes).2 applied
    | tsStart i =>
      obtain ⟨entry, has⟩ := Option.ne_none_iff_exists'.mp legal
      obtain ⟨meets, fits⟩ := fits.resolve_left goes
      exact tracked.tsStart interrupted has meets fits applied
    | tsStop i =>
      obtain ⟨entry, has⟩ := Option.ne_none_iff_exists'.mp legal
      exact tracked.tsStop has applied
    | secAllocateFilter i =>
      exact tracked.secAllocateFilter interrupted legal (fits.resolve_left goes).1 applied
    | secSet i pid checkCrc =>
      obtain ⟨entry, has⟩ := Option.ne_none_iff_exists'.mp legal
      exact tracked.secSet has applied
    | secStart i =>
      obtain ⟨meets, fits⟩ := fits.resolve_left goes
      exact tracked.secStart interrupted ((tracked.sec i).live legal) meets fits applied
    | secStop i =>
      obtain ⟨entry, has⟩ := Option.ne_none_iff_exists'.mp legal
      exact tracked.secStop interrupted has applied
    | secReleaseFilter i j =>
      exact tracked.secReleaseFilter interrupted legal.1 legal.2 applied
    | allocateTs callback =>
      exact tracked.allocateTs interrupted (fits.resolve_left goes).1 applied
    | releaseTs i =>
      obtain ⟨entry, has⟩ := Option.ne_none_iff_exists'.mp legal
      exact tracked.releaseTs interrupted has applied
    | allocateSec callback => exact tracked.allocateSec interrupted applied
    | releaseSec i => exact tracked.releaseSec interrupted legal.2 applied

theorem Tracked.step (tracked : s.Tracked) (call : DemuxCall) (legal : call.Legal s)
    (fits : call.Fits s) : (s.step call).Tracked := by
  cases call with
  | write outcome path buf => exact tracked.write fits
  | fill i j fill => exact tracked.fill fill legal.1 fits
  | feed outcome op =>
    cases applied : op.apply s.dmx outcome with
    | none =>
      simp only [Demuxing.step, applied]
      exact tracked
    | some result =>
      obtain ⟨next, code⟩ := result
      simp only [Demuxing.step, applied]
      exact tracked.feed legal fits applied

structure Idle (dmx : AmlDmx) : Prop where
  unlocked : dmx.pmutex = false
  swdmx : ∃ memory held, dmx.swdmx = swdmxDemuxNew memory held
  ts : ∀ i, (dmx.tsFeed i).state = .free
  sec : ∀ i, (dmx.sectionFeed i).state = .free

theorem Idle.tracked {dmx : AmlDmx} (idle : Idle dmx) : Tracked { dmx } := by
  obtain ⟨memory, held, fresh⟩ := idle.swdmx
  have none_ : ∀ holder, ¬dmx.Live holder := by
    intro holder live
    cases holder with
    | tsFeed i => exact live (idle.ts i)
    | secFilter i j => exact live.1 (idle.sec i)
  constructor
  case unlocked => exact idle.unlocked
  case owned =>
    refine ⟨?_, fun holder live => absurd live (none_ holder),
      fun holder _ live => absurd live (none_ holder)⟩
    show dmx.swdmx.Tabled none
    rw [fresh]
    exact SwDemux.Tabled.new memory held
  case held =>
    intro addr has
    replace has : dmx.swdmx.filters addr ≠ none := has
    rw [fresh] at has
    exact absurd rfl has
  case ts => exact fun i => ⟨iff_of_true rfl (idle.ts i), nofun, nofun, nofun, nofun⟩
  case sec =>
    exact fun i => ⟨fun given => absurd rfl given, fun _ => Or.inl (idle.sec i), nofun, nofun, nofun,
      nofun⟩

end Demuxing

open Demuxing

theorem feeds_delivered_along_fitting_runs (dmx : AmlDmx) (idle : Idle dmx) (calls : List DemuxCall)
    (legal : Along Demuxing.step (fun s call => call.Legal s) { dmx } calls)
    (fits : Along Demuxing.step (fun s call => call.Fits s) { dmx } calls) :
    (run Demuxing.step { dmx } calls).Delivers :=
  Tracked.delivers (run_invariant Demuxing.step _ Tracked
    (fun _ call tracked both => tracked.step call both.1 both.2) _ idle.tracked calls
    (legal.and fits))

def idleDmx : AmlDmx := { swdmx := swdmxDemuxNew 9 fun _ => fun _ => 0, usedHwdmx := false }

theorem idleDmx_idle : Idle idleDmx :=
  ⟨rfl, ⟨9, fun _ => fun _ => 0, rfl⟩, fun _ => rfl, fun _ => rfl⟩

def tsSetAndStart : List DemuxCall :=
  [.feed {} (.tsSet FeedOp.firstFeed 0x100 0 0), .feed {} (.tsStart FeedOp.firstFeed)]

def tsRestart : List DemuxCall :=
  .feed {} (.allocateTs 7) :: tsSetAndStart ++ .feed {} (.tsStop FeedOp.firstFeed) :: tsSetAndStart

def firstFilter : FilterIndex := ⟨0, by decide⟩

-- Sections with table id 0x42 only.
def tableFill : SecFill where
  value k := if k.val = 0 then 0x42 else 0
  mask k := if k.val = 0 then 0xff else 0
  mode _ := 0xff

def bothFeeds : List DemuxCall :=
  .feed {} (.allocateTs 7) :: tsSetAndStart ++
    [.feed { held := fun _ => { filterMask := fun _ => 0x5a } } (.allocateSec 9),
      .feed {} (.secAllocateFilter FeedOp.firstSection),
        .fill FeedOp.firstSection firstFilter tableFill,
      .feed {} (.secSet FeedOp.firstSection 0x200 true), .feed {} (.secStart FeedOp.firstSection)]

theorem started_feed_delivers : (run Demuxing.step { dmx := idleDmx } bothFeeds).Delivers :=
  feeds_delivered_along_fitting_runs idleDmx idleDmx_idle bothFeeds
    ⟨trivial, Option.some_ne_none _, Option.some_ne_none _, trivial, Option.some_ne_none _,
      ⟨Option.some_ne_none _, by decide +kernel⟩, Option.some_ne_none _, Option.some_ne_none _,
      trivial⟩
    ⟨Or.inr ⟨by decide, trivial⟩, Or.inr ⟨by decide, fun _ _ => by decide⟩,
      Or.inr ⟨by decide, fun _ spec known => by
        cases known
        rfl⟩,
      trivial, Or.inr ⟨by decide +kernel, trivial⟩, (by show _ = DmxState.allocated; decide +kernel),
      Or.inr ⟨trivial, trivial⟩,
      Or.inr ⟨by decide +kernel, fun _ => ⟨_, 0x200, true, rfl, rfl, fun j ready =>
        absurd ready (by revert j; decide +kernel)⟩⟩, trivial⟩

theorem packet_delivered_twice_after_restart :
    ¬∀ (dmx : AmlDmx) (calls : List DemuxCall), Idle dmx →
      Along Demuxing.step (fun s call => call.Legal s) { dmx } calls →
        (run Demuxing.step { dmx } calls).Delivers := by
  intro delivers
  have enough : (run Demuxing.step { dmx := idleDmx } tsRestart).dmx.swdmx.Enough := by
    show _ ≤ _
    decide +kernel
  obtain ⟨next, consumed, calls, written, ts, -⟩ :=
    delivers idleDmx tsRestart idleDmx_idle
      ⟨trivial, Option.some_ne_none _, Option.some_ne_none _, Option.some_ne_none _,
        Option.some_ne_none _, Option.some_ne_none _, trivial⟩
      plainPath {} onePacket.bytes rfl enough
  have twice : ((run Demuxing.step { dmx := idleDmx } tsRestart).dmx.write plainPath {}
      onePacket.bytes).map (fun done => (done.2.2.filterMap (FeedCall.ofTs FeedOp.firstFeed)).length) =
        some 2 := by
    decide +kernel
  have once : ((run Demuxing.step { dmx := idleDmx } tsRestart).spec.tsExpected FeedOp.firstFeed
      (plainPath.received onePacket.bytes)).length = 1 := by decide +kernel
  rw [written, Option.map_some, ts FeedOp.firstFeed, once] at twice
  exact absurd twice (by decide)

end UnionpiTiger.Demux
