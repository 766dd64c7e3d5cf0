import UnionpiTiger.Demux.Delivery

set_option autoImplicit false

namespace UnionpiTiger.Demux

open Lib

namespace Demuxing

variable {s : Demuxing} {swdmx : SwDemux CbData} {outcome : Outcome}

theorem tuned_putTs {dmx : AmlDmx} {spec : FeedSpec} {i : TsIndex} {feed : TsFeed}
    {entry : Option TsSpec} (holder : CbData) (filter : Filter CbData)
    (apart : holder ≠ .tsFeed i) (tuned : Tuned dmx spec holder filter) :
    Tuned (({ dmx with swdmx } : AmlDmx).putTs i feed) (spec.putTs i entry) holder filter := by
  cases holder with
  | tsFeed k =>
    have head : k ≠ i := fun same => apart (by rw [same])
    show TsFeed.Tuned (Function.update dmx.tsFeed i feed k) k
      (Function.update spec.ts i entry k) filter
    rw [Function.update_of_ne head, Function.update_of_ne head]
    exact tuned
  | secFilter k j => exact tuned

theorem tuned_ts {dmx : AmlDmx} {spec : FeedSpec} {i : TsIndex} {feed : TsFeed}
    {entry : Option TsSpec} {filter : Filter CbData} (tuned : feed.Tuned i entry filter) :
    Tuned (({ dmx with swdmx } : AmlDmx).putTs i feed) (spec.putTs i entry) (.tsFeed i) filter := by
  show TsFeed.Tuned (Function.update dmx.tsFeed i feed i) i (Function.update spec.ts i entry i) filter
  rw [Function.update_self, Function.update_self]
  exact tuned

theorem tuned_putSec {dmx : AmlDmx} {spec : FeedSpec} {i : SecIndex} {feed : SecFeed}
    {entry : Option SecSpec} (holder : CbData) (filter : Filter CbData)
    (apart : ∀ j, holder ≠ .secFilter i j) (tuned : Tuned dmx spec holder filter) :
    Tuned (({ dmx with swdmx } : AmlDmx).putSec i feed) (spec.putSec i entry) holder filter := by
  cases holder with
  | tsFeed k => exact tuned
  | secFilter k j =>
    have head : k ≠ i := fun same => apart j (by rw [same])
    show SecFilter.Tuned ((Function.update dmx.sectionFeed i feed k).filter j) k j
      (Function.update spec.sec i entry k) (spec.fill k j) filter
    rw [Function.update_of_ne head, Function.update_of_ne head]
    exact tuned

theorem tuned_slot {dmx : AmlDmx} {spec : FeedSpec} {i : SecIndex} {j : FilterIndex}
    {feed : SecFeed} {entry : Option SecSpec} {filter : Filter CbData}
    (tuned : (feed.filter j).Tuned i j entry (spec.fill i j) filter) :
    Tuned (({ dmx with swdmx } : AmlDmx).putSec i feed) (spec.putSec i entry) (.secFilter i j)
      filter := by
  show SecFilter.Tuned ((Function.update dmx.sectionFeed i feed i).filter j) i j
    (Function.update spec.sec i entry i) (spec.fill i j) filter
  rw [Function.update_self, Function.update_self]
  exact tuned

theorem putFill_self {spec : FeedSpec} {i : SecIndex} {j : FilterIndex} {fill : Option SecFill} :
    (spec.putFill i j fill).fill i j = fill := by
  unfold FeedSpec.putFill
  dsimp only
  rw [Function.update_self, Function.update_self]

theorem putFill_other {spec : FeedSpec} {i k : SecIndex} {j l : FilterIndex} {fill : Option SecFill}
    (apart : CbData.secFilter k l ≠ .secFilter i j) :
    (spec.putFill i j fill).fill k l = spec.fill k l := by
  unfold FeedSpec.putFill
  dsimp only
  by_cases here : k = i
  · subst here
    rw [Function.update_self]
    exact Function.update_of_ne (fun same => apart (by rw [same])) _ _
  · rw [Function.update_of_ne here]

theorem tuned_putSlot {dmx : AmlDmx} {spec : FeedSpec} {i : SecIndex} {j : FilterIndex}
    {slot : SecFilter} {fill : Option SecFill} (holder : CbData) (filter : Filter CbData)
    (apart : holder ≠ .secFilter i j) (tuned : Tuned dmx spec holder filter) :
    Tuned (({ dmx with swdmx } : AmlDmx).putSlot i j slot) (spec.putFill i j fill) holder
      filter := by
  cases holder with
  | tsFeed k => exact tuned
  | secFilter k l =>
    show SecFilter.Tuned _ k l (spec.sec k) _ filter
    rw [AmlDmx.putSlot_other apart, putFill_other apart]
    exact tuned

theorem Tracked.follows_putTs (tracked : s.Tracked) {i : TsIndex} {feed : TsFeed}
    {entry : Option TsSpec} (follows : feed.Follows entry) (k : TsIndex) :
    ((({ s.dmx with swdmx } : AmlDmx).putTs i feed).tsFeed k).Follows
      ((s.spec.putTs i entry).ts k) := by
  show TsFeed.Follows (Function.update s.dmx.tsFeed i feed k) (Function.update s.spec.ts i entry k)
  by_cases head : k = i
  · subst head
    rw [Function.update_self, Function.update_self]
    exact follows
  · rw [Function.update_of_ne head, Function.update_of_ne head]
    exact tracked.ts k

theorem Tracked.follows_putSec (tracked : s.Tracked) {i : SecIndex} {feed : SecFeed}
    {entry : Option SecSpec} (follows : feed.Follows entry) (k : SecIndex) :
    ((({ s.dmx with swdmx } : AmlDmx).putSec i feed).sectionFeed k).Follows
      ((s.spec.putSec i entry).sec k) := by
  show SecFeed.Follows (Function.update s.dmx.sectionFeed i feed k)
    (Function.update s.spec.sec i entry k)
  by_cases head : k = i
  · subst head
    rw [Function.update_self, Function.update_self]
    exact follows
  · rw [Function.update_of_ne head, Function.update_of_ne head]
    exact tracked.sec k

theorem Tracked.onTs (tracked : s.Tracked) {i : TsIndex} {feed : TsFeed} {entry : Option TsSpec}
    {tsf : Nat} (tabled : swdmx.Tabled none) (live : (s.dmx.tsFeed i).state ≠ .free)
    (points : (s.dmx.tsFeed i).tsf = some tsf) (same : feed.tsf = some tsf)
    (alive : feed.state ≠ .free)
    (others : ∀ place, place ≠ tsf → swdmx.filters place = s.dmx.swdmx.filters place)
    (here : ∀ filter, s.dmx.swdmx.filters tsf = some filter →
      (s.dmx.tsFeed i).Tuned i (s.spec.ts i) filter →
        ∃ new, swdmx.filters tsf = some new ∧ feed.Tuned i entry new)
    (follows : feed.Follows entry) :
    Tracked { dmx := ({ s.dmx with swdmx } : AmlDmx).putTs i feed, spec := s.spec.putTs i entry } where
  unlocked := tracked.unlocked
  owned := by
    refine tracked.owned.putTs tabled live points same others ?_ tuned_putTs
    intro filter found tuned _
    obtain ⟨new, stored, still⟩ := here filter found tuned
    exact ⟨new, stored, tuned_ts still⟩
  held addr has := by
    have up : (({ s.dmx with swdmx } : AmlDmx).putTs i feed).Live (.tsFeed i) := by
      show ((({ s.dmx with swdmx } : AmlDmx).putTs i feed).tsFeed i).state ≠ .free
      rw [AmlDmx.putTs_feed]
      exact alive
    by_cases own : addr = tsf
    · refine ⟨.tsFeed i, up, ?_⟩
      show ((({ s.dmx with swdmx } : AmlDmx).putTs i feed).tsFeed i).tsf = _
      rw [AmlDmx.putTs_feed, same, own]
    · obtain ⟨holder, holderLive, there⟩ := tracked.held addr (by rw [← others addr own]; exact has)
      have apart : holder ≠ .tsFeed i := by
        rintro rfl
        exact own (Option.some.inj (there.symm.trans points))
      refine ⟨holder, (AmlDmx.putTs_live apart).mpr ?_, (AmlDmx.putTs_pointer apart).trans ?_⟩
      · cases holder <;> exact holderLive
      · cases holder <;> exact there
  ts := tracked.follows_putTs follows
  sec := tracked.sec

def after (s : Demuxing) (op : FeedOp) (next : AmlDmx) (code : Int) : Demuxing where
  dmx := next
  spec := if code = 0 then s.spec.after s.dmx op else s.spec

theorem Tracked.failed (tracked : s.Tracked) {op : FeedOp} {code : Int} (failed : code ≠ 0) :
    (s.after op s.dmx code).Tracked := by
  unfold after
  rw [if_neg failed]
  exact tracked

theorem Tracked.live_ts (tracked : s.Tracked) {i : TsIndex} {entry : TsSpec}
    (has : s.spec.ts i = some entry) : (s.dmx.tsFeed i).state ≠ .free := by
  intro free
  rw [(tracked.ts i).live.mpr free] at has
  cases has

theorem Tracked.live_sec (tracked : s.Tracked) {i : SecIndex} {entry : SecSpec}
    (has : s.spec.sec i = some entry) : (s.dmx.sectionFeed i).state ≠ .free :=
  (tracked.sec i).live (by rw [has]; exact nofun)

variable {next : AmlDmx} {code : Int}

theorem Tracked.tsSet (tracked : s.Tracked) {i : TsIndex} {entry : TsSpec}
    (has : s.spec.ts i = some entry) {pid : UInt16} {tsType pesType : UInt32}
    (idle : pid < swdmxMaxPid → ¬(tsType &&& tsDecoder ≠ 0 ∧ pesType ≥ dmxPesOther) →
      (s.dmx.tsFeed i).state ≠ .go)
    (applied : s.dmx.tsFeedSet outcome i pid tsType pesType = some (next, code)) :
    (s.after (.tsSet i pid tsType pesType) next code).Tracked := by
  by_cases refused : pid ≥ swdmxMaxPid ∨ outcome.interrupted = true ∨
      tsType &&& tsDecoder ≠ 0 ∧ pesType ≥ dmxPesOther
  · obtain ⟨_, failed, same⟩ := AmlDmx.tsFeedSet_refused tracked.unlocked i refused
    rw [same] at applied
    cases applied
    exact tracked.failed failed
  · have valid : ¬pid ≥ swdmxMaxPid := fun bad => refused (Or.inl bad)
    have known := fun bad => refused (Or.inr (Or.inr bad))
    have stopped := idle (UInt16.not_le.mp valid) known
    rw [AmlDmx.tsFeedSet_some tracked.unlocked
      (Bool.eq_false_iff.mpr fun bad => refused (Or.inr (Or.inl bad))) i valid known] at applied
    cases applied
    have live := tracked.live_ts has
    obtain ⟨tsf, _, points, -⟩ := tracked.linked.ts live
    have follows := tracked.ts i
    unfold after
    rw [if_pos rfl, FeedSpec.after, has]
    refine tracked.onTs tracked.owned.tabled live points points nofun (fun _ _ => rfl) ?_ ?_
    · intro filter found tuned
      have rests : filter.state ≠ .run := fun running => stopped (tuned.runs.mp running)
      refine ⟨filter, found, tuned.kind, fun _ => UInt16.not_le.mp valid,
        iff_of_false rests nofun, nofun, ?_⟩
      rintro _ ⟨⟩ unused
      exact tuned.unused entry has unused
    · refine ⟨iff_of_false nofun nofun, ?_, ?_, ?_, ?_⟩
      · rintro _ ⟨⟩
        exact follows.cb entry has
      · rintro _ ⟨⟩
        exact iff_of_false (fun started => stopped ((follows.started entry has).mp started)) nofun
      · rintro _ _ ⟨⟩ ⟨⟩
        rfl
      · rintro _ ⟨⟩ _
        rfl

theorem Tracked.tsStart (tracked : s.Tracked) (running : outcome.interrupted = false) {i : TsIndex}
    {entry : TsSpec} (has : s.spec.ts i = some entry) (meets : (FeedOp.tsStart i).Meets s.dmx outcome)
    (fits : (FeedOp.tsStart i).Fits s)
    (applied : s.dmx.tsFeedStartFiltering outcome i = some (next, code)) :
    (s.after (.tsStart i) next code).Tracked := by
  by_cases starts : (s.dmx.tsFeed i).state = .ready ∧ (s.dmx.tsFeed i).type = .ts
  case neg =>
    rw [AmlDmx.tsFeedStart_idle tracked.unlocked running starts] at applied
    cases applied
    exact tracked.failed (by decide)
  obtain ⟨ready, type⟩ := starts
  have live := tracked.live_ts has
  obtain ⟨tsf, filter, swdmx, points, found, kind, tabled, effect, done⟩ :=
    AmlDmx.tsFeedStart_some tracked.linked tracked.unlocked running ready type (meets ⟨ready, type⟩)
  rw [done] at applied
  cases applied
  have follows := tracked.ts i
  have unused := fits ready entry has
  obtain ⟨place, stored⟩ := effect.at_
  unfold after
  rw [if_pos rfl, FeedSpec.after, has]
  refine tracked.onTs tabled live points points nofun (fun _ apart => effect.other apart) ?_ ?_
  · intro other same tuned
    rw [found] at same
    cases same
    refine ⟨_, stored, kind, nofun, iff_of_true rfl rfl, fun _ => ⟨?_, rfl⟩, ?_⟩
    · show filter.cbList ++ [_] = _
      rw [tuned.unused entry has unused]
      rfl
    · rintro _ ⟨⟩ used
      cases used
  · refine ⟨iff_of_false nofun nofun, ?_, ?_, ?_, ?_⟩
    · rintro _ ⟨⟩
      exact follows.cb entry has
    · rintro _ ⟨⟩
      exact iff_of_true rfl rfl
    · rintro _ pid ⟨⟩ set
      exact follows.pid entry pid has set
    · rintro _ ⟨⟩ _
      exact follows.set entry has (Or.inl ready)

theorem Tracked.tsStop (tracked : s.Tracked) {i : TsIndex} {entry : TsSpec}
    (has : s.spec.ts i = some entry) (applied : s.dmx.tsFeedStopFiltering i = some (next, code)) :
    (s.after (.tsStop i) next code).Tracked := by
  by_cases going : (s.dmx.tsFeed i).state = .go
  case neg =>
    rw [AmlDmx.tsFeedStop_idle tracked.unlocked going] at applied
    cases applied
    exact tracked.failed (by decide)
  have live := tracked.live_ts has
  obtain ⟨tsf, filter, swdmx, points, found, kind, tabled, effect, done⟩ :=
    AmlDmx.tsFeedStop_some tracked.linked tracked.unlocked going
  rw [done] at applied
  cases applied
  have follows := tracked.ts i
  obtain ⟨place, stored⟩ := effect.at_
  unfold after
  rw [if_pos rfl, FeedSpec.after, has]
  refine tracked.onTs tabled live points points nofun (fun _ apart => effect.other apart) ?_ ?_
  · intro other same tuned
    rw [found] at same
    cases same
    have ran := tuned.runs.mpr going
    rw [if_pos ran] at stored
    refine ⟨_, stored, kind, nofun, iff_of_false nofun nofun, nofun, ?_⟩
    rintro _ ⟨⟩ unused
    exact tuned.unused entry has unused
  · refine ⟨iff_of_false nofun nofun, ?_, ?_, ?_, fun _ _ either => either.elim nofun nofun⟩
    · rintro _ ⟨⟩
      exact follows.cb entry has
    · rintro _ ⟨⟩
      exact iff_of_false nofun nofun
    · rintro _ pid ⟨⟩ set
      exact follows.pid entry pid has set

theorem Tracked.freeTs (tracked : s.Tracked) {i : TsIndex} {feed : TsFeed} (tabled : swdmx.Tabled none)
    (free : feed.state = .free)
    (stored : ∀ holder addr, holder ≠ .tsFeed i → s.dmx.Live holder →
      s.dmx.pointer holder = some addr → swdmx.filters addr = s.dmx.swdmx.filters addr)
    (gone : ∀ addr, swdmx.filters addr ≠ none → s.dmx.swdmx.filters addr ≠ none ∧
      ¬(s.dmx.Live (.tsFeed i) ∧ s.dmx.pointer (.tsFeed i) = some addr)) :
    Tracked { dmx := ({ s.dmx with swdmx } : AmlDmx).putTs i feed, spec := s.spec.putTs i none } where
  unlocked := tracked.unlocked
  owned := tracked.owned.freeTs tabled stored free tuned_putTs
  held addr has := by
    obtain ⟨had, notOwn⟩ := gone addr has
    obtain ⟨holder, live, there⟩ := tracked.held addr had
    have apart : holder ≠ .tsFeed i := by
      rintro rfl
      exact notOwn ⟨live, there⟩
    refine ⟨holder, (AmlDmx.putTs_live apart).mpr ?_, (AmlDmx.putTs_pointer apart).trans ?_⟩
    · cases holder <;> exact live
    · cases holder <;> exact there
  ts := tracked.follows_putTs ⟨iff_of_true rfl free, nofun, nofun, nofun, nofun⟩
  sec := tracked.sec

theorem Tracked.newTs (tracked : s.Tracked) {i : TsIndex} {feed : TsFeed} (callback : Nat)
    (spare : (s.dmx.tsFeed i).state = .free) (tabled : swdmx.Tabled none)
    (stored : swdmx.filters =
      Function.update s.dmx.swdmx.filters s.dmx.swdmx.next (some { kind := .ts }))
    (points : feed.tsf = some s.dmx.swdmx.next) (state : feed.state = .allocated)
    (cb : feed.tsCb = some callback) :
    Tracked { dmx := ({ s.dmx with swdmx } : AmlDmx).putTs i feed
              spec := s.spec.putTs i (some { cb := callback }) } where
  unlocked := tracked.unlocked
  owned := by
    refine tracked.owned.allocTs tabled stored points (tuned_ts ⟨rfl, ?_, ?_, ?_, ?_⟩) tuned_putTs
    · rw [state]
      exact nofun
    · rw [state]
      exact iff_of_false nofun nofun
    · rw [state]
      exact nofun
    · exact fun _ _ _ => rfl
  held addr has := by
    by_cases own : addr = s.dmx.swdmx.next
    · refine ⟨.tsFeed i, ?_, ?_⟩
      · show ((({ s.dmx with swdmx } : AmlDmx).putTs i feed).tsFeed i).state ≠ .free
        rw [AmlDmx.putTs_feed, state]
        exact nofun
      · show ((({ s.dmx with swdmx } : AmlDmx).putTs i feed).tsFeed i).tsf = _
        rw [AmlDmx.putTs_feed, points, own]
    · replace has : swdmx.filters addr ≠ none := has
      rw [stored, Function.update_of_ne own] at has
      obtain ⟨holder, live, there⟩ := tracked.held addr has
      have apart : holder ≠ .tsFeed i := by
        rintro rfl
        exact live spare
      refine ⟨holder, (AmlDmx.putTs_live apart).mpr ?_, (AmlDmx.putTs_pointer apart).trans ?_⟩
      · cases holder <;> exact live
      · cases holder <;> exact there
  ts := by
    refine tracked.follows_putTs ⟨?_, ?_, ?_, ?_, ?_⟩
    · rw [state]
      exact iff_of_false nofun nofun
    · rintro _ ⟨⟩
      exact cb
    · rintro _ ⟨⟩
      rw [state]
      exact iff_of_false nofun nofun
    · rintro _ _ ⟨⟩ ⟨⟩
    · rw [state]
      exact fun _ _ either => either.elim nofun nofun
  sec := tracked.sec

theorem Tracked.allocateTs (tracked : s.Tracked) (running : outcome.interrupted = false)
    {callback : Nat} (meets : (FeedOp.allocateTs callback).Meets s.dmx outcome)
    (applied : s.dmx.allocateTsFeed outcome callback = some (next, code)) :
    (s.after (.allocateTs callback) next code).Tracked := by
  have linked := tracked.linked
  have unlocked := tracked.unlocked
  cases spare : s.dmx.tsFeedAlloc with
  | none =>
    rw [AmlDmx.allocateTs_full unlocked running callback spare] at applied
    cases applied
    exact tracked.failed (by decide)
  | some i =>
    have free := AmlDmx.tsFeedAlloc_free spare
    have room : 0 < s.dmx.swdmx.memory := meets (by rw [spare]; rfl)
    by_cases noChan : s.dmx.usedHwdmx = true ∧ outcome.hwChan = false
    · obtain ⟨swdmx, tabled, filters, done⟩ := AmlDmx.allocateTs_noChan linked unlocked running
        callback spare noChan.1 noChan.2 room
      rw [done] at applied
      cases applied
      have unset : s.spec.putTs i none = s.spec := by
        unfold FeedSpec.putTs
        rw [Function.update_eq_self_iff.mpr ((tracked.ts i).live.mpr free).symm]
      unfold after
      rw [if_neg (by decide), ← unset]
      refine tracked.freeTs tabled rfl (fun _ _ _ _ _ => by rw [filters]) fun addr has => ?_
      rw [filters] at has
      exact ⟨has, fun both => both.1 free⟩
    · obtain ⟨swdmx, tschan, tabled, filters, done⟩ := AmlDmx.allocateTs_some linked unlocked
        running callback spare
        (fun used => Bool.not_eq_false _ ▸ fun lacks => noChan ⟨used, lacks⟩) room
      rw [done] at applied
      cases applied
      unfold after
      rw [if_pos rfl, FeedSpec.after, spare]
      exact tracked.newTs callback free tabled filters rfl rfl rfl

theorem Tracked.releaseTs (tracked : s.Tracked) (running : outcome.interrupted = false) {i : TsIndex}
    {entry : TsSpec} (has : s.spec.ts i = some entry)
    (applied : s.dmx.releaseTsFeed outcome i = some (next, code)) :
    (s.after (.releaseTs i) next code).Tracked := by
  have live := tracked.live_ts has
  obtain ⟨tsf, swdmx, points, tabled, filters, done⟩ :=
    AmlDmx.releaseTs_some tracked.linked tracked.unlocked running live
  rw [done] at applied
  cases applied
  unfold after
  rw [if_pos rfl, FeedSpec.after]
  refine tracked.freeTs tabled rfl (fun holder addr apart alive there => ?_) fun addr has => ?_
  · rw [filters, Function.update_of_ne
      (tracked.owned.elsewhere (.tsFeed i) live alive points there apart)]
  · by_cases own : addr = tsf
    · rw [filters, own, Function.update_self] at has
      exact absurd rfl has
    · rw [filters, Function.update_of_ne own] at has
      exact ⟨has, fun both => own (Option.some.inj (both.2.symm.trans points))⟩

end Demuxing

end UnionpiTiger.Demux
