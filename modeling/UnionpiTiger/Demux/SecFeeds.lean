import UnionpiTiger.Demux.TsFeeds

set_option autoImplicit false

namespace UnionpiTiger.Demux

open Lib

namespace Demuxing

variable {s : Demuxing} {swdmx : SwDemux CbData} {outcome : Outcome}
  {next : AmlDmx} {code : Int}

theorem Tracked.onSec (tracked : s.Tracked) {i : SecIndex} {feed : SecFeed}
    {entry : Option SecSpec} (tabled : swdmx.Tabled none)
    (live : (s.dmx.sectionFeed i).state ≠ .free) (alive : feed.state ≠ .free)
    (slots : ∀ j, (feed.filter j).state = .free ↔
      ((s.dmx.sectionFeed i).filter j).state = .free)
    (secf : ∀ j, (feed.filter j).secf = ((s.dmx.sectionFeed i).filter j).secf)
    (others : ∀ holder addr, (∀ j, holder ≠ .secFilter i j) → s.dmx.Live holder →
      s.dmx.pointer holder = some addr → swdmx.filters addr = s.dmx.swdmx.filters addr)
    (domain : ∀ addr, swdmx.filters addr ≠ none → s.dmx.swdmx.filters addr ≠ none)
    (here : ∀ j addr filter, ((s.dmx.sectionFeed i).filter j).state ≠ .free →
      ((s.dmx.sectionFeed i).filter j).secf = some addr → s.dmx.swdmx.filters addr = some filter →
        ((s.dmx.sectionFeed i).filter j).Tuned i j (s.spec.sec i) (s.spec.fill i j) filter →
          ∃ new, swdmx.filters addr = some new ∧
            (feed.filter j).Tuned i j entry (s.spec.fill i j) new)
    (follows : feed.Follows entry) :
    Tracked { dmx := ({ s.dmx with swdmx } : AmlDmx).putSec i feed
              spec := s.spec.putSec i entry } where
  unlocked := tracked.unlocked
  owned := by
    refine tracked.owned.putSec tabled ?_ others ?_ tuned_putSec
    · exact fun _ j taken => ⟨⟨live, fun free => taken ((slots j).mpr free)⟩, secf j⟩
    · intro j addr filter _ taken there found tuned
      obtain ⟨new, stored, still⟩ :=
        here j addr filter (fun free => taken ((slots j).mpr free)) there found tuned
      exact ⟨new, stored, tuned_slot still⟩
  held addr has := by
    obtain ⟨holder, holderLive, there⟩ := tracked.held addr (domain addr has)
    cases holder with
    | tsFeed k => exact ⟨.tsFeed k, holderLive, there⟩
    | secFilter k j =>
      refine ⟨.secFilter k j, ?_, ?_⟩
      · show (Function.update s.dmx.sectionFeed i feed k).state ≠ .free ∧
          ((Function.update s.dmx.sectionFeed i feed k).filter j).state ≠ .free
        by_cases head : k = i
        · subst head
          rw [Function.update_self]
          exact ⟨alive, fun free => holderLive.2 ((slots j).mp free)⟩
        · rw [Function.update_of_ne head]
          exact holderLive
      · show ((Function.update s.dmx.sectionFeed i feed k).filter j).secf = some addr
        by_cases head : k = i
        · subst head
          rw [Function.update_self, secf]
          exact there
        · rw [Function.update_of_ne head]
          exact there
  ts := tracked.ts
  sec := tracked.follows_putSec follows

theorem Tracked.bareSec (tracked : s.Tracked) {i : SecIndex} {feed : SecFeed}
    {entry : Option SecSpec} (before : ∀ j, ¬s.dmx.Live (.secFilter i j))
    (bare : feed.state = .free ∨ ∀ j, (feed.filter j).state = .free) (follows : feed.Follows entry) :
    Tracked { dmx := s.dmx.putSec i feed, spec := s.spec.putSec i entry } where
  unlocked := tracked.unlocked
  owned := by
    have none_ : feed.state ≠ .free → ∀ j, (feed.filter j).state ≠ .free → False := by
      intro up j taken
      rcases bare with free | free
      · exact up free
      · exact taken (free j)
    show (({ s.dmx with swdmx := s.dmx.swdmx } : AmlDmx).putSec i feed).Owned _
    refine tracked.owned.putSec tracked.owned.tabled ?_ (fun _ _ _ _ _ => rfl) ?_ tuned_putSec
    · exact fun up j taken => (none_ up j taken).elim
    · exact fun j _ _ up taken => (none_ up j taken).elim
  held addr has := by
    obtain ⟨holder, live, there⟩ := tracked.held addr has
    refine ⟨holder, ?_, ?_⟩
    · cases holder with
      | tsFeed k => exact live
      | secFilter k j =>
        have head : k ≠ i := by
          rintro rfl
          exact before j live
        show (Function.update s.dmx.sectionFeed i feed k).state ≠ .free ∧
          ((Function.update s.dmx.sectionFeed i feed k).filter j).state ≠ .free
        rw [Function.update_of_ne head]
        exact live
    · cases holder with
      | tsFeed k => exact there
      | secFilter k j =>
        have head : k ≠ i := by
          rintro rfl
          exact before j live
        show ((Function.update s.dmx.sectionFeed i feed k).filter j).secf = some addr
        rw [Function.update_of_ne head]
        exact there
  ts := tracked.ts
  sec := @Tracked.follows_putSec s s.dmx.swdmx tracked i feed entry follows

theorem Tracked.secSet (tracked : s.Tracked) {i : SecIndex} {entry : SecSpec}
    (has : s.spec.sec i = some entry) {pid : UInt16} {checkCrc : Bool}
    (applied : s.dmx.sectionFeedSet outcome i pid checkCrc = some (next, code)) :
    (s.after (.secSet i pid checkCrc) next code).Tracked := by
  by_cases refused : pid ≥ swdmxMaxPid ∨ outcome.interrupted = true
  · obtain ⟨_, failed, same⟩ := AmlDmx.sectionFeedSet_refused tracked.unlocked i checkCrc refused
    rw [same] at applied
    cases applied
    exact tracked.failed failed
  · rw [AmlDmx.sectionFeedSet_some tracked.unlocked
      (Bool.eq_false_iff.mpr fun bad => refused (Or.inr bad)) i (fun bad => refused (Or.inl bad))
      checkCrc] at applied
    cases applied
    have live := tracked.live_sec has
    have follows := tracked.sec i
    unfold after
    rw [if_pos rfl, FeedSpec.after, has]
    show Tracked { dmx := ({ s.dmx with swdmx := s.dmx.swdmx } : AmlDmx).putSec i _, spec := _ }
    refine tracked.onSec tracked.owned.tabled live (fun given => by cases given) (fun _ => Iff.rfl)
      (fun _ => rfl)
      (fun _ _ _ _ _ => rfl) (fun _ has => has) ?_ ?_
    · intro j addr filter _ _ found tuned
      refine ⟨filter, found, { tuned with started := fun going => ?_ }⟩
      obtain ⟨_, same, started⟩ := tuned.started going
      rw [has] at same
      cases same
      exact ⟨_, rfl, started⟩
    · refine ⟨(fun _ given => by cases given), (fun given => by cases given), ?_, ?_, ?_, ?_⟩
      · rintro _ ⟨⟩
        exact follows.cb entry has
      · rintro _ _ _ ⟨⟩ ⟨⟩
        exact ⟨rfl, rfl⟩
      · rintro _ _ _ ⟨⟩ ⟨⟩
        exact UInt16.not_le.mp fun bad => refused (Or.inl bad)
      · rintro _ ⟨⟩ started
        exact follows.busy entry has started

theorem passes_started {feed : SecFeed} {slot : SecFilter} (i : SecIndex) (j : FilterIndex)
    {filter : Filter CbData} (place : Option Nat) (fresh : slot.state = .allocated)
    (data : Nat → UInt8) :
    secFilterMatch data { feed.startedSecFilter i j slot filter with pidFilter := place } =
      slot.fill.passes data := by
  unfold SecFeed.startedSecFilter
  rw [if_pos fresh]
  rfl

theorem tuned_started {feed : SecFeed} {slot : SecFilter} {i : SecIndex} {j : FilterIndex}
    {entry : Option SecSpec} {spec : SecSpec} {fill : Option SecFill} {filter : Filter CbData}
    (place : Option Nat) (tuned : slot.Tuned i j entry fill filter) (starts : feed.starts slot)
    (alike : slot.state = .ready →
      filter.params.pid = feed.pid ∧ filter.params.crc32 = feed.checkCrc)
    (started : spec.started = some (feed.pid, feed.checkCrc)) :
    (feed.startedSlot slot).Tuned i j (some spec) fill
      { feed.startedSecFilter i j slot filter with pidFilter := place } := by
  obtain ⟨kind, suits⟩ := FeedOp.suited_started i j tuned.kind place starts
  have going : (feed.startedSlot slot).state = .go := by
    unfold SecFeed.startedSlot
    rw [if_pos starts]
  have begun : (feed.startedSlot slot).state ≠ .allocated := by
    rw [going]
    decide
  by_cases fresh : slot.state = .allocated
  · refine ⟨kind, suits, fun allocated => absurd allocated begun, fun _ => ?_,
      fun _ => ⟨spec, rfl, ?_⟩, fun allocated => absurd allocated begun,
      fun _ => ⟨slot.fill, tuned.waits fresh, passes_started i j place fresh⟩⟩
    · unfold SecFeed.startedSecFilter
      rw [if_pos fresh]
      show filter.cbList ++ [_] = _
      rw [tuned.fresh fresh]
      rfl
    · rw [started]
      unfold SecFeed.startedSecFilter
      rw [if_pos fresh]
      rfl
  · have same : feed.startedSecFilter i j slot filter = { filter with state := .run } := if_neg fresh
    refine ⟨kind, suits, fun allocated => absurd allocated begun, fun _ => ?_,
      fun _ => ⟨spec, rfl, ?_⟩, fun allocated => absurd allocated begun, fun _ => ?_⟩
    · rw [same]
      exact tuned.passes fresh
    · obtain ⟨pid, crc⟩ := alike (starts.resolve_left fun both => fresh both.1)
      rw [started, same]
      show _ = some (filter.params.pid, filter.params.crc32)
      rw [pid, crc]
    · rw [same]
      exact tuned.matched fresh

theorem Tracked.secStart (tracked : s.Tracked) (running : outcome.interrupted = false)
    {i : SecIndex} (live : (s.dmx.sectionFeed i).state ≠ .free)
    (meets : (FeedOp.secStart i).Meets s.dmx outcome) (fits : (FeedOp.secStart i).Fits s)
    (applied : s.dmx.sectionFeedStartFiltering outcome i = some (next, code)) :
    (s.after (.secStart i) next code).Tracked := by
  have linked := tracked.linked
  by_cases busy : (s.dmx.sectionFeed i).isFiltering = true
  case pos =>
    rw [AmlDmx.sectionFeedStart_busy tracked.unlocked running busy] at applied
    cases applied
    exact tracked.failed (by decide)
  have idle := Bool.eq_false_iff.mpr busy
  obtain ⟨any, room⟩ := meets idle
  obtain ⟨spec, pid, checkCrc, has, set, alike⟩ := fits idle
  have follows := tracked.sec i
  have valid := follows.valid spec pid checkCrc has set
  obtain ⟨rfl, rfl⟩ := follows.set spec pid checkCrc has set
  obtain ⟨swdmx, swept, done⟩ :=
    AmlDmx.sectionFeedStart_some linked tracked.unlocked running live idle room
  rw [done, if_pos any] at applied
  cases applied
  have picked : ∀ j, (s.dmx.sectionFeed i).starts ((s.dmx.sectionFeed i).filter j) →
      ((s.dmx.sectionFeed i).filter j).state ≠ .free := fun j => AmlDmx.live_of_starts
  have stopped : ∀ j, ((s.dmx.sectionFeed i).filter j).state ≠ .free →
      ((s.dmx.sectionFeed i).filter j).state ≠ .go := by
    intro j taken going
    obtain ⟨addr, filter, -, -, tuned⟩ := tracked.owned.valid (.secFilter i j) ⟨live, taken⟩
    obtain ⟨other, same, started⟩ := tuned.started going
    exact busy (follows.busy other same (by rw [started]; rfl))
  unfold after
  rw [if_pos rfl, FeedSpec.after, has]
  refine tracked.onSec swept.tabled live (fun given => by cases given) (fun j => ?_)
    (fun j => FeedOp.startedSlot_secf _ _)
    (fun holder addr apart => FeedOp.swept_others tracked.owned live picked swept holder addr
      fun j _ => apart j) (fun addr has => ?_) ?_ ?_
  · show ((s.dmx.sectionFeed i).startedSlot ((s.dmx.sectionFeed i).filter j)).state = _ ↔ _
    by_cases starts : (s.dmx.sectionFeed i).starts ((s.dmx.sectionFeed i).filter j)
    · refine iff_of_false (fun free => ?_) (picked j starts)
      unfold SecFeed.startedSlot at free
      rw [if_pos starts] at free
      cases free
    · rw [FeedOp.startedSlot_idle starts]
  · by_cases own : ∃ j, (s.dmx.sectionFeed i).starts ((s.dmx.sectionFeed i).filter j) ∧
        ((s.dmx.sectionFeed i).filter j).secf = some addr
    · obtain ⟨j, starts, points⟩ := own
      obtain ⟨place, filter, there, found, -⟩ :=
        tracked.owned.valid (.secFilter i j) ⟨live, picked j starts⟩
      obtain rfl := Option.some.inj (points.symm.trans there)
      rw [found]
      exact Option.some_ne_none _
    · rw [swept.others addr fun j starts points => own ⟨j, starts, points⟩] at has
      exact has
  · intro j addr filter taken there found tuned
    show ∃ new, _ ∧ ((s.dmx.sectionFeed i).startedSlot ((s.dmx.sectionFeed i).filter j)).Tuned _ _ _ _ _
    by_cases starts : (s.dmx.sectionFeed i).starts ((s.dmx.sectionFeed i).filter j)
    · obtain ⟨place, stored⟩ := swept.here j addr filter starts there found
      have up : s.dmx.Live (.secFilter i j) := ⟨live, taken⟩
      refine ⟨_, stored, tuned_started place tuned starts (fun ready => alike j ready filter ?_) set⟩
      rw [AmlDmx.filterOf_some up there, found]
    · have kept := FeedOp.swept_others tracked.owned live picked swept (.secFilter i j) addr
        (fun k chosen same => starts (by cases same; exact chosen)) ⟨live, taken⟩ there
      have state := FeedOp.startedSlot_idle starts
      have begun : ((s.dmx.sectionFeed i).filter j).state ≠ .allocated := fun fresh =>
        starts (Or.inl ⟨fresh, valid⟩)
      refine ⟨filter, kept.trans found, tuned.kind, FeedOp.suits_of_state state tuned.suits, ?_, ?_,
        fun going => ?_, fun fresh => ?_, fun _ => tuned.matched begun⟩
      · rw [state]
        exact tuned.fresh
      · rw [state]
        exact tuned.passes
      · rw [state] at going
        exact absurd going (stopped j taken)
      · rw [state] at fresh
        exact absurd fresh begun
  · refine ⟨(fun _ given => by cases given), (fun given => by cases given), ?_, ?_, ?_,
      fun _ _ _ => rfl⟩
    · rintro _ ⟨⟩
      exact follows.cb spec has
    · rintro _ pid checkCrc ⟨⟩ same
      exact follows.set spec pid checkCrc has same
    · rintro _ pid checkCrc ⟨⟩ same
      exact follows.valid spec pid checkCrc has same

theorem Tracked.secStop (tracked : s.Tracked) (running : outcome.interrupted = false)
    {i : SecIndex} {entry : SecSpec} (has : s.spec.sec i = some entry)
    (applied : s.dmx.sectionFeedStopFiltering outcome i = some (next, code)) :
    (s.after (.secStop i) next code).Tracked := by
  have linked := tracked.linked
  have live := tracked.live_sec has
  by_cases busy : (s.dmx.sectionFeed i).isFiltering = true
  case neg =>
    rw [AmlDmx.sectionFeedStop_idle tracked.unlocked running (Bool.eq_false_iff.mpr busy)] at applied
    cases applied
    exact tracked.failed (by decide)
  obtain ⟨swdmx, swept, isFiltering, -, done⟩ :=
    AmlDmx.sectionFeedStop_some linked tracked.unlocked running live busy
  rw [done] at applied
  cases applied
  have follows := tracked.sec i
  have picked : ∀ j, ((s.dmx.sectionFeed i).filter j).state = .go →
      ((s.dmx.sectionFeed i).filter j).state ≠ .free := fun j going => by
    rw [going]
    decide
  unfold after
  rw [if_pos rfl, FeedSpec.after, has]
  refine tracked.onSec swept.tabled live live (fun j => ?_) (fun _ => rfl)
    (fun holder addr apart => FeedOp.swept_others tracked.owned live picked swept holder addr
      fun j _ => apart j) (fun addr has => ?_) ?_ ?_
  · show (if ((s.dmx.sectionFeed i).filter j).state = .go then DmxState.ready else
      ((s.dmx.sectionFeed i).filter j).state) = .free ↔ _
    by_cases going : ((s.dmx.sectionFeed i).filter j).state = .go
    · rw [if_pos going]
      exact iff_of_false (by decide) (picked j going)
    · rw [if_neg going]
  · by_cases own : ∃ j, ((s.dmx.sectionFeed i).filter j).state = .go ∧
        ((s.dmx.sectionFeed i).filter j).secf = some addr
    · obtain ⟨j, going, points⟩ := own
      obtain ⟨place, filter, there, found, -⟩ :=
        tracked.owned.valid (.secFilter i j) ⟨live, picked j going⟩
      obtain rfl := Option.some.inj (points.symm.trans there)
      rw [found]
      exact Option.some_ne_none _
    · rw [swept.others addr fun j going points => own ⟨j, going, points⟩] at has
      exact has
  · intro j addr filter taken there found tuned
    by_cases going : ((s.dmx.sectionFeed i).filter j).state = .go
    · obtain ⟨place, stored⟩ := swept.here j addr filter going there found
      have state : (stoppedSlot ((s.dmx.sectionFeed i).filter j)).state = .ready := if_pos going
      refine ⟨_, stored, tuned.kind, Or.inr (Or.inl ⟨state, rfl⟩), fun allocated => ?_,
        fun _ => tuned.passes (by rw [going]; decide), fun still => ?_, fun allocated => ?_,
        fun _ => tuned.matched (by rw [going]; decide)⟩
      · exact absurd (state.symm.trans allocated) (by decide)
      · exact absurd (state.symm.trans still) (by decide)
      · exact absurd (state.symm.trans allocated) (by decide)
    · have kept := FeedOp.swept_others tracked.owned live picked swept (.secFilter i j) addr
        (fun k chosen same => going (by cases same; exact chosen)) ⟨live, taken⟩ there
      have state : (stoppedSlot ((s.dmx.sectionFeed i).filter j)).state =
        ((s.dmx.sectionFeed i).filter j).state := if_neg going
      refine ⟨filter, kept.trans found, tuned.kind, FeedOp.suits_of_state state tuned.suits,
        fun allocated => tuned.fresh (state.symm.trans allocated),
        fun other => tuned.passes fun allocated => other (state.trans allocated), fun still => ?_,
        fun allocated => tuned.waits (state.symm.trans allocated),
        fun other => tuned.matched fun allocated => other (state.trans allocated)⟩
      exact absurd (state.symm.trans still) going
  · refine ⟨fun _ => live, (fun given => by cases given), ?_, ?_, ?_, ?_⟩
    · rintro _ ⟨⟩
      exact follows.cb entry has
    · rintro _ pid checkCrc ⟨⟩ same
      exact follows.set entry pid checkCrc has same
    · rintro _ pid checkCrc ⟨⟩ same
      exact follows.valid entry pid checkCrc has same
    · rintro _ ⟨⟩ started
      cases started

theorem Tracked.follows_putSlot (tracked : s.Tracked) {i : SecIndex} {j : FilterIndex}
    {slot : SecFilter} (has : s.spec.sec i ≠ none) (k : SecIndex) :
    ((({ s.dmx with swdmx } : AmlDmx).putSlot i j slot).sectionFeed k).Follows (s.spec.sec k) := by
  have follows := tracked.sec k
  show SecFeed.Follows (Function.update s.dmx.sectionFeed i _ k) (s.spec.sec k)
  by_cases head : k = i
  · subst head
    rw [Function.update_self]
    exact ⟨follows.live, fun none_ => absurd none_ has, follows.cb, follows.set, follows.valid,
      follows.busy⟩
  · rw [Function.update_of_ne head]
    exact follows

theorem Tracked.secAllocateFilter (tracked : s.Tracked) (running : outcome.interrupted = false)
    {i : SecIndex} (has : s.spec.sec i ≠ none)
    (meets : (FeedOp.secAllocateFilter i).Meets s.dmx outcome)
    (applied : s.dmx.sectionFeedAllocateFilter outcome i = some (next, code)) :
    (s.after (.secAllocateFilter i) next code).Tracked := by
  have live := (tracked.sec i).live has
  cases spare : AmlDmx.secFilterAlloc (s.dmx.sectionFeed i) with
  | none =>
    rw [AmlDmx.allocateFilter_full tracked.unlocked running spare] at applied
    cases applied
    exact tracked.failed (by decide)
  | some j =>
    have free := AmlDmx.secFilterAlloc_free spare
    obtain ⟨swdmx, tabled, filters, done⟩ := AmlDmx.allocateFilter_some tracked.linked
      tracked.unlocked running spare (meets (by rw [spare]; rfl))
    rw [done] at applied
    cases applied
    unfold after
    rw [if_pos rfl, FeedSpec.after, spare]
    dsimp only [Option.map_some, Option.getD_some]
    constructor
    case unlocked => exact tracked.unlocked
    case owned =>
      refine tracked.owned.allocSlot tabled filters rfl ?_ fun holder filter =>
        tuned_putSlot holder filter
      show SecFilter.Tuned _ i j (s.spec.sec i) _ _
      rw [AmlDmx.putSlot_slot, putFill_self]
      exact ⟨rfl, Or.inl ⟨rfl, rfl⟩, fun _ => rfl, fun other => absurd rfl other,
        (fun given => by cases given), fun _ => rfl,
        fun other => absurd rfl other⟩
    case held =>
      intro addr stored
      by_cases own : addr = s.dmx.swdmx.next
      · refine ⟨.secFilter i j, ⟨?_, ?_⟩, ?_⟩
        · rw [AmlDmx.putSlot_state]
          exact live
        · rw [AmlDmx.putSlot_slot]
          exact (fun given => by cases given)
        · unfold AmlDmx.pointer
          dsimp only
          rw [AmlDmx.putSlot_slot, own]
      · replace stored : swdmx.filters addr ≠ none := stored
        rw [filters, Function.update_of_ne own] at stored
        obtain ⟨holder, holderLive, there⟩ := tracked.held addr stored
        have apart : holder ≠ .secFilter i j := by
          rintro rfl
          exact holderLive.2 free
        refine ⟨holder, (AmlDmx.putSlot_live apart).mpr ?_, (AmlDmx.putSlot_pointer apart).trans ?_⟩
        · cases holder <;> exact holderLive
        · cases holder <;> exact there
    case ts => exact tracked.ts
    case sec => exact tracked.follows_putSlot has

theorem Tracked.secReleaseFilter (tracked : s.Tracked) (running : outcome.interrupted = false)
    {i : SecIndex} {j : FilterIndex} (given : s.spec.sec i ≠ none)
    (taken : ((s.dmx.sectionFeed i).filter j).state ≠ .free)
    (applied : s.dmx.sectionFeedReleaseFilter outcome i j = some (next, code)) :
    (s.after (.secReleaseFilter i j) next code).Tracked := by
  have live : s.dmx.Live (.secFilter i j) := ⟨(tracked.sec i).live given, taken⟩
  by_cases type : (s.dmx.sectionFeed i).type = .sec
  case neg =>
    rw [AmlDmx.releaseFilter_other tracked.unlocked running type] at applied
    cases applied
    exact tracked.failed (by decide)
  obtain ⟨secf, swdmx, points, tabled, filters, done⟩ :=
    AmlDmx.releaseFilter_some tracked.linked tracked.unlocked running type live
  rw [done] at applied
  cases applied
  unfold after
  rw [if_pos rfl, FeedSpec.after]
  constructor
  case unlocked => exact tracked.unlocked
  case owned =>
    exact tracked.owned.freeSlot tabled live points filters rfl fun holder filter =>
      tuned_putSlot holder filter
  case held =>
    intro addr has
    replace has : swdmx.filters addr ≠ none := has
    by_cases own : addr = secf
    · rw [filters, own, Function.update_self] at has
      exact absurd rfl has
    · rw [filters, Function.update_of_ne own] at has
      obtain ⟨holder, holderLive, there⟩ := tracked.held addr has
      have apart : holder ≠ .secFilter i j := by
        rintro rfl
        exact own (Option.some.inj (there.symm.trans points))
      refine ⟨holder, (AmlDmx.putSlot_live apart).mpr ?_, (AmlDmx.putSlot_pointer apart).trans ?_⟩
      · cases holder <;> exact holderLive
      · cases holder <;> exact there
  case ts => exact tracked.ts
  case sec => exact tracked.follows_putSlot given

theorem Tracked.allocateSec (tracked : s.Tracked) (running : outcome.interrupted = false)
    {callback : Nat} (applied : s.dmx.allocateSectionFeed outcome callback = some (next, code)) :
    (s.after (.allocateSec callback) next code).Tracked := by
  cases spare : s.dmx.sectionFeedAlloc with
  | none =>
    rw [AmlDmx.allocateSec_full tracked.unlocked running callback spare] at applied
    cases applied
    exact tracked.failed (by decide)
  | some i =>
    have free := AmlDmx.sectionFeedAlloc_free spare
    have before : ∀ j, ¬s.dmx.Live (.secFilter i j) := fun j live => live.1 free
    cases vmalloc : outcome.vmalloc with
    | false =>
      rw [AmlDmx.allocateSec_noMemory tracked.unlocked running callback spare vmalloc] at applied
      cases applied
      have entry : s.spec.sec i = none := by
        by_contra given
        exact (tracked.sec i).live given free
      have unset : s.spec.putSec i none = s.spec := by
        unfold FeedSpec.putSec
        rw [Function.update_eq_self_iff.mpr entry.symm]
      unfold after
      rw [if_neg (by decide), ← unset]
      exact tracked.bareSec before (Or.inr fun _ => rfl)
        ⟨fun given => absurd rfl given, fun _ => Or.inr fun _ => rfl, (fun _ given => by cases given),
          (fun _ _ _ given => by cases given), (fun _ _ _ given => by cases given),
            (fun _ given => by cases given)⟩
    | true =>
      obtain ⟨secchan, done⟩ :=
        AmlDmx.allocateSec_some tracked.unlocked running callback spare vmalloc
      rw [done] at applied
      cases applied
      unfold after
      rw [if_pos rfl, FeedSpec.after, spare]
      refine tracked.bareSec before (Or.inr fun _ => rfl) ⟨(fun _ given => by cases given),
        (fun given => by cases given), ?_, ?_, ?_, ?_⟩
      · rintro _ ⟨⟩
        rfl
      · rintro _ _ _ ⟨⟩ ⟨⟩
      · rintro _ _ _ ⟨⟩ ⟨⟩
      · rintro _ ⟨⟩ started
        cases started

theorem Tracked.releaseSec (tracked : s.Tracked) (running : outcome.interrupted = false)
    {i : SecIndex} (bare : ∀ j, ((s.dmx.sectionFeed i).filter j).state = .free)
    (applied : s.dmx.releaseSectionFeed outcome i = some (next, code)) :
    (s.after (.releaseSec i) next code).Tracked := by
  obtain ⟨secchan, done⟩ := AmlDmx.releaseSec_some tracked.unlocked running i
  rw [done] at applied
  cases applied
  unfold after
  rw [if_pos rfl, FeedSpec.after]
  exact tracked.bareSec (fun j live => live.2 (bare j)) (Or.inl rfl)
    ⟨fun given => absurd rfl given, fun _ => Or.inl rfl, (fun _ given => by cases given),
      (fun _ _ _ given => by cases given), (fun _ _ _ given => by cases given),
        (fun _ given => by cases given)⟩

theorem Tracked.fill (tracked : s.Tracked) {i : SecIndex} {j : FilterIndex} (fill : SecFill)
    (given : s.spec.sec i ≠ none) (waits : ((s.dmx.sectionFeed i).filter j).state = .allocated) :
    (s.step (.fill i j fill)).Tracked := by
  have same : (((s.dmx.putSlot i j (((s.dmx.sectionFeed i).filter j).filled fill)).sectionFeed
      i).filter j) = ((s.dmx.sectionFeed i).filter j).filled fill := AmlDmx.putSlot_slot
  have live : ∀ holder, (s.dmx.putSlot i j (((s.dmx.sectionFeed i).filter j).filled fill)).Live
      holder ↔ s.dmx.Live holder := by
    intro holder
    by_cases here : holder = .secFilter i j
    · subst here
      unfold AmlDmx.Live
      dsimp only
      rw [AmlDmx.putSlot_state, same]
      exact Iff.rfl
    · exact AmlDmx.putSlot_live here
  have pointer : ∀ holder, (s.dmx.putSlot i j (((s.dmx.sectionFeed i).filter j).filled
      fill)).pointer holder = s.dmx.pointer holder := by
    intro holder
    by_cases here : holder = .secFilter i j
    · subst here
      unfold AmlDmx.pointer
      dsimp only
      rw [same]
      rfl
    · exact AmlDmx.putSlot_pointer here
  constructor
  case unlocked => exact tracked.unlocked
  case owned =>
    refine tracked.owned.step tracked.owned.tabled (fun holder up => (live holder).mp up)
      (fun holder _ => pointer holder) ?_
    intro holder addr filter _ _ found tuned
    refine ⟨filter, found, ?_⟩
    by_cases here : holder = .secFilter i j
    · subst here
      show SecFilter.Tuned (((s.dmx.putSlot i j _).sectionFeed i).filter j) i j (s.spec.sec i)
        ((s.spec.putFill i j (some fill)).fill i j) filter
      rw [same, putFill_self]
      exact ⟨tuned.kind, FeedOp.suits_of_state rfl tuned.suits, tuned.fresh, tuned.passes,
        tuned.started, fun _ => rfl, fun other => absurd waits other⟩
    · exact @tuned_putSlot s.dmx.swdmx s.dmx s.spec i j _ (some fill) holder filter here tuned
  case held =>
    intro addr has
    obtain ⟨holder, up, there⟩ := tracked.held addr has
    exact ⟨holder, (live holder).mpr up, (pointer holder).trans there⟩
  case ts => exact tracked.ts
  case sec => exact @Tracked.follows_putSlot s s.dmx.swdmx tracked i j _ given

end Demuxing

end UnionpiTiger.Demux
