import UnionpiTiger.Demux.AmlDmx
import UnionpiTiger.Demux.Effects

set_option autoImplicit false

namespace UnionpiTiger.Demux

open Lib

namespace AmlDmx

def pointer (dmx : AmlDmx) : CbData → Option Nat
  | .tsFeed i => (dmx.tsFeed i).tsf
  | .secFilter i j => ((dmx.sectionFeed i).filter j).secf

def Live (dmx : AmlDmx) : CbData → Prop
  | .tsFeed i => (dmx.tsFeed i).state ≠ .free
  | .secFilter i j => (dmx.sectionFeed i).state ≠ .free ∧ ((dmx.sectionFeed i).filter j).state ≠ .free

instance (dmx : AmlDmx) : (holder : CbData) → Decidable (dmx.Live holder)
  | .tsFeed _ => inferInstanceAs (Decidable (_ ≠ _))
  | .secFilter _ _ => inferInstanceAs (Decidable (_ ∧ _))

end AmlDmx

def SecFilter.Suits (slot : SecFilter) (filter : Filter CbData) : Prop :=
  slot.state = .allocated ∧ filter.state = .init ∨ slot.state = .ready ∧ filter.state = .set ∨
    slot.state = .go ∧ filter.state = .run

namespace AmlDmx

def Suits (dmx : AmlDmx) : CbData → Filter CbData → Prop
  | .tsFeed i, filter =>
    filter.kind = .ts ∧ ((dmx.tsFeed i).state = .ready → (dmx.tsFeed i).pid < 0x1fff)
  | .secFilter i j, filter => filter.kind = .sec ∧ ((dmx.sectionFeed i).filter j).Suits filter

structure Owned (dmx : AmlDmx) (suits : CbData → Filter CbData → Prop) : Prop where
  tabled : dmx.swdmx.Tabled none
  valid : ∀ holder, dmx.Live holder → ∃ addr filter, dmx.pointer holder = some addr ∧
    dmx.swdmx.filters addr = some filter ∧ suits holder filter
  apart : ∀ holder other, dmx.Live holder → dmx.Live other →
    dmx.pointer holder = dmx.pointer other → holder = other

def Linked (dmx : AmlDmx) : Prop := dmx.Owned dmx.Suits

end AmlDmx

inductive FeedOp where
  | tsSet (i : TsIndex) (pid : UInt16) (tsType pesType : UInt32)
  | tsStart (i : TsIndex)
  | tsStop (i : TsIndex)
  | secAllocateFilter (i : SecIndex)
  | secSet (i : SecIndex) (pid : UInt16) (checkCrc : Bool)
  | secStart (i : SecIndex)
  | secStop (i : SecIndex)
  | secReleaseFilter (i : SecIndex) (j : FilterIndex)
  | allocateTs (callback : Nat)
  | releaseTs (i : TsIndex)
  | allocateSec (callback : Nat)
  | releaseSec (i : SecIndex)

def FeedOp.apply (dmx : AmlDmx) (outcome : Outcome) : FeedOp → Option (AmlDmx × Int)
  | .tsSet i pid tsType pesType => dmx.tsFeedSet outcome i pid tsType pesType
  | .tsStart i => dmx.tsFeedStartFiltering outcome i
  | .tsStop i => dmx.tsFeedStopFiltering i
  | .secAllocateFilter i => dmx.sectionFeedAllocateFilter outcome i
  | .secSet i pid checkCrc => dmx.sectionFeedSet outcome i pid checkCrc
  | .secStart i => dmx.sectionFeedStartFiltering outcome i
  | .secStop i => dmx.sectionFeedStopFiltering outcome i
  | .secReleaseFilter i j => dmx.sectionFeedReleaseFilter outcome i j
  | .allocateTs callback => dmx.allocateTsFeed outcome callback
  | .releaseTs i => dmx.releaseTsFeed outcome i
  | .allocateSec callback => dmx.allocateSectionFeed outcome callback
  | .releaseSec i => dmx.releaseSectionFeed outcome i

def FeedOp.Legal (dmx : AmlDmx) : FeedOp → Prop
  | .tsSet i _ _ _ | .tsStart i | .tsStop i | .releaseTs i => (dmx.tsFeed i).state ≠ .free
  | .secAllocateFilter i | .secSet i _ _ | .secStart i | .secStop i | .releaseSec i =>
    (dmx.sectionFeed i).state ≠ .free
  | .secReleaseFilter i j => dmx.Live (.secFilter i j)
  | .allocateTs _ | .allocateSec _ => True

instance FeedOp.Legal.decidable (dmx : AmlDmx) : (op : FeedOp) → Decidable (op.Legal dmx)
  | .tsSet _ _ _ _ | .tsStart _ | .tsStop _ | .releaseTs _ => inferInstanceAs (Decidable (_ ≠ _))
  | .secAllocateFilter _ | .secSet _ _ _ | .secStart _ | .secStop _ | .releaseSec _ =>
    inferInstanceAs (Decidable (_ ≠ _))
  | .secReleaseFilter _ _ => inferInstanceAs (Decidable (_ ∧ _))
  | .allocateTs _ | .allocateSec _ => isTrue trivial

namespace AmlDmx

variable {dmx : AmlDmx} {outcome : Outcome}

theorem lockInterruptible_eq {R : Type} (unlocked : dmx.pmutex = false) (failed : R)
    (body : AmlDmx → Option (AmlDmx × R)) :
    dmx.mutexLockInterruptible outcome failed body =
      if outcome.interrupted then some (dmx, failed) else body { dmx with pmutex := true } := by
  unfold mutexLockInterruptible mutexLock
  rw [unlocked]
  rfl

theorem unlock_lock (unlocked : dmx.pmutex = false) :
    ({ dmx with pmutex := true } : AmlDmx).mutexUnlock = dmx := by
  cases dmx
  cases unlocked
  rfl

section Owned

variable {next : AmlDmx} {suits later : CbData → Filter CbData → Prop}

theorem Owned.step (owned : dmx.Owned suits) (tabled : next.swdmx.Tabled none)
    (lives : ∀ holder, next.Live holder → dmx.Live holder)
    (pointers : ∀ holder, next.Live holder → next.pointer holder = dmx.pointer holder)
    (keeps : ∀ holder addr filter, next.Live holder → dmx.pointer holder = some addr →
      dmx.swdmx.filters addr = some filter → suits holder filter →
        ∃ new, next.swdmx.filters addr = some new ∧ later holder new) : next.Owned later where
  tabled := tabled
  valid := by
    intro holder live
    obtain ⟨addr, filter, points, found, suited⟩ := owned.valid holder (lives holder live)
    obtain ⟨new, stored, still⟩ := keeps holder addr filter live points found suited
    exact ⟨addr, new, (pointers holder live).trans points, stored, still⟩
  apart := by
    intro holder other live otherLive same
    rw [pointers holder live, pointers other otherLive] at same
    exact owned.apart holder other (lives holder live) (lives other otherLive) same

theorem Owned.alloc (owned : dmx.Owned suits) (tabled : next.swdmx.Tabled none) {new : CbData}
    {filter : Filter CbData}
    (stored : next.swdmx.filters = Function.update dmx.swdmx.filters dmx.swdmx.next (some filter))
    (points : next.pointer new = some dmx.swdmx.next)
    (lives : ∀ holder, holder ≠ new → next.Live holder → dmx.Live holder)
    (pointers : ∀ holder, holder ≠ new → next.pointer holder = dmx.pointer holder)
    (suited : later new filter)
    (keeps : ∀ holder filter, holder ≠ new → next.Live holder → suits holder filter →
      later holder filter) : next.Owned later where
  tabled := tabled
  valid := by
    intro holder live
    by_cases here : holder = new
    · subst here
      exact ⟨_, filter, points, by rw [stored, Function.update_self], suited⟩
    · obtain ⟨addr, old, was, found, suitedOld⟩ := owned.valid holder (lives holder here live)
      have below : addr ≠ dmx.swdmx.next := Nat.ne_of_lt (owned.tabled.lt_next found)
      exact ⟨addr, old, (pointers holder here).trans was,
        by rw [stored, Function.update_of_ne below]; exact found,
        keeps holder old here live suitedOld⟩
  apart := by
    have fresh : ∀ holder, holder ≠ new → next.Live holder →
        next.pointer holder ≠ some dmx.swdmx.next := by
      intro holder apart live same
      obtain ⟨addr, old, was, found, -⟩ := owned.valid holder (lives holder apart live)
      rw [pointers holder apart, was] at same
      exact Nat.ne_of_lt (owned.tabled.lt_next found) (Option.some.inj same)
    intro holder other live otherLive same
    by_cases here : holder = new <;> by_cases there : other = new
    · rw [here, there]
    · rw [here, points] at same
      exact absurd same.symm (fresh other there otherLive)
    · rw [there, points] at same
      exact absurd same (fresh holder here live)
    · rw [pointers holder here, pointers other there] at same
      exact owned.apart holder other (lives holder here live) (lives other there otherLive) same

theorem Owned.elsewhere (owned : dmx.Owned suits) (holder : CbData) {other : CbData}
    {addr place : Nat} (live : dmx.Live holder) (otherLive : dmx.Live other)
    (points : dmx.pointer holder = some addr) (otherPoints : dmx.pointer other = some place)
    (distinct : other ≠ holder) : place ≠ addr := by
  rintro rfl
  exact distinct (owned.apart other holder otherLive live (otherPoints.trans points.symm))

theorem Owned.putTs (owned : dmx.Owned suits) {swdmx : SwDemux CbData} {i : TsIndex} {feed : TsFeed}
    {tsf : Nat} (tabled : swdmx.Tabled none) (live : (dmx.tsFeed i).state ≠ .free)
    (points : (dmx.tsFeed i).tsf = some tsf) (same : feed.tsf = some tsf)
    (others : ∀ place, place ≠ tsf → swdmx.filters place = dmx.swdmx.filters place)
    (here : ∀ filter, dmx.swdmx.filters tsf = some filter → suits (.tsFeed i) filter →
      feed.state ≠ .free → ∃ new, swdmx.filters tsf = some new ∧ later (.tsFeed i) new)
    (keeps : ∀ holder filter, holder ≠ .tsFeed i → suits holder filter → later holder filter) :
    (({ dmx with swdmx } : AmlDmx).putTs i feed).Owned later := by
  refine owned.step tabled ?_ ?_ ?_
  · intro holder alive
    cases holder with
    | tsFeed k =>
      by_cases head : k = i
      · exact head ▸ live
      · replace alive : (Function.update dmx.tsFeed i feed k).state ≠ .free := alive
        rw [Function.update_of_ne head] at alive
        exact alive
    | secFilter k j => exact alive
  · intro holder _
    cases holder with
    | tsFeed k =>
      show (Function.update dmx.tsFeed i feed k).tsf = (dmx.tsFeed k).tsf
      by_cases head : k = i
      · subst head
        rw [Function.update_self, same, points]
      · rw [Function.update_of_ne head]
    | secFilter k j => rfl
  · intro holder addr filter alive there found suited
    by_cases head : holder = .tsFeed i
    · subst head
      obtain rfl : addr = tsf := Option.some.inj (there.symm.trans points)
      replace alive : (Function.update dmx.tsFeed i feed i).state ≠ .free := alive
      rw [Function.update_self] at alive
      exact here filter found suited alive
    · have alive' : dmx.Live holder := by
        cases holder with
        | tsFeed k =>
          replace alive : (Function.update dmx.tsFeed i feed k).state ≠ .free := alive
          rw [Function.update_of_ne (fun same => head (by rw [same]))] at alive
          exact alive
        | secFilter k j => exact alive
      have distinct := owned.elsewhere (.tsFeed i) live alive' points there head
      exact ⟨filter, (others addr distinct).trans found, keeps holder filter head suited⟩

theorem Owned.putSec (owned : dmx.Owned suits) {swdmx : SwDemux CbData} {i : SecIndex}
    {feed : SecFeed} (tabled : swdmx.Tabled none)
    (slots : feed.state ≠ .free → ∀ j, (feed.filter j).state ≠ .free →
      dmx.Live (.secFilter i j) ∧ (feed.filter j).secf = ((dmx.sectionFeed i).filter j).secf)
    (others : ∀ holder addr, (∀ j, holder ≠ .secFilter i j) → dmx.Live holder →
      dmx.pointer holder = some addr → swdmx.filters addr = dmx.swdmx.filters addr)
    (here : ∀ j addr filter, feed.state ≠ .free → (feed.filter j).state ≠ .free →
      ((dmx.sectionFeed i).filter j).secf = some addr → dmx.swdmx.filters addr = some filter →
        suits (.secFilter i j) filter →
          ∃ new, swdmx.filters addr = some new ∧ later (.secFilter i j) new)
    (keeps : ∀ holder filter, (∀ j, holder ≠ .secFilter i j) → suits holder filter →
      later holder filter) :
    (({ dmx with swdmx } : AmlDmx).putSec i feed).Owned later := by
  have inside : ∀ j, (({ dmx with swdmx } : AmlDmx).putSec i feed).Live (.secFilter i j) →
      feed.state ≠ .free ∧ (feed.filter j).state ≠ .free := by
    intro j alive
    replace alive : (Function.update dmx.sectionFeed i feed i).state ≠ .free ∧
      ((Function.update dmx.sectionFeed i feed i).filter j).state ≠ .free := alive
    rw [Function.update_self] at alive
    exact alive
  have outside : ∀ k, k ≠ i → ((({ dmx with swdmx } : AmlDmx).putSec i feed).sectionFeed k) =
      dmx.sectionFeed k := fun k apart => Function.update_of_ne apart _ _
  have lives : ∀ holder, (({ dmx with swdmx } : AmlDmx).putSec i feed).Live holder →
      dmx.Live holder := by
    intro holder alive
    cases holder with
    | tsFeed k => exact alive
    | secFilter k j =>
      by_cases head : k = i
      · subst head
        obtain ⟨up, taken⟩ := inside j alive
        exact (slots up j taken).1
      · unfold Live at alive
        dsimp only at alive
        rw [outside k head] at alive
        exact alive
  refine owned.step tabled lives ?_ ?_
  · intro holder alive
    cases holder with
    | tsFeed k => rfl
    | secFilter k j =>
      by_cases head : k = i
      · subst head
        obtain ⟨up, taken⟩ := inside j alive
        show ((Function.update dmx.sectionFeed k feed k).filter j).secf = _
        rw [Function.update_self]
        exact (slots up j taken).2
      · unfold pointer
        dsimp only
        rw [outside k head]
  · intro holder addr filter alive there found suited
    by_cases head : ∃ j, holder = .secFilter i j
    · obtain ⟨j, rfl⟩ := head
      obtain ⟨up, taken⟩ := inside j alive
      exact here j addr filter up taken there found suited
    · have apart : ∀ j, holder ≠ .secFilter i j := fun j same => head ⟨j, same⟩
      exact ⟨filter, (others holder addr apart (lives holder alive) there).trans found,
        keeps holder filter apart suited⟩

end Owned

section PutTs

variable {i k : TsIndex} {feed : TsFeed} {swdmx : SwDemux CbData}
  {suits later : CbData → Filter CbData → Prop}

theorem putTs_feed : (dmx.putTs i feed).tsFeed i = feed := Function.update_self _ _ _

theorem putTs_other (apart : k ≠ i) : (dmx.putTs i feed).tsFeed k = dmx.tsFeed k :=
  Function.update_of_ne apart _ _

theorem putTs_live {holder : CbData} (apart : holder ≠ .tsFeed i) :
    (dmx.putTs i feed).Live holder ↔ dmx.Live holder := by
  cases holder with
  | tsFeed k =>
    unfold Live
    dsimp only
    rw [putTs_other fun same => apart (by rw [same])]
  | secFilter k l => exact Iff.rfl

theorem putTs_pointer {holder : CbData} (apart : holder ≠ .tsFeed i) :
    (dmx.putTs i feed).pointer holder = dmx.pointer holder := by
  cases holder with
  | tsFeed k =>
    unfold pointer
    dsimp only
    rw [putTs_other fun same => apart (by rw [same])]
  | secFilter k l => rfl

theorem Owned.allocTs (owned : dmx.Owned suits) (tabled : swdmx.Tabled none)
    {filter : Filter CbData}
    (stored : swdmx.filters = Function.update dmx.swdmx.filters dmx.swdmx.next (some filter))
    (points : feed.tsf = some dmx.swdmx.next) (suited : later (.tsFeed i) filter)
    (keeps : ∀ holder filter, holder ≠ .tsFeed i → suits holder filter → later holder filter) :
    (({ dmx with swdmx } : AmlDmx).putTs i feed).Owned later := by
  refine owned.alloc tabled stored ?_ ?_ ?_ suited fun holder filter apart _ =>
    keeps holder filter apart
  · show (((({ dmx with swdmx } : AmlDmx).putTs i feed).tsFeed i)).tsf = _
    rw [putTs_feed, points]
  · intro holder apart alive
    have kept := (putTs_live apart).mp alive
    cases holder <;> exact kept
  · intro holder apart
    rw [putTs_pointer apart]
    cases holder <;> rfl

theorem Owned.freeTs (owned : dmx.Owned suits) (tabled : swdmx.Tabled none)
    (stored : ∀ holder addr, holder ≠ .tsFeed i → dmx.Live holder → dmx.pointer holder = some addr →
      swdmx.filters addr = dmx.swdmx.filters addr)
    (free : feed.state = .free)
    (keeps : ∀ holder filter, holder ≠ .tsFeed i → suits holder filter → later holder filter) :
    (({ dmx with swdmx } : AmlDmx).putTs i feed).Owned later := by
  have gone : ∀ holder, (({ dmx with swdmx } : AmlDmx).putTs i feed).Live holder →
      holder ≠ .tsFeed i := by
    rintro holder alive rfl
    replace alive : ((({ dmx with swdmx } : AmlDmx).putTs i feed).tsFeed i).state ≠ .free := alive
    rw [putTs_feed] at alive
    exact alive free
  have lives : ∀ holder, (({ dmx with swdmx } : AmlDmx).putTs i feed).Live holder →
      dmx.Live holder := by
    intro holder alive
    have kept := (putTs_live (gone holder alive)).mp alive
    cases holder <;> exact kept
  refine owned.step tabled lives ?_ ?_
  · intro holder alive
    rw [putTs_pointer (gone holder alive)]
    cases holder <;> rfl
  · intro holder place filter alive there found suited
    exact ⟨filter, (stored holder place (gone holder alive) (lives holder alive) there).trans found,
      keeps holder filter (gone holder alive) suited⟩

end PutTs

def putSlot (dmx : AmlDmx) (i : SecIndex) (j : FilterIndex) (slot : SecFilter) : AmlDmx :=
  dmx.putSec i
    { dmx.sectionFeed i with filter := Function.update (dmx.sectionFeed i).filter j slot }

section PutSlot

variable {i k : SecIndex} {j l : FilterIndex} {slot : SecFilter} {swdmx : SwDemux CbData}
  {suits later : CbData → Filter CbData → Prop}

theorem putSlot_slot : ((dmx.putSlot i j slot).sectionFeed i).filter j = slot := by
  show ((Function.update dmx.sectionFeed i _ i).filter j) = slot
  rw [Function.update_self]
  exact Function.update_self _ _ _

theorem putSlot_state : ((dmx.putSlot i j slot).sectionFeed k).state = (dmx.sectionFeed k).state := by
  show (Function.update dmx.sectionFeed i _ k).state = _
  by_cases here : k = i
  · subst here
    rw [Function.update_self]
  · rw [Function.update_of_ne here]

theorem putSlot_other (apart : CbData.secFilter k l ≠ .secFilter i j) :
    ((dmx.putSlot i j slot).sectionFeed k).filter l = (dmx.sectionFeed k).filter l := by
  show (Function.update dmx.sectionFeed i _ k).filter l = _
  by_cases here : k = i
  · subst here
    rw [Function.update_self]
    exact Function.update_of_ne (fun same => apart (by rw [same])) _ _
  · rw [Function.update_of_ne here]

theorem putSlot_live {holder : CbData} (apart : holder ≠ .secFilter i j) :
    (dmx.putSlot i j slot).Live holder ↔ dmx.Live holder := by
  cases holder with
  | tsFeed k => exact Iff.rfl
  | secFilter k l =>
    unfold Live
    dsimp only
    rw [putSlot_state, putSlot_other apart]

theorem putSlot_pointer {holder : CbData} (apart : holder ≠ .secFilter i j) :
    (dmx.putSlot i j slot).pointer holder = dmx.pointer holder := by
  cases holder with
  | tsFeed k => rfl
  | secFilter k l =>
    unfold pointer
    dsimp only
    rw [putSlot_other apart]

theorem Owned.allocSlot (owned : dmx.Owned suits) (tabled : swdmx.Tabled none)
    {filter : Filter CbData}
    (stored : swdmx.filters = Function.update dmx.swdmx.filters dmx.swdmx.next (some filter))
    (points : slot.secf = some dmx.swdmx.next) (suited : later (.secFilter i j) filter)
    (keeps : ∀ holder filter, holder ≠ .secFilter i j → suits holder filter →
      later holder filter) : (({ dmx with swdmx } : AmlDmx).putSlot i j slot).Owned later := by
  refine owned.alloc tabled stored ?_ ?_ ?_ suited fun holder filter apart _ =>
    keeps holder filter apart
  · show (((({ dmx with swdmx } : AmlDmx).putSlot i j slot).sectionFeed i).filter j).secf = _
    rw [putSlot_slot, points]
  · intro holder apart alive
    have kept := (putSlot_live apart).mp alive
    cases holder <;> exact kept
  · intro holder apart
    rw [putSlot_pointer apart]
    cases holder <;> rfl

theorem Owned.freeSlot (owned : dmx.Owned suits) (tabled : swdmx.Tabled none) {addr : Nat}
    (live : dmx.Live (.secFilter i j))
    (points : ((dmx.sectionFeed i).filter j).secf = some addr)
    (stored : swdmx.filters = Function.update dmx.swdmx.filters addr none)
    (free : slot.state = .free)
    (keeps : ∀ holder filter, holder ≠ .secFilter i j → suits holder filter →
      later holder filter) : (({ dmx with swdmx } : AmlDmx).putSlot i j slot).Owned later := by
  have gone : ∀ holder, (({ dmx with swdmx } : AmlDmx).putSlot i j slot).Live holder →
      holder ≠ .secFilter i j := by
    rintro holder alive rfl
    have taken := alive.2
    rw [putSlot_slot] at taken
    exact taken free
  have lives : ∀ holder, (({ dmx with swdmx } : AmlDmx).putSlot i j slot).Live holder →
      dmx.Live holder := by
    intro holder alive
    have kept := (putSlot_live (gone holder alive)).mp alive
    cases holder <;> exact kept
  refine owned.step tabled lives ?_ ?_
  · intro holder alive
    rw [putSlot_pointer (gone holder alive)]
    cases holder <;> rfl
  · intro holder place filter alive there found suited
    have distinct := owned.elsewhere (.secFilter i j) live (lives holder alive) points there
      (gone holder alive)
    refine ⟨filter, ?_, keeps holder filter (gone holder alive) suited⟩
    show swdmx.filters place = _
    rw [stored, Function.update_of_ne distinct, found]

end PutSlot

theorem Linked.ts (linked : dmx.Linked) {i : TsIndex} (live : (dmx.tsFeed i).state ≠ .free) :
    ∃ tsf filter, (dmx.tsFeed i).tsf = some tsf ∧ dmx.swdmx.filters tsf = some filter ∧
      dmx.Suits (.tsFeed i) filter := linked.valid (.tsFeed i) live

theorem tsFeedStart_idle (unlocked : dmx.pmutex = false) (running : outcome.interrupted = false)
    {i : TsIndex} (idle : ¬((dmx.tsFeed i).state = .ready ∧ (dmx.tsFeed i).type = .ts)) :
    dmx.tsFeedStartFiltering outcome i = some (dmx, -eInval) := by
  unfold tsFeedStartFiltering
  rw [lockInterruptible_eq unlocked, running, if_neg Bool.false_ne_true]
  dsimp only
  rw [if_pos (by tauto), unlock_lock unlocked]

theorem tsFeedStart_some (linked : dmx.Linked) (unlocked : dmx.pmutex = false)
    (running : outcome.interrupted = false) {i : TsIndex} (ready : (dmx.tsFeed i).state = .ready)
    (type : (dmx.tsFeed i).type = .ts)
    (room : 1 + dmx.swdmx.joinNeeds (dmx.tsFeed i).pid ≤ dmx.swdmx.memory) :
    ∃ tsf filter swdmx, (dmx.tsFeed i).tsf = some tsf ∧ dmx.swdmx.filters tsf = some filter ∧
      filter.kind = .ts ∧ swdmx.Tabled none ∧
      Effect dmx.swdmx swdmx tsf (startedFilter (fun params filter => { filter with params })
        { pid := (dmx.tsFeed i).pid } (.tsFeed i) filter)
        (1 + dmx.swdmx.joinNeeds (dmx.tsFeed i).pid) ∧
      dmx.tsFeedStartFiltering outcome i = some (({ dmx with swdmx } : AmlDmx).putTs i
        { dmx.tsFeed i with isFiltering := true, state := .go }, 0) := by
  obtain ⟨tsf, filter, points, found, kind, pid⟩ :=
    linked.ts (i := i) (by rw [ready]; exact nofun)
  obtain ⟨set, added, swdmx, setDone, addDone, enabled, effect, -⟩ :=
    start_some { pid := (dmx.tsFeed i).pid } SwDemux.Tabled.writesTs blindTs
      linked.tabled found (pid ready) (CbData.tsFeed i) room
  refine ⟨tsf, filter, swdmx, points, found, kind, ?_, effect, ?_⟩
  · exact ((linked.tabled.setParams SwDemux.Tabled.writesTs setDone).addCb addDone).enable enabled
  · unfold tsFeedStartFiltering
    rw [lockInterruptible_eq unlocked, running, if_neg Bool.false_ne_true]
    dsimp only
    rw [if_neg (by rw [ready, type]; simp), points]
    simp only [Option.bind_eq_bind, Option.bind_some, swdmxTsFilterSetParams, setDone,
      swdmxTsFilterAddTsPacketCb, addDone, swdmxTsFilterEnable, enabled]
    cases dmx
    cases unlocked
    rfl

theorem tsFeedStart_none (linked : dmx.Linked) (unlocked : dmx.pmutex = false)
    (running : outcome.interrupted = false) {i : TsIndex} (ready : (dmx.tsFeed i).state = .ready)
    (type : (dmx.tsFeed i).type = .ts)
    (out : dmx.swdmx.memory < 1 + dmx.swdmx.joinNeeds (dmx.tsFeed i).pid) :
    dmx.tsFeedStartFiltering outcome i = none := by
  obtain ⟨tsf, filter, points, found, kind, pid⟩ :=
    linked.ts (i := i) (by rw [ready]; exact nofun)
  unfold tsFeedStartFiltering
  rw [lockInterruptible_eq unlocked, running, if_neg Bool.false_ne_true]
  dsimp only
  rw [if_neg (by rw [ready, type]; simp), points]
  simp only [Option.bind_eq_bind, Option.bind_some, swdmxTsFilterSetParams,
    swdmxTsFilterAddTsPacketCb, swdmxTsFilterEnable]
  rcases start_none { pid := (dmx.tsFeed i).pid } SwDemux.Tabled.writesTs blindTs
      linked.tabled found (pid ready) (CbData.tsFeed i) out with
    stuck | ⟨set, setDone, stuck | ⟨added, addDone, stuck⟩⟩
  · rw [stuck]
    rfl
  · rw [setDone]
    simp only [Option.bind_some, stuck]
    rfl
  · rw [setDone]
    simp only [Option.bind_some, addDone, stuck]
    rfl

theorem tsFeedStop_idle (unlocked : dmx.pmutex = false) {i : TsIndex}
    (idle : (dmx.tsFeed i).state ≠ .go) : dmx.tsFeedStopFiltering i = some (dmx, -eInval) := by
  unfold tsFeedStopFiltering mutexLock
  rw [unlocked]
  simp only [Bool.false_eq_true, if_false, Option.bind_eq_bind, Option.bind_some, ne_eq, idle,
    not_false_eq_true, if_true, Option.pure_def, unlock_lock unlocked]

theorem tsFeedStop_some (linked : dmx.Linked) (unlocked : dmx.pmutex = false) {i : TsIndex}
    (going : (dmx.tsFeed i).state = .go) :
    ∃ tsf filter swdmx, (dmx.tsFeed i).tsf = some tsf ∧ dmx.swdmx.filters tsf = some filter ∧
      filter.kind = .ts ∧ swdmx.Tabled none ∧
      Effect dmx.swdmx swdmx tsf
        { filter with state := if filter.state = .run then .set else filter.state } 0 ∧
      dmx.tsFeedStopFiltering i = some (({ dmx with swdmx } : AmlDmx).putTs i
        { dmx.tsFeed i with isFiltering := false, state := .allocated }, 0) := by
  obtain ⟨tsf, filter, points, found, kind, -⟩ :=
    linked.ts (i := i) (by rw [going]; exact nofun)
  obtain ⟨swdmx, disabled, effect⟩ := filterDisable_some linked.tabled found
  refine ⟨tsf, filter, swdmx, points, found, kind, (linked.tabled.disable disabled).1, effect, ?_⟩
  unfold tsFeedStopFiltering mutexLock
  rw [unlocked]
  simp only [Bool.false_eq_true, if_false, Option.bind_eq_bind, Option.bind_some, ne_eq, going,
    not_true, points, swdmxTsFilterDisable, disabled, Option.pure_def]
  cases dmx
  cases unlocked
  rfl

theorem allocateTs_some (linked : dmx.Linked) (unlocked : dmx.pmutex = false)
    (running : outcome.interrupted = false) (callback : Nat) {i : TsIndex}
    (spare : dmx.tsFeedAlloc = some i) (chan : dmx.usedHwdmx = true → outcome.hwChan = true)
    (room : 0 < dmx.swdmx.memory) :
    ∃ swdmx tschan, swdmx.Tabled none ∧
      swdmx.filters = Function.update dmx.swdmx.filters dmx.swdmx.next (some { kind := .ts }) ∧
      dmx.allocateTsFeed outcome callback = some (({ dmx with swdmx } : AmlDmx).putTs i
        { dmx.tsFeed i with
          state := .allocated, type := .ts, tsCb := some callback, isFiltering := false
          tsf := some dmx.swdmx.next, tschan }, 0) := by
  obtain ⟨swdmx, allocated, filters, memory⟩ := allocFilter_some .ts room
  refine ⟨swdmx, if dmx.usedHwdmx then true else (dmx.tsFeed i).tschan,
    linked.tabled.allocFilter allocated, filters, ?_⟩
  unfold allocateTsFeed
  rw [lockInterruptible_eq unlocked, running, if_neg Bool.false_ne_true]
  have same : tsFeedAlloc { dmx with pmutex := true } = some i := spare
  simp only [same, swdmxDemuxAllocTsFilter, allocated, Option.bind_eq_bind, Option.bind_some]
  rw [if_neg (fun both => both.2 (chan both.1))]
  cases dmx
  cases unlocked
  rfl

theorem allocateTs_noChan (linked : dmx.Linked) (unlocked : dmx.pmutex = false)
    (running : outcome.interrupted = false) (callback : Nat) {i : TsIndex}
    (spare : dmx.tsFeedAlloc = some i) (used : dmx.usedHwdmx = true)
    (noChan : outcome.hwChan = false) (room : 0 < dmx.swdmx.memory) :
    ∃ swdmx, swdmx.Tabled none ∧ swdmx.filters = dmx.swdmx.filters ∧
      dmx.allocateTsFeed outcome callback = some (({ dmx with swdmx } : AmlDmx).putTs i
        { dmx.tsFeed i with
          state := .free, type := .ts, tsCb := some callback, isFiltering := false
          tsf := some dmx.swdmx.next, tschan := false }, eRestartSys) := by
  obtain ⟨swdmx, allocated, filters, memory⟩ := allocFilter_some .ts room
  have tabled := linked.tabled.allocFilter allocated
  have stored : swdmx.filters dmx.swdmx.next = some { kind := .ts } := by
    rw [filters, Function.update_self]
  obtain ⟨last, freed, back, -⟩ := filterFree_some tabled stored
  refine ⟨last, tabled.free freed, ?_, ?_⟩
  · rw [back, filters, Function.update_idem]
    exact Function.update_eq_self_iff.mpr (linked.tabled.fresh _ (Nat.le_refl _)).symm
  · unfold allocateTsFeed
    rw [lockInterruptible_eq unlocked, running, if_neg Bool.false_ne_true]
    have same : tsFeedAlloc { dmx with pmutex := true } = some i := spare
    simp only [same, swdmxDemuxAllocTsFilter, allocated, Option.bind_eq_bind, Option.bind_some]
    rw [if_pos ⟨used, by rw [noChan]; exact Bool.false_ne_true⟩]
    simp only [swdmxTsFilterFree, freed, Option.bind_some]
    cases dmx
    cases unlocked
    rfl

theorem allocateTs_full (unlocked : dmx.pmutex = false) (running : outcome.interrupted = false)
    (callback : Nat) (full : dmx.tsFeedAlloc = none) :
    dmx.allocateTsFeed outcome callback = some (dmx, -eBusy) := by
  unfold allocateTsFeed
  rw [lockInterruptible_eq unlocked, running, if_neg Bool.false_ne_true]
  have same : tsFeedAlloc { dmx with pmutex := true } = none := full
  simp only [same, unlock_lock unlocked]

theorem allocateTs_none (unlocked : dmx.pmutex = false) (running : outcome.interrupted = false)
    (callback : Nat) {i : TsIndex} (spare : dmx.tsFeedAlloc = some i)
    (out : dmx.swdmx.memory = 0) : dmx.allocateTsFeed outcome callback = none := by
  unfold allocateTsFeed
  rw [lockInterruptible_eq unlocked, running, if_neg Bool.false_ne_true]
  have same : tsFeedAlloc { dmx with pmutex := true } = some i := spare
  have stuck : allocFilter .ts dmx.swdmx = none := allocFilter_none .ts out
  simp only [same, swdmxDemuxAllocTsFilter, stuck]
  rfl

theorem releaseTs_some (linked : dmx.Linked) (unlocked : dmx.pmutex = false)
    (running : outcome.interrupted = false) {i : TsIndex} (live : (dmx.tsFeed i).state ≠ .free) :
    ∃ tsf swdmx, (dmx.tsFeed i).tsf = some tsf ∧ swdmx.Tabled none ∧
      swdmx.filters = Function.update dmx.swdmx.filters tsf none ∧
      dmx.releaseTsFeed outcome i = some (({ dmx with swdmx } : AmlDmx).putTs i
        { dmx.tsFeed i with state := .free }, 0) := by
  obtain ⟨tsf, filter, points, found, -⟩ := linked.ts live
  obtain ⟨swdmx, freed, filters, -⟩ := filterFree_some linked.tabled found
  refine ⟨tsf, swdmx, points, linked.tabled.free freed, filters, ?_⟩
  unfold releaseTsFeed
  rw [lockInterruptible_eq unlocked, running, if_neg Bool.false_ne_true]
  simp only [points, swdmxTsFilterFree, freed, Option.bind_eq_bind, Option.bind_some]
  cases dmx
  cases unlocked
  rfl

end AmlDmx

end UnionpiTiger.Demux
