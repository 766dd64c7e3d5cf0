import UnionpiTiger.Demux.Sweep

set_option autoImplicit false

namespace UnionpiTiger.Demux

open Lib

namespace AmlDmx

variable {dmx : AmlDmx} {outcome : Outcome}

theorem sectionFeedSet_some (unlocked : dmx.pmutex = false) (running : outcome.interrupted = false)
    (i : SecIndex) {pid : UInt16} (valid : ¬pid ≥ swdmxMaxPid) (checkCrc : Bool) :
    dmx.sectionFeedSet outcome i pid checkCrc = some (dmx.putSec i
      { dmx.sectionFeed i with pid, checkCrc, type := .sec, state := .ready }, 0) := by
  unfold sectionFeedSet
  rw [if_neg valid, lockInterruptible_eq unlocked, running, if_neg Bool.false_ne_true]
  cases dmx
  cases unlocked
  rfl

theorem tsFeedSet_some (unlocked : dmx.pmutex = false) (running : outcome.interrupted = false)
    (i : TsIndex) {pid : UInt16} (valid : ¬pid ≥ swdmxMaxPid) {tsType pesType : UInt32}
    (known : ¬(tsType &&& tsDecoder ≠ 0 ∧ pesType ≥ dmxPesOther)) :
    dmx.tsFeedSet outcome i pid tsType pesType = some (dmx.putTs i
      { dmx.tsFeed i with pid, tsType, pesType, state := .ready }, 0) := by
  unfold tsFeedSet
  rw [if_neg valid, lockInterruptible_eq unlocked, running, if_neg Bool.false_ne_true, if_neg known]
  cases dmx
  cases unlocked
  rfl

theorem tsFeedSet_refused (unlocked : dmx.pmutex = false) (i : TsIndex) {pid : UInt16}
    {tsType pesType : UInt32}
    (refused : pid ≥ swdmxMaxPid ∨ outcome.interrupted = true ∨
      tsType &&& tsDecoder ≠ 0 ∧ pesType ≥ dmxPesOther) :
    ∃ code, code ≠ 0 ∧ dmx.tsFeedSet outcome i pid tsType pesType = some (dmx, code) := by
  unfold tsFeedSet
  by_cases invalid : pid ≥ swdmxMaxPid
  · exact ⟨-eInval, by decide, if_pos invalid⟩
  · rw [if_neg invalid, lockInterruptible_eq unlocked]
    cases interrupted : outcome.interrupted with
    | true => exact ⟨-eRestartSys, by decide, rfl⟩
    | false =>
      have unknown : tsType &&& tsDecoder ≠ 0 ∧ pesType ≥ dmxPesOther := by
        rcases refused with bad | bad | unknown
        · exact absurd bad invalid
        · rw [interrupted] at bad
          cases bad
        · exact unknown
      refine ⟨-eInval, by decide, ?_⟩
      rw [if_neg Bool.false_ne_true, if_pos unknown, unlock_lock unlocked]

theorem sectionFeedSet_refused (unlocked : dmx.pmutex = false) (i : SecIndex) {pid : UInt16}
    (checkCrc : Bool) (refused : pid ≥ swdmxMaxPid ∨ outcome.interrupted = true) :
    ∃ code, code ≠ 0 ∧ dmx.sectionFeedSet outcome i pid checkCrc = some (dmx, code) := by
  unfold sectionFeedSet
  by_cases invalid : pid ≥ swdmxMaxPid
  · exact ⟨-eInval, by decide, if_pos invalid⟩
  · rw [if_neg invalid, lockInterruptible_eq unlocked, refused.resolve_left invalid]
    exact ⟨-eRestartSys, by decide, rfl⟩

theorem tsFeedAlloc_free {i : TsIndex} (spare : dmx.tsFeedAlloc = some i) :
    (dmx.tsFeed i).state = .free := by
  have picked := List.find?_some spare
  exact of_decide_eq_true picked

theorem sectionFeedAlloc_free {i : SecIndex} (spare : dmx.sectionFeedAlloc = some i) :
    (dmx.sectionFeed i).state = .free := by
  have picked := List.find?_some spare
  exact of_decide_eq_true picked

theorem secFilterAlloc_free {feed : SecFeed} {j : FilterIndex}
    (spare : secFilterAlloc feed = some j) : (feed.filter j).state = .free := by
  have picked := List.find?_some spare
  exact of_decide_eq_true picked

theorem allocateSec_full (unlocked : dmx.pmutex = false) (running : outcome.interrupted = false)
    (callback : Nat) (full : dmx.sectionFeedAlloc = none) :
    dmx.allocateSectionFeed outcome callback = some (dmx, -eBusy) := by
  unfold allocateSectionFeed
  rw [lockInterruptible_eq unlocked, running, if_neg Bool.false_ne_true]
  have same : sectionFeedAlloc { dmx with pmutex := true } = none := full
  simp only [same, unlock_lock unlocked]

theorem allocateSec_noMemory (unlocked : dmx.pmutex = false) (running : outcome.interrupted = false)
    (callback : Nat) {i : SecIndex} (spare : dmx.sectionFeedAlloc = some i)
    (out : outcome.vmalloc = false) :
    dmx.allocateSectionFeed outcome callback = some (dmx.putSec i
      { dmx.sectionFeed i with
        state := .allocated, filter := fun j => { outcome.held j with state := .free } }, -eBusy) := by
  unfold allocateSectionFeed
  rw [lockInterruptible_eq unlocked, running, if_neg Bool.false_ne_true]
  have same : sectionFeedAlloc { dmx with pmutex := true } = some i := spare
  simp only [same, out]
  cases dmx
  cases unlocked
  rfl

theorem allocateSec_some (unlocked : dmx.pmutex = false) (running : outcome.interrupted = false)
    (callback : Nat) {i : SecIndex} (spare : dmx.sectionFeedAlloc = some i)
    (room : outcome.vmalloc = true) :
    ∃ secchan, dmx.allocateSectionFeed outcome callback = some (dmx.putSec i
      { dmx.sectionFeed i with
        state := .allocated, filter := fun j => { outcome.held j with state := .free }
        secCb := some callback, type := .sec
        isFiltering := false, secchan }, 0) := by
  refine ⟨if dmx.usedHwdmx then outcome.hwChan else (dmx.sectionFeed i).secchan, ?_⟩
  unfold allocateSectionFeed
  rw [lockInterruptible_eq unlocked, running, if_neg Bool.false_ne_true]
  have same : sectionFeedAlloc { dmx with pmutex := true } = some i := spare
  simp only [same, room]
  cases dmx
  cases unlocked
  rfl

theorem releaseSec_some (unlocked : dmx.pmutex = false) (running : outcome.interrupted = false)
    (i : SecIndex) :
    ∃ secchan, dmx.releaseSectionFeed outcome i = some (dmx.putSec i
      { dmx.sectionFeed i with state := .free, secchan }, 0) := by
  refine ⟨if dmx.usedHwdmx then false else (dmx.sectionFeed i).secchan, ?_⟩
  unfold releaseSectionFeed
  rw [lockInterruptible_eq unlocked, running, if_neg Bool.false_ne_true]
  cases dmx
  cases unlocked
  rfl

end AmlDmx

namespace FeedOp

def Clean (dmx : AmlDmx) (outcome : Outcome) (op : FeedOp) : Prop :=
  ∃ next code, op.apply dmx outcome = some (next, code) ∧ next.pmutex = false ∧
    (code ≠ 0 → (∀ i, (next.tsFeed i).state = .free ↔ (dmx.tsFeed i).state = .free) ∧
      ∀ i, (next.sectionFeed i).state = .free ↔ (dmx.sectionFeed i).state = .free)

def Meets (dmx : AmlDmx) (outcome : Outcome) : FeedOp → Prop
  | .tsStart i => (dmx.tsFeed i).state = .ready ∧ (dmx.tsFeed i).type = .ts →
    1 + dmx.swdmx.joinNeeds (dmx.tsFeed i).pid ≤ dmx.swdmx.memory
  | .secAllocateFilter i => (AmlDmx.secFilterAlloc (dmx.sectionFeed i)).isSome →
    0 < dmx.swdmx.memory
  | .secStart i => (dmx.sectionFeed i).isFiltering = false →
    dmx.Startable i ∧ dmx.secNeeds i ≤ dmx.swdmx.memory
  | .allocateTs _ => dmx.tsFeedAlloc.isSome → 0 < dmx.swdmx.memory
  | .allocateSec _ => dmx.sectionFeedAlloc.isSome → outcome.vmalloc = true
  | _ => True

instance (dmx : AmlDmx) (outcome : Outcome) : (op : FeedOp) → Decidable (op.Meets dmx outcome)
  | .tsStart _ => inferInstanceAs (Decidable (_ → _))
  | .secAllocateFilter _ => inferInstanceAs (Decidable (_ → _))
  | .secStart _ => inferInstanceAs (Decidable (_ → _))
  | .allocateTs _ => inferInstanceAs (Decidable (_ → _))
  | .allocateSec _ => inferInstanceAs (Decidable (_ → _))
  | .tsSet _ _ _ _ | .tsStop _ | .secSet _ _ _ | .secStop _ | .secReleaseFilter _ _ | .releaseTs _
  | .releaseSec _ => isTrue trivial

variable {dmx next : AmlDmx} {outcome : Outcome} {op : FeedOp} {code : Int}

theorem Clean.same (unlocked : dmx.pmutex = false) (same : op.apply dmx outcome = some (dmx, code)) :
    op.Clean dmx outcome :=
  ⟨dmx, code, same, unlocked, fun _ => ⟨fun _ => Iff.rfl, fun _ => Iff.rfl⟩⟩

theorem Clean.done (done : op.apply dmx outcome = some (next, 0)) (unlocked : next.pmutex = false) :
    op.Clean dmx outcome :=
  ⟨next, 0, done, unlocked, fun failed => absurd rfl failed⟩

theorem not_clean_of_none (stuck : op.apply dmx outcome = none) : ¬op.Clean dmx outcome := by
  rintro ⟨next, code, returns, -⟩
  rw [stuck] at returns
  cases returns

theorem apply_interrupted (unlocked : dmx.pmutex = false) (interrupted : outcome.interrupted = true)
    (op : FeedOp) :
    (∃ i, op = .tsStop i) ∨ ∃ code, code ≠ 0 ∧ op.apply dmx outcome = some (dmx, code) := by
  have failed : -eRestartSys ≠ 0 := by decide
  cases op with
  | tsStop i => exact Or.inl ⟨i, rfl⟩
  | tsSet i pid tsType pesType =>
    exact Or.inr (AmlDmx.tsFeedSet_refused unlocked i (Or.inr (Or.inl interrupted)))
  | secSet i pid checkCrc =>
    exact Or.inr (AmlDmx.sectionFeedSet_refused unlocked i checkCrc (Or.inr interrupted))
  | _ => exact Or.inr ⟨_, failed, (AmlDmx.lockInterruptible_eq unlocked _ _).trans (if_pos interrupted)⟩

theorem tsStop_clean (linked : dmx.Linked) (unlocked : dmx.pmutex = false) (i : TsIndex) :
    (FeedOp.tsStop i).Clean dmx outcome := by
  by_cases going : (dmx.tsFeed i).state = .go
  · obtain ⟨_, _, _, -, -, -, -, -, done⟩ := AmlDmx.tsFeedStop_some linked unlocked going
    exact Clean.done done unlocked
  · exact Clean.same unlocked (AmlDmx.tsFeedStop_idle unlocked going)

theorem allocateTs_clean (linked : dmx.Linked) (unlocked : dmx.pmutex = false)
    (running : outcome.interrupted = false) (callback : Nat) :
    (FeedOp.allocateTs callback).Clean dmx outcome ↔
      (FeedOp.allocateTs callback).Meets dmx outcome := by
  unfold Meets
  cases spare : dmx.tsFeedAlloc with
  | none =>
    have done : (FeedOp.allocateTs callback).apply dmx outcome = some (dmx, -eBusy) :=
      AmlDmx.allocateTs_full unlocked running callback spare
    exact iff_of_true (Clean.same unlocked done) nofun
  | some i =>
    have free := AmlDmx.tsFeedAlloc_free spare
    by_cases room : 0 < dmx.swdmx.memory
    · refine iff_of_true ?_ fun _ => room
      by_cases noChan : dmx.usedHwdmx = true ∧ outcome.hwChan = false
      · obtain ⟨swdmx, -, -, done⟩ := AmlDmx.allocateTs_noChan linked unlocked running callback spare
          noChan.1 noChan.2 room
        refine ⟨_, _, done, unlocked, fun _ => ⟨fun k => ?_, fun _ => Iff.rfl⟩⟩
        show (Function.update dmx.tsFeed i _ k).state = _ ↔ _
        by_cases here : k = i
        · subst here
          rw [Function.update_self]
          exact iff_of_true rfl free
        · rw [Function.update_of_ne here]
      · obtain ⟨_, _, -, -, done⟩ := AmlDmx.allocateTs_some linked unlocked running callback spare
          (fun used => Bool.not_eq_false _ ▸ fun lacks => noChan ⟨used, lacks⟩) room
        exact Clean.done done unlocked
    · refine iff_of_false ?_ fun meets => room (meets rfl)
      exact not_clean_of_none
        (AmlDmx.allocateTs_none unlocked running callback spare (Nat.eq_zero_of_not_pos room))

theorem allocateSec_clean (unlocked : dmx.pmutex = false) (running : outcome.interrupted = false)
    (callback : Nat) :
    (FeedOp.allocateSec callback).Clean dmx outcome ↔
      (FeedOp.allocateSec callback).Meets dmx outcome := by
  unfold Meets
  cases spare : dmx.sectionFeedAlloc with
  | none =>
    have done : (FeedOp.allocateSec callback).apply dmx outcome = some (dmx, -eBusy) :=
      AmlDmx.allocateSec_full unlocked running callback spare
    exact iff_of_true (Clean.same unlocked done) nofun
  | some i =>
    have free := AmlDmx.sectionFeedAlloc_free spare
    cases vmalloc : outcome.vmalloc with
    | true =>
      obtain ⟨_, done⟩ := AmlDmx.allocateSec_some unlocked running callback spare vmalloc
      exact iff_of_true (Clean.done done unlocked) fun _ => rfl
    | false =>
      refine iff_of_false ?_ fun meets => Bool.false_ne_true (meets rfl)
      rintro ⟨next, code, done, -, keeps⟩
      rw [show (FeedOp.allocateSec callback).apply dmx outcome = _ from
        AmlDmx.allocateSec_noMemory unlocked running callback spare vmalloc] at done
      cases done
      have taken := ((keeps (by decide)).2 i).mpr free
      replace taken : (Function.update dmx.sectionFeed i _ i).state = .free := taken
      rw [Function.update_self] at taken
      cases taken

theorem secStart_clean (linked : dmx.Linked) (unlocked : dmx.pmutex = false)
    (running : outcome.interrupted = false) {i : SecIndex}
    (live : (dmx.sectionFeed i).state ≠ .free) :
    (FeedOp.secStart i).Clean dmx outcome ↔ (FeedOp.secStart i).Meets dmx outcome := by
  unfold Meets
  cases busy : (dmx.sectionFeed i).isFiltering with
  | true =>
    have done : (FeedOp.secStart i).apply dmx outcome = some (dmx, -eBusy) :=
      AmlDmx.sectionFeedStart_busy unlocked running busy
    exact iff_of_true (Clean.same unlocked done) fun idle => absurd (busy.symm.trans idle) nofun
  | false =>
    by_cases room : dmx.secNeeds i ≤ dmx.swdmx.memory
    · obtain ⟨swdmx, -, done⟩ :=
        AmlDmx.sectionFeedStart_some linked unlocked running live busy room
      replace done : (FeedOp.secStart i).apply dmx outcome = _ := done
      by_cases any : dmx.Startable i
      · rw [if_pos any] at done
        exact iff_of_true (Clean.done done unlocked) fun _ => ⟨any, room⟩
      · rw [if_neg any] at done
        refine iff_of_false ?_ fun meets => any (meets busy).1
        rintro ⟨next, code, returns, released, -⟩
        rw [done] at returns
        cases returns
        cases released
    · refine iff_of_false ?_ fun meets => room (meets busy).2
      exact not_clean_of_none
        (AmlDmx.sectionFeedStart_none linked unlocked running live busy (Nat.not_le.mp room))

theorem tsStart_clean (linked : dmx.Linked) (unlocked : dmx.pmutex = false)
    (running : outcome.interrupted = false) (i : TsIndex) :
    (FeedOp.tsStart i).Clean dmx outcome ↔ (FeedOp.tsStart i).Meets dmx outcome := by
  unfold Meets
  by_cases ready : (dmx.tsFeed i).state = .ready ∧ (dmx.tsFeed i).type = .ts
  · by_cases room : 1 + dmx.swdmx.joinNeeds (dmx.tsFeed i).pid ≤ dmx.swdmx.memory
    · obtain ⟨_, _, _, -, -, -, -, -, done⟩ :=
        AmlDmx.tsFeedStart_some linked unlocked running ready.1 ready.2 room
      exact iff_of_true (Clean.done done unlocked) fun _ => room
    · refine iff_of_false ?_ fun meets => room (meets ready)
      exact not_clean_of_none (AmlDmx.tsFeedStart_none linked unlocked running ready.1 ready.2
        (Nat.not_le.mp room))
  · have done : (FeedOp.tsStart i).apply dmx outcome = some (dmx, -eInval) :=
      AmlDmx.tsFeedStart_idle unlocked running ready
    exact iff_of_true (Clean.same unlocked done) fun both => absurd both ready

theorem secAllocateFilter_clean (linked : dmx.Linked) (unlocked : dmx.pmutex = false)
    (running : outcome.interrupted = false) (i : SecIndex) :
    (FeedOp.secAllocateFilter i).Clean dmx outcome ↔
      (FeedOp.secAllocateFilter i).Meets dmx outcome := by
  unfold Meets
  cases spare : AmlDmx.secFilterAlloc (dmx.sectionFeed i) with
  | none =>
    have done : (FeedOp.secAllocateFilter i).apply dmx outcome = some (dmx, -eBusy) :=
      AmlDmx.allocateFilter_full unlocked running spare
    exact iff_of_true (Clean.same unlocked done) fun some_ => by rw [spare] at some_; cases some_
  | some j =>
    by_cases room : 0 < dmx.swdmx.memory
    · obtain ⟨_, -, -, done⟩ := AmlDmx.allocateFilter_some linked unlocked running spare room
      exact iff_of_true (Clean.done done unlocked) fun _ => room
    · refine iff_of_false ?_ fun meets => room (meets (by rw [spare]; rfl))
      exact not_clean_of_none
        (AmlDmx.allocateFilter_none unlocked running spare (Nat.eq_zero_of_not_pos room))

theorem releases_clean (linked : dmx.Linked) (unlocked : dmx.pmutex = false)
    (running : outcome.interrupted = false) {i : SecIndex} {j : FilterIndex}
    (live : dmx.Live (.secFilter i j)) : (FeedOp.secReleaseFilter i j).Clean dmx outcome := by
  by_cases type : (dmx.sectionFeed i).type = .sec
  · obtain ⟨_, _, -, -, -, done⟩ := AmlDmx.releaseFilter_some linked unlocked running type live
    exact Clean.done done unlocked
  · exact Clean.same unlocked (AmlDmx.releaseFilter_other unlocked running type)

theorem secStop_clean (linked : dmx.Linked) (unlocked : dmx.pmutex = false)
    (running : outcome.interrupted = false) {i : SecIndex}
    (live : (dmx.sectionFeed i).state ≠ .free) : (FeedOp.secStop i).Clean dmx outcome := by
  by_cases busy : (dmx.sectionFeed i).isFiltering = true
  · obtain ⟨_, -, _, -, done⟩ := AmlDmx.sectionFeedStop_some linked unlocked running live busy
    exact Clean.done done unlocked
  · exact Clean.same unlocked
      (AmlDmx.sectionFeedStop_idle unlocked running (Bool.eq_false_iff.mpr busy))

theorem sets_clean (unlocked : dmx.pmutex = false) {i : TsIndex} {pid : UInt16}
    {tsType pesType : UInt32} : (FeedOp.tsSet i pid tsType pesType).Clean dmx outcome := by
  by_cases refused : pid ≥ swdmxMaxPid ∨ outcome.interrupted = true ∨
      tsType &&& tsDecoder ≠ 0 ∧ pesType ≥ dmxPesOther
  · obtain ⟨_, -, same⟩ := AmlDmx.tsFeedSet_refused unlocked i refused
    exact Clean.same unlocked same
  · have valid : ¬pid ≥ swdmxMaxPid := fun bad => refused (Or.inl bad)
    have running := Bool.eq_false_iff.mpr fun bad => refused (Or.inr (Or.inl bad))
    have known := fun bad => refused (Or.inr (Or.inr bad))
    exact Clean.done (AmlDmx.tsFeedSet_some unlocked running i valid known) unlocked

theorem secSet_clean (unlocked : dmx.pmutex = false) {i : SecIndex} {pid : UInt16}
    {checkCrc : Bool} : (FeedOp.secSet i pid checkCrc).Clean dmx outcome := by
  by_cases refused : pid ≥ swdmxMaxPid ∨ outcome.interrupted = true
  · obtain ⟨_, -, same⟩ := AmlDmx.sectionFeedSet_refused unlocked i checkCrc refused
    exact Clean.same unlocked same
  · have valid : ¬pid ≥ swdmxMaxPid := fun bad => refused (Or.inl bad)
    have running := Bool.eq_false_iff.mpr fun bad => refused (Or.inr bad)
    exact Clean.done (AmlDmx.sectionFeedSet_some unlocked running i valid checkCrc) unlocked

theorem apply_locked (locked : dmx.pmutex = true) (applied : op.apply dmx outcome = some (next, code)) :
    next = dmx := by
  have inside : ∀ {failed : Int} {body : AmlDmx → Option (AmlDmx × Int)},
      dmx.mutexLockInterruptible outcome failed body = some (next, code) → next = dmx := by
    intro failed body done
    unfold AmlDmx.mutexLockInterruptible AmlDmx.mutexLock at done
    rw [if_pos locked] at done
    by_cases interrupted : outcome.interrupted = true
    · rw [if_pos interrupted] at done
      cases done
      rfl
    · rw [if_neg interrupted] at done
      cases done
  cases op with
  | tsStop i =>
    replace applied : dmx.tsFeedStopFiltering i = some (next, code) := applied
    unfold AmlDmx.tsFeedStopFiltering AmlDmx.mutexLock at applied
    rw [if_pos locked] at applied
    cases applied
  | tsSet i pid tsType pesType =>
    replace applied : dmx.tsFeedSet outcome i pid tsType pesType = some (next, code) := applied
    unfold AmlDmx.tsFeedSet at applied
    by_cases invalid : pid ≥ swdmxMaxPid
    · rw [if_pos invalid] at applied
      cases applied
      rfl
    · rw [if_neg invalid] at applied
      exact inside applied
  | secSet i pid checkCrc =>
    replace applied : dmx.sectionFeedSet outcome i pid checkCrc = some (next, code) := applied
    unfold AmlDmx.sectionFeedSet at applied
    by_cases invalid : pid ≥ swdmxMaxPid
    · rw [if_pos invalid] at applied
      cases applied
      rfl
    · rw [if_neg invalid] at applied
      exact inside applied
  | _ => exact inside applied

theorem suits_putTs {swdmx : SwDemux CbData} {i : TsIndex} {feed : TsFeed} (holder : CbData)
    (filter : Filter CbData) (apart : holder ≠ .tsFeed i) (suits : dmx.Suits holder filter) :
    (({ dmx with swdmx } : AmlDmx).putTs i feed).Suits holder filter := by
  cases holder with
  | tsFeed k =>
    have head : k ≠ i := fun same => apart (by rw [same])
    show _ ∧ ((Function.update dmx.tsFeed i feed k).state = _ →
      (Function.update dmx.tsFeed i feed k).pid < _)
    rw [Function.update_of_ne head]
    exact suits
  | secFilter k j => exact suits

theorem suits_putSec {swdmx : SwDemux CbData} {i : SecIndex} {feed : SecFeed} (holder : CbData)
    (filter : Filter CbData) (apart : ∀ j, holder ≠ .secFilter i j) (suits : dmx.Suits holder filter) :
    (({ dmx with swdmx } : AmlDmx).putSec i feed).Suits holder filter := by
  cases holder with
  | tsFeed k => exact suits
  | secFilter k j =>
    have head : k ≠ i := fun same => apart j (by rw [same])
    show _ ∧ ((Function.update dmx.sectionFeed i feed k).filter j).Suits filter
    rw [Function.update_of_ne head]
    exact suits

theorem suits_putSlot {swdmx : SwDemux CbData} {i : SecIndex} {j : FilterIndex} {slot : SecFilter}
    (holder : CbData) (filter : Filter CbData) (apart : holder ≠ .secFilter i j)
    (suits : dmx.Suits holder filter) :
    (({ dmx with swdmx } : AmlDmx).putSlot i j slot).Suits holder filter := by
  cases holder with
  | tsFeed k => exact suits
  | secFilter k l =>
    refine ⟨suits.1, ?_⟩
    rw [AmlDmx.putSlot_other apart]
    exact suits.2

theorem suits_here {i : TsIndex} {feed : TsFeed} {swdmx : SwDemux CbData} {filter : Filter CbData}
    (kind : filter.kind = .ts) (valid : feed.state = .ready → feed.pid < 0x1fff) :
    (({ dmx with swdmx } : AmlDmx).putTs i feed).Suits (.tsFeed i) filter := by
  show _ ∧ ((Function.update dmx.tsFeed i feed i).state = _ →
    (Function.update dmx.tsFeed i feed i).pid < _)
  rw [Function.update_self]
  exact ⟨kind, valid⟩

theorem suits_slot {i : SecIndex} {j : FilterIndex} {feed : SecFeed} {swdmx : SwDemux CbData}
    {filter : Filter CbData} (kind : filter.kind = .sec) (suits : (feed.filter j).Suits filter) :
    (({ dmx with swdmx } : AmlDmx).putSec i feed).Suits (.secFilter i j) filter := by
  show _ ∧ ((Function.update dmx.sectionFeed i feed i).filter j).Suits filter
  rw [Function.update_self]
  exact ⟨kind, suits⟩

theorem tsSet_linked (linked : dmx.Linked) (unlocked : dmx.pmutex = false) {i : TsIndex}
    (live : (dmx.tsFeed i).state ≠ .free) {pid : UInt16} {tsType pesType : UInt32}
    (applied : dmx.tsFeedSet outcome i pid tsType pesType = some (next, code)) : next.Linked := by
  by_cases refused : pid ≥ swdmxMaxPid ∨ outcome.interrupted = true ∨
      tsType &&& tsDecoder ≠ 0 ∧ pesType ≥ dmxPesOther
  · obtain ⟨_, -, same⟩ := AmlDmx.tsFeedSet_refused unlocked i refused
    rw [same] at applied
    cases applied
    exact linked
  · have valid : ¬pid ≥ swdmxMaxPid := fun bad => refused (Or.inl bad)
    rw [AmlDmx.tsFeedSet_some unlocked
      (Bool.eq_false_iff.mpr fun bad => refused (Or.inr (Or.inl bad))) i valid
      fun bad => refused (Or.inr (Or.inr bad))] at applied
    cases applied
    obtain ⟨tsf, _, points, -⟩ := linked.ts live
    refine linked.putTs linked.tabled live points points (fun _ _ => rfl) ?_ suits_putTs
    intro filter found suited _
    exact ⟨filter, found, suits_here suited.1 fun _ => UInt16.not_le.mp valid⟩

theorem tsStart_linked (linked : dmx.Linked) (unlocked : dmx.pmutex = false)
    (running : outcome.interrupted = false) {i : TsIndex}
    (applied : dmx.tsFeedStartFiltering outcome i = some (next, code)) : next.Linked := by
  by_cases starts : (dmx.tsFeed i).state = .ready ∧ (dmx.tsFeed i).type = .ts
  case neg =>
    rw [AmlDmx.tsFeedStart_idle unlocked running starts] at applied
    cases applied
    exact linked
  obtain ⟨ready, type⟩ := starts
  have live : (dmx.tsFeed i).state ≠ .free := by
    rw [ready]
    exact nofun
  by_cases room : 1 + dmx.swdmx.joinNeeds (dmx.tsFeed i).pid ≤ dmx.swdmx.memory
  · obtain ⟨tsf, filter, swdmx, points, found, kind, tabled, effect, done⟩ :=
      AmlDmx.tsFeedStart_some linked unlocked running ready type room
    rw [done] at applied
    cases applied
    obtain ⟨place, stored⟩ := effect.at_
    refine linked.putTs tabled live points points (fun _ apart => effect.other apart) ?_ suits_putTs
    intro _ _ _ _
    exact ⟨_, stored, suits_here kind nofun⟩
  · rw [AmlDmx.tsFeedStart_none linked unlocked running ready type (Nat.not_le.mp room)] at applied
    cases applied

theorem tsStop_linked (linked : dmx.Linked) (unlocked : dmx.pmutex = false) {i : TsIndex}
    (applied : dmx.tsFeedStopFiltering i = some (next, code)) : next.Linked := by
  by_cases going : (dmx.tsFeed i).state = .go
  case neg =>
    rw [AmlDmx.tsFeedStop_idle unlocked going] at applied
    cases applied
    exact linked
  have live : (dmx.tsFeed i).state ≠ .free := by
    rw [going]
    exact nofun
  obtain ⟨tsf, filter, swdmx, points, found, kind, tabled, effect, done⟩ :=
    AmlDmx.tsFeedStop_some linked unlocked going
  rw [done] at applied
  cases applied
  obtain ⟨place, stored⟩ := effect.at_
  refine linked.putTs tabled live points points (fun _ apart => effect.other apart) ?_ suits_putTs
  intro _ _ _ _
  exact ⟨_, stored, suits_here kind nofun⟩

theorem suited_started {feed : SecFeed} {slot : SecFilter} {filter : Filter CbData}
    (i : SecIndex) (j : FilterIndex) (kind : filter.kind = .sec) (place : Option Nat)
    (starts : feed.starts slot) :
    ({ feed.startedSecFilter i j slot filter with pidFilter := place } : Filter CbData).kind = .sec ∧
      (feed.startedSlot slot).Suits
        { feed.startedSecFilter i j slot filter with pidFilter := place } := by
  unfold SecFeed.startedSlot SecFeed.startedSecFilter
  rw [if_pos starts]
  by_cases fresh : slot.state = .allocated
  · rw [if_pos fresh]
    exact ⟨kind, Or.inr (Or.inr ⟨rfl, rfl⟩)⟩
  · rw [if_neg fresh]
    exact ⟨kind, Or.inr (Or.inr ⟨rfl, rfl⟩)⟩

theorem startedSlot_idle {feed : SecFeed} {slot : SecFilter} (idle : ¬feed.starts slot) :
    (feed.startedSlot slot).state = slot.state := by
  unfold SecFeed.startedSlot
  rw [if_neg idle]
  by_cases fresh : slot.state = .allocated
  · rw [if_pos fresh]
    rfl
  · rw [if_neg fresh]

theorem startedSlot_secf (feed : SecFeed) (slot : SecFilter) :
    (feed.startedSlot slot).secf = slot.secf := by
  unfold SecFeed.startedSlot
  dsimp only
  split_ifs <;> rfl

theorem live_of_startedSlot {feed : SecFeed} {slot : SecFilter}
    (live : (feed.startedSlot slot).state ≠ .free) : slot.state ≠ .free := by
  by_cases starts : feed.starts slot
  · exact AmlDmx.live_of_starts starts
  · rw [← startedSlot_idle starts]
    exact live

theorem suits_of_state {slot other : SecFilter} {filter : Filter CbData}
    (same : other.state = slot.state) (suits : slot.Suits filter) : other.Suits filter := by
  unfold SecFilter.Suits at *
  rw [same]
  exact suits

theorem swept_others {suits : CbData → Filter CbData → Prop} (owned : dmx.Owned suits) {i : SecIndex}
    (live : (dmx.sectionFeed i).state ≠ .free) {swdmx : SwDemux CbData} {pick : FilterIndex → Prop}
    {new : FilterIndex → Filter CbData → Filter CbData}
    (picked : ∀ j, pick j → ((dmx.sectionFeed i).filter j).state ≠ .free)
    (swept : AmlDmx.Swept dmx.swdmx swdmx (dmx.sectionFeed i).filter pick new) (holder : CbData)
    (addr : Nat) (apart : ∀ j, pick j → holder ≠ .secFilter i j) (alive : dmx.Live holder)
    (points : dmx.pointer holder = some addr) : swdmx.filters addr = dmx.swdmx.filters addr := by
  refine swept.others addr fun j chosen there => ?_
  exact apart j chosen (owned.apart holder (.secFilter i j) alive ⟨live, picked j chosen⟩
    (points.trans there.symm))

theorem linked_mutex (linked : dmx.Linked) (held : Bool) :
    ({ dmx with pmutex := held } : AmlDmx).Linked where
  tabled := linked.tabled
  valid holder live := by
    cases holder with
    | tsFeed i => exact linked.valid (.tsFeed i) live
    | secFilter i j => exact linked.valid (.secFilter i j) live
  apart holder other live otherLive same := by
    refine linked.apart holder other ?_ ?_ ?_
    · cases holder <;> exact live
    · cases other <;> exact otherLive
    · cases holder <;> cases other <;> exact same

theorem secStart_linked (linked : dmx.Linked) (unlocked : dmx.pmutex = false)
    (running : outcome.interrupted = false) {i : SecIndex}
    (live : (dmx.sectionFeed i).state ≠ .free)
    (applied : dmx.sectionFeedStartFiltering outcome i = some (next, code)) : next.Linked := by
  by_cases busy : (dmx.sectionFeed i).isFiltering = true
  case pos =>
    rw [AmlDmx.sectionFeedStart_busy unlocked running busy] at applied
    cases applied
    exact linked
  have idle := Bool.eq_false_iff.mpr busy
  by_cases room : dmx.secNeeds i ≤ dmx.swdmx.memory
  · obtain ⟨swdmx, swept, done⟩ :=
      AmlDmx.sectionFeedStart_some linked unlocked running live idle room
    have picked : ∀ j, (dmx.sectionFeed i).starts ((dmx.sectionFeed i).filter j) →
        ((dmx.sectionFeed i).filter j).state ≠ .free := fun j => AmlDmx.live_of_starts
    have stored : ∀ feed : SecFeed, feed.filter = (dmx.afterStart i).filter →
        (({ dmx with swdmx } : AmlDmx).putSec i feed).Linked := by
      intro feed slots
      have slot : ∀ j, feed.filter j =
          (dmx.sectionFeed i).startedSlot ((dmx.sectionFeed i).filter j) := fun j => by
        rw [slots]
        rfl
      refine linked.putSec swept.tabled ?_ ?_ ?_ suits_putSec
      · intro _ j taken
        rw [slot] at taken ⊢
        exact ⟨⟨live, live_of_startedSlot taken⟩, startedSlot_secf _ _⟩
      · exact fun holder addr apart => swept_others linked live picked swept holder addr
          fun j _ => apart j
      · intro j addr filter _ taken there found suited
        rw [slot] at taken
        by_cases starts : (dmx.sectionFeed i).starts ((dmx.sectionFeed i).filter j)
        · obtain ⟨place, new⟩ := swept.here j addr filter starts there found
          obtain ⟨kind, fits⟩ := suited_started i j suited.1 place starts
          exact ⟨_, new, suits_slot kind (by rw [slot]; exact fits)⟩
        · have kept := swept_others linked live picked swept (.secFilter i j) addr
            (fun k chosen same => starts (by cases same; exact chosen))
            ⟨live, live_of_startedSlot taken⟩ there
          refine ⟨filter, kept.trans found, suits_slot suited.1 ?_⟩
          rw [slot]
          exact suits_of_state (startedSlot_idle starts) suited.2
    rw [done] at applied
    by_cases any : dmx.Startable i
    · rw [if_pos any] at applied
      cases applied
      exact stored _ rfl
    · rw [if_neg any] at applied
      cases applied
      exact linked_mutex (stored (dmx.afterStart i) rfl) true
  · rw [AmlDmx.sectionFeedStart_none linked unlocked running live idle (Nat.not_le.mp room)]
      at applied
    cases applied

theorem stoppedSlot_live {slot : SecFilter} (live : (stoppedSlot slot).state ≠ .free) :
    slot.state ≠ .free := by
  unfold stoppedSlot at live
  dsimp only at live
  by_cases going : slot.state = .go
  · rw [going]
    exact nofun
  · rw [if_neg going] at live
    exact live

theorem secStop_linked (linked : dmx.Linked) (unlocked : dmx.pmutex = false)
    (running : outcome.interrupted = false) {i : SecIndex}
    (live : (dmx.sectionFeed i).state ≠ .free)
    (applied : dmx.sectionFeedStopFiltering outcome i = some (next, code)) : next.Linked := by
  by_cases busy : (dmx.sectionFeed i).isFiltering = true
  case neg =>
    rw [AmlDmx.sectionFeedStop_idle unlocked running (Bool.eq_false_iff.mpr busy)] at applied
    cases applied
    exact linked
  obtain ⟨swdmx, swept, _, -, done⟩ :=
    AmlDmx.sectionFeedStop_some linked unlocked running live busy
  rw [done] at applied
  cases applied
  have picked : ∀ j, ((dmx.sectionFeed i).filter j).state = .go →
      ((dmx.sectionFeed i).filter j).state ≠ .free := fun j going => by
    rw [going]
    exact nofun
  refine linked.putSec swept.tabled ?_ ?_ ?_ suits_putSec
  · intro _ j taken
    exact ⟨⟨live, stoppedSlot_live taken⟩, rfl⟩
  · exact fun holder addr apart => swept_others linked live picked swept holder addr
      fun j _ => apart j
  · intro j addr filter _ taken there found suited
    by_cases going : ((dmx.sectionFeed i).filter j).state = .go
    · obtain ⟨place, new⟩ := swept.here j addr filter going there found
      exact ⟨_, new, suits_slot suited.1 (Or.inr (Or.inl ⟨if_pos going, rfl⟩))⟩
    · have kept := swept_others linked live picked swept (.secFilter i j) addr
        (fun k chosen same => going (by cases same; exact chosen)) ⟨live, stoppedSlot_live taken⟩ there
      exact ⟨filter, kept.trans found,
        suits_slot suited.1 (suits_of_state (if_neg going) suited.2)⟩

theorem secAllocateFilter_linked (linked : dmx.Linked) (unlocked : dmx.pmutex = false)
    (running : outcome.interrupted = false) {i : SecIndex}
    (applied : dmx.sectionFeedAllocateFilter outcome i = some (next, code)) : next.Linked := by
  cases spare : AmlDmx.secFilterAlloc (dmx.sectionFeed i) with
  | none =>
    rw [AmlDmx.allocateFilter_full unlocked running spare] at applied
    cases applied
    exact linked
  | some j =>
    by_cases room : 0 < dmx.swdmx.memory
    · obtain ⟨swdmx, tabled, filters, done⟩ :=
        AmlDmx.allocateFilter_some linked unlocked running spare room
      rw [done] at applied
      cases applied
      refine linked.allocSlot tabled filters rfl ?_ fun holder filter => suits_putSlot holder filter
      exact ⟨rfl, by rw [AmlDmx.putSlot_slot]; exact Or.inl ⟨rfl, rfl⟩⟩
    · rw [AmlDmx.allocateFilter_none unlocked running spare (Nat.eq_zero_of_not_pos room)] at applied
      cases applied

theorem secReleaseFilter_linked (linked : dmx.Linked) (unlocked : dmx.pmutex = false)
    (running : outcome.interrupted = false) {i : SecIndex} {j : FilterIndex}
    (live : dmx.Live (.secFilter i j))
    (applied : dmx.sectionFeedReleaseFilter outcome i j = some (next, code)) : next.Linked := by
  by_cases type : (dmx.sectionFeed i).type = .sec
  · obtain ⟨secf, swdmx, points, tabled, filters, done⟩ :=
      AmlDmx.releaseFilter_some linked unlocked running type live
    rw [done] at applied
    cases applied
    exact linked.freeSlot tabled live points filters rfl fun holder filter =>
      suits_putSlot holder filter
  · rw [AmlDmx.releaseFilter_other unlocked running type] at applied
    cases applied
    exact linked

theorem allocateTs_linked (linked : dmx.Linked) (unlocked : dmx.pmutex = false)
    (running : outcome.interrupted = false) {callback : Nat}
    (applied : dmx.allocateTsFeed outcome callback = some (next, code)) : next.Linked := by
  cases spare : dmx.tsFeedAlloc with
  | none =>
    rw [AmlDmx.allocateTs_full unlocked running callback spare] at applied
    cases applied
    exact linked
  | some i =>
    by_cases room : 0 < dmx.swdmx.memory
    · by_cases noChan : dmx.usedHwdmx = true ∧ outcome.hwChan = false
      · obtain ⟨swdmx, tabled, filters, done⟩ := AmlDmx.allocateTs_noChan linked unlocked running
          callback spare noChan.1 noChan.2 room
        rw [done] at applied
        cases applied
        exact linked.freeTs tabled (fun _ _ _ _ _ => by rw [filters]) rfl suits_putTs
      · obtain ⟨swdmx, tschan, tabled, filters, done⟩ := AmlDmx.allocateTs_some linked unlocked
          running callback spare
          (fun used => Bool.not_eq_false _ ▸ fun lacks => noChan ⟨used, lacks⟩) room
        rw [done] at applied
        cases applied
        exact linked.allocTs tabled filters rfl (suits_here rfl nofun) suits_putTs
    · rw [AmlDmx.allocateTs_none unlocked running callback spare (Nat.eq_zero_of_not_pos room)]
        at applied
      cases applied

theorem releaseTs_linked (linked : dmx.Linked) (unlocked : dmx.pmutex = false)
    (running : outcome.interrupted = false) {i : TsIndex} (live : (dmx.tsFeed i).state ≠ .free)
    (applied : dmx.releaseTsFeed outcome i = some (next, code)) : next.Linked := by
  obtain ⟨tsf, swdmx, points, tabled, filters, done⟩ :=
    AmlDmx.releaseTs_some linked unlocked running live
  rw [done] at applied
  cases applied
  refine linked.freeTs tabled (fun holder addr apart alive there => ?_) rfl suits_putTs
  rw [filters, Function.update_of_ne (linked.elsewhere (.tsFeed i) live alive points there apart)]

theorem putSec_linked (linked : dmx.Linked) {i : SecIndex} {feed : SecFeed}
    (none_ : feed.state = .free ∨ ∀ j, (feed.filter j).state = .free) : (dmx.putSec i feed).Linked := by
  refine linked.putSec linked.tabled ?_ (fun _ _ _ _ _ => rfl) ?_ suits_putSec
  · intro up j taken
    rcases none_ with free | free
    · exact absurd free up
    · exact absurd (free j) taken
  · intro j _ _ up taken
    rcases none_ with free | free
    · exact absurd free up
    · exact absurd (free j) taken

theorem allocateSec_linked (linked : dmx.Linked) (unlocked : dmx.pmutex = false)
    (running : outcome.interrupted = false) {callback : Nat}
    (applied : dmx.allocateSectionFeed outcome callback = some (next, code)) : next.Linked := by
  cases spare : dmx.sectionFeedAlloc with
  | none =>
    rw [AmlDmx.allocateSec_full unlocked running callback spare] at applied
    cases applied
    exact linked
  | some i =>
    cases vmalloc : outcome.vmalloc with
    | true =>
      obtain ⟨_, done⟩ := AmlDmx.allocateSec_some unlocked running callback spare vmalloc
      rw [done] at applied
      cases applied
      exact putSec_linked linked (Or.inr fun _ => rfl)
    | false =>
      rw [AmlDmx.allocateSec_noMemory unlocked running callback spare vmalloc] at applied
      cases applied
      exact putSec_linked linked (Or.inr fun _ => rfl)

theorem secSet_linked (linked : dmx.Linked) (unlocked : dmx.pmutex = false) {i : SecIndex}
    (live : (dmx.sectionFeed i).state ≠ .free) {pid : UInt16} {checkCrc : Bool}
    (applied : dmx.sectionFeedSet outcome i pid checkCrc = some (next, code)) : next.Linked := by
  by_cases refused : pid ≥ swdmxMaxPid ∨ outcome.interrupted = true
  · obtain ⟨_, -, same⟩ := AmlDmx.sectionFeedSet_refused unlocked i checkCrc refused
    rw [same] at applied
    cases applied
    exact linked
  · rw [AmlDmx.sectionFeedSet_some unlocked (Bool.eq_false_iff.mpr fun bad => refused (Or.inr bad)) i
      (fun bad => refused (Or.inl bad)) checkCrc] at applied
    cases applied
    refine linked.putSec linked.tabled ?_ (fun _ _ _ _ _ => rfl) ?_ suits_putSec
    · exact fun _ j taken => ⟨⟨live, taken⟩, rfl⟩
    · exact fun j addr filter _ _ _ found suited => ⟨filter, found, suits_slot suited.1 suited.2⟩

theorem apply_linked (linked : dmx.Linked) (legal : op.Legal dmx)
    (applied : op.apply dmx outcome = some (next, code)) : next.Linked := by
  cases locked : dmx.pmutex with
  | true => exact apply_locked locked applied ▸ linked
  | false =>
    cases interrupted : outcome.interrupted with
    | true =>
      rcases apply_interrupted locked interrupted op with ⟨i, rfl⟩ | ⟨_, -, same⟩
      · exact tsStop_linked linked locked applied
      · rw [same] at applied
        cases applied
        exact linked
    | false =>
      cases op with
      | tsSet i pid tsType pesType => exact tsSet_linked linked locked legal applied
      | tsStart i => exact tsStart_linked linked locked interrupted applied
      | tsStop i => exact tsStop_linked linked locked applied
      | secAllocateFilter i => exact secAllocateFilter_linked linked locked interrupted applied
      | secSet i pid checkCrc => exact secSet_linked linked locked legal applied
      | secStart i => exact secStart_linked linked locked interrupted legal applied
      | secStop i => exact secStop_linked linked locked interrupted legal applied
      | secReleaseFilter i j => exact secReleaseFilter_linked linked locked interrupted legal applied
      | allocateTs callback => exact allocateTs_linked linked locked interrupted applied
      | releaseTs i => exact releaseTs_linked linked locked interrupted legal applied
      | allocateSec callback => exact allocateSec_linked linked locked interrupted applied
      | releaseSec i =>
        obtain ⟨_, done⟩ := AmlDmx.releaseSec_some locked interrupted i
        rw [show (FeedOp.releaseSec i).apply dmx outcome = _ from done] at applied
        cases applied
        exact putSec_linked linked (Or.inl rfl)

def step (dmx : AmlDmx) (call : Outcome × FeedOp) : AmlDmx :=
  ((call.2.apply dmx call.1).map Prod.fst).getD dmx

theorem step_linked (linked : dmx.Linked) (call : Outcome × FeedOp) (legal : call.2.Legal dmx) :
    (step dmx call).Linked := by
  unfold step
  cases applied : call.2.apply dmx call.1 with
  | none => exact linked
  | some result => exact apply_linked linked legal applied

theorem linked_of_idle (tabled : dmx.swdmx.Tabled none) (ts : ∀ i, (dmx.tsFeed i).state = .free)
    (sec : ∀ i j, (dmx.sectionFeed i).state = .free ∨ ((dmx.sectionFeed i).filter j).state = .free) :
    dmx.Linked := by
  have none_ : ∀ holder, ¬dmx.Live holder := by
    intro holder alive
    cases holder with
    | tsFeed i => exact alive (ts i)
    | secFilter i j => exact (sec i j).elim alive.1 alive.2
  exact ⟨tabled, fun holder live => absurd live (none_ holder),
    fun holder _ live => absurd live (none_ holder)⟩

theorem linked_of_every_run (linked : dmx.Linked) (calls : List (Outcome × FeedOp))
    (legal : Along step (fun dmx call => call.2.Legal dmx) dmx calls) :
    (run step dmx calls).Linked :=
  run_invariant step _ AmlDmx.Linked (fun _ call inv ok => step_linked inv call ok) dmx linked calls
    legal

theorem feed_op_clean_iff (linked : dmx.Linked) (unlocked : dmx.pmutex = false) (outcome : Outcome)
    (op : FeedOp) (legal : op.Legal dmx) :
    op.Clean dmx outcome ↔ outcome.interrupted = true ∨ op.Meets dmx outcome := by
  cases interrupted : outcome.interrupted with
  | true =>
    refine iff_of_true ?_ (Or.inl rfl)
    rcases apply_interrupted unlocked interrupted op with ⟨i, rfl⟩ | ⟨code, -, same⟩
    · exact tsStop_clean linked unlocked i
    · exact Clean.same unlocked same
  | false =>
    rw [or_iff_right Bool.false_ne_true]
    cases op with
    | tsSet i pid tsType pesType => exact iff_of_true (sets_clean unlocked) trivial
    | tsStart i => exact tsStart_clean linked unlocked interrupted i
    | tsStop i => exact iff_of_true (tsStop_clean linked unlocked i) trivial
    | secAllocateFilter i => exact secAllocateFilter_clean linked unlocked interrupted i
    | secSet i pid checkCrc => exact iff_of_true (secSet_clean unlocked) trivial
    | secStart i => exact secStart_clean linked unlocked interrupted legal
    | secStop i => exact iff_of_true (secStop_clean linked unlocked interrupted legal) trivial
    | secReleaseFilter i j =>
      exact iff_of_true (releases_clean linked unlocked interrupted legal) trivial
    | allocateTs callback => exact allocateTs_clean linked unlocked interrupted callback
    | releaseTs i =>
      obtain ⟨_, _, -, -, -, done⟩ := AmlDmx.releaseTs_some linked unlocked interrupted legal
      exact iff_of_true (Clean.done done unlocked) trivial
    | allocateSec callback => exact allocateSec_clean unlocked interrupted callback
    | releaseSec i =>
      obtain ⟨_, done⟩ := AmlDmx.releaseSec_some unlocked interrupted i
      exact iff_of_true (Clean.done done unlocked) trivial

def firstSection : SecIndex := ⟨0, by decide⟩

def bareSectionFeed : AmlDmx where
  swdmx := swdmxDemuxNew 8 fun _ _ => 0
  usedHwdmx := false
  sectionFeed := Function.update (fun _ => {}) firstSection
    { state := .ready, secCb := some 7, pid := 0x100 }

theorem bareSectionFeed_linked : bareSectionFeed.Linked := by
  refine linked_of_idle (SwDemux.Tabled.new _ _) (fun _ => rfl) fun i j => Or.inr ?_
  show ((Function.update (fun _ => ({} : SecFeed)) firstSection _ i).filter j).state = _
  by_cases here : i = firstSection
  · subst here
    rw [Function.update_self]
  · rw [Function.update_of_ne here]

theorem bareSectionFeed_live : (bareSectionFeed.sectionFeed firstSection).state ≠ .free := by decide

def emptyDmx : AmlDmx where
  swdmx := swdmxDemuxNew 12 fun _ _ => 0
  usedHwdmx := false

theorem emptyDmx_linked : emptyDmx.Linked :=
  linked_of_idle (SwDemux.Tabled.new _ _) (fun _ => rfl) fun _ _ => Or.inl rfl

def firstFeed : TsIndex := ⟨0, by decide⟩

def liveFeeds : List (Outcome × FeedOp) :=
  [({}, .allocateTs 7), ({}, .tsSet firstFeed 0x100 0 0), ({}, .tsStart firstFeed),
    ({}, .allocateSec 9), ({}, .secAllocateFilter firstSection), ({}, .secSet firstSection 0x200 true),
    ({}, .secStart firstSection), ({}, .secAllocateFilter firstSection)]

theorem liveFeeds_linked :
    (run step emptyDmx liveFeeds).Linked ∧
      (run step emptyDmx liveFeeds).Live (.tsFeed firstFeed) ∧
      (run step emptyDmx liveFeeds).Live (.secFilter firstSection ⟨0, by decide⟩) ∧
      (run step emptyDmx liveFeeds).Live (.secFilter firstSection ⟨1, by decide⟩) := by
  refine ⟨linked_of_every_run emptyDmx_linked liveFeeds ?_, ?_, ?_, ?_⟩
  · decide +kernel
  · decide +kernel
  · decide +kernel
  · decide +kernel

theorem section_start_keeps_lock :
    ¬∀ (dmx : AmlDmx) (outcome : Outcome) (op : FeedOp), dmx.Linked → dmx.pmutex = false →
      op.Legal dmx → op.Clean dmx outcome := by
  intro clean
  have meets := (secStart_clean bareSectionFeed_linked rfl rfl bareSectionFeed_live).mp
    (clean bareSectionFeed {} (.secStart firstSection) bareSectionFeed_linked rfl
      bareSectionFeed_live)
  obtain ⟨starts, -⟩ := meets rfl
  exact absurd starts (by decide)

theorem filter_allocation_clean :
    (FeedOp.secAllocateFilter firstSection).Clean bareSectionFeed {} :=
  (feed_op_clean_iff bareSectionFeed_linked rfl {} (.secAllocateFilter firstSection)
    bareSectionFeed_live).mpr (Or.inr (by decide))

end FeedOp

end UnionpiTiger.Demux
