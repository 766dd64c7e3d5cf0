import UnionpiTiger.Camera.Stream

set_option autoImplicit false

namespace UnionpiTiger.Camera

open Lib

namespace Buffers

variable {F : Type} {buffers : Buffers F}

theorem set_apply {V : Type} (table : Fd → UInt32 → V) (fd other : Fd) (index at_ : UInt32)
    (value : V) :
    set table fd index value other at_ =
      if other = fd ∧ at_ = index then value else table other at_ := by
  unfold set
  by_cases sameFd : other = fd
  · subst sameFd
    rw [Function.update_self, Function.update_apply]
    simp
  · rw [Function.update_of_ne sameFd, if_neg fun both => sameFd both.1]

def frame (buffers : Buffers F) (fd : Fd) (index : UInt32) : Option (Queued F) :=
  (buffers.queueBuffers.find? fd).bind (·.find? index)

def handedSerials (buffers : Buffers F) : List Nat := buffers.handed.map (·.queued.serial)

structure Inv (buffers : Buffers F) : Prop extends HandsUp buffers where
  handedBefore : ∀ serial ∈ buffers.handedSerials, serial < buffers.serial
  lastBefore : ∀ fd index, ∀ serial ∈ buffers.lastQueued fd index, serial < buffers.serial
  lastDistinct : ∀ fd index other at_, ∀ serial ∈ buffers.lastQueued fd index,
    serial ∈ buffers.lastQueued other at_ → other = fd ∧ at_ = index
  heldLast : ∀ fd index, ∀ serial ∈ buffers.held fd index, serial ∈ buffers.lastQueued fd index
  mappedLast : ∀ fd index, ∀ queued ∈ buffers.frame fd index,
    queued.serial ∈ buffers.lastQueued fd index
  mappedNew : ∀ fd index, ∀ queued ∈ buffers.frame fd index,
    queued.serial ∉ buffers.handedSerials
  insertingLast : ∀ frame ∈ buffers.inserting,
    frame.queued.serial ∈ buffers.lastQueued frame.fd frame.index
  insertingNew : ∀ frame ∈ buffers.inserting, frame.queued.serial ∉ buffers.handedSerials
  dequeuedLast : ∀ buf ∈ buffers.dequeued, buf.serial ∈ buffers.lastQueued buf.fd buf.index
  dequeuedFree : ∀ buf ∈ buffers.dequeued, buffers.held buf.fd buf.index = none

theorem Inv.streamOff (inv : buffers.Inv) (fd : Fd) : (buffers.streamOff fd).Inv := by
  have held : ∀ other index, (buffers.streamOff fd).held other index =
      if other = fd then none else buffers.held other index := by
    intro other index
    change Function.update buffers.held fd (fun _ => none) other index = _
    rw [Function.update_apply]
    split_ifs <;> rfl
  refine { inv with heldLast := ?_, dequeuedFree := ?_ }
  · intro other index serial mem
    rw [held] at mem
    split_ifs at mem
    · cases mem
    · exact inv.heldLast other index serial mem
  · intro buf mem
    rw [held]
    split_ifs
    · rfl
    · exact inv.dequeuedFree buf mem

theorem Inv.v4l2DequeueBuffer (inv : buffers.Inv) (fd : Fd) (index : UInt32) :
    (buffers.v4l2DequeueBuffer fd index).Inv := by
  unfold Buffers.v4l2DequeueBuffer
  cases holds : buffers.held fd index with
  | none => exact inv
  | some serial =>
    refine { inv with heldLast := ?_, dequeuedLast := ?_, dequeuedFree := ?_ }
    · intro other at_ held mem
      dsimp only at mem
      rw [set_apply] at mem
      split_ifs at mem
      · cases mem
      · exact inv.heldLast other at_ held mem
    · intro buf mem
      rcases List.mem_append.mp mem with early | new
      · exact inv.dequeuedLast buf early
      · rw [List.mem_singleton.mp new]
        exact inv.heldLast fd index serial holds
    · intro buf mem
      dsimp only
      rw [set_apply]
      split_ifs with same
      · rfl
      · rcases List.mem_append.mp mem with early | new
        · exact inv.dequeuedFree buf early
        · rw [List.mem_singleton.mp new] at same
          exact absurd ⟨rfl, rfl⟩ same

theorem Inv.unmapped (inv : buffers.Inv) {fd : Fd} {index : UInt32}
    (again : ∀ serial ∈ buffers.lastQueued fd index, serial ∈ buffers.handedSerials) :
    buffers.frame fd index = none := by
  cases mapped : buffers.frame fd index with
  | none => rfl
  | some queued =>
    have last := inv.mappedLast fd index queued mapped
    exact absurd (again queued.serial last) (inv.mappedNew fd index queued mapped)

theorem Inv.v4l2QueueBuffer (inv : buffers.Inv) {fd : Fd} {index : UInt32} {frameSpec : F}
    {success : Bool} (unlocked : buffers.inserting.isNone = true)
    (again : buffers.QueuedAgain (.queue fd index frameSpec success))
    (fits : buffers.BufferFits (.queue fd index frameSpec success)) :
    (buffers.v4l2QueueBuffer fd index frameSpec success).Inv := by
  have unmapped := inv.unmapped again
  unfold Buffers.v4l2QueueBuffer
  split_ifs with queues
  swap
  · exact inv
  obtain ⟨succeeds, free⟩ := Bool.and_eq_true_iff.mp queues
  have alone := fits unlocked succeeds (Option.isNone_iff_eq_none.mp free)
  have fresh : buffers.serial ∉ buffers.handedSerials := fun mem =>
    absurd (inv.handedBefore _ mem) (Nat.lt_irrefl _)
  refine { inv with
    handedBefore := ?_, lastBefore := ?_, lastDistinct := ?_, heldLast := ?_, mappedLast := ?_,
    insertingLast := ?_, insertingNew := ?_, dequeuedLast := ?_, dequeuedFree := ?_ }
  · intro serial mem
    exact Nat.lt_succ_of_lt (inv.handedBefore serial mem)
  · intro other at_ serial mem
    dsimp only at mem
    rw [set_apply] at mem
    split_ifs at mem
    · cases mem
      exact Nat.lt_succ_self _
    · exact Nat.lt_succ_of_lt (inv.lastBefore other at_ serial mem)
  · intro one at_ other place serial first second
    dsimp only at first second
    rw [set_apply] at first second
    split_ifs at first second with here there there
    · exact ⟨there.1.trans here.1.symm, there.2.trans here.2.symm⟩
    · cases first
      exact absurd (inv.lastBefore _ _ _ second) (Nat.lt_irrefl _)
    · cases second
      exact absurd (inv.lastBefore _ _ _ first) (Nat.lt_irrefl _)
    · exact inv.lastDistinct one at_ other place serial first second
  · intro other at_ serial mem
    dsimp only at mem ⊢
    rw [set_apply] at mem ⊢
    split_ifs at mem ⊢
    · exact mem
    · exact inv.heldLast other at_ serial mem
  · intro other at_ queued mapped
    change queued ∈ buffers.frame other at_ at mapped
    dsimp only
    rw [set_apply]
    split_ifs with same
    · rw [same.1, same.2, unmapped] at mapped
      cases mapped
    · exact inv.mappedLast other at_ queued mapped
  · intro frame mem
    cases mem
    dsimp only
    rw [set_apply, if_pos ⟨rfl, rfl⟩]
    rfl
  · intro frame mem
    cases mem
    exact fresh
  · intro buf mem
    dsimp only
    rw [set_apply, if_neg (alone buf mem)]
    exact inv.dequeuedLast buf mem
  · intro buf mem
    dsimp only
    rw [set_apply, if_neg (alone buf mem)]
    exact inv.dequeuedFree buf mem

theorem find?_assign_frame (table : StdMap Fd (FrameMap F)) (fd other : Fd) (frames : FrameMap F)
    (index : UInt32) :
    ((table.assign fd frames).find? other).bind (·.find? index) =
      if other = fd then frames.find? index else (table.find? other).bind (·.find? index) := by
  rw [StdMap.find?_assign]
  split_ifs <;> rfl

theorem Inv.insertFrame (inv : buffers.Inv) : buffers.insertFrame.Inv := by
  unfold Buffers.insertFrame
  cases inserting : buffers.inserting with
  | none => exact inv
  | some frame =>
    have mapped : ∀ fd index, ∀ queued ∈ Buffers.frame { buffers with
          inserting := none
          queueBuffers := buffers.queueBuffers.assign frame.fd
            (((buffers.queueBuffers.find? frame.fd).getD {}).assign frame.index frame.queued) }
          fd index,
        (fd = frame.fd ∧ index = frame.index ∧ queued = frame.queued) ∨
          queued ∈ buffers.frame fd index := by
      intro fd index queued mem
      change queued ∈ Option.bind _ _ at mem
      rw [find?_assign_frame, StdMap.find?_assign] at mem
      split_ifs at mem with sameFd same
      · exact Or.inl ⟨sameFd, same, (Option.some_inj.mp mem).symm⟩
      · right
        rw [Buffers.frame, sameFd]
        cases found : buffers.queueBuffers.find? frame.fd with
        | none => rw [found] at mem; cases mem
        | some frames => rw [found] at mem; exact mem
      · exact Or.inr mem
    have last := inv.insertingLast frame inserting
    have new := inv.insertingNew frame inserting
    refine { inv with
      mappedLast := ?_, mappedNew := ?_, insertingLast := ?_, insertingNew := ?_ }
    · intro fd index queued mem
      rcases mapped fd index queued mem with ⟨rfl, rfl, rfl⟩ | before
      · exact last
      · exact inv.mappedLast fd index queued before
    · intro fd index queued mem
      rcases mapped fd index queued mem with ⟨_, _, rfl⟩ | before
      · exact new
      · exact inv.mappedNew fd index queued before
    · intro frame absent
      cases absent
    · intro frame absent
      cases absent

theorem Inv.forgets (inv : buffers.Inv) (place : Nat) :
    Inv { buffers with dequeued := buffers.dequeued.eraseIdx place } := by
  have left := List.eraseIdx_subset (l := buffers.dequeued) (k := place)
  refine { inv with dequeuedLast := ?_, dequeuedFree := ?_ }
  · intro buf mem
    exact inv.dequeuedLast buf (left mem)
  · intro buf mem
    exact inv.dequeuedFree buf (left mem)

theorem Inv.takes (inv : buffers.Inv) (unlocked : buffers.inserting.isNone = true)
    (table : StdMap Fd (FrameMap F)) (ups : List (HandedUp F))
    (left : ∀ fd index, ∀ queued ∈ (table.find? fd).bind (·.find? index),
      queued ∈ buffers.frame fd index)
    (taken : ∀ up ∈ ups, ∃ fd index, up.queued ∈ buffers.frame fd index ∧
      (table.find? fd).bind (·.find? index) = none)
    (distinct : (ups.map (·.queued.serial)).Nodup) (notHeld : ∀ up ∈ ups, up.held = none)
    (own : ∀ up ∈ ups, ∀ serial ∈ up.dqbuf, up.queued.serial = serial) :
    Inv { buffers with queueBuffers := table, handed := buffers.handed ++ ups } := by
  have serials : ∀ serial, serial ∈ (buffers.handed ++ ups).map (·.queued.serial) ↔
      serial ∈ buffers.handedSerials ∨ ∃ up ∈ ups, up.queued.serial = serial := by
    intro serial
    rw [List.map_append, List.mem_append, List.mem_map (l := ups)]
    rfl
  have none : buffers.inserting = none := Option.isNone_iff_eq_none.mp unlocked
  refine { inv with
    once := ?_, notHeld := ?_, own := ?_, handedBefore := ?_, mappedLast := ?_, mappedNew := ?_,
    insertingNew := ?_ }
  · change ((buffers.handed ++ ups).map _).Nodup
    rw [List.map_append, List.nodup_append]
    refine ⟨inv.once, distinct, ?_⟩
    intro first before second new same
    obtain ⟨up, mem, rfl⟩ := List.mem_map.mp new
    obtain ⟨fd, index, mapped, _⟩ := taken up mem
    exact inv.mappedNew fd index _ mapped (same ▸ before)
  · intro up mem
    rcases List.mem_append.mp mem with early | new
    · exact inv.notHeld up early
    · rw [notHeld up new]
      simp
  · intro up mem
    rcases List.mem_append.mp mem with early | new
    · exact inv.own up early
    · exact own up new
  · intro serial mem
    rcases (serials serial).mp mem with early | ⟨up, new, rfl⟩
    · exact inv.handedBefore serial early
    · obtain ⟨fd, index, mapped, _⟩ := taken up new
      exact inv.lastBefore fd index _ (inv.mappedLast fd index _ mapped)
  · intro fd index queued mem
    exact inv.mappedLast fd index queued (left fd index queued mem)
  · intro fd index queued mem handed
    have before := left fd index queued mem
    rcases (serials _).mp handed with early | ⟨up, new, same⟩
    · exact inv.mappedNew fd index queued before early
    · obtain ⟨other, at_, mapped, gone⟩ := taken up new
      have last := inv.mappedLast other at_ _ mapped
      rw [same] at last
      obtain ⟨rfl, rfl⟩ := inv.lastDistinct fd index other at_ _
        (inv.mappedLast fd index queued before) last
      change queued ∈ Option.bind (table.find? other) (·.find? at_) at mem
      rw [gone] at mem
      cases mem
  · intro frame mem
    rw [none] at mem
    cases mem

theorem Inv.handUp (inv : buffers.Inv) (unlocked : buffers.inserting.isNone = true) (place : Nat) :
    (buffers.handUp place).Inv := by
  unfold Buffers.handUp
  cases here : buffers.dequeued[place]? with
  | none => exact inv
  | some buf =>
    have forgotten := inv.forgets place
    have mem := List.mem_of_getElem? here
    dsimp only
    cases frames : buffers.queueBuffers.find? buf.fd with
    | none => exact forgotten
    | some bufferMap =>
      dsimp only
      cases found : bufferMap.find? buf.index with
      | none => exact forgotten
      | some queued =>
        have mapped : queued ∈ buffers.frame buf.fd buf.index := by
          rw [Buffers.frame, frames]
          exact found
        -- the frame under the index is the one the driver gave back
        have same : queued.serial = buf.serial := by
          have last := inv.mappedLast _ _ queued mapped
          rw [inv.dequeuedLast buf mem] at last
          exact (Option.some_inj.mp last).symm
        have after : ∀ fd index, ((buffers.queueBuffers.assign buf.fd
            (bufferMap.erase buf.index)).find? fd).bind (·.find? index) =
              if fd = buf.fd ∧ index = buf.index then none else buffers.frame fd index := by
          intro fd index
          rw [find?_assign_frame, StdMap.find?_erase]
          by_cases sameFd : fd = buf.fd
          · subst sameFd
            rw [Buffers.frame, frames]
            simp
          · simp [sameFd, Buffers.frame]
        refine forgotten.takes unlocked _ _ ?_ ?_ ?_ ?_ ?_
        · intro fd index other mem
          rw [after] at mem
          split_ifs at mem
          · cases mem
          · exact mem
        · intro up new
          refine ⟨buf.fd, buf.index, ?_, by rw [after, if_pos ⟨rfl, rfl⟩]⟩
          split_ifs at new
          · rw [List.mem_singleton.mp new]
            exact mapped
          · cases new
        · split_ifs <;> simp
        · intro up new
          split_ifs at new
          · rw [List.mem_singleton.mp new]
            exact inv.dequeuedFree buf mem
          · cases new
        · intro up new
          split_ifs at new
          · rw [List.mem_singleton.mp new]
            rintro serial given
            cases given
            exact same
          · cases new

theorem Inv.flush (inv : buffers.Inv) (unlocked : buffers.inserting.isNone = true) {fd : Fd}
    (fits : buffers.BufferFits (.flush fd)) : (buffers.flush fd).Inv := by
  unfold Buffers.flush
  split_ifs with callback
  · exact inv
  have called : buffers.dequeueBuffer = true := by simpa using callback
  cases frames : buffers.queueBuffers.find? fd with
  | none => exact inv
  | some bufferMap =>
    have free := fits unlocked called bufferMap frames
    have mapped : ∀ entry ∈ bufferMap.entries, entry.2 ∈ buffers.frame fd entry.1 := by
      intro entry mem
      rw [Buffers.frame, frames]
      exact StdMap.find?_eq_some_iff.mpr mem
    refine inv.takes unlocked _ _ ?_ ?_ ?_ ?_ ?_
    · intro other index queued mem
      rw [find?_assign_frame] at mem
      split_ifs at mem
      · cases mem
      · exact mem
    · intro up new
      obtain ⟨entry, mem, rfl⟩ := List.mem_map.mp new
      refine ⟨fd, entry.1, mapped entry mem, ?_⟩
      rw [find?_assign_frame, if_pos rfl]
      rfl
    · rw [List.map_map]
      refine List.Nodup.map_on ?_ bufferMap.entries_nodup
      intro first mem second there same
      have last := inv.mappedLast fd second.1 _ (mapped second there)
      change first.2.serial = second.2.serial at same
      rw [← same] at last
      obtain ⟨_, index⟩ := inv.lastDistinct fd first.1 fd second.1 _
        (inv.mappedLast fd first.1 _ (mapped first mem)) last
      have found := StdMap.find?_eq_some_iff.mpr there
      rw [index, StdMap.find?_eq_some_iff.mpr mem] at found
      exact Prod.ext index.symm (Option.some_inj.mp found)
    · intro up new
      obtain ⟨entry, mem, rfl⟩ := List.mem_map.mp new
      exact free entry mem
    · intro up new serial given
      obtain ⟨entry, mem, rfl⟩ := List.mem_map.mp new
      cases given

theorem Inv.v4l2ReleaseBuffers (inv : buffers.Inv) (unlocked : buffers.inserting.isNone = true)
    (fd : Fd) (success : Bool) : (buffers.v4l2ReleaseBuffers fd success).Inv := by
  have released : Inv { buffers with queueBuffers := buffers.queueBuffers.erase fd } := by
    have dropped := inv.takes unlocked (buffers.queueBuffers.erase fd) [] ?_ (by simp) (by simp)
      (by simp) (by simp)
    · rwa [List.append_nil] at dropped
    · intro other index queued mem
      rw [StdMap.find?_erase] at mem
      split_ifs at mem
      · cases mem
      · exact mem
  unfold Buffers.v4l2ReleaseBuffers
  dsimp only
  split_ifs
  · exact released.streamOff fd
  · exact released

theorem Inv.locked (inv : buffers.Inv) {next : Buffers F}
    (keeps : buffers.inserting.isNone = true → next.Inv) : (buffers.locked next).Inv := by
  unfold Buffers.locked
  split_ifs with held
  · exact inv
  · exact keeps (Option.not_isSome_iff_eq_none.mp held ▸ rfl)

theorem Inv.step (inv : buffers.Inv) (act : BufferAct F) (again : buffers.QueuedAgain act)
    (fits : buffers.BufferFits act) : (buffers.step act).Inv := by
  cases act with
  | queue fd index frameSpec success =>
    exact inv.locked fun unlocked => inv.v4l2QueueBuffer unlocked again fits
  | insert => exact inv.insertFrame
  | dequeue fd index => exact inv.v4l2DequeueBuffer fd index
  | handUp place => exact inv.locked fun unlocked => inv.handUp unlocked place
  | flush fd => exact inv.locked fun unlocked => inv.flush unlocked fits
  | release fd success =>
    exact inv.locked fun unlocked => inv.v4l2ReleaseBuffers unlocked fd success
  | streamOff fd => exact inv.streamOff fd

theorem Inv.init (dequeueBuffer : Bool) : Inv (F := F) { dequeueBuffer := dequeueBuffer } := by
  constructor
  case toHandsUp => exact ⟨List.nodup_nil, by simp, by simp⟩
  all_goals
    intros
    simp_all [handedSerials, frame, StdMap.find?]

-- Along a run in which an index is queued again only after its frame was handed up, and whose steps
-- fit, every frame is handed up once, when the driver is done with it, and for its own VIDIOC_DQBUF.
theorem hands_up_along_fits (dequeueBuffer : Bool) (acts : List (BufferAct F))
    (again : Along Buffers.step QueuedAgain { dequeueBuffer := dequeueBuffer } acts)
    (fits : Along Buffers.step BufferFits { dequeueBuffer := dequeueBuffer } acts) :
    HandsUp (run Buffers.step { dequeueBuffer := dequeueBuffer } acts) :=
  (run_invariant Buffers.step (fun buffers act => buffers.QueuedAgain act ∧ buffers.BufferFits act)
    Buffers.Inv (fun _ act inv both => inv.step act both.1 both.2) _ (Inv.init dequeueBuffer) acts
    (again.and fits)).toHandsUp

theorem hands_up_one_frame :
    HandsUp (run Buffers.step { dequeueBuffer := true }
      [BufferAct.queue 5 0 "frame" true, .insert, .dequeue 5 0, .handUp 0, .queue 5 0 "next" true,
        .insert, .streamOff 5, .flush 5]) :=
  hands_up_along_fits _ _ (by decide) (by decide)

-- Flush and a new frame come between VIDIOC_DQBUF and the look-up of its index: the new frame is
-- handed up while the driver holds the index for it.
theorem hands_up_not_after_late_look_up :
    ¬ ∀ (dequeueBuffer : Bool) (acts : List (BufferAct String)),
      Along Buffers.step QueuedAgain { dequeueBuffer := dequeueBuffer } acts →
        HandsUp (run Buffers.step { dequeueBuffer := dequeueBuffer } acts) := by
  intro handsUp
  have own := (handsUp true
    [.queue 5 0 "frame" true, .insert, .dequeue 5 0, .flush 5, .queue 5 0 "next" true, .insert,
      .handUp 0] (by decide)).own
  revert own
  decide

end Buffers

end UnionpiTiger.Camera
