import UnionpiTiger.Camera.Stream

set_option autoImplicit false

namespace UnionpiTiger.Camera

open Lib

def CallAt.raises : CallAt → Bool
  | .raising _ => true
  | _ => false

namespace StreamDev

structure Consistent (dev : StreamDev) : Prop where
  count : dev.streamNumber.toNat = dev.on.card
  thread : dev.running = true ↔ 0 < dev.on.card
  epoll : dev.epoll.isSome = true ↔ 0 < dev.on.card

def ErrorsUndone (dev : StreamDev) : Prop :=
  ∀ call ∈ dev.returned, call.ok = false → call.after = call.before

structure LifeCycle (dev : StreamDev) : Prop where
  consistent : dev.call = .idle → dev.Consistent
  reader : dev.streamThread = some .exited → dev.streamNumber = 0
  raising : dev.call.raises = true → dev.running = true
  errors : dev.ErrorsUndone

def OnCamera (dev : StreamDev) (cameraID : String) : Prop :=
  match dev.getCurrentFd cameraID with
  | none => False
  | some fd => fd ∈ dev.on

instance (dev : StreamDev) (cameraID : String) : Decidable (dev.OnCamera cameraID) := by
  unfold OnCamera
  cases dev.getCurrentFd cameraID <;> infer_instance

-- The step stays clear of the failures that the calls do not undo, of a thread that runs before the
-- counter is raised, and of a camera that is started twice or stopped without a start.
def StreamFits (dev : StreamDev) : StreamAct → Prop
  | .startStream _ => True
  | .stopStream cameraID =>
    dev.call = .idle → dev.myStreams = true → dev.streamThread ≠ none → dev.OnCamera cameraID
  | .advance outcome =>
    match dev.call with
    | .streamingOn fd => outcome.success = true → fd ∉ dev.on
    | .creatingEpoll _ => dev.streamNumber = 0 → outcome.success = true
    | .startingThread _ => dev.streamNumber = 0 → outcome.success = true
    | .streamingOff _ => outcome.success = true
    | _ => True
  | .check =>
    dev.streamThread = some .head → dev.streamNumber = 0 → dev.call.raises = false
  | .wake frame =>
    dev.streamThread = some .waiting → frame = true → dev.myBuffers = false → dev.streamNumber = 0

instance (dev : StreamDev) (act : StreamAct) : Decidable (dev.StreamFits act) := by
  unfold StreamFits
  cases act with
  | advance outcome => cases dev.call <;> infer_instance
  | _ => infer_instance

def Following (dev : StreamDev) : Prop :=
  dev.loop = if dev.streamNumber = 0 then none else some true

def Reading (dev : StreamDev) : Prop :=
  dev.Following ∧ (dev.epoll.isSome = true ↔ dev.streamNumber ≠ 0)

def Joined (dev : StreamDev) : Prop :=
  dev.loop = some (decide (dev.streamNumber ≠ 0)) ∧ dev.epoll.isSome = true

def Progress (dev : StreamDev) : CallAt → Prop
  | .idle => dev.streamNumber.toNat = dev.on.card ∧ dev.Reading
  | .streamingOn _ =>
    dev.streamNumber.toNat = dev.on.card ∧ dev.Reading ∧ dev.before = dev.snapshot
  | .creatingEpoll _ => dev.streamNumber.toNat + 1 = dev.on.card ∧ dev.Reading
  | .startingThread _ =>
    dev.streamNumber.toNat + 1 = dev.on.card ∧ dev.epoll.isSome = true ∧ dev.Following
  | .raising _ =>
    dev.streamNumber.toNat + 1 = dev.on.card ∧ dev.epoll.isSome = true ∧ dev.loop = some true ∧
      (dev.streamNumber = 0 → dev.streamThread ≠ some .waiting)
  | .lowering cameraID =>
    dev.streamNumber.toNat = dev.on.card ∧ dev.Reading ∧ dev.OnCamera cameraID
  | .joining cameraID =>
    dev.streamNumber = 0 ∧ dev.on.card = 1 ∧ dev.loop ≠ none ∧
      dev.epoll.isSome = true ∧ dev.OnCamera cameraID
  | .locating cameraID =>
    dev.streamNumber.toNat + 1 = dev.on.card ∧ dev.Joined ∧ dev.OnCamera cameraID
  | .streamingOff fd =>
    dev.streamNumber.toNat + 1 = dev.on.card ∧ dev.Joined ∧ fd ∈ dev.on
  | .erasing _ => dev.streamNumber.toNat = dev.on.card ∧ dev.Joined
  | .closing => dev.streamNumber.toNat = dev.on.card ∧ dev.Joined ∧ dev.streamNumber = 0

structure Inv (dev : StreamDev) : Prop where
  progress : dev.Progress dev.call
  errors : dev.ErrorsUndone

variable {dev : StreamDev}

theorem Inv.at (inv : dev.Inv) {call : CallAt} (next : dev.call = call) : dev.Progress call :=
  next ▸ inv.progress

theorem ErrorsUndone.returns (errors : dev.ErrorsUndone) {ok : Bool}
    (count : dev.streamNumber.toNat = dev.on.card) (reading : dev.Reading)
    (same : ok = false → dev.snapshot = dev.before) :
    (dev.returns ok).Inv := by
  refine ⟨⟨count, reading⟩, ?_⟩
  intro call mem failed
  rcases List.mem_append.mp mem with early | new
  · exact errors call early failed
  · rw [List.mem_singleton.mp new] at failed ⊢
    exact same failed

-- Where the thread is inside its loop does not matter, unless it was created just now.
theorem Progress.moves {place : LoopAt} (same : dev.loop = some (place != .exited))
    (created : dev.streamNumber = 0 → place ≠ .waiting) {call : CallAt}
    (progress : dev.Progress call) : Progress { dev with streamThread := some place } call := by
  have loop : StreamDev.loop { dev with streamThread := some place } = dev.loop := same.symm
  have shown : StreamDev.snapshot { dev with streamThread := some place } = dev.snapshot := by
    rw [snapshot, running, loop]
    rfl
  cases call with
  | raising fd =>
    obtain ⟨count, epoll, runs, _⟩ := progress
    refine ⟨count, epoll, loop.trans runs, ?_⟩
    intro zero same
    exact created zero (Option.some_inj.mp same)
  | _ =>
    simpa only [Progress, Reading, Following, Joined, OnCamera, getCurrentFd, loop, shown] using
      progress

-- A thread that ends with the counter at zero, outside a StartStream that is to raise it, does so
-- while StopStream waits for it.
theorem Progress.exits (runs : dev.loop = some true) (zero : dev.streamNumber = 0) {call : CallAt}
    (raised : call.raises = false) (progress : dev.Progress call) :
    Progress { dev with streamThread := some .exited } call := by
  cases call with
  | joining cameraID => exact ⟨zero, progress.2.1, by simp [loop], progress.2.2.2⟩
  | raising fd => cases raised
  | _ => simp [Progress, Reading, Following, Joined, runs, zero] at progress

theorem Inv.check (inv : dev.Inv) (fits : dev.StreamFits .check) : dev.check.Inv := by
  unfold StreamDev.check
  split_ifs with head more
  · refine ⟨inv.progress.moves ?_ ?_, inv.errors⟩
    · rw [loop, head]
      rfl
    · intro zero
      rw [zero] at more
      exact absurd more (by decide)
  · have zero : dev.streamNumber = 0 := by
      have none : ¬ 0 < dev.streamNumber.toNat := more
      exact UInt32.toNat_inj.mp (Nat.eq_zero_of_not_pos none)
    have runs : dev.loop = some true := by rw [loop, head]; rfl
    exact ⟨inv.progress.exits runs zero (fits head zero), inv.errors⟩
  · exact inv

theorem Inv.wake (inv : dev.Inv) {frame : Bool} (fits : dev.StreamFits (.wake frame)) :
    (dev.wake frame).Inv := by
  unfold StreamDev.wake
  split_ifs with waiting lost
  · obtain ⟨frame, noBuffers⟩ := Bool.and_eq_true_iff.mp lost
    have zero := fits waiting frame (Bool.not_eq_true' _ ▸ noBuffers)
    have runs : dev.loop = some true := by rw [loop, waiting]; rfl
    refine ⟨inv.progress.exits runs zero ?_, inv.errors⟩
    cases next : dev.call with
    | raising fd => exact absurd waiting ((inv.at next).2.2.2 zero)
    | _ => rfl
  · refine ⟨inv.progress.moves ?_ ?_, inv.errors⟩
    · rw [loop, waiting]
      rfl
    · intro _ same
      cases same
  · exact inv

theorem Inv.startStream (inv : dev.Inv) (idle : dev.call = .idle) (cameraID : String) :
    (dev.startStream cameraID).Inv := by
  obtain ⟨count, reading⟩ := inv.at idle
  have errors : ErrorsUndone { dev with before := dev.snapshot } := inv.errors
  unfold StreamDev.startStream
  dsimp only
  change Inv (match dev.getCurrentFd cameraID with
    | none => _
    | some fd => _)
  cases dev.getCurrentFd cameraID with
  | none => exact errors.returns count reading fun _ => rfl
  | some fd => exact ⟨⟨count, reading, rfl⟩, inv.errors⟩

theorem Inv.stopStream (inv : dev.Inv) (idle : dev.call = .idle) {cameraID : String}
    (fits : dev.StreamFits (.stopStream cameraID)) : (dev.stopStream cameraID).Inv := by
  obtain ⟨count, reading⟩ := inv.at idle
  have errors : ErrorsUndone { dev with before := dev.snapshot } := inv.errors
  unfold StreamDev.stopStream
  dsimp only
  split_ifs with streams thread
  · exact errors.returns count reading fun _ => rfl
  · exact errors.returns count reading fun _ => rfl
  · have made : dev.myStreams = true := by simpa using streams
    have created : dev.streamThread ≠ none := by simpa using thread
    exact ⟨⟨count, reading, fits idle made created⟩, inv.errors⟩

theorem Inv.v4l2StreamOn (inv : dev.Inv) {fd : Fd} (next : dev.call = .streamingOn fd)
    {success : Bool} (fits : success = true → fd ∉ dev.on) : (dev.v4l2StreamOn fd success).Inv := by
  obtain ⟨count, reading, before⟩ := inv.at next
  unfold StreamDev.v4l2StreamOn
  cases success with
  | false => exact inv.errors.returns count reading fun _ => before.symm
  | true =>
    refine ⟨⟨?_, reading⟩, inv.errors⟩
    change dev.streamNumber.toNat + 1 = (insert fd dev.on).card
    rw [Finset.card_insert_of_notMem (fits rfl), count]

theorem Inv.createEpoll (inv : dev.Inv) {fd : Fd} (next : dev.call = .creatingEpoll fd)
    {outcome : Outcome} (fits : dev.streamNumber = 0 → outcome.success = true) :
    (dev.createEpoll fd outcome).Inv := by
  obtain ⟨count, following, epoll⟩ := inv.at next
  unfold StreamDev.createEpoll
  split_ifs with zero failed
  · rw [fits zero] at failed
    cases failed
  · exact ⟨⟨count, rfl, following⟩, inv.errors⟩
  · refine ⟨⟨count, ?_, following⟩, inv.errors⟩
    rw [Option.isSome_map]
    exact epoll.mpr zero

theorem Inv.startThread (inv : dev.Inv) {fd : Fd} (next : dev.call = .startingThread fd)
    {success : Bool} (fits : dev.streamNumber = 0 → success = true) :
    (dev.startThread fd success).Inv := by
  obtain ⟨count, epoll, following⟩ := inv.at next
  unfold StreamDev.startThread
  split_ifs with zero failed
  · rw [fits zero] at failed
    cases failed
  · exact ⟨⟨count, epoll, rfl, fun _ same => by cases same⟩, inv.errors⟩
  · rw [Following, if_neg zero] at following
    exact ⟨⟨count, epoll, following, fun same => absurd same zero⟩, inv.errors⟩

theorem add_one_toNat (number : UInt32) (on : Finset Fd) (count : number.toNat + 1 = on.card) :
    (number + 1).toNat = on.card := by
  have bound := Finset.card_le_univ on
  rw [Fintype.card_fin] at bound
  rw [UInt32.toNat_add]
  change (number.toNat + 1) % 2 ^ 32 = on.card
  omega

theorem ne_zero_of_toNat {number : UInt32} (positive : 0 < number.toNat) : number ≠ 0 := by
  rintro rfl
  exact absurd positive (by decide)

theorem Inv.raise (inv : dev.Inv) {fd : Fd} (next : dev.call = .raising fd) : dev.raise.Inv := by
  obtain ⟨count, epoll, runs, _⟩ := inv.at next
  have raised := add_one_toNat _ _ count
  have positive : dev.streamNumber + 1 ≠ 0 := ne_zero_of_toNat (by omega)
  have errors : ErrorsUndone { dev with streamNumber := dev.streamNumber + 1 } := inv.errors
  refine errors.returns raised ⟨?_, iff_of_true epoll positive⟩ (fun failed => by cases failed)
  change dev.loop = if dev.streamNumber + 1 = 0 then none else some true
  rw [if_neg positive]
  exact runs

theorem Inv.lower (inv : dev.Inv) {cameraID : String} (next : dev.call = .lowering cameraID) :
    (dev.lower cameraID).Inv := by
  obtain ⟨count, ⟨following, epoll⟩, on⟩ := inv.at next
  have some : 0 < dev.on.card := by
    unfold OnCamera at on
    cases found : dev.getCurrentFd cameraID with
    | none => rw [found] at on; exact on.elim
    | some fd => rw [found] at on; exact Finset.card_pos.mpr ⟨fd, on⟩
  have positive : dev.streamNumber ≠ 0 := ne_zero_of_toNat (by omega)
  have lowered : (dev.streamNumber - 1).toNat + 1 = dev.on.card := by
    have one : (1 : UInt32) ≤ dev.streamNumber := by
      rw [UInt32.le_iff_toNat_le]
      change 1 ≤ dev.streamNumber.toNat
      omega
    rw [UInt32.toNat_sub_of_le _ _ one]
    change dev.streamNumber.toNat - 1 + 1 = dev.on.card
    omega
  rw [Following, if_neg positive] at following
  refine ⟨?_, inv.errors⟩
  unfold StreamDev.lower
  dsimp only
  split_ifs with zero
  · refine ⟨zero, ?_, ?_, epoll.mpr positive, on⟩
    · rw [zero] at lowered
      exact lowered.symm
    · change dev.loop ≠ none
      rw [following]
      simp
  · refine ⟨lowered, ⟨?_, epoll.mpr positive⟩, on⟩
    change dev.loop = _
    rw [following]
    simp [zero]

theorem Inv.join (inv : dev.Inv) {cameraID : String} (next : dev.call = .joining cameraID) :
    (dev.join cameraID).Inv := by
  obtain ⟨zero, one, created, epoll, on⟩ := inv.at next
  unfold StreamDev.join
  split_ifs with runs
  · exact inv
  · have ended : dev.loop = some false := by
      rw [running, beq_iff_eq] at runs
      cases found : dev.loop with
      | none => exact absurd found created
      | some inside =>
        rw [found] at runs
        cases inside with
        | false => rfl
        | true => exact absurd rfl runs
    refine ⟨⟨?_, ⟨?_, ?_⟩, on⟩, inv.errors⟩
    · change dev.streamNumber.toNat + 1 = dev.on.card
      rw [zero, one]
      rfl
    · change dev.loop = some (decide (dev.streamNumber ≠ 0))
      rw [ended, zero]
      rfl
    · rw [Option.isSome_map]
      exact epoll

theorem Inv.locate (inv : dev.Inv) {cameraID : String} (next : dev.call = .locating cameraID) :
    (dev.locate cameraID).Inv := by
  obtain ⟨count, joined, on⟩ := inv.at next
  unfold StreamDev.locate
  unfold OnCamera at on
  cases found : dev.getCurrentFd cameraID with
  | none =>
    rw [found] at on
    exact on.elim
  | some fd =>
    rw [found] at on
    exact ⟨⟨count, joined, on⟩, inv.errors⟩

theorem Inv.v4l2StreamOff (inv : dev.Inv) {fd : Fd} (next : dev.call = .streamingOff fd)
    {success : Bool} (fits : success = true) : (dev.v4l2StreamOff fd success).Inv := by
  obtain ⟨count, joined, on⟩ := inv.at next
  subst fits
  refine ⟨⟨?_, joined⟩, inv.errors⟩
  change dev.streamNumber.toNat = (dev.on.erase fd).card
  rw [Finset.card_erase_of_mem on]
  omega

theorem Inv.eraseEpoll (inv : dev.Inv) {fd : Fd} (next : dev.call = .erasing fd) :
    (dev.eraseEpoll fd).Inv := by
  obtain ⟨count, loop, epoll⟩ := inv.at next
  have erased : ∃ epoll epollEvent, epoll.isSome = true ∧ dev.eraseEpoll fd =
      (if dev.streamNumber = 0 then
        { dev with epoll := epoll, epollEvent := epollEvent, call := .closing }
      else { dev with epoll := epoll, epollEvent := epollEvent }.returns true) := by
    unfold StreamDev.eraseEpoll
    by_cases watched : fd ∈ dev.epollEvent
    · refine ⟨dev.epoll.map (·.erase (.camera fd)), dev.epollEvent.erase fd, ?_, ?_⟩
      · rwa [Option.isSome_map]
      · simp only [if_pos watched]
    · refine ⟨dev.epoll, dev.epollEvent, epoll, ?_⟩
      simp only [if_neg watched]
  obtain ⟨left, events, still, same⟩ := erased
  rw [same]
  split_ifs with zero
  · exact ⟨⟨count, ⟨loop, still⟩, zero⟩, inv.errors⟩
  · have errors : ErrorsUndone { dev with epoll := left, epollEvent := events } := inv.errors
    refine errors.returns count ⟨?_, iff_of_true still zero⟩ (fun failed => by cases failed)
    change dev.loop = if dev.streamNumber = 0 then none else some true
    rw [loop, if_neg zero, decide_eq_true zero]

theorem Inv.close (inv : dev.Inv) (next : dev.call = .closing) : dev.close.Inv := by
  obtain ⟨count, _, zero⟩ := inv.at next
  have errors : ErrorsUndone { dev with epoll := none, streamThread := none } := inv.errors
  refine errors.returns count ⟨?_, ?_⟩ (fun failed => by cases failed)
  · exact (if_pos zero).symm
  · exact iff_of_false Bool.false_ne_true (not_not.mpr zero)

theorem Inv.advance (inv : dev.Inv) {outcome : Outcome} (fits : dev.StreamFits (.advance outcome)) :
    (dev.advance outcome).Inv := by
  unfold StreamFits at fits
  unfold StreamDev.advance
  cases next : dev.call with
  | idle => exact inv
  | streamingOn fd => rw [next] at fits; exact inv.v4l2StreamOn next fits
  | creatingEpoll fd => rw [next] at fits; exact inv.createEpoll next fits
  | startingThread fd => rw [next] at fits; exact inv.startThread next fits
  | raising fd => exact inv.raise next
  | lowering cameraID => exact inv.lower next
  | joining cameraID => exact inv.join next
  | locating cameraID => exact inv.locate next
  | streamingOff fd => rw [next] at fits; exact inv.v4l2StreamOff next fits
  | erasing fd => exact inv.eraseEpoll next
  | closing => exact inv.close next

theorem Inv.step (inv : dev.Inv) (act : StreamAct) (fits : dev.StreamFits act) :
    (dev.step act).Inv := by
  unfold StreamDev.step
  cases act with
  | startStream cameraID =>
    dsimp only
    split_ifs with idle
    · exact inv.startStream idle cameraID
    · exact inv
  | stopStream cameraID =>
    dsimp only
    split_ifs with idle
    · exact inv.stopStream idle fits
    · exact inv
  | advance outcome => exact inv.advance fits
  | check => exact inv.check fits
  | wake frame => exact inv.wake fits

theorem Inv.lifeCycle (inv : dev.Inv) : dev.LifeCycle := by
  refine ⟨?_, ?_, ?_, inv.errors⟩
  · intro idle
    obtain ⟨count, following, epoll⟩ := inv.at idle
    have positive : dev.streamNumber ≠ 0 ↔ 0 < dev.on.card := by
      rw [← count, Nat.pos_iff_ne_zero, not_iff_not]
      exact UInt32.toNat_inj.symm
    refine ⟨count, ?_, epoll.trans positive⟩
    rw [running, beq_iff_eq, following, ← positive]
    split_ifs with zero
    · simp [zero]
    · simp [zero]
  · intro exited
    have loop : dev.loop = some false := by rw [StreamDev.loop, exited]; rfl
    by_contra more
    have progress := inv.progress
    cases next : dev.call <;> rw [next] at progress <;>
      simp [Progress, Reading, Following, Joined, loop, more] at progress
  · intro raises
    cases next : dev.call with
    | raising fd =>
      obtain ⟨_, _, runs, _⟩ := inv.at next
      rw [running, runs]
      rfl
    | _ => rw [next] at raises; cases raises

theorem Inv.init (fdMatch : String → Option Fd) (myBuffers : Bool) :
    Inv { fdMatch := fdMatch, myBuffers := myBuffers } := by
  refine ⟨⟨rfl, rfl, iff_of_false Bool.false_ne_true (not_not.mpr rfl)⟩, ?_⟩
  intro call absent
  cases absent

theorem life_cycle_along_fits (fdMatch : String → Option Fd) (myBuffers : Bool)
    (acts : List StreamAct)
    (fits : Along StreamDev.step StreamFits { fdMatch := fdMatch, myBuffers := myBuffers } acts) :
    (run StreamDev.step { fdMatch := fdMatch, myBuffers := myBuffers } acts).LifeCycle :=
  (run_invariant StreamDev.step StreamFits StreamDev.Inv (fun _ act inv => inv.step act) _
    (Inv.init fdMatch myBuffers) acts fits).lifeCycle

theorem life_cycle_one_camera :
    (run StreamDev.step { fdMatch := fun _ => some 5, myBuffers := true }
      [.startStream "video0", .advance {}, .advance {}, .advance {}, .advance {}, .check, .wake true,
        .stopStream "video0", .advance {}, .check, .advance {}, .advance {}, .advance {},
        .advance {}, .advance {}]).LifeCycle :=
  life_cycle_along_fits _ _ _ (by decide)

theorem life_cycle_not_after_early_check :
    ¬ ∀ (fdMatch : String → Option Fd) (myBuffers : Bool) (acts : List StreamAct),
      (run StreamDev.step { fdMatch := fdMatch, myBuffers := myBuffers } acts).LifeCycle := by
  intro lives
  have reader := (lives (fun _ => some 5) true
    [.startStream "video0", .advance {}, .advance {}, .advance {}, .check, .advance {}]).reader rfl
  exact absurd reader (by decide)

end StreamDev

end UnionpiTiger.Camera
