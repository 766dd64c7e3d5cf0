import UnionpiTiger.Audio.Coherence

set_option autoImplicit false

namespace UnionpiTiger.Audio

open Lib

inductive IfaceStream where
  | playback
  | capture
deriving DecidableEq, Repr

-- The interface with its two streams and the formatter of each, known by the name of the stream;
-- `mclk` is the enable count it holds on its master clock.
structure AxgTdmIface where
  tdm : Tdm IfaceStream IfaceStream := {}
  mclk : Int := 0

def mesonAxgTdmIfacePrepare (iface : AxgTdmIface) (stream : IfaceStream) : Int32 × AxgTdmIface :=
  let (ret, tdm) := axgTdmStreamReset iface.tdm stream
  (ret, { iface with tdm := tdm })

def mesonAxgTdmIfaceUnprepare (iface : AxgTdmIface) (stream : IfaceStream) : Int32 × AxgTdmIface :=
  (0, { iface with tdm := axgTdmStreamStop iface.tdm stream })

def tdmIfaceEnable (iface : AxgTdmIface) (enable : Bool) : Int32 × AxgTdmIface :=
  if enable then
    let (ret, tdm) := iface.tdm.call
    (ret, { tdm := tdm, mclk := if ret = 0 then iface.mclk + 1 else iface.mclk })
  else (0, { iface with mclk := iface.mclk - 1 })

def mesonAxgTdmIfaceStart (iface : AxgTdmIface) (stream : IfaceStream) : Int32 × AxgTdmIface :=
  let (ret, iface) := tdmIfaceEnable iface true
  if ret ≠ 0 then (ret, iface)
  else
    let (ret, tdm) := axgTdmFormatterPowerUp iface.tdm stream stream
    (ret, { iface with tdm := tdm })

def mesonAxgTdmIfaceStop (iface : AxgTdmIface) (stream : IfaceStream) : Int32 × AxgTdmIface :=
  let iface := { iface with tdm := axgTdmFormatterPowerDown iface.tdm stream }
  (0, (tdmIfaceEnable iface false).2)

inductive PcmIoctl where
  | renderStart
  | renderResume
  | renderStop
  | renderPause
  | captureStart
  | captureResume
  | captureStop
  | capturePause
  | other
deriving DecidableEq, Repr

def hdfFailure : Int32 := -1

def daiStart (iface : AxgTdmIface) (stream : IfaceStream) : Int32 × AxgTdmIface :=
  let (prepared, iface) := mesonAxgTdmIfacePrepare iface stream
  let (started, iface) := mesonAxgTdmIfaceStart iface stream
  (prepared ||| started, iface)

def daiStop (iface : AxgTdmIface) (stream : IfaceStream) : Int32 × AxgTdmIface :=
  let (unprepared, iface) := mesonAxgTdmIfaceUnprepare iface stream
  let (stopped, iface) := mesonAxgTdmIfaceStop iface stream
  (unprepared ||| stopped, iface)

def a311dDaiTrigger (iface : AxgTdmIface) : PcmIoctl → Int32 × AxgTdmIface
  | .renderStart | .renderResume => daiStart iface .playback
  | .renderStop | .renderPause => daiStop iface .playback
  | .captureStart | .captureResume => daiStart iface .capture
  | .captureStop | .capturePause => daiStop iface .capture
  | .other => (hdfFailure, iface)

structure Returned where
  ret : Int32
  before : Int
  after : Int
deriving DecidableEq, Repr

structure DaiRun where
  iface : AxgTdmIface := {}
  log : List Returned := []

def DaiRun.step (dai : DaiRun) : PcmIoctl × List Int32 → DaiRun
  | (cmd, outcomes) =>
    let (ret, iface) :=
      a311dDaiTrigger { dai.iface with tdm := { dai.iface.tdm with outcomes := outcomes } } cmd
    { iface := iface
      log := dai.log ++ [{ ret := ret, before := dai.iface.mclk, after := iface.mclk }] }

def AxgTdmIface.powered (iface : AxgTdmIface) (stream : IfaceStream) : Bool :=
  (iface.tdm.formatter stream).powerup

structure MclkCounted (dai : DaiRun) : Prop where
  count : dai.iface.mclk =
    ticks (dai.iface.powered .playback) + ticks (dai.iface.powered .capture)
  errors : ∀ returned ∈ dai.log, returned.ret ≠ 0 → returned.after = returned.before
  nonneg : ∀ returned ∈ dai.log, 0 ≤ returned.after

def leftAfter : Nat → List Int32 → List Int32
  | 0, outcomes => outcomes
  | _ + 1, [] => []
  | calls + 1, ret :: rest => if ret ≠ 0 then rest else leftAfter calls rest

def StartBalanced (dai : DaiRun) (stream : IfaceStream) (outcomes : List Int32) : Prop :=
  (if dai.iface.powered stream then leftAfter 5 outcomes else outcomes).headD 0 ≠ 0 ∨
    dai.iface.powered stream = false ∧ ∀ ret ∈ outcomes.take 9, ret = 0

def Balanced (dai : DaiRun) : PcmIoctl × List Int32 → Prop
  | (.renderStart, outcomes) | (.renderResume, outcomes) => StartBalanced dai .playback outcomes
  | (.captureStart, outcomes) | (.captureResume, outcomes) => StartBalanced dai .capture outcomes
  | (.renderStop, _) | (.renderPause, _) => dai.iface.powered .playback = true
  | (.captureStop, _) | (.capturePause, _) => dai.iface.powered .capture = true
  | (.other, _) => True

theorem leftAfter_success (first second : Nat) (outcomes : List Int32)
    (success : ∀ ret ∈ outcomes.take first, ret = 0) :
    leftAfter (first + second) outcomes = leftAfter second (outcomes.drop first) := by
  induction first generalizing outcomes with
  | zero => rw [Nat.zero_add, List.drop_zero]
  | succ first ih =>
    cases outcomes with
    | nil => cases second <;> simp [leftAfter]
    | cons ret rest =>
      have zero : ret = 0 := success ret (by simp)
      rw [Nat.succ_add, leftAfter, if_neg (fun failed => failed zero)]
      refine ih rest ?_
      intro later mem
      exact success later (by simp [mem])

theorem leftAfter_failure (first second : Nat) (outcomes : List Int32)
    (failure : ¬ ∀ ret ∈ outcomes.take first, ret = 0) :
    leftAfter (first + second) outcomes = leftAfter first outcomes := by
  induction first generalizing outcomes with
  | zero => exact absurd (fun ret mem => by simp at mem) failure
  | succ first ih =>
    cases outcomes with
    | nil => exact absurd (fun ret mem => by simp at mem) failure
    | cons ret rest =>
      rw [Nat.succ_add, leftAfter, leftAfter]
      split_ifs with failed
      · rfl
      · refine ih rest ?_
        intro success
        refine failure ?_
        intro other mem
        rw [List.take_succ_cons, List.mem_cons] at mem
        rcases mem with rfl | later
        · exact not_not.mp failed
        · exact success other later

section

variable {F T : Type} {tdm : Tdm F T}

structure Calls (calls : Nat) (tdm : Tdm F T) (result : Int32 × Tdm F T) : Prop where
  ret : result.1 = 0 ↔ ∀ ret ∈ tdm.outcomes.take calls, ret = 0
  left : result.2.outcomes = leftAfter calls tdm.outcomes

theorem Calls.call (tdm : Tdm F T) : Calls 1 tdm tdm.call := by
  cases left : tdm.outcomes with
  | nil =>
    have called : tdm.call = (0, tdm) := by rw [Tdm.call, left]
    rw [called]
    exact ⟨by simp [left], by simp [left, leftAfter]⟩
  | cons ret rest =>
    have called : tdm.call = (ret, { tdm with outcomes := rest }) := by rw [Tdm.call, left]
    rw [called]
    exact ⟨by simp [left], by simp [left, leftAfter]⟩

theorem Calls.done {next : Tdm F T} (same : next.outcomes = tdm.outcomes) :
    Calls 0 tdm (0, next) := by
  exact ⟨by simp, same⟩

theorem Calls.checked {first second : Nat} {result : Int32 × Tdm F T} {undo : Tdm F T → Tdm F T}
    {next : Tdm F T → Int32 × Tdm F T} (before : Calls first tdm result)
    (undone : ∀ tdm, (undo tdm).outcomes = tdm.outcomes)
    (after : Calls second result.2 (next result.2)) :
    Calls (second + first) tdm (Audio.checked result undo next) := by
  rw [Nat.add_comm second first]
  by_cases failed : result.1 = 0
  · have success := before.ret.mp failed
    have left : result.2.outcomes = tdm.outcomes.drop first := by
      rw [before.left]
      exact leftAfter_success first 0 _ success
    have went : Audio.checked result undo next = next result.2 := if_neg (fun bad => bad failed)
    rw [went]
    constructor
    · rw [after.ret, left, List.take_add]
      constructor
      · intro later ret mem
        rcases List.mem_append.mp mem with early | late
        · exact success ret early
        · exact later ret late
      · intro all ret mem
        exact all ret (List.mem_append_right _ mem)
    · rw [after.left, left, leftAfter_success first second _ success]
  · have stopped : Audio.checked result undo next = (result.1, undo result.2) := if_pos failed
    have failure := mt before.ret.mpr failed
    rw [stopped]
    constructor
    · refine ⟨fun success => absurd success failed, fun all => absurd ?_ failure⟩
      intro ret mem
      exact all ret (List.take_subset_take_left _ (Nat.le_add_right first second) mem)
    · rw [undone, before.left, leftAfter_failure first second _ failure]

@[simp] theorem Tdm.call_formatter (tdm : Tdm F T) : tdm.call.2.formatter = tdm.formatter := by
  obtain ⟨ret, outcomes, called⟩ := tdm.call_cases
  rw [called]

@[simp] theorem Tdm.call_stream (tdm : Tdm F T) : tdm.call.2.stream = tdm.stream := by
  obtain ⟨ret, outcomes, called⟩ := tdm.call_cases
  rw [called]

variable [DecidableEq F]

theorem Calls.enable (tdm : Tdm F T) (f : F) (clk : Clk) :
    Calls 1 tdm (clkPrepareEnable tdm f clk) := by
  unfold clkPrepareEnable
  exact (Calls.call tdm).checked (by intro; rfl) (Calls.done rfl)

theorem tdmFormatterEnable_calls (tdm : Tdm F T) (f : F)
    (off : (tdm.formatter f).enabled = false) : Calls 5 tdm (tdmFormatterEnable tdm f) := by
  rw [tdmFormatterEnable, if_neg (Bool.eq_false_iff.mp off)]
  refine (Calls.call _).checked (by intro; rfl) ?_
  refine (Calls.call _).checked (by intro; rfl) ?_
  refine (Calls.call _).checked (by intro; rfl) ?_
  refine (Calls.enable _ f .sclk).checked (by intro; rfl) ?_
  exact (Calls.enable _ f .lrclk).checked (by intro; rfl) (Calls.done rfl)

theorem clkPrepareEnable_keeps (tdm : Tdm F T) (f g : F) (clk : Clk) :
    (clkPrepareEnable tdm f clk).2.stream = tdm.stream ∧
    ((clkPrepareEnable tdm f clk).2.formatter g).enabled = (tdm.formatter g).enabled := by
  obtain ⟨outcomes, ⟨ret, failed, stopped⟩ | went⟩ :=
    checked_call_cases tdm id fun tdm => (0, tdm.count f clk 1)
  · rw [clkPrepareEnable, stopped]
    exact ⟨rfl, rfl⟩
  · rw [clkPrepareEnable, went]
    refine ⟨rfl, ?_⟩
    rw [Tdm.count, Tdm.setFormatter_apply]
    by_cases same : g = f
    · rw [if_pos same, same]
    · rw [if_neg same]

variable [DecidableEq T]

theorem tdmFormatterAttach_calls (tdm : Tdm F T) (f : F) (t : T)
    (dark : (tdm.formatter f).enabled = false) (ready : (tdm.stream t).ready = true) :
    Calls 5 tdm (tdmFormatterAttach tdm f t) := by
  rw [tdmFormatterAttach, if_pos ready]
  exact (tdmFormatterEnable_calls tdm f dark).checked (by intro; rfl) (Calls.done rfl)

theorem axgTdmFormatterPowerUp_calls (tdm : Tdm F T) (f : F) (t : T)
    (off : (tdm.formatter f).powerup = false) (dark : (tdm.formatter f).enabled = false)
    (ready : (tdm.stream t).ready = true) : Calls 8 tdm (axgTdmFormatterPowerUp tdm f t) := by
  obtain ⟨streams, enabled⟩ := clkPrepareEnable_keeps tdm f f .pclk
  rw [axgTdmFormatterPowerUp, if_neg (Bool.eq_false_iff.mp off)]
  refine (Calls.enable tdm f .pclk).checked (by intro; rfl) ?_
  refine (Calls.call _).checked (by intro; rfl) ?_
  refine (Calls.call _).checked (by intro; rfl) ?_
  have attach := tdmFormatterAttach_calls ((clkPrepareEnable tdm f .pclk).2.call.2.call.2.setFormatter
    f { (clkPrepareEnable tdm f .pclk).2.call.2.call.2.formatter f with stream := some t }) f t
    (by simpa using enabled.trans dark) (by simpa [streams] using ready)
  have start : Calls 5 (clkPrepareEnable tdm f .pclk).2.call.2.call.2 _ := ⟨attach.ret, attach.left⟩
  refine Calls.checked start ?_ (Calls.done ?_)
  · intro after
    rfl
  · rfl

def Kept (tdm next : Tdm F T) : Prop :=
  ∀ f, (next.formatter f).powerup = (tdm.formatter f).powerup ∧
    (next.formatter f).stream = (tdm.formatter f).stream

omit [DecidableEq T] in
theorem disableAll_keeps (list : List F) (tdm : Tdm F T) :
    Kept tdm (list.foldl tdmFormatterDisable tdm) ∧
    (list.foldl tdmFormatterDisable tdm).stream = tdm.stream ∧
    (list.foldl tdmFormatterDisable tdm).outcomes = tdm.outcomes := by
  induction list generalizing tdm with
  | nil => exact ⟨fun _ => ⟨rfl, rfl⟩, rfl, rfl⟩
  | cons f rest ih =>
    obtain ⟨kept, streams, left⟩ := ih (tdmFormatterDisable tdm f)
    have here : (tdmFormatterDisable tdm f).outcomes = tdm.outcomes := by
      rw [tdmFormatterDisable_set]
      rfl
    refine ⟨?_, streams.trans (disable_stream tdm f), left.trans here⟩
    intro g
    obtain ⟨powered, home, _⟩ := disable_formatter tdm f g
    exact ⟨(kept g).1.trans powered, (kept g).2.trans home⟩

omit [DecidableEq T] in
theorem startFormatters_keeps (list : List F) (tdm : Tdm F T) :
    Kept tdm (startFormatters tdm list).2 := by
  induction list generalizing tdm with
  | nil => exact fun _ => ⟨rfl, rfl⟩
  | cons f rest ih =>
    have step := tdmFormatterEnable_enables tdm f
    rw [startFormatters]
    cases out : tdmFormatterEnable tdm f with
    | mk ret next =>
      rw [out] at step
      obtain ⟨_, powers, homes, _⟩ := step.keeps
      by_cases failed : ret = 0
      · rw [failed, checked_zero]
        intro g
        exact ⟨(ih next g).1.trans (powers g), (ih next g).2.trans (homes g)⟩
      · rw [checked_failed failed]
        exact fun g => ⟨powers g, homes g⟩

end

structure Homed (tdm : Tdm IfaceStream IfaceStream) : Prop extends Coherent tdm where
  home : ∀ stream, (tdm.formatter stream).powerup = true →
    (tdm.formatter stream).stream = some stream

variable {tdm : Tdm IfaceStream IfaceStream}

theorem Homed.of_kept (inv : Homed tdm) {next : Tdm IfaceStream IfaceStream}
    (coherent : Coherent next) (kept : Kept tdm next) : Homed next := by
  refine { coherent with home := ?_ }
  intro stream powered
  rw [(kept stream).1] at powered
  rw [(kept stream).2]
  exact inv.home stream powered

theorem Homed.list (inv : Homed tdm) (stream : IfaceStream) :
    (tdm.stream stream).formatterList =
      if (tdm.formatter stream).powerup then [stream] else [] := by
  have only : ∀ f ∈ (tdm.stream stream).formatterList, f = stream := by
    intro f mem
    obtain ⟨powered, there⟩ := (inv.mem_iff f stream).mp mem
    rw [inv.home f powered] at there
    exact Option.some.inj there
  have all := List.eq_replicate_of_mem only
  have listed := inv.listed stream stream
  rw [all, List.count_replicate_self] at listed
  rw [all]
  split_ifs with powered
  · rw [if_pos ⟨powered, inv.home stream powered⟩] at listed
    rw [listed, List.replicate_one]
  · rw [if_neg fun both => powered both.1] at listed
    rw [listed, List.replicate_zero]

theorem axgTdmStreamStop_keeps (tdm : Tdm IfaceStream IfaceStream) (stream : IfaceStream) :
    Kept tdm (axgTdmStreamStop tdm stream) ∧
    (axgTdmStreamStop tdm stream).outcomes = tdm.outcomes := by
  obtain ⟨kept, _, left⟩ := disableAll_keeps (tdm.stream stream).formatterList
    (tdm.setStream stream { tdm.stream stream with ready := false })
  rw [axgTdmStreamStop, tdm.setReady_list stream stream false]
  exact ⟨kept, left⟩

theorem Homed.streamStop (inv : Homed tdm) (stream : IfaceStream) :
    Homed (axgTdmStreamStop tdm stream) :=
  inv.of_kept (inv.toCoherent.streamStop stream) (axgTdmStreamStop_keeps tdm stream).1

theorem Coherent.stopped (inv : Coherent tdm) (stream : IfaceStream) :
    ((tdm.stream stream).ready = false) → (tdm.formatter stream).stream = some stream →
      (tdm.formatter stream).enabled = false := by
  intro down home
  cases on : (tdm.formatter stream).enabled with
  | false => rfl
  | true =>
    have ready := (inv.running stream on).2 stream home
    rw [down] at ready
    cases ready

theorem axgTdmStreamStop_ready (tdm : Tdm IfaceStream IfaceStream) (stream : IfaceStream) :
    ((axgTdmStreamStop tdm stream).stream stream).ready = false := by
  obtain ⟨_, streams, _⟩ := disableAll_keeps (tdm.stream stream).formatterList
    (tdm.setStream stream { tdm.stream stream with ready := false })
  rw [axgTdmStreamStop, tdm.setReady_list stream stream false, streams, Tdm.setStream_apply,
    if_pos rfl]

structure Resets (tdm : Tdm IfaceStream IfaceStream) (stream : IfaceStream)
    (result : Int32 × Tdm IfaceStream IfaceStream) : Prop where
  homed : Homed result.2
  kept : Kept tdm result.2
  ready : (result.2.stream stream).ready = true
  ret : (tdm.formatter stream).powerup = false → result.1 = 0
  left : result.2.outcomes =
    if (tdm.formatter stream).powerup then leftAfter 5 tdm.outcomes else tdm.outcomes

theorem Homed.streamReset (inv : Homed tdm) (stream : IfaceStream) :
    Resets tdm stream (axgTdmStreamReset tdm stream) := by
  obtain ⟨stopKept, stopLeft⟩ := axgTdmStreamStop_keeps tdm stream
  have stopped := inv.streamStop stream
  have starts := stopped.toCoherent.streamStart stream
  have down := axgTdmStreamStop_ready tdm stream
  have list := stopped.list stream
  have result : axgTdmStreamReset tdm stream =
      startFormatters ((axgTdmStreamStop tdm stream).setStream stream
        { (axgTdmStreamStop tdm stream).stream stream with ready := true })
      (if (tdm.formatter stream).powerup then [stream] else []) := by
    rw [axgTdmStreamReset, axgTdmStreamStart, Tdm.setReady_list, list, (stopKept stream).1]
  have startKept : Kept (axgTdmStreamStop tdm stream) (axgTdmStreamReset tdm stream).2 := by
    rw [result]
    exact startFormatters_keeps _ _
  have kept : Kept tdm (axgTdmStreamReset tdm stream).2 := by
    intro f
    exact ⟨(startKept f).1.trans (stopKept f).1, (startKept f).2.trans (stopKept f).2⟩
  refine ⟨inv.of_kept starts.coherent kept, kept, ?_, ?_, ?_⟩
  · rw [axgTdmStreamReset, starts.stream, Tdm.setStream_apply, if_pos rfl]
  · intro off
    rw [result, if_neg (Bool.eq_false_iff.mp off)]
    rfl
  · rw [result]
    by_cases powered : (tdm.formatter stream).powerup = true
    · have home : ((axgTdmStreamStop tdm stream).formatter stream).stream = some stream := by
        rw [(stopKept stream).2]
        exact inv.home stream powered
      have dark := stopped.toCoherent.stopped stream down home
      rw [if_pos powered, if_pos powered, ← stopLeft]
      have enable := tdmFormatterEnable_calls ((axgTdmStreamStop tdm stream).setStream stream
        { (axgTdmStreamStop tdm stream).stream stream with ready := true }) stream dark
      have whole := @Calls.checked _ _ _ 5 0 _ id (startFormatters · []) enable (fun _ => rfl)
        (Calls.done rfl)
      exact whole.left
    · rw [if_neg powered, if_neg powered]
      exact stopLeft

theorem Homed.powersUp (inv : Homed tdm) {stream : IfaceStream} {ret : Int32}
    {next : Tdm IfaceStream IfaceStream} (powersUp : PowersUp tdm stream stream ret next) :
    Homed next := by
  refine { inv.toCoherent.powersUp powersUp with home := ?_ }
  cases powersUp with
  | already on => exact inv.home
  | fails off ret failed outcomes pointer =>
    intro other on
    rw [Tdm.setFormatter_apply] at on ⊢
    split_ifs at on ⊢ with same
    · rw [off] at on
      cases on
    · exact inv.home other on
  | powersUp off outcomes =>
    intro other on
    rw [Tdm.setFormatter_apply] at on ⊢
    split_ifs at on ⊢ with same
    · rw [same]
      rfl
    · exact inv.home other on

-- The outcome of the clk_prepare_enable of the master clock in a start of `stream`.
def mclkOutcome (iface : AxgTdmIface) (stream : IfaceStream) (outcomes : List Int32) : Int32 :=
  (if iface.powered stream then leftAfter 5 outcomes else outcomes).headD 0

inductive DaiStarts (iface : AxgTdmIface) (stream : IfaceStream) (next : AxgTdmIface) :
    Int32 → Prop where
  | fails (ret : Int32) (failed : mclkOutcome iface stream iface.tdm.outcomes ≠ 0)
      (count : next.mclk = iface.mclk) (same : next.powered stream = iface.powered stream) :
      DaiStarts iface stream next ret
  | again (ret : Int32) (enabled : mclkOutcome iface stream iface.tdm.outcomes = 0)
      (powered : iface.powered stream = true) (count : next.mclk = iface.mclk + 1)
      (same : next.powered stream = true) : DaiStarts iface stream next ret
  | leaks (ret : Int32) (enabled : mclkOutcome iface stream iface.tdm.outcomes = 0)
      (failed : ¬ ∀ ret ∈ iface.tdm.outcomes.take 9, ret = 0) (off : iface.powered stream = false)
      (count : next.mclk = iface.mclk + 1) (down : next.powered stream = false) :
      DaiStarts iface stream next ret
  | starts (all : ∀ ret ∈ iface.tdm.outcomes.take 9, ret = 0) (off : iface.powered stream = false)
      (count : next.mclk = iface.mclk + 1) (up : next.powered stream = true) :
      DaiStarts iface stream next 0

theorem Tdm.call_ret (tdm : Tdm IfaceStream IfaceStream) : tdm.call.1 = tdm.outcomes.headD 0 := by
  unfold Tdm.call
  split
  next left => rw [left]; rfl
  next left => rw [left]; rfl

theorem PowersUp.others {stream : IfaceStream} {ret : Int32} {next : Tdm IfaceStream IfaceStream}
    (powersUp : PowersUp tdm stream stream ret next) {other : IfaceStream} (ne : other ≠ stream) :
    (next.formatter other).powerup = (tdm.formatter other).powerup := by
  cases powersUp with
  | already on => rfl
  | fails off ret failed outcomes pointer => rw [Tdm.setFormatter_apply, if_neg ne]
  | powersUp off outcomes =>
    rw [Tdm.setFormatter_apply, if_neg ne]
    rfl

theorem PowersUp.powered {stream : IfaceStream} {ret : Int32} {next : Tdm IfaceStream IfaceStream}
    (powersUp : PowersUp tdm stream stream ret next) :
    (next.formatter stream).powerup = true ↔ ret = 0 := by
  cases powersUp with
  | already on => exact ⟨fun _ => rfl, fun _ => on⟩
  | fails off ret failed outcomes pointer =>
    rw [Tdm.setFormatter_formatter]
    exact ⟨fun on => absurd (off.symm.trans on) Bool.false_ne_true, fun zero => absurd zero failed⟩
  | powersUp off outcomes =>
    rw [Tdm.setFormatter_formatter]
    exact ⟨fun _ => rfl, fun _ => rfl⟩

theorem mesonAxgTdmIfaceStart_failed (iface : AxgTdmIface) (stream : IfaceStream)
    (failed : iface.tdm.call.1 ≠ 0) : mesonAxgTdmIfaceStart iface stream =
      (iface.tdm.call.1, { iface with tdm := iface.tdm.call.2 }) := by
  simp [mesonAxgTdmIfaceStart, tdmIfaceEnable, failed]

theorem mesonAxgTdmIfaceStart_enabled (iface : AxgTdmIface) (stream : IfaceStream)
    (enabled : iface.tdm.call.1 = 0) : mesonAxgTdmIfaceStart iface stream =
      ((axgTdmFormatterPowerUp iface.tdm.call.2 stream stream).1,
        { tdm := (axgTdmFormatterPowerUp iface.tdm.call.2 stream stream).2
          mclk := iface.mclk + 1 }) := by
  simp [mesonAxgTdmIfaceStart, tdmIfaceEnable, enabled]

theorem Homed.call (inv : Homed tdm) : Homed tdm.call.2 := by
  obtain ⟨ret, outcomes, called⟩ := tdm.call_cases
  rw [called]
  exact inv.of_kept (inv.toCoherent.withOutcomes outcomes) fun _ => ⟨rfl, rfl⟩

theorem start_success (iface : AxgTdmIface) (inv : Homed iface.tdm) (stream : IfaceStream)
    (off : iface.powered stream = false) (ready : (iface.tdm.stream stream).ready = true)
    (enabled : iface.tdm.call.1 = 0) :
    (axgTdmFormatterPowerUp iface.tdm.call.2 stream stream).1 = 0 ↔
      ∀ ret ∈ iface.tdm.outcomes.take 9, ret = 0 := by
  have off' : (iface.tdm.call.2.formatter stream).powerup = false := by
    rw [Tdm.call_formatter]
    exact off
  have dark := inv.call.toCoherent.dark stream off'
  have ready' : (iface.tdm.call.2.stream stream).ready = true := by
    rw [Tdm.call_stream]
    exact ready
  have calls := axgTdmFormatterPowerUp_calls iface.tdm.call.2 stream stream off' dark ready'
  have whole : Calls 9 iface.tdm (checked iface.tdm.call (fun tdm => tdm)
      fun tdm => axgTdmFormatterPowerUp tdm stream stream) :=
    (Calls.call iface.tdm).checked (fun _ => rfl) calls
  have went : checked iface.tdm.call (fun tdm => tdm)
      (fun tdm => axgTdmFormatterPowerUp tdm stream stream) =
      axgTdmFormatterPowerUp iface.tdm.call.2 stream stream := if_neg fun failed => failed enabled
  rw [← whole.ret, went]

theorem daiStart_starts (iface : AxgTdmIface) (inv : Homed iface.tdm) (stream : IfaceStream) :
    Homed (daiStart iface stream).2.tdm ∧
    (∀ other, other ≠ stream → (daiStart iface stream).2.powered other = iface.powered other) ∧
    DaiStarts iface stream (daiStart iface stream).2 (daiStart iface stream).1 := by
  have reset := inv.streamReset stream
  cases prepared : axgTdmStreamReset iface.tdm stream with
  | mk ready tdm =>
    rw [prepared] at reset
    have homed := reset.homed.call
    have kept : ∀ other, (tdm.formatter other).powerup = iface.powered other :=
      fun other => (reset.kept other).1
    have outcome : tdm.call.1 = mclkOutcome iface stream iface.tdm.outcomes := by
      rw [Tdm.call_ret, reset.left]
      rfl
    have whole : daiStart iface stream =
        (ready ||| (mesonAxgTdmIfaceStart { iface with tdm := tdm } stream).1,
          (mesonAxgTdmIfaceStart { iface with tdm := tdm } stream).2) := by
      rw [daiStart, mesonAxgTdmIfacePrepare, prepared]
    rw [whole]
    by_cases enabled : tdm.call.1 = 0
    · rw [mesonAxgTdmIfaceStart_enabled _ stream enabled]
      have powersUp := axgTdmFormatterPowerUp_powersUp tdm.call.2 stream stream
        (homed.toCoherent.dark stream)
      have success := powersUp.powered
      refine ⟨homed.powersUp powersUp, ?_, ?_⟩
      · intro other ne
        have others := powersUp.others ne
        rw [Tdm.call_formatter] at others
        exact others.trans (kept other)
      · by_cases powered : iface.powered stream = true
        · refine .again _ (outcome.symm.trans enabled) powered rfl (success.mpr ?_)
          have already : (tdm.call.2.formatter stream).powerup = true := by
            rw [Tdm.call_formatter]
            exact (kept stream).trans powered
          rw [axgTdmFormatterPowerUp, if_pos already]
        · have off := Bool.eq_false_iff.mpr powered
          have same : tdm.outcomes = iface.tdm.outcomes := by
            rw [reset.left]
            exact if_neg powered
          have started := start_success { iface with tdm := tdm } reset.homed stream
            ((kept stream).trans off) reset.ready enabled
          by_cases all : (axgTdmFormatterPowerUp tdm.call.2 stream stream).1 = 0
          · have quiet : ready = 0 := reset.ret off
            have zero : ready ||| (axgTdmFormatterPowerUp tdm.call.2 stream stream).1 = 0 := by
              rw [quiet, all]
              rfl
            rw [zero]
            refine .starts ?_ off rfl (success.mpr all)
            rw [← same]
            exact started.mp all
          · refine .leaks _ (outcome.symm.trans enabled) ?_ off rfl ?_
            · rw [← same]
              exact mt started.mpr all
            · exact Bool.eq_false_iff.mpr (mt success.mp all)
    · rw [mesonAxgTdmIfaceStart_failed _ stream enabled]
      refine ⟨homed, ?_, .fails _ (outcome ▸ enabled) rfl ?_⟩
      · intro other _
        change (tdm.call.2.formatter other).powerup = iface.powered other
        rw [Tdm.call_formatter]
        exact kept other
      · change (tdm.call.2.formatter stream).powerup = iface.powered stream
        rw [Tdm.call_formatter]
        exact kept stream

theorem Homed.powerDown_formatter (inv : Homed tdm) (stream other : IfaceStream) :
    (axgTdmFormatterPowerDown tdm stream).formatter other =
      if other = stream ∧ (tdm.formatter stream).powerup = true then
        (tdm.formatter stream).poweredDown
      else tdm.formatter other := by
  by_cases on : (tdm.formatter stream).powerup = true
  · rw [axgTdmFormatterPowerDown_eq tdm stream stream on (inv.home stream on),
      Tdm.setFormatter_apply]
    by_cases same : other = stream
    · rw [if_pos same, if_pos ⟨same, on⟩]
    · rw [if_neg same, if_neg fun both => same both.1]
      rfl
  · rw [axgTdmFormatterPowerDown, Bool.eq_false_iff.mpr on]
    simp

theorem Homed.powerDown (inv : Homed tdm) (stream : IfaceStream) :
    Homed (axgTdmFormatterPowerDown tdm stream) := by
  refine { inv.toCoherent.powerDown stream with home := ?_ }
  intro other
  rw [inv.powerDown_formatter]
  split_ifs with down
  · intro on
    cases on
  · exact inv.home other

theorem daiStop_stops (iface : AxgTdmIface) (inv : Homed iface.tdm) (stream : IfaceStream) :
    Homed (daiStop iface stream).2.tdm ∧ (daiStop iface stream).1 = 0 ∧
    (daiStop iface stream).2.mclk = iface.mclk - 1 ∧
    (daiStop iface stream).2.powered stream = false ∧
    ∀ other, other ≠ stream → (daiStop iface stream).2.powered other = iface.powered other := by
  have stopped := inv.streamStop stream
  obtain ⟨kept, _⟩ := axgTdmStreamStop_keeps iface.tdm stream
  refine ⟨stopped.powerDown stream, rfl, rfl, ?_, ?_⟩
  · change ((axgTdmFormatterPowerDown (axgTdmStreamStop iface.tdm stream) stream).formatter
      stream).powerup = false
    rw [stopped.powerDown_formatter]
    split_ifs with on
    · rfl
    · exact Bool.eq_false_iff.mpr fun powered => on ⟨rfl, powered⟩
  · intro other ne
    change ((axgTdmFormatterPowerDown (axgTdmStreamStop iface.tdm stream) stream).formatter
      other).powerup = iface.powered other
    rw [stopped.powerDown_formatter, if_neg fun both => ne both.1]
    exact (kept other).1

def AxgTdmIface.poweredStreams (iface : AxgTdmIface) : Int :=
  ticks (iface.powered .playback) + ticks (iface.powered .capture)

theorem AxgTdmIface.poweredStreams_change {iface next : AxgTdmIface} {stream : IfaceStream}
    (others : ∀ other, other ≠ stream → next.powered other = iface.powered other) :
    next.poweredStreams =
      iface.poweredStreams - ticks (iface.powered stream) + ticks (next.powered stream) := by
  unfold AxgTdmIface.poweredStreams
  cases stream with
  | playback =>
    rw [others .capture (by decide)]
    omega
  | capture =>
    rw [others .playback (by decide)]
    omega

theorem AxgTdmIface.poweredStreams_nonneg (iface : AxgTdmIface) : 0 ≤ iface.poweredStreams := by
  unfold AxgTdmIface.poweredStreams ticks
  split_ifs <;> omega

theorem MclkCounted.step_iff {dai : DaiRun} (counted : MclkCounted dai) (ret : Int32)
    (iface : AxgTdmIface) :
    MclkCounted { iface := iface, log := dai.log ++
        [{ ret := ret, before := dai.iface.mclk, after := iface.mclk }] } ↔
      iface.mclk = iface.poweredStreams ∧ (ret ≠ 0 → iface.mclk = dai.iface.mclk) := by
  constructor
  · intro next
    refine ⟨next.count, ?_⟩
    exact next.errors { ret := ret, before := dai.iface.mclk, after := iface.mclk } (by simp)
  · rintro ⟨count, errors⟩
    refine ⟨count, ?_, ?_⟩
    · intro returned mem failed
      rcases List.mem_append.mp mem with early | new
      · exact counted.errors returned early failed
      · rw [List.mem_singleton.mp new] at failed ⊢
        exact errors failed
    · intro returned mem
      rcases List.mem_append.mp mem with early | new
      · exact counted.nonneg returned early
      · rw [List.mem_singleton.mp new]
        change 0 ≤ iface.mclk
        rw [count]
        exact iface.poweredStreams_nonneg

structure Inv (dai : DaiRun) : Prop extends MclkCounted dai where
  homed : Homed dai.iface.tdm

variable {dai : DaiRun}

def DaiRun.record (dai : DaiRun) (result : Int32 × AxgTdmIface) : DaiRun :=
  { iface := result.2
    log := dai.log ++
      [{ ret := result.1, before := dai.iface.mclk, after := result.2.mclk }] }

theorem Inv.record_iff (inv : Inv dai) (result : Int32 × AxgTdmIface)
    (homed : Homed result.2.tdm) :
    Inv (dai.record result) ↔ result.2.mclk = result.2.poweredStreams ∧
      (result.1 ≠ 0 → result.2.mclk = dai.iface.mclk) := by
  rw [← inv.toMclkCounted.step_iff]
  exact ⟨fun both => both.toMclkCounted, fun counted => { counted with homed := homed }⟩

theorem startBalanced_exact (inv : Inv dai) (stream : IfaceStream) (outcomes : List Int32) :
    StartBalanced dai stream outcomes ↔ Inv (dai.record (daiStart
      { dai.iface with tdm := { dai.iface.tdm with outcomes := outcomes } } stream)) := by
  have homed : Homed { dai.iface.tdm with outcomes := outcomes } := { inv.homed with }
  obtain ⟨next, others, starts⟩ := daiStart_starts
    { dai.iface with tdm := { dai.iface.tdm with outcomes := outcomes } } homed stream
  rw [inv.record_iff _ next]
  generalize daiStart _ stream = result at others starts
  obtain ⟨ret, iface⟩ := result
  have change : iface.poweredStreams = dai.iface.poweredStreams -
      ticks (dai.iface.powered stream) + ticks (iface.powered stream) :=
    AxgTdmIface.poweredStreams_change others
  have before : dai.iface.mclk = dai.iface.poweredStreams := inv.count
  change StartBalanced dai stream outcomes ↔
    iface.mclk = iface.poweredStreams ∧ (ret ≠ 0 → iface.mclk = dai.iface.mclk)
  cases starts with
  | fails _ failed count same =>
    change iface.mclk = dai.iface.mclk at count
    change iface.powered stream = dai.iface.powered stream at same
    refine ⟨fun _ => ⟨?_, fun _ => count⟩, fun _ => Or.inl failed⟩
    rw [same] at change
    omega
  | again _ enabled powered count same =>
    change dai.iface.powered stream = true at powered
    change iface.mclk = dai.iface.mclk + 1 at count
    change iface.powered stream = true at same
    rw [powered, same] at change
    constructor
    · rintro (failed | ⟨off, _⟩)
      · exact absurd enabled failed
      · exact absurd (off.symm.trans powered) Bool.false_ne_true
    · rintro ⟨counted, _⟩
      omega
  | leaks _ enabled failed off count down =>
    change dai.iface.powered stream = false at off
    change iface.mclk = dai.iface.mclk + 1 at count
    change iface.powered stream = false at down
    rw [off, down] at change
    constructor
    · rintro (outcome | ⟨_, all⟩)
      · exact absurd enabled outcome
      · exact absurd all failed
    · rintro ⟨counted, _⟩
      omega
  | starts all off count up =>
    change dai.iface.powered stream = false at off
    change iface.mclk = dai.iface.mclk + 1 at count
    change iface.powered stream = true at up
    rw [off, up] at change
    simp only [ticks, Bool.false_eq_true, if_false, if_true] at change
    refine ⟨fun _ => ⟨?_, fun failed => absurd rfl failed⟩, fun _ => Or.inr ⟨off, all⟩⟩
    omega

theorem stopBalanced_exact (inv : Inv dai) (stream : IfaceStream) (outcomes : List Int32) :
    dai.iface.powered stream = true ↔ Inv (dai.record (daiStop
      { dai.iface with tdm := { dai.iface.tdm with outcomes := outcomes } } stream)) := by
  have homed : Homed { dai.iface.tdm with outcomes := outcomes } := { inv.homed with }
  obtain ⟨next, ret, count, down, others⟩ := daiStop_stops
    { dai.iface with tdm := { dai.iface.tdm with outcomes := outcomes } } homed stream
  rw [inv.record_iff _ next, ret, count]
  have change := AxgTdmIface.poweredStreams_change others
  rw [down] at change
  have same : AxgTdmIface.poweredStreams
      { dai.iface with tdm := { dai.iface.tdm with outcomes := outcomes } } =
      dai.iface.poweredStreams := rfl
  have before : dai.iface.mclk = dai.iface.poweredStreams := inv.count
  have powered : AxgTdmIface.powered
      { dai.iface with tdm := { dai.iface.tdm with outcomes := outcomes } } stream =
      dai.iface.powered stream := rfl
  rw [same, powered] at change
  rw [change]
  cases dai.iface.powered stream with
  | true => simp [ticks, before]
  | false =>
    simp only [ticks, before, Bool.false_eq_true, if_false, false_iff]
    rintro ⟨counted, _⟩
    omega

theorem balanced_exact (cmd : PcmIoctl × List Int32) (inv : Inv dai) :
    Balanced dai cmd ↔ Inv (dai.step cmd) := by
  obtain ⟨cmd, outcomes⟩ := cmd
  cases cmd with
  | renderStart => exact startBalanced_exact inv .playback outcomes
  | renderResume => exact startBalanced_exact inv .playback outcomes
  | renderStop => exact stopBalanced_exact inv .playback outcomes
  | renderPause => exact stopBalanced_exact inv .playback outcomes
  | captureStart => exact startBalanced_exact inv .capture outcomes
  | captureResume => exact startBalanced_exact inv .capture outcomes
  | captureStop => exact stopBalanced_exact inv .capture outcomes
  | capturePause => exact stopBalanced_exact inv .capture outcomes
  | other =>
    have homed : Homed { dai.iface.tdm with outcomes := outcomes } := { inv.homed with }
    have recorded := inv.record_iff
      (hdfFailure, { dai.iface with tdm := { dai.iface.tdm with outcomes := outcomes } }) homed
    exact ⟨fun _ => recorded.mpr ⟨inv.count, fun _ => rfl⟩, fun _ => trivial⟩

theorem Homed.step (cmd : PcmIoctl × List Int32) (inv : Homed dai.iface.tdm) :
    Homed (dai.step cmd).iface.tdm := by
  obtain ⟨cmd, outcomes⟩ := cmd
  have homed : Homed { dai.iface.tdm with outcomes := outcomes } := { inv with }
  have start := fun stream => (daiStart_starts
    { dai.iface with tdm := { dai.iface.tdm with outcomes := outcomes } } homed stream).1
  have stop := fun stream => (daiStop_stops
    { dai.iface with tdm := { dai.iface.tdm with outcomes := outcomes } } homed stream).1
  cases cmd with
  | renderStart => exact start .playback
  | renderResume => exact start .playback
  | renderStop => exact stop .playback
  | renderPause => exact stop .playback
  | captureStart => exact start .capture
  | captureResume => exact start .capture
  | captureStop => exact stop .capture
  | capturePause => exact stop .capture
  | other => exact homed

theorem Inv.init : Inv {} := by
  refine ⟨⟨rfl, ?_, ?_⟩, ⟨Coherent.init, ?_⟩⟩
  all_goals
    intro _ absent
    cases absent

theorem mclk_counted_iff_balanced (cmds : List (PcmIoctl × List Int32)) :
    (∀ first, first <+: cmds → MclkCounted (run DaiRun.step {} first)) ↔
      Along DaiRun.step Balanced {} cmds := by
  symm
  refine along_iff_always DaiRun.step Balanced Inv MclkCounted (fun _ inv => inv.toMclkCounted)
    (fun _ cmd inv => (balanced_exact cmd inv).mp) ?_ {} Inv.init cmds
  intro dai cmd inv counted
  exact (balanced_exact cmd inv).mpr { counted with homed := inv.homed.step cmd }

theorem mclk_counted_not_after_second_start : ¬ ∀ cmds : List (PcmIoctl × List Int32),
    MclkCounted (run DaiRun.step {} cmds) := by
  intro counted
  have twice := (counted [(.renderStart, []), (.renderStart, [])]).count
  revert twice
  decide

end UnionpiTiger.Audio
