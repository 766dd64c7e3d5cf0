import UnionpiTiger.Audio.Fifo

set_option autoImplicit false

namespace UnionpiTiger.Audio

open Lib

namespace AxgFifo

variable {fifo before middle after : AxgFifo}

-- Code that accesses registers and leaves the clock, the handler and `pcmOpened` alone.
structure Touches (before after : AxgFifo) : Prop where
  pclk : after.pclk = before.pclk
  irqs : after.irqs = before.irqs
  opened : after.pcmOpened = before.pcmOpened
  log : ∃ accesses, after.log = before.log ++ accesses ∧
    ∀ access ∈ accesses, access.pclk = before.pclk

theorem Touches.refl (fifo : AxgFifo) : Touches fifo fifo :=
  ⟨rfl, rfl, rfl, [], by simp, by simp⟩

theorem Touches.trans (first : Touches before middle) (second : Touches middle after) :
    Touches before after := by
  obtain ⟨early, left, within⟩ := first.log
  obtain ⟨late, right, later⟩ := second.log
  refine ⟨second.pclk.trans first.pclk, second.irqs.trans first.irqs,
    second.opened.trans first.opened, early ++ late, ?_, ?_⟩
  · rw [right, left, List.append_assoc]
  · intro access mem
    rcases List.mem_append.mp mem with mem | mem
    · exact within access mem
    · exact (later access mem).trans first.pclk

theorem access_touches (fifo : AxgFifo) (op : RegOp) : Touches fifo (fifo.access op) :=
  ⟨rfl, rfl, rfl, [{ op := op, pclk := fifo.pclk }], rfl, by simp⟩

theorem Touches.access (touches : Touches before after) (op : RegOp) :
    Touches before (after.access op) :=
  touches.trans (access_touches after op)

theorem Touches.either {P : Prop} [Decidable P] {other : AxgFifo} (yes : Touches before after)
    (no : Touches before other) : Touches before (if P then after else other) := by
  split_ifs
  · exact yes
  · exact no

theorem pointerReset_touches (fifo : AxgFifo) (forceFinish : UInt32) :
    Touches fifo (fifo.pointerReset forceFinish) :=
  .either (.refl fifo) ((((Touches.refl fifo).access _).access _).access _)

theorem toddrDaiStartup_touches (fifo : AxgFifo) : Touches fifo fifo.toddrDaiStartup.2 := by
  have set := (((Touches.refl fifo).access (.updateBits .ctrl0 ctrl0ToddrSelResample 0)).access
    (.updateBits .ctrl0 ctrl0ToddrExtSigned ctrl0ToddrExtSigned)).access
    (.updateBits .ctrl0 ctrl0ToddrPpMode 0)
  exact .either (set.access _) set

theorem daiStartup_touches (fifo : AxgFifo) : Touches fifo fifo.daiStartup.2 := by
  unfold daiStartup
  split_ifs
  · exact ((Touches.refl fifo).access _).access _
  · exact toddrDaiStartup_touches fifo

theorem toddrDaiHwParams_touches (fifo : AxgFifo) (bitWidth physWidth : UInt32) :
    Touches fifo (fifo.toddrDaiHwParams bitWidth physWidth).2 := by
  unfold toddrDaiHwParams
  cases toddrType physWidth with
  | none => exact .refl fifo
  | some type => exact access_touches fifo _

theorem openRegisters_touches (fifo : AxgFifo) : Touches fifo fifo.openRegisters :=
  (((((Touches.refl fifo).access _).access _).access _).access _).access _

theorem hwParamsRegisters_touches (fifo : AxgFifo) (period cirBufSize : UInt32) :
    Touches fifo (fifo.hwParamsRegisters period cirBufSize) := by
  have set := fun start finish int threshold mask => (((((Touches.refl fifo).access
    (.write .startAddr start)).access (.write .finishAddr finish)).access
    (.write .intAddr int)).access (.writeThreshold threshold)).access (.updateBits .ctrl0 mask mask)
  exact .either ((set _ _ _ _ _).access _) (set _ _ _ _ _)

-- No register is accessed with the clock off; the clock runs once while the FIFO is open and not
-- at all otherwise.
structure Clocked (fifo : AxgFifo) : Prop where
  accesses : ∀ access ∈ fifo.log, 0 < access.pclk
  pclk : fifo.pclk = ticks fifo.pcmOpened

theorem Touches.accesses (touches : Touches before after) (running : 0 < before.pclk)
    (clocked : ∀ access ∈ before.log, 0 < access.pclk) :
    ∀ access ∈ after.log, 0 < access.pclk := by
  obtain ⟨accesses, log, within⟩ := touches.log
  rw [log]
  intro access mem
  rcases List.mem_append.mp mem with mem | mem
  · exact clocked access mem
  · rw [within access mem]
    exact running

theorem Clocked.running (clocked : Clocked fifo) (opened : fifo.pcmOpened = true) :
    0 < fifo.pclk := by
  rw [clocked.pclk, opened]
  decide

theorem Clocked.touches (clocked : Clocked before) (opened : before.pcmOpened = true)
    (touches : Touches before after) : Clocked after :=
  ⟨touches.accesses (clocked.running opened) clocked.accesses,
    by rw [touches.pclk, touches.opened, clocked.pclk]⟩

structure Guarded (before after : AxgFifo) : Prop extends Touches before after where
  closed : before.pcmOpened = false → after = before

theorem Clocked.guarded (clocked : Clocked before) (guarded : Guarded before after) :
    Clocked after := by
  cases opened : before.pcmOpened with
  | false =>
    rw [guarded.closed opened]
    exact clocked
  | true => exact clocked.touches opened guarded.toTouches

theorem Guarded.either {opened : AxgFifo} (touches : Touches before opened) :
    Guarded before (if !before.pcmOpened then before else opened) := by
  refine ⟨.either (.refl before) touches, ?_⟩
  intro closed
  rw [closed]
  rfl

theorem pcmPointer_guarded (fifo : AxgFifo) (addr : UInt32) :
    Guarded fifo (fifo.pcmPointer addr).2 := by
  rw [pcmPointer, apply_ite Prod.snd]
  exact .either (access_touches fifo _)

theorem pcmHwParams_guarded (fifo : AxgFifo) (period cirBufSize : UInt32) :
    Guarded fifo (fifo.pcmHwParams period cirBufSize).2 := by
  rw [pcmHwParams, apply_ite Prod.snd]
  refine .either ?_
  rw [apply_ite Prod.snd]
  exact .either (.refl fifo) { hwParamsRegisters_touches fifo period cirBufSize with }

theorem pcmPrepare_guarded (fifo : AxgFifo) : Guarded fifo fifo.pcmPrepare.2 := by
  rw [pcmPrepare, apply_ite Prod.snd]
  refine .either ?_
  rw [apply_ite Prod.snd]
  exact .either (pointerReset_touches fifo _) (pointerReset_touches fifo _)

theorem daiHwParams_guarded (fifo : AxgFifo) (bitWidth physWidth : UInt32) :
    Guarded fifo (fifo.daiHwParams bitWidth physWidth).2 := by
  rw [daiHwParams, apply_ite Prod.snd]
  refine .either ?_
  rw [apply_ite Prod.snd]
  exact .either (.refl fifo) (toddrDaiHwParams_touches fifo bitWidth physWidth)

theorem pcmEnable_guarded (fifo : AxgFifo) (enable : Bool) :
    Guarded fifo (fifo.pcmEnable enable).2 := by
  rw [pcmEnable, apply_ite Prod.snd]
  exact .either (access_touches fifo _)

@[simp] theorem daiStartup_ret (fifo : AxgFifo) : fifo.daiStartup.1 = 0 := by
  unfold daiStartup
  split_ifs <;> rfl

-- The clock and the handler are on from the enable of the clock to the end of pcm_open, or to the
-- undoing of both after a failed reset.
theorem pcmOpen_cases (fifo : AxgFifo) (outcomes : OpenOutcomes) :
    (fifo.pcmOpen outcomes).2 = fifo ∨
    (fifo.pcmOpened = false ∧
      ∃ running, Touches { fifo with pclk := fifo.pclk + 1, irqs := fifo.irqs + 1 } running ∧
        ((fifo.pcmOpen outcomes).2 = running.clkDisableUnprepare.freeIrq ∨
          (fifo.pcmOpen outcomes).2 = { running with pcmOpened := true })) := by
  unfold pcmOpen
  by_cases opened : fifo.pcmOpened = true
  · rw [if_pos opened]
    exact Or.inl rfl
  rw [if_neg opened]
  dsimp only
  by_cases request : outcomes.requestIrq = 0
  swap
  · rw [if_pos request]
    refine Or.inl ?_
    rw [requestIrq, if_neg request]
  rw [if_neg (not_not.mpr request), requestIrq, if_pos request]
  by_cases enable : outcomes.clkPrepareEnable = 0
  swap
  · rw [if_pos enable, clkPrepareEnable, if_neg enable]
    refine Or.inl ?_
    change { fifo with irqs := fifo.irqs + 1 - 1 } = fifo
    rw [Int.add_sub_cancel]
  rw [if_neg (not_not.mpr enable), clkPrepareEnable, if_pos enable]
  refine Or.inr ⟨Bool.eq_false_iff.mpr opened, ?_⟩
  have set := openRegisters_touches { fifo with pclk := fifo.pclk + 1, irqs := fifo.irqs + 1 }
  by_cases reset : outcomes.resetControlDeassert = 0
  swap
  · rw [if_pos reset]
    exact ⟨_, set, Or.inl rfl⟩
  rw [if_neg (not_not.mpr reset), daiStartup_ret, if_neg (not_not.mpr rfl)]
  exact ⟨_, set.trans (daiStartup_touches _), Or.inr rfl⟩

theorem Clocked.pcmOpen (clocked : Clocked fifo) (outcomes : OpenOutcomes) :
    Clocked (fifo.pcmOpen outcomes).2 := by
  rcases pcmOpen_cases fifo outcomes with same | ⟨closed, running, touches, ended⟩
  · rw [same]
    exact clocked
  have off : fifo.pclk = 0 := by rw [clocked.pclk, closed]; rfl
  have on : running.pclk = 1 := by rw [touches.pclk]; exact congrArg (· + 1) off
  have up : 0 < fifo.pclk + 1 := by rw [off]; decide
  have accesses := touches.accesses up clocked.accesses
  rcases ended with failed | succeeded
  · rw [failed]
    refine ⟨accesses, ?_⟩
    change running.pclk - 1 = ticks running.pcmOpened
    have shut : running.pcmOpened = false := touches.opened.trans closed
    rw [on, shut]
    rfl
  · rw [succeeded]
    exact ⟨accesses, on⟩

theorem Clocked.pcmClose (clocked : Clocked fifo) (resetControlAssert : Int32) :
    Clocked (fifo.pcmClose resetControlAssert).2 := by
  unfold AxgFifo.pcmClose
  by_cases opened : fifo.pcmOpened = true
  · rw [opened]
    refine ⟨clocked.accesses, ?_⟩
    change fifo.pclk - 1 = 0
    rw [clocked.pclk, opened]
    rfl
  · rw [Bool.eq_false_iff.mpr opened]
    exact clocked

def Installed (fifo : AxgFifo) : Prop := fifo.irqs = fifo.pclk

theorem Installed.touches (installed : Installed before) (touches : Touches before after) :
    Installed after :=
  touches.irqs.trans (installed.trans touches.pclk.symm)

theorem Installed.pcmOpen (installed : Installed fifo) (outcomes : OpenOutcomes) :
    Installed (fifo.pcmOpen outcomes).2 := by
  rcases pcmOpen_cases fifo outcomes with same | ⟨_, running, touches, ended⟩
  · rw [same]
    exact installed
  have both : Installed { fifo with pclk := fifo.pclk + 1, irqs := fifo.irqs + 1 } :=
    congrArg (· + 1) installed
  have still := both.touches touches
  rcases ended with failed | succeeded
  · rw [failed]
    exact congrArg (· - 1) still
  · rw [succeeded]
    exact still

theorem Installed.pcmClose (installed : Installed fifo) (resetControlAssert : Int32) :
    Installed (fifo.pcmClose resetControlAssert).2 := by
  unfold AxgFifo.pcmClose
  split_ifs
  · exact installed
  · exact congrArg (· - 1) installed

-- pcm_hw_free does not check `pcmOpened`.
theorem Clocked.pcmHwFree_iff (clocked : Clocked fifo) :
    Clocked fifo.pcmHwFree.2 ↔ fifo.pcmOpened = true := by
  constructor
  · intro freed
    have on : 0 < fifo.pclk := freed.accesses
      { op := .updateBits .ctrl0 (ctrl0IntEn fifoIntCountRepeat) 0, pclk := fifo.pclk }
      (List.mem_append_right _ (List.mem_singleton.mpr rfl))
    rw [clocked.pclk] at on
    by_contra closed
    rw [Bool.eq_false_iff.mpr closed] at on
    exact absurd on (by decide)
  · intro opened
    exact clocked.touches opened (access_touches fifo _)

end AxgFifo

open AxgFifo

def AudioDevice.Clocked (device : AudioDevice) : Prop :=
  ∀ stream, (device.fifoDev stream).Clocked

def ConfiguredOpen (device : AudioDevice) : AudioCall → Prop
  | .configChannel stream _ _ => (device.fifoDev stream).pcmOpened = true
  | _ => True

variable {device : AudioDevice}

theorem AudioDevice.setFifo_fifoDev (device : AudioDevice) (stream other : IfaceStream)
    (fifo : AxgFifo) :
    (device.setFifo stream fifo).fifoDev other =
      if other = stream then fifo else device.fifoDev other :=
  Function.update_apply device.fifoDev stream fifo other

-- What pcm_open, pcm_close and the guarded functions keep of a FIFO.
structure FifoKept (P : AxgFifo → Prop) : Prop where
  pcmOpen : ∀ fifo outcomes, P fifo → P (fifo.pcmOpen outcomes).2
  pcmClose : ∀ fifo resetControlAssert, P fifo → P (fifo.pcmClose resetControlAssert).2
  guarded : ∀ before after, Guarded before after → P before → P after

theorem clocked_kept : FifoKept AxgFifo.Clocked where
  pcmOpen _ outcomes clocked := clocked.pcmOpen outcomes
  pcmClose _ resetControlAssert clocked := clocked.pcmClose resetControlAssert
  guarded _ _ guarded clocked := clocked.guarded guarded

theorem installed_kept : FifoKept AxgFifo.Installed where
  pcmOpen _ outcomes installed := installed.pcmOpen outcomes
  pcmClose _ resetControlAssert installed := installed.pcmClose resetControlAssert
  guarded _ _ guarded installed := installed.touches guarded.toTouches

section

variable {P : AxgFifo → Prop}

theorem AudioDevice.setFifo_kept (all : ∀ stream, P (device.fifoDev stream))
    {stream : IfaceStream} {fifo : AxgFifo} (next : P fifo) (other : IfaceStream) :
    P ((device.setFifo stream fifo).fifoDev other) := by
  rw [device.setFifo_fifoDev]
  split_ifs
  · exact next
  · exact all other

theorem AudioDevice.hwParams_kept (kept : FifoKept P) (all : ∀ stream, P (device.fifoDev stream))
    (param : Option AudioPcmHwParams) (outcomes : HwParamsOutcomes) (stream : IfaceStream) :
    P ((device.a311dDaiHwParams param outcomes).2.fifoDev stream) := by
  unfold AudioDevice.a311dDaiHwParams
  cases param with
  | none => exact all stream
  | some param =>
    dsimp only
    cases formatToBitWidth param.format with
    | none => exact all stream
    | some widths =>
      have opened := kept.pcmOpen _ outcomes.opens
        (kept.pcmClose _ outcomes.resetControlAssert (all param.streamType))
      have set := kept.guarded _ _ (daiHwParams_guarded _ widths.1 widths.2) opened
      dsimp only
      split_ifs
      · exact AudioDevice.setFifo_kept all opened stream
      · exact AudioDevice.setFifo_kept all set stream
      · exact AudioDevice.setFifo_kept all set stream

theorem AudioDevice.step_kept (kept : FifoKept P) (all : ∀ stream, P (device.fifoDev stream))
    (call : AudioCall)
    (config : ∀ stream period cirBufSize, call = .configChannel stream period cirBufSize →
      P ((device.fifoDev stream).pcmHwFree.2)) (stream : IfaceStream) :
    P ((device.step call).fifoDev stream) := by
  cases call with
  | hwParams param outcomes => exact AudioDevice.hwParams_kept kept all param outcomes stream
  | configChannel other period cirBufSize =>
    have freed := config other period cirBufSize rfl
    exact AudioDevice.setFifo_kept all
      (kept.guarded _ _ (pcmHwParams_guarded _ period cirBufSize) freed) stream
  | submit other =>
    exact AudioDevice.setFifo_kept all (kept.guarded _ _ (pcmPrepare_guarded _) (all other)) stream
  | pending other =>
    exact AudioDevice.setFifo_kept all
      (kept.guarded _ _ (pcmEnable_guarded _ true) (all other)) stream
  | pause other =>
    exact AudioDevice.setFifo_kept all
      (kept.guarded _ _ (pcmEnable_guarded _ false) (all other)) stream
  | resume other =>
    exact AudioDevice.setFifo_kept all
      (kept.guarded _ _ (pcmEnable_guarded _ true) (all other)) stream
  | pointer other frameSize addr =>
    exact AudioDevice.setFifo_kept all
      (kept.guarded _ _ (pcmPointer_guarded _ addr) (all other)) stream

end

theorem AudioDevice.Clocked.configChannel_opened (clocked : device.Clocked) {stream : IfaceStream}
    {period cirBufSize : UInt32}
    (next : (device.a311dAudioDmaConfigChannel stream period cirBufSize).2.Clocked) :
    (device.fifoDev stream).pcmOpened = true := by
  have shown := next stream
  rw [AudioDevice.a311dAudioDmaConfigChannel, AudioDevice.setFifo_fifoDev, if_pos rfl] at shown
  by_contra opened
  have freed : (device.fifoDev stream).pcmHwFree.2.pcmOpened = false := Bool.eq_false_iff.mpr opened
  rw [pcmHwParams, freed] at shown
  exact opened ((clocked stream).pcmHwFree_iff.mp shown)

theorem configuredOpen_exact (call : AudioCall) (clocked : device.Clocked) :
    ConfiguredOpen device call ↔ (device.step call).Clocked := by
  constructor
  · intro configured
    refine AudioDevice.step_kept clocked_kept clocked call ?_
    rintro stream period cirBufSize rfl
    exact (clocked stream).pcmHwFree_iff.mpr configured
  · intro next
    cases call with
    | configChannel stream period cirBufSize => exact clocked.configChannel_opened next
    | hwParams | submit | pending | pause | resume | pointer => trivial

structure FifoConfig where
  depth : UInt32
  dmaAddr : UInt64
  dmaArea : UInt64
  isFrddr : Bool
  isG12a : Bool

def probed (config : IfaceStream → FifoConfig) : AudioDevice where
  fifoDev stream :=
    { depth := (config stream).depth
      dmaAddr := (config stream).dmaAddr
      dmaArea := (config stream).dmaArea
      isFrddr := (config stream).isFrddr
      isG12a := (config stream).isG12a }

theorem probed_clocked (config : IfaceStream → FifoConfig) : (probed config).Clocked := by
  intro stream
  refine ⟨?_, rfl⟩
  intro access absent
  cases absent

theorem registers_clocked_iff_configured_open (config : IfaceStream → FifoConfig)
    (calls : List AudioCall) :
    (∀ first, first <+: calls → (run AudioDevice.step (probed config) first).Clocked) ↔
      Along AudioDevice.step ConfiguredOpen (probed config) calls :=
  (along_iff_invariant AudioDevice.step ConfiguredOpen AudioDevice.Clocked
    (fun _ call clocked => configuredOpen_exact call clocked) (probed config)
    (probed_clocked config) calls).symm

-- ConfigChannel before HwParams touches CTRL0 of a FIFO whose clock was never enabled.
theorem registers_not_clocked_before_hw_params :
    ¬ ∀ (config : IfaceStream → FifoConfig) (calls : List AudioCall),
      (run AudioDevice.step (probed config) calls).Clocked := by
  intro clocked
  have config : FifoConfig :=
    { depth := 256, dmaAddr := 0, dmaArea := 1048576, isFrddr := true, isG12a := true }
  have first := (clocked (fun _ => config) [.configChannel .playback 4096 16384] .playback).accesses
    { op := .updateBits .ctrl0 (ctrl0IntEn fifoIntCountRepeat) 0, pclk := 0 }
    (List.mem_singleton.mpr rfl)
  exact absurd first (by decide)

theorem run_installed (config : IfaceStream → FifoConfig) (calls : List AudioCall)
    (stream : IfaceStream) :
    ((run AudioDevice.step (probed config) calls).fifoDev stream).Installed := by
  have always := run_always AudioDevice.step
    (fun device => ∀ stream, (device.fifoDev stream).Installed)
    (fun device call installed => AudioDevice.step_kept installed_kept installed call
      fun stream _ _ _ => (installed stream).touches (access_touches _ _))
    (probed config) (fun _ => rfl) calls
  exact always stream

end UnionpiTiger.Audio
