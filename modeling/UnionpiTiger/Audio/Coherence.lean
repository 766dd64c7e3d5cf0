import UnionpiTiger.Audio.Formatter
import Mathlib.Tactic.Basic

set_option autoImplicit false

namespace UnionpiTiger.Audio

open Lib

variable {F T : Type} [DecidableEq F] [DecidableEq T] {tdm : Tdm F T}

omit [DecidableEq F] [DecidableEq T] in
theorem checked_failed {ret : Int32} (failed : ret ≠ 0) (tdm : Tdm F T)
    (undo : Tdm F T → Tdm F T) (next : Tdm F T → Int32 × Tdm F T) :
    checked (ret, tdm) undo next = (ret, undo tdm) := if_pos failed

omit [DecidableEq F] [DecidableEq T] in
theorem checked_zero (tdm : Tdm F T) (undo : Tdm F T → Tdm F T)
    (next : Tdm F T → Int32 × Tdm F T) : checked (0, tdm) undo next = next tdm :=
  if_neg fun failed => failed rfl

omit [DecidableEq F] [DecidableEq T] in
theorem Tdm.call_cases (tdm : Tdm F T) :
    ∃ ret outcomes, tdm.call = (ret, { tdm with outcomes := outcomes }) := by
  unfold Tdm.call
  split
  next => exact ⟨0, tdm.outcomes, rfl⟩
  next ret rest _ => exact ⟨ret, rest, rfl⟩

omit [DecidableEq F] [DecidableEq T] in
-- A call whose result is checked fails, or goes on with nothing but its outcome used up.
theorem checked_call_cases (tdm : Tdm F T) (undo : Tdm F T → Tdm F T)
    (next : Tdm F T → Int32 × Tdm F T) :
    ∃ outcomes, (∃ ret, ret ≠ 0 ∧
        checked tdm.call undo next = (ret, undo { tdm with outcomes := outcomes })) ∨
      checked tdm.call undo next = next { tdm with outcomes := outcomes } := by
  obtain ⟨ret, outcomes, called⟩ := tdm.call_cases
  rw [called]
  by_cases failed : ret = 0
  · subst failed
    exact ⟨outcomes, Or.inr (checked_zero _ undo next)⟩
  · exact ⟨outcomes, Or.inl ⟨ret, failed, checked_failed failed _ undo next⟩⟩

omit [DecidableEq T] in
theorem checked_enable_cases (tdm : Tdm F T) (f : F) (clk : Clk) (undo : Tdm F T → Tdm F T)
    (next : Tdm F T → Int32 × Tdm F T) :
    ∃ outcomes, (∃ ret, ret ≠ 0 ∧ checked (clkPrepareEnable tdm f clk) undo next =
        (ret, undo { tdm with outcomes := outcomes })) ∨
      checked (clkPrepareEnable tdm f clk) undo next =
        next ({ tdm with outcomes := outcomes }.count f clk 1) := by
  obtain ⟨outcomes, ⟨ret, failed, stopped⟩ | went⟩ :=
    checked_call_cases tdm id fun tdm => (0, tdm.count f clk 1)
  · rw [clkPrepareEnable, stopped]
    exact ⟨outcomes, Or.inl ⟨ret, failed, checked_failed failed _ undo next⟩⟩
  · rw [clkPrepareEnable, went]
    exact ⟨outcomes, Or.inr (checked_zero _ undo next)⟩

omit [DecidableEq T] in
@[simp] theorem Tdm.setFormatter_self (tdm : Tdm F T) (f : F) :
    tdm.setFormatter f (tdm.formatter f) = tdm := by
  simp only [Tdm.setFormatter, Function.update_eq_self]

omit [DecidableEq T] in
@[simp] theorem Tdm.setFormatter_setFormatter (tdm : Tdm F T) (f : F)
    (first second : AxgTdmFormatter T) :
    (tdm.setFormatter f first).setFormatter f second = tdm.setFormatter f second := by
  simp only [Tdm.setFormatter, Function.update_idem]

omit [DecidableEq T] in
@[simp] theorem Tdm.setFormatter_formatter (tdm : Tdm F T) (f : F) (next : AxgTdmFormatter T) :
    (tdm.setFormatter f next).formatter f = next := by
  simp only [Tdm.setFormatter, Function.update_self]

omit [DecidableEq T] in
@[simp] theorem Tdm.setFormatter_stream (tdm : Tdm F T) (f : F) (next : AxgTdmFormatter T) :
    (tdm.setFormatter f next).stream = tdm.stream := rfl

omit [DecidableEq T] in
theorem Tdm.count_undo (tdm : Tdm F T) (f : F) (clk : Clk) :
    clkDisableUnprepare (tdm.count f clk 1) f clk = tdm := by
  have back : (tdm.formatter f).clocks clk + 1 + -1 = (tdm.formatter f).clocks clk := by omega
  simp only [clkDisableUnprepare, Tdm.count, Tdm.setFormatter_formatter,
    Tdm.setFormatter_setFormatter, Function.update_self, Function.update_idem, back,
    Function.update_eq_self]
  exact tdm.setFormatter_self f

def signal (change : Int) (clocks : Clk → Int) : Clk → Int
  | .pclk => clocks .pclk
  | .sclk => clocks .sclk + change
  | .lrclk => clocks .lrclk + change

inductive Enables (tdm : Tdm F T) (f : F) : Int32 → Tdm F T → Prop where
  | already (on : (tdm.formatter f).enabled = true) : Enables tdm f 0 tdm
  | fails (off : (tdm.formatter f).enabled = false) (ret : Int32) (failed : ret ≠ 0)
      (outcomes : List Int32) : Enables tdm f ret { tdm with outcomes := outcomes }
  | enables (off : (tdm.formatter f).enabled = false) (outcomes : List Int32) :
      Enables tdm f 0 ({ tdm with outcomes := outcomes }.setFormatter f
        { tdm.formatter f with
          enabled := true
          clocks := signal 1 (tdm.formatter f).clocks })

omit [DecidableEq T] in
theorem tdmFormatterEnable_enables (tdm : Tdm F T) (f : F) :
    Enables tdm f (tdmFormatterEnable tdm f).1 (tdmFormatterEnable tdm f).2 := by
  by_cases on : (tdm.formatter f).enabled = true
  · rw [tdmFormatterEnable, if_pos on]
    exact .already on
  · have off : (tdm.formatter f).enabled = false := Bool.eq_false_iff.mpr on
    rw [tdmFormatterEnable, if_neg on]
    obtain ⟨outcomes, ⟨ret, failed, reset⟩ | reset⟩ := checked_call_cases tdm id _
    · rw [reset]
      exact .fails off ret failed outcomes
    rw [reset]
    obtain ⟨outcomes, ⟨ret, failed, phase⟩ | phase⟩ := checked_call_cases _ id _
    · rw [phase]
      exact .fails off ret failed outcomes
    rw [phase]
    obtain ⟨outcomes, ⟨ret, failed, prepare⟩ | prepare⟩ := checked_call_cases _ id _
    · rw [prepare]
      exact .fails off ret failed outcomes
    rw [prepare]
    obtain ⟨outcomes, ⟨ret, failed, sclk⟩ | sclk⟩ := checked_enable_cases _ f .sclk id _
    · rw [sclk]
      exact .fails off ret failed outcomes
    rw [sclk]
    obtain ⟨outcomes, ⟨ret, failed, lrclk⟩ | lrclk⟩ := checked_enable_cases _ f .lrclk _ _
    · rw [lrclk]
      have undone := Tdm.count_undo { tdm with outcomes := outcomes } f .sclk
      change Enables tdm f ret
        (clkDisableUnprepare ({ tdm with outcomes := outcomes }.count f .sclk 1) f .sclk)
      rw [undone]
      exact .fails off ret failed outcomes
    rw [lrclk]
    have both : Function.update (Function.update (tdm.formatter f).clocks .sclk
        ((tdm.formatter f).clocks .sclk + 1)) .lrclk ((tdm.formatter f).clocks .lrclk + 1) =
        signal 1 (tdm.formatter f).clocks := by
      funext clk
      cases clk <;> rfl
    have enabled := Enables.enables off outcomes
    rw [← both] at enabled
    change Enables tdm f 0 ((({ tdm with outcomes := outcomes }.count f .sclk 1).count f .lrclk
      1).setFormatter f { (({ tdm with outcomes := outcomes }.count f .sclk 1).count f .lrclk
        1).formatter f with enabled := true })
    simpa [Tdm.count] using enabled

structure AxgTdmFormatter.Accounted (formatter : AxgTdmFormatter T) : Prop where
  homed : formatter.powerup = true → formatter.stream ≠ none
  pclk : formatter.clocks .pclk = if formatter.powerup then 1 else 0
  sclk : formatter.clocks .sclk = if formatter.enabled then 1 else 0
  lrclk : formatter.clocks .lrclk = if formatter.enabled then 1 else 0

structure Accounted (tdm : Tdm F T) : Prop where
  listed : ∀ f t, (tdm.stream t).formatterList.count f =
    if (tdm.formatter f).powerup = true ∧ (tdm.formatter f).stream = some t then 1 else 0
  formatters : ∀ f, (tdm.formatter f).Accounted

structure Coherent (tdm : Tdm F T) : Prop extends Accounted tdm where
  running : ∀ f, (tdm.formatter f).enabled = true → (tdm.formatter f).powerup = true ∧
    ∀ t, (tdm.formatter f).stream = some t → (tdm.stream t).ready = true

-- In the middle of axg_tdm_stream_stop: the formatters of `rest` are still to be disabled.
structure Stopping (rest : List F) (tdm : Tdm F T) : Prop extends Accounted tdm where
  running : ∀ f, (tdm.formatter f).enabled = true → (tdm.formatter f).powerup = true ∧
    (f ∉ rest → ∀ t, (tdm.formatter f).stream = some t → (tdm.stream t).ready = true)

omit [DecidableEq T] in
theorem Tdm.setFormatter_apply (tdm : Tdm F T) (f g : F) (next : AxgTdmFormatter T) :
    (tdm.setFormatter f next).formatter g = if g = f then next else tdm.formatter g := by
  exact Function.update_apply tdm.formatter f next g

theorem Accounted.setFormatter (inv : Accounted tdm) {f : F} {next : AxgTdmFormatter T}
    (accounted : next.Accounted) (stream : T → AxgTdmStream F)
    (own : ∀ t, (stream t).formatterList.count f =
      if next.powerup = true ∧ next.stream = some t then 1 else 0)
    (others : ∀ g t, g ≠ f → (stream t).formatterList.count g =
      (tdm.stream t).formatterList.count g) (outcomes : List Int32) :
    Accounted ({ tdm with stream := stream, outcomes := outcomes }.setFormatter f next) := by
  refine ⟨?_, ?_⟩
  · intro g t
    rw [Tdm.setFormatter_apply]
    by_cases same : g = f
    · rw [if_pos same, same]
      exact own t
    · rw [if_neg same]
      exact (others g t same).trans (inv.listed g t)
  · intro g
    rw [Tdm.setFormatter_apply]
    by_cases same : g = f
    · rw [if_pos same]
      exact accounted
    · rw [if_neg same]
      exact inv.formatters g

theorem Accounted.switch (inv : Accounted tdm) (f : F) (on : Bool) (clocks : Clk → Int)
    (outcomes : List Int32) (pclk : clocks .pclk = (tdm.formatter f).clocks .pclk)
    (sclk : clocks .sclk = if on then 1 else 0) (lrclk : clocks .lrclk = if on then 1 else 0) :
    Accounted ({ tdm with outcomes := outcomes }.setFormatter f
      { tdm.formatter f with enabled := on, clocks := clocks }) := by
  have accounted := inv.formatters f
  have next : AxgTdmFormatter.Accounted
      { tdm.formatter f with enabled := on, clocks := clocks } :=
    ⟨accounted.homed, pclk.trans accounted.pclk, sclk, lrclk⟩
  exact inv.setFormatter next tdm.stream (inv.listed f) (fun _ _ _ => rfl) outcomes

theorem Coherent.enables (inv : Coherent tdm) {f : F} {ret : Int32} {next : Tdm F T}
    (powered : (tdm.formatter f).powerup = true)
    (ready : ∀ t, (tdm.formatter f).stream = some t → (tdm.stream t).ready = true)
    (enables : Enables tdm f ret next) : Coherent next := by
  cases enables with
  | already on => exact inv
  | fails off ret failed outcomes => exact { inv with }
  | enables off outcomes =>
    have accounted := inv.formatters f
    have sclk := accounted.sclk
    have lrclk := accounted.lrclk
    rw [off] at sclk lrclk
    have switched := inv.toAccounted.switch f true (signal 1 (tdm.formatter f).clocks) outcomes
      rfl (by simp [signal, sclk]) (by simp [signal, lrclk])
    refine { switched with running := ?_ }
    intro g on
    rw [Tdm.setFormatter_apply] at on ⊢
    by_cases same : g = f
    · rw [if_pos same]
      exact ⟨powered, ready⟩
    · rw [if_neg same] at on ⊢
      exact inv.running g on

theorem Accounted.mem_iff (inv : Accounted tdm) (f : F) (t : T) :
    f ∈ (tdm.stream t).formatterList ↔
      (tdm.formatter f).powerup = true ∧ (tdm.formatter f).stream = some t := by
  rw [← List.count_pos_iff, inv.listed f t]
  split_ifs with powered
  · exact ⟨fun _ => powered, fun _ => Nat.one_pos⟩
  · exact ⟨fun less => absurd less (Nat.lt_irrefl 0), fun holds => absurd holds powered⟩

-- Nothing but the signal clocks and the enabled flag of `f` changes.
omit [DecidableEq T] in
theorem Enables.keeps {f : F} {ret : Int32} {next : Tdm F T} (enables : Enables tdm f ret next) :
    next.stream = tdm.stream ∧
    (∀ g, (next.formatter g).powerup = (tdm.formatter g).powerup) ∧
    (∀ g, (next.formatter g).stream = (tdm.formatter g).stream) ∧
    (∀ g, (tdm.formatter g).enabled = true → (next.formatter g).enabled = true) := by
  cases enables with
  | already on => exact ⟨rfl, fun _ => rfl, fun _ => rfl, fun _ => id⟩
  | fails off ret failed outcomes => exact ⟨rfl, fun _ => rfl, fun _ => rfl, fun _ => id⟩
  | enables off outcomes =>
    refine ⟨rfl, ?_, ?_, ?_⟩
    all_goals
      intro g
      rw [Tdm.setFormatter_apply]
      by_cases same : g = f
      · simp [same]
      · simp [same]

omit [DecidableEq T] in
theorem Enables.enabled {f : F} {next : Tdm F T} (enables : Enables tdm f 0 next) :
    (next.formatter f).enabled = true := by
  cases enables with
  | already on => exact on
  | fails off ret failed outcomes => exact absurd rfl failed
  | enables off outcomes => simp

structure Starts (list : List F) (tdm : Tdm F T) (result : Int32 × Tdm F T) : Prop where
  coherent : Coherent result.2
  stream : result.2.stream = tdm.stream
  kept : ∀ g, (tdm.formatter g).enabled = true → (result.2.formatter g).enabled = true
  all : result.1 = 0 → ∀ f ∈ list, (result.2.formatter f).enabled = true

theorem startFormatters_spec (list : List F) (inv : Coherent tdm) (t : T)
    (ready : (tdm.stream t).ready = true)
    (own : ∀ f ∈ list, (tdm.formatter f).powerup = true ∧ (tdm.formatter f).stream = some t) :
    Starts list tdm (startFormatters tdm list) := by
  induction list generalizing tdm with
  | nil => exact ⟨inv, rfl, fun _ => id, fun _ f mem => absurd mem List.not_mem_nil⟩
  | cons f rest ih =>
    obtain ⟨powered, home⟩ := own f List.mem_cons_self
    have step := tdmFormatterEnable_enables tdm f
    rw [startFormatters]
    cases out : tdmFormatterEnable tdm f with
    | mk ret next =>
      rw [out] at step
      obtain ⟨streams, powers, homes, on⟩ := step.keeps
      have coherent : Coherent next := by
        refine inv.enables powered ?_ step
        intro t' here
        rw [home] at here
        rw [← Option.some.inj here]
        exact ready
      by_cases failed : ret = 0
      · subst failed
        rw [checked_zero]
        have ready' : (next.stream t).ready = true := by
          rw [streams]
          exact ready
        have own' : ∀ g ∈ rest, (next.formatter g).powerup = true ∧
            (next.formatter g).stream = some t := by
          intro g mem
          rw [powers g, homes g]
          exact own g (List.mem_cons_of_mem f mem)
        have later := ih coherent ready' own'
        refine ⟨later.coherent, later.stream.trans streams, ?_, ?_⟩
        · intro g before
          exact later.kept g (on g before)
        · intro success g mem
          rcases List.mem_cons.mp mem with rfl | inRest
          · exact later.kept g step.enabled
          · exact later.all success g inRest
      · rw [checked_failed failed]
        exact ⟨coherent, streams, on, fun success => absurd success failed⟩

omit [DecidableEq F] in
theorem Tdm.setStream_apply (tdm : Tdm F T) (t u : T) (next : AxgTdmStream F) :
    (tdm.setStream t next).stream u = if u = t then next else tdm.stream u := by
  exact Function.update_apply tdm.stream t next u

omit [DecidableEq F] in
theorem Tdm.setReady_list (tdm : Tdm F T) (t u : T) (ready : Bool) :
    ((tdm.setStream t { tdm.stream t with ready := ready }).stream u).formatterList =
      (tdm.stream u).formatterList := by
  rw [Tdm.setStream_apply]
  split_ifs with same
  · rw [same]
  · rfl

theorem Accounted.setReady (inv : Accounted tdm) (t : T) (ready : Bool) :
    Accounted (tdm.setStream t { tdm.stream t with ready := ready }) := by
  refine ⟨?_, inv.formatters⟩
  intro f u
  rw [Tdm.setReady_list]
  exact inv.listed f u

theorem Coherent.streamStart (inv : Coherent tdm) (t : T) :
    Starts (tdm.stream t).formatterList
      (tdm.setStream t { tdm.stream t with ready := true }) (axgTdmStreamStart tdm t) := by
  have coherent : Coherent (tdm.setStream t { tdm.stream t with ready := true }) := by
    refine { inv.toAccounted.setReady t true with running := ?_ }
    intro f on
    obtain ⟨powered, ready⟩ := inv.running f on
    refine ⟨powered, ?_⟩
    intro u home
    rw [Tdm.setStream_apply]
    split_ifs with same
    · rfl
    · exact ready u home
  have list := tdm.setReady_list t t true
  rw [axgTdmStreamStart, list]
  refine startFormatters_spec _ coherent t ?_ ?_
  · rw [Tdm.setStream_apply, if_pos rfl]
  · intro f mem
    rw [← list] at mem
    exact (coherent.mem_iff f t).mp mem

omit [DecidableEq T] in
theorem tdmFormatterDisable_eq (tdm : Tdm F T) (f : F) :
    tdmFormatterDisable tdm f =
      if (tdm.formatter f).enabled then
        tdm.setFormatter f
          { tdm.formatter f with
            enabled := false
            clocks := signal (-1) (tdm.formatter f).clocks }
      else tdm := by
  have both : Function.update (Function.update (tdm.formatter f).clocks .lrclk
      ((tdm.formatter f).clocks .lrclk + -1)) .sclk ((tdm.formatter f).clocks .sclk + -1) =
      signal (-1) (tdm.formatter f).clocks := by
    funext clk
    cases clk <;> rfl
  unfold tdmFormatterDisable
  cases on : (tdm.formatter f).enabled with
  | false => rfl
  | true => simp [clkDisableUnprepare, Tdm.count, ← both]

theorem Accounted.disable (inv : Accounted tdm) (f : F) :
    Accounted (tdmFormatterDisable tdm f) := by
  rw [tdmFormatterDisable_eq]
  split_ifs with on
  · have accounted := inv.formatters f
    have sclk := accounted.sclk
    have lrclk := accounted.lrclk
    rw [if_pos on] at sclk lrclk
    exact inv.switch f false (signal (-1) (tdm.formatter f).clocks) tdm.outcomes rfl
      (by simp [signal, sclk]) (by simp [signal, lrclk])
  · exact inv

omit [DecidableEq T] in
theorem disable_formatter (tdm : Tdm F T) (f g : F) :
    ((tdmFormatterDisable tdm f).formatter g).powerup = (tdm.formatter g).powerup ∧
    ((tdmFormatterDisable tdm f).formatter g).stream = (tdm.formatter g).stream ∧
    ((tdmFormatterDisable tdm f).formatter g).enabled =
      if g = f then false else (tdm.formatter g).enabled := by
  rw [tdmFormatterDisable_eq]
  by_cases on : (tdm.formatter f).enabled = true
  · rw [if_pos on, Tdm.setFormatter_apply]
    by_cases same : g = f
    · simp [same]
    · simp [same]
  · rw [if_neg on]
    by_cases same : g = f
    · simp [same, on]
    · simp [same]

omit [DecidableEq T] in
theorem disable_stream (tdm : Tdm F T) (f : F) : (tdmFormatterDisable tdm f).stream = tdm.stream := by
  rw [tdmFormatterDisable_eq]
  split_ifs
  · rfl
  · rfl

theorem Stopping.disable {f : F} {rest : List F} (inv : Stopping (f :: rest) tdm) :
    Stopping rest (tdmFormatterDisable tdm f) := by
  refine { inv.toAccounted.disable f with running := ?_ }
  intro g on
  obtain ⟨powered, home, enabled⟩ := disable_formatter tdm f g
  rw [enabled] at on
  rw [powered, home, disable_stream]
  by_cases same : g = f
  · rw [if_pos same] at on
    cases on
  · rw [if_neg same] at on
    obtain ⟨powerup, ready⟩ := inv.running g on
    exact ⟨powerup, fun out => ready (by simp [same, out])⟩

theorem Stopping.disableAll {rest : List F} (inv : Stopping rest tdm) :
    Coherent (rest.foldl tdmFormatterDisable tdm) := by
  induction rest generalizing tdm with
  | nil => exact { inv with running := fun f on =>
      ⟨(inv.running f on).1, (inv.running f on).2 List.not_mem_nil⟩ }
  | cons f rest ih => exact ih inv.disable

theorem Coherent.streamStop (inv : Coherent tdm) (t : T) : Coherent (axgTdmStreamStop tdm t) := by
  rw [axgTdmStreamStop, tdm.setReady_list t t false]
  refine Stopping.disableAll { inv.toAccounted.setReady t false with running := ?_ }
  intro f on
  obtain ⟨powered, ready⟩ := inv.running f on
  refine ⟨powered, ?_⟩
  intro out u home
  rw [Tdm.setStream_apply]
  split_ifs with same
  · rw [same] at home
    exact absurd ((inv.mem_iff f t).mpr ⟨powered, home⟩) out
  · exact ready u home

def ticks (ready : Bool) : Int := if ready then 1 else 0

def AxgTdmFormatter.poweredUp (formatter : AxgTdmFormatter T) (t : T) (ready : Bool) :
    AxgTdmFormatter T :=
  { stream := some t
    enabled := ready
    powerup := true
    clocks := fun
      | .pclk => formatter.clocks .pclk + 1
      | .sclk => formatter.clocks .sclk + ticks ready
      | .lrclk => formatter.clocks .lrclk + ticks ready }

inductive PowersUp (tdm : Tdm F T) (f : F) (t : T) : Int32 → Tdm F T → Prop where
  | already (on : (tdm.formatter f).powerup = true) : PowersUp tdm f t 0 tdm
  | fails (off : (tdm.formatter f).powerup = false) (ret : Int32) (failed : ret ≠ 0)
      (outcomes : List Int32) (stream : Option T) :
      PowersUp tdm f t ret ({ tdm with outcomes := outcomes }.setFormatter f
        { tdm.formatter f with stream := stream })
  | powersUp (off : (tdm.formatter f).powerup = false) (outcomes : List Int32) :
      PowersUp tdm f t 0 ((listAddTail { tdm with outcomes := outcomes } t f).setFormatter f
        ((tdm.formatter f).poweredUp t (tdm.stream t).ready))

theorem tdmFormatterAttach_cases (tdm : Tdm F T) (f : F) (t : T)
    (dark : (tdm.formatter f).enabled = false) :
    ∃ outcomes, (∃ ret, ret ≠ 0 ∧
        tdmFormatterAttach tdm f t = (ret, { tdm with outcomes := outcomes })) ∨
      tdmFormatterAttach tdm f t = (0, (listAddTail { tdm with outcomes := outcomes } t f).setFormatter
        f { tdm.formatter f with
          enabled := (tdm.stream t).ready
          clocks := signal (ticks (tdm.stream t).ready) (tdm.formatter f).clocks }) := by
  unfold tdmFormatterAttach
  cases ready : (tdm.stream t).ready with
  | false =>
    have same : signal (ticks false) (tdm.formatter f).clocks = (tdm.formatter f).clocks := by
      funext clk
      cases clk <;> simp [signal, ticks]
    refine ⟨tdm.outcomes, Or.inr ?_⟩
    rw [if_neg Bool.false_ne_true, checked_zero, same, ← dark]
    exact congrArg (Prod.mk 0) ((listAddTail tdm t f).setFormatter_self f).symm
  | true =>
    have step := tdmFormatterEnable_enables tdm f
    rw [if_pos rfl]
    cases out : tdmFormatterEnable tdm f with
    | mk ret next =>
      rw [out] at step
      cases step with
      | already on =>
        rw [on] at dark
        cases dark
      | fails off _ failed outcomes =>
        exact ⟨outcomes, Or.inl ⟨ret, failed, checked_failed failed _ id _⟩⟩
      | enables off outcomes =>
        exact ⟨outcomes, Or.inr (checked_zero _ id _)⟩

def AxgTdmFormatter.clocked (formatter : AxgTdmFormatter T) : AxgTdmFormatter T :=
  { formatter with
    clocks := Function.update formatter.clocks .pclk (formatter.clocks .pclk + 1) }

omit [DecidableEq T] in
theorem Tdm.undo_clocked (tdm : Tdm F T) (f : F) (stream : Option T) :
    clkDisableUnprepare (tdm.setFormatter f
      { (tdm.formatter f).clocked with stream := stream }) f .pclk =
      tdm.setFormatter f { tdm.formatter f with stream := stream } := by
  have back : (tdm.formatter f).clocks .pclk + 1 + -1 = (tdm.formatter f).clocks .pclk := by omega
  simp only [clkDisableUnprepare, Tdm.count, Tdm.setFormatter_formatter,
    Tdm.setFormatter_setFormatter, AxgTdmFormatter.clocked, Function.update_self,
    Function.update_idem, back, Function.update_eq_self]

theorem PowersUp.undone {f : F} {t : T} (off : (tdm.formatter f).powerup = false) {ret : Int32}
    (failed : ret ≠ 0) (outcomes : List Int32) (stream : Option T) :
    PowersUp tdm f t ret (clkDisableUnprepare ({ tdm with outcomes := outcomes }.setFormatter f
      { (tdm.formatter f).clocked with stream := stream }) f .pclk) := by
  have undo := Tdm.undo_clocked { tdm with outcomes := outcomes } f stream
  rw [undo]
  exact .fails off ret failed outcomes stream

theorem PowersUp.attach {f : F} (t : T) (off : (tdm.formatter f).powerup = false)
    (dark : (tdm.formatter f).enabled = false) (result : Int32 × Tdm F T) (outcomes : List Int32)
    (tail : result = checked (tdmFormatterAttach ({ tdm with outcomes := outcomes }.setFormatter f
        { (tdm.formatter f).clocked with stream := some t }) f t)
      (clkDisableUnprepare · f .pclk)
      fun tdm => (0, tdm.setFormatter f { tdm.formatter f with powerup := true })) :
    PowersUp tdm f t result.1 result.2 := by
  have unlit : (({ tdm with outcomes := outcomes }.setFormatter f
      { (tdm.formatter f).clocked with stream := some t }).formatter f).enabled = false := by
    rw [Tdm.setFormatter_formatter]
    exact dark
  obtain ⟨left, ⟨ret, failed, attach⟩ | attach⟩ := tdmFormatterAttach_cases _ f t unlit
  · rw [attach, checked_failed failed] at tail
    rw [tail]
    exact .undone off failed left (some t)
  · rw [attach, checked_zero] at tail
    have poweredUp : PowersUp tdm f t 0 _ := .powersUp off left
    have clocks : signal (ticks (tdm.stream t).ready) (tdm.formatter f).clocked.clocks =
        ((tdm.formatter f).poweredUp t (tdm.stream t).ready).clocks := by
      funext clk
      cases clk <;> simp [signal, AxgTdmFormatter.clocked, AxgTdmFormatter.poweredUp]
    rw [tail]
    simp only [Tdm.setFormatter_setFormatter, Tdm.setFormatter_formatter, Tdm.setFormatter_stream,
      clocks]
    have merged := Tdm.setFormatter_setFormatter (listAddTail { tdm with outcomes := left } t f) f
      { (tdm.formatter f).clocked with stream := some t }
      ((tdm.formatter f).poweredUp t (tdm.stream t).ready)
    rw [← merged] at poweredUp
    exact poweredUp

theorem axgTdmFormatterPowerUp_powersUp (tdm : Tdm F T) (f : F) (t : T)
    (dark : (tdm.formatter f).powerup = false → (tdm.formatter f).enabled = false) :
    PowersUp tdm f t (axgTdmFormatterPowerUp tdm f t).1 (axgTdmFormatterPowerUp tdm f t).2 := by
  by_cases on : (tdm.formatter f).powerup = true
  · rw [axgTdmFormatterPowerUp, if_pos on]
    exact .already on
  have off : (tdm.formatter f).powerup = false := Bool.eq_false_iff.mpr on
  rw [axgTdmFormatterPowerUp, if_neg on]
  obtain ⟨outcomes, ⟨ret, failed, pclk⟩ | pclk⟩ := checked_enable_cases tdm f .pclk id _
  · rw [pclk]
    have failing : PowersUp tdm f t ret ({ tdm with outcomes := outcomes }.setFormatter f
      (tdm.formatter f)) := .fails off ret failed outcomes (tdm.formatter f).stream
    have same := Tdm.setFormatter_self { tdm with outcomes := outcomes } f
    rw [same] at failing
    exact failing
  rw [pclk]
  obtain ⟨outcomes, ⟨ret, failed, parent⟩ | parent⟩ := checked_call_cases _ _ _
  · rw [parent]
    exact .undone off failed outcomes (tdm.formatter f).stream
  rw [parent]
  obtain ⟨outcomes, ⟨ret, failed, parent⟩ | parent⟩ := checked_call_cases _ _ _
  · rw [parent]
    exact .undone off failed outcomes (tdm.formatter f).stream
  rw [parent]
  have here : (({ tdm with outcomes := outcomes }.count f .pclk 1).setFormatter f
      { ({ tdm with outcomes := outcomes }.count f .pclk 1).formatter f with stream := some t }) =
      { tdm with outcomes := outcomes }.setFormatter f
        { (tdm.formatter f).clocked with stream := some t } := by
    simp [Tdm.count, AxgTdmFormatter.clocked]
  refine .attach t off (dark off) _ outcomes ?_
  rw [← here]
  rfl

omit [DecidableEq T] in
theorem AxgTdmFormatter.Accounted.poweredUp {formatter : AxgTdmFormatter T}
    (accounted : formatter.Accounted) (off : formatter.powerup = false)
    (dark : formatter.enabled = false) (t : T) (ready : Bool) :
    (formatter.poweredUp t ready).Accounted := by
  have pclk := accounted.pclk
  have sclk := accounted.sclk
  have lrclk := accounted.lrclk
  rw [off] at pclk
  rw [dark] at sclk lrclk
  refine ⟨fun _ => Option.some_ne_none t, ?_, ?_, ?_⟩
  · simp [AxgTdmFormatter.poweredUp, pclk]
  · simp [AxgTdmFormatter.poweredUp, ticks, sclk]
  · simp [AxgTdmFormatter.poweredUp, ticks, lrclk]

omit [DecidableEq F] in
theorem listAddTail_list (tdm : Tdm F T) (t u : T) (f : F) :
    ((listAddTail tdm t f).stream u).formatterList =
      (tdm.stream u).formatterList ++ if u = t then [f] else [] := by
  rw [listAddTail, Tdm.setStream_apply]
  split_ifs with same
  · rw [same]
  · rw [List.append_nil]

omit [DecidableEq F] in
theorem listAddTail_ready (tdm : Tdm F T) (t u : T) (f : F) :
    ((listAddTail tdm t f).stream u).ready = (tdm.stream u).ready := by
  rw [listAddTail, Tdm.setStream_apply]
  split_ifs with same
  · rw [same]
  · rfl

theorem Coherent.dark (inv : Coherent tdm) (f : F) (off : (tdm.formatter f).powerup = false) :
    (tdm.formatter f).enabled = false := by
  cases on : (tdm.formatter f).enabled with
  | false => rfl
  | true =>
    have powered := (inv.running f on).1
    rw [off] at powered
    cases powered

theorem Coherent.powersUp (inv : Coherent tdm) {f : F} {t : T} {ret : Int32} {next : Tdm F T}
    (powersUp : PowersUp tdm f t ret next) : Coherent next := by
  cases powersUp with
  | already on => exact inv
  | fails off ret failed outcomes stream =>
    have accounted := inv.formatters f
    have dark := inv.dark f off
    have changed : AxgTdmFormatter.Accounted { tdm.formatter f with stream := stream } :=
      { accounted with homed := fun on => by rw [off] at on; cases on }
    have own : ∀ u, (tdm.stream u).formatterList.count f =
        if (tdm.formatter f).powerup = true ∧ stream = some u then 1 else 0 := by
      intro u
      rw [inv.listed f u, off]
      simp
    refine { inv.toAccounted.setFormatter changed tdm.stream own (fun _ _ _ => rfl) outcomes with
      running := ?_ }
    intro g on
    rw [Tdm.setFormatter_apply] at on ⊢
    by_cases same : g = f
    · rw [if_pos same] at on
      rw [dark] at on
      cases on
    · rw [if_neg same] at on ⊢
      exact inv.running g on
  | powersUp off outcomes =>
    have dark := inv.dark f off
    have changed := (inv.formatters f).poweredUp off dark t (tdm.stream t).ready
    have own : ∀ u, ((listAddTail { tdm with outcomes := outcomes } t f).stream u).formatterList.count
        f = if true = true ∧ some t = some u then 1 else 0 := by
      intro u
      rw [listAddTail_list, List.count_append, inv.listed f u, off]
      by_cases same : u = t
      · simp [same]
      · simp [same, Ne.symm same]
    have others : ∀ g u, g ≠ f →
        ((listAddTail { tdm with outcomes := outcomes } t f).stream u).formatterList.count g =
          (tdm.stream u).formatterList.count g := by
      intro g u other
      rw [listAddTail_list, List.count_append]
      split_ifs with same
      · simp [Ne.symm other]
      · simp
    refine { inv.toAccounted.setFormatter changed _ own others outcomes with running := ?_ }
    intro g on
    rw [Tdm.setFormatter_apply] at on ⊢
    by_cases same : g = f
    · rw [if_pos same] at on ⊢
      refine ⟨rfl, ?_⟩
      intro u home
      rw [← Option.some.inj home]
      change ((listAddTail { tdm with outcomes := outcomes } t f).stream t).ready = true
      rw [listAddTail_ready]
      exact on
    · rw [if_neg same] at on ⊢
      obtain ⟨powered, ready⟩ := inv.running g on
      refine ⟨powered, ?_⟩
      intro u home
      change ((listAddTail { tdm with outcomes := outcomes } t f).stream u).ready = true
      rw [listAddTail_ready]
      exact ready u home

theorem listDel_list (tdm : Tdm F T) (t u : T) (f : F) :
    ((listDel tdm t f).stream u).formatterList =
      if u = t then (tdm.stream u).formatterList.erase f else (tdm.stream u).formatterList := by
  rw [listDel, Tdm.setStream_apply]
  split_ifs with same
  · rw [same]
  · rfl

theorem listDel_ready (tdm : Tdm F T) (t u : T) (f : F) :
    ((listDel tdm t f).stream u).ready = (tdm.stream u).ready := by
  rw [listDel, Tdm.setStream_apply]
  split_ifs with same
  · rw [same]
  · rfl

def AxgTdmFormatter.poweredDown (formatter : AxgTdmFormatter T) : AxgTdmFormatter T :=
  { stream := none
    enabled := false
    powerup := false
    clocks := fun
      | .pclk => formatter.clocks .pclk - 1
      | .sclk => formatter.clocks .sclk - ticks formatter.enabled
      | .lrclk => formatter.clocks .lrclk - ticks formatter.enabled }

omit [DecidableEq T] in
theorem tdmFormatterDisable_set (tdm : Tdm F T) (f : F) :
    tdmFormatterDisable tdm f = tdm.setFormatter f
      { tdm.formatter f with
        enabled := false
        clocks := signal (-ticks (tdm.formatter f).enabled) (tdm.formatter f).clocks } := by
  rw [tdmFormatterDisable_eq]
  cases lit : (tdm.formatter f).enabled with
  | true => rfl
  | false =>
    have same : signal (-ticks false) (tdm.formatter f).clocks = (tdm.formatter f).clocks := by
      funext clk
      cases clk <;> simp [signal, ticks]
    rw [if_neg Bool.false_ne_true, same, ← lit]
    exact (tdm.setFormatter_self f).symm

theorem axgTdmFormatterPowerDown_eq (tdm : Tdm F T) (f : F) (t : T)
    (on : (tdm.formatter f).powerup = true) (home : (tdm.formatter f).stream = some t) :
    axgTdmFormatterPowerDown tdm f =
      (listDel tdm t f).setFormatter f (tdm.formatter f).poweredDown := by
  have clocks : Function.update (signal (-ticks (tdm.formatter f).enabled) (tdm.formatter f).clocks)
      .pclk (signal (-ticks (tdm.formatter f).enabled) (tdm.formatter f).clocks .pclk + -1) =
        (tdm.formatter f).poweredDown.clocks := by
    funext clk
    cases clk <;> simp [signal, AxgTdmFormatter.poweredDown, Int.sub_eq_add_neg]
  have same : (listDel tdm t f).formatter f = tdm.formatter f := rfl
  unfold axgTdmFormatterPowerDown
  rw [on, home]
  simp only [Bool.not_true, Bool.false_eq_true, if_false, tdmFormatterDettach,
    tdmFormatterDisable_set, clkDisableUnprepare, Tdm.count, Tdm.setFormatter_formatter,
    Tdm.setFormatter_setFormatter, same]
  rw [clocks]
  rfl

omit [DecidableEq T] in
theorem AxgTdmFormatter.Accounted.poweredDown {formatter : AxgTdmFormatter T}
    (accounted : formatter.Accounted) (on : formatter.powerup = true) :
    formatter.poweredDown.Accounted := by
  have pclk := accounted.pclk
  rw [on] at pclk
  refine ⟨fun powered => absurd powered Bool.false_ne_true, ?_, ?_, ?_⟩
  · simp [AxgTdmFormatter.poweredDown, pclk]
  · simp [AxgTdmFormatter.poweredDown, ticks, accounted.sclk]
  · simp [AxgTdmFormatter.poweredDown, ticks, accounted.lrclk]

theorem Coherent.powerDown (inv : Coherent tdm) (f : F) :
    Coherent (axgTdmFormatterPowerDown tdm f) := by
  by_cases on : (tdm.formatter f).powerup = true
  · obtain ⟨t, home⟩ := Option.ne_none_iff_exists'.mp ((inv.formatters f).homed on)
    rw [axgTdmFormatterPowerDown_eq tdm f t on home]
    have changed := (inv.formatters f).poweredDown on
    have own : ∀ u, ((listDel tdm t f).stream u).formatterList.count f =
        if (tdm.formatter f).poweredDown.powerup = true ∧
          (tdm.formatter f).poweredDown.stream = some u then 1 else 0 := by
      intro u
      have listed := inv.listed f u
      rw [on, home] at listed
      rw [listDel_list]
      by_cases same : u = t
      · rw [if_pos same, List.count_erase_self, listed]
        simp [same, AxgTdmFormatter.poweredDown]
      · rw [if_neg same, listed]
        simp [Ne.symm same, AxgTdmFormatter.poweredDown]
    have others : ∀ g u, g ≠ f → ((listDel tdm t f).stream u).formatterList.count g =
        (tdm.stream u).formatterList.count g := by
      intro g u other
      rw [listDel_list]
      split_ifs with same
      · rw [List.count_erase_of_ne other]
      · rfl
    refine { inv.toAccounted.setFormatter changed _ own others tdm.outcomes with running := ?_ }
    intro g lit
    rw [Tdm.setFormatter_apply] at lit ⊢
    by_cases same : g = f
    · rw [if_pos same] at lit
      cases lit
    · rw [if_neg same] at lit ⊢
      obtain ⟨powered, ready⟩ := inv.running g lit
      refine ⟨powered, ?_⟩
      intro u there
      change ((listDel tdm t f).stream u).ready = true
      rw [listDel_ready]
      exact ready u there
  · have off : (tdm.formatter f).powerup = false := Bool.eq_false_iff.mpr on
    rw [axgTdmFormatterPowerDown, off]
    exact inv

theorem Coherent.withOutcomes (inv : Coherent tdm) (outcomes : List Int32) :
    Coherent { tdm with outcomes := outcomes } := { inv with }

theorem Coherent.step (inv : Coherent tdm) (call : TdmCall F T × List Int32) :
    Coherent (tdm.step call).2 := by
  obtain ⟨call, outcomes⟩ := call
  have start := inv.withOutcomes outcomes
  cases call with
  | powerUp f t => exact start.powersUp (axgTdmFormatterPowerUp_powersUp _ f t (start.dark f))
  | powerDown f => exact start.powerDown f
  | start t => exact (start.streamStart t).coherent
  | stop t => exact start.streamStop t

theorem Coherent.init : Coherent ({} : Tdm F T) := by
  refine ⟨⟨fun _ _ => rfl, fun _ => ⟨?_, rfl, rfl, rfl⟩⟩, ?_⟩
  · intro on
    cases on
  · intro f on
    cases on

theorem tdm_coherent (calls : List (TdmCall F T × List Int32)) :
    let tdm : Tdm F T := run (fun tdm call => (tdm.step call).2) {} calls
    Coherent tdm ∧
    ∀ t outcomes, (tdm.step (.start t, outcomes)).1 = 0 →
      ∀ f ∈ ((tdm.step (.start t, outcomes)).2.stream t).formatterList,
        ((tdm.step (.start t, outcomes)).2.formatter f).enabled = true := by
  have coherent := run_always (fun (tdm : Tdm F T) call => (tdm.step call).2) Coherent
    (fun _ call inv => inv.step call) {} Coherent.init calls
  refine ⟨coherent, ?_⟩
  intro t outcomes success f mem
  have starts := (coherent.withOutcomes outcomes).streamStart t
  refine starts.all success f ?_
  change f ∈ (((axgTdmStreamStart _ t).2).stream t).formatterList at mem
  rw [starts.stream, Tdm.setReady_list] at mem
  exact mem

end UnionpiTiger.Audio
