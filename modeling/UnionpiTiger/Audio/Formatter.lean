import Mathlib.Logic.Function.Basic
import UnionpiTiger.Lib.Run

set_option autoImplicit false

namespace UnionpiTiger.Audio

inductive Clk where
  | pclk
  | sclk
  | lrclk
deriving DecidableEq, Repr

structure AxgTdmFormatter (T : Type) where
  stream : Option T := none
  enabled : Bool := false
  powerup : Bool := false
  clocks : Clk → Int := fun _ => 0

structure AxgTdmStream (F : Type) where
  formatterList : List F := []
  ready : Bool := false

-- Formatters and streams by name. `outcomes` lists what the coming clock, reset and prepare calls
-- return; once it is used up they all succeed.
structure Tdm (F T : Type) where
  formatter : F → AxgTdmFormatter T := fun _ => {}
  stream : T → AxgTdmStream F := fun _ => {}
  outcomes : List Int32 := []

variable {F T : Type} [DecidableEq F] [DecidableEq T]

def Tdm.setFormatter (tdm : Tdm F T) (f : F) (next : AxgTdmFormatter T) : Tdm F T :=
  { tdm with formatter := Function.update tdm.formatter f next }

def Tdm.setStream (tdm : Tdm F T) (t : T) (next : AxgTdmStream F) : Tdm F T :=
  { tdm with stream := Function.update tdm.stream t next }

def Tdm.call (tdm : Tdm F T) : Int32 × Tdm F T :=
  match tdm.outcomes with
  | [] => (0, tdm)
  | ret :: rest => (ret, { tdm with outcomes := rest })

def checked (result : Int32 × Tdm F T) (undo : Tdm F T → Tdm F T)
    (next : Tdm F T → Int32 × Tdm F T) : Int32 × Tdm F T :=
  if result.1 ≠ 0 then (result.1, undo result.2) else next result.2

def Tdm.count (tdm : Tdm F T) (f : F) (clk : Clk) (change : Int) : Tdm F T :=
  let formatter := tdm.formatter f
  tdm.setFormatter f
    { formatter with
      clocks := Function.update formatter.clocks clk (formatter.clocks clk + change) }

def clkPrepareEnable (tdm : Tdm F T) (f : F) (clk : Clk) : Int32 × Tdm F T :=
  checked tdm.call id fun tdm => (0, tdm.count f clk 1)

def clkDisableUnprepare (tdm : Tdm F T) (f : F) (clk : Clk) : Tdm F T := tdm.count f clk (-1)

def tdmFormatterEnable (tdm : Tdm F T) (f : F) : Int32 × Tdm F T :=
  if (tdm.formatter f).enabled then (0, tdm)
  else
    -- reset_control_reset, clk_set_phase and the driver's prepare
    checked tdm.call id fun tdm =>
    checked tdm.call id fun tdm =>
    checked tdm.call id fun tdm =>
    checked (clkPrepareEnable tdm f .sclk) id fun tdm =>
    checked (clkPrepareEnable tdm f .lrclk) (clkDisableUnprepare · f .sclk) fun tdm =>
    (0, tdm.setFormatter f { tdm.formatter f with enabled := true })

def tdmFormatterDisable (tdm : Tdm F T) (f : F) : Tdm F T :=
  if !(tdm.formatter f).enabled then tdm
  else
    let tdm := clkDisableUnprepare tdm f .lrclk
    let tdm := clkDisableUnprepare tdm f .sclk
    tdm.setFormatter f { tdm.formatter f with enabled := false }

def listAddTail (tdm : Tdm F T) (t : T) (f : F) : Tdm F T :=
  tdm.setStream t
    { tdm.stream t with formatterList := (tdm.stream t).formatterList ++ [f] }

def listDel (tdm : Tdm F T) (t : T) (f : F) : Tdm F T :=
  tdm.setStream t { tdm.stream t with formatterList := (tdm.stream t).formatterList.erase f }

def tdmFormatterAttach (tdm : Tdm F T) (f : F) (t : T) : Int32 × Tdm F T :=
  checked (if (tdm.stream t).ready then tdmFormatterEnable tdm f else (0, tdm)) id fun tdm =>
  (0, listAddTail tdm t f)

def tdmFormatterDettach (tdm : Tdm F T) (f : F) (t : T) : Tdm F T :=
  tdmFormatterDisable (listDel tdm t f) f

def axgTdmFormatterPowerUp (tdm : Tdm F T) (f : F) (t : T) : Int32 × Tdm F T :=
  if (tdm.formatter f).powerup then (0, tdm)
  else
    let undo (tdm : Tdm F T) : Tdm F T := clkDisableUnprepare tdm f .pclk
    checked (clkPrepareEnable tdm f .pclk) id fun tdm =>
    -- the two clk_set_parent calls
    checked tdm.call undo fun tdm =>
    checked tdm.call undo fun tdm =>
    let tdm := tdm.setFormatter f { tdm.formatter f with stream := some t }
    checked (tdmFormatterAttach tdm f t) undo fun tdm =>
    (0, tdm.setFormatter f { tdm.formatter f with powerup := true })

def axgTdmFormatterPowerDown (tdm : Tdm F T) (f : F) : Tdm F T :=
  if !(tdm.formatter f).powerup then tdm
  else
    match (tdm.formatter f).stream with
    | none => tdm
    | some t =>
      let tdm := clkDisableUnprepare (tdmFormatterDettach tdm f t) f .pclk
      tdm.setFormatter f { tdm.formatter f with stream := none, powerup := false }

-- The list_for_each_entry loops of axg_tdm_stream_start and axg_tdm_stream_stop.
def startFormatters (tdm : Tdm F T) : List F → Int32 × Tdm F T
  | [] => (0, tdm)
  | f :: rest => checked (tdmFormatterEnable tdm f) id fun tdm => startFormatters tdm rest

def axgTdmStreamStart (tdm : Tdm F T) (t : T) : Int32 × Tdm F T :=
  let tdm := tdm.setStream t { tdm.stream t with ready := true }
  startFormatters tdm (tdm.stream t).formatterList

def axgTdmStreamStop (tdm : Tdm F T) (t : T) : Tdm F T :=
  let tdm := tdm.setStream t { tdm.stream t with ready := false }
  (tdm.stream t).formatterList.foldl tdmFormatterDisable tdm

def axgTdmStreamReset (tdm : Tdm F T) (t : T) : Int32 × Tdm F T :=
  axgTdmStreamStart (axgTdmStreamStop tdm t) t

inductive TdmCall (F T : Type) where
  | powerUp (f : F) (t : T)
  | powerDown (f : F)
  | start (t : T)
  | stop (t : T)

def Tdm.step (tdm : Tdm F T) : TdmCall F T × List Int32 → Int32 × Tdm F T
  | (.powerUp f t, outcomes) => axgTdmFormatterPowerUp { tdm with outcomes := outcomes } f t
  | (.powerDown f, outcomes) => (0, axgTdmFormatterPowerDown { tdm with outcomes := outcomes } f)
  | (.start t, outcomes) => axgTdmStreamStart { tdm with outcomes := outcomes } t
  | (.stop t, outcomes) => (0, axgTdmStreamStop { tdm with outcomes := outcomes } t)

end UnionpiTiger.Audio
