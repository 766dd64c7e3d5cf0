import UnionpiTiger.Audio.Mclk

set_option autoImplicit false

namespace UnionpiTiger.Audio

open Lib

inductive FifoReg where
  | ctrl0
  | ctrl1
  | startAddr
  | finishAddr
  | intAddr
  | status1
  | status2
  | initAddr
  | ctrl2
deriving DecidableEq, Repr

inductive RegOp where
  | updateBits (reg : FifoReg) (mask val : UInt32)
  | write (reg : FifoReg) (val : UInt32)
  | writeThreshold (val : UInt32)
  | read (reg : FifoReg)
deriving DecidableEq, Repr

structure Access where
  op : RegOp
  pclk : Int
deriving DecidableEq, Repr

structure AxgFifo where
  depth : UInt32
  dmaAddr : UInt64
  dmaArea : UInt64
  isFrddr : Bool
  isG12a : Bool
  dmaCirSize : UInt64 := 0
  pcmOpened : Bool := false
  pclk : Int := 0
  irqs : Int := 0
  log : List Access := []

def bit (n : UInt32) : UInt32 := (1 : UInt32) <<< n

def axgFifoBurst : UInt32 := 8
def fifoIntCountRepeat : UInt32 := bit 2
def fifoIntMask : UInt32 := 0xff
def ctrl0DmaEn : UInt32 := bit 31
def ctrl0IntEn (x : UInt32) : UInt32 := x <<< 16
def ctrl1IntClr (x : UInt32) : UInt32 := x
def ctrl1Status2SelMask : UInt32 := 0xf00
def ctrl1Status2Sel (x : UInt32) : UInt32 := x <<< 8
def status2SelDdrRead : UInt32 := 0
def ctrl0FrddrPpMode : UInt32 := bit 30
def ctrl1FrddrForceFinish : UInt32 := bit 12
def ctrl1FrddrDepthMask : UInt32 := 0xff000000
def ctrl1FrddrDepth (x : UInt32) : UInt32 := x <<< 24
def ctrl0ToddrSelResample : UInt32 := bit 30
def ctrl0ToddrExtSigned : UInt32 := bit 29
def ctrl0ToddrPpMode : UInt32 := bit 28
def ctrl0ToddrSyncCh : UInt32 := bit 27
def ctrl0ToddrTypeMask : UInt32 := 0xe000
def ctrl0ToddrType (x : UInt32) : UInt32 := x <<< 13
def ctrl0ToddrMsbPosMask : UInt32 := 0x1f00
def ctrl0ToddrMsbPos (x : UInt32) : UInt32 := x <<< 8
def ctrl0ToddrLsbPosMask : UInt32 := 0xf8
def ctrl0ToddrLsbPos (x : UInt32) : UInt32 := x <<< 3
def ctrl1ToddrForceFinish : UInt32 := bit 25
def toddrMsbPos : UInt32 := 31

def einval : Int32 := 22

namespace AxgFifo

def access (fifo : AxgFifo) (op : RegOp) : AxgFifo :=
  { fifo with log := fifo.log ++ [{ op := op, pclk := fifo.pclk }] }

def regmapUpdateBits (fifo : AxgFifo) (reg : FifoReg) (mask val : UInt32) : AxgFifo :=
  fifo.access (.updateBits reg mask val)

def regmapWrite (fifo : AxgFifo) (reg : FifoReg) (val : UInt32) : AxgFifo :=
  fifo.access (.write reg val)

def regmapFieldWrite (fifo : AxgFifo) (val : UInt32) : AxgFifo := fifo.access (.writeThreshold val)

def requestIrq (fifo : AxgFifo) (ret : Int32) : AxgFifo :=
  { fifo with irqs := if ret = 0 then fifo.irqs + 1 else fifo.irqs }

def freeIrq (fifo : AxgFifo) : AxgFifo := { fifo with irqs := fifo.irqs - 1 }

def clkPrepareEnable (fifo : AxgFifo) (ret : Int32) : AxgFifo :=
  { fifo with pclk := if ret = 0 then fifo.pclk + 1 else fifo.pclk }

def clkDisableUnprepare (fifo : AxgFifo) : AxgFifo := { fifo with pclk := fifo.pclk - 1 }

def dmaEnable (fifo : AxgFifo) (enable : Bool) : AxgFifo :=
  fifo.regmapUpdateBits .ctrl0 ctrl0DmaEn (if enable then ctrl0DmaEn else 0)

-- frddr_pointer_reset and toddr_pointer_reset, by the bit that forces the finish.
def pointerReset (fifo : AxgFifo) (forceFinish : UInt32) : AxgFifo :=
  if !fifo.isG12a then fifo
  else
    ((fifo.regmapUpdateBits .ctrl1 forceFinish 0).regmapUpdateBits
      .ctrl1 forceFinish forceFinish).regmapUpdateBits .ctrl1 forceFinish 0

def frddrPointerReset (fifo : AxgFifo) : Int32 × AxgFifo :=
  (0, fifo.pointerReset ctrl1FrddrForceFinish)

def toddrPointerReset (fifo : AxgFifo) : Int32 × AxgFifo :=
  (0, fifo.pointerReset ctrl1ToddrForceFinish)

def frddrDaiStartup (fifo : AxgFifo) : Int32 × AxgFifo :=
  let val := fifo.depth / axgFifoBurst - 1
  let fifo := fifo.regmapUpdateBits .ctrl0 ctrl0FrddrPpMode 0
  (0, fifo.regmapUpdateBits .ctrl1 ctrl1FrddrDepthMask (ctrl1FrddrDepth val))

def toddrDaiStartup (fifo : AxgFifo) : Int32 × AxgFifo :=
  let fifo := fifo.regmapUpdateBits .ctrl0 ctrl0ToddrSelResample 0
  let fifo := fifo.regmapUpdateBits .ctrl0 ctrl0ToddrExtSigned ctrl0ToddrExtSigned
  let fifo := fifo.regmapUpdateBits .ctrl0 ctrl0ToddrPpMode 0
  (0, if fifo.isG12a then fifo.regmapUpdateBits .ctrl0 ctrl0ToddrSyncCh ctrl0ToddrSyncCh else fifo)

def toddrType (physWidth : UInt32) : Option UInt32 :=
  if physWidth = 8 then some 0
  else if physWidth = 16 then some 2
  else if physWidth = 32 then some 4
  else none

def toddrDaiHwParams (fifo : AxgFifo) (bitWidth physWidth : UInt32) : Int32 × AxgFifo :=
  match toddrType physWidth with
  | none => (-einval, fifo)
  | some type =>
    (0, fifo.regmapUpdateBits .ctrl0
      (ctrl0ToddrTypeMask ||| ctrl0ToddrMsbPosMask ||| ctrl0ToddrLsbPosMask)
      (ctrl0ToddrType type ||| ctrl0ToddrMsbPos toddrMsbPos |||
        ctrl0ToddrLsbPos (toddrMsbPos - (bitWidth - 1))))

def pcmPointer (fifo : AxgFifo) (addr : UInt32) : UInt32 × AxgFifo :=
  if !fifo.pcmOpened then (0, fifo)
  else
    (if addr.toUInt64 > fifo.dmaAddr then (addr.toUInt64 - fifo.dmaAddr).toUInt32 else 0,
      fifo.access (.read .status2))

-- The registers pcm_hw_params sets: the DMA pointers, the interrupt periodicity and the threshold.
def hwParamsRegisters (fifo : AxgFifo) (period cirBufSize : UInt32) : AxgFifo :=
  let endPtr := fifo.dmaAddr + cirBufSize.toUInt64 - axgFifoBurst.toUInt64
  let threshold := min (period / 2) (fifo.depth / 2) / axgFifoBurst
  let fifo := fifo.regmapWrite .startAddr fifo.dmaAddr.toUInt32
  let fifo := fifo.regmapWrite .finishAddr endPtr.toUInt32
  let fifo := fifo.regmapWrite .intAddr (period / axgFifoBurst)
  let fifo := fifo.regmapFieldWrite (if threshold ≠ 0 then threshold - 1 else 0)
  let fifo := fifo.regmapUpdateBits .ctrl0 (ctrl0IntEn fifoIntCountRepeat)
    (ctrl0IntEn fifoIntCountRepeat)
  if fifo.isG12a then fifo.regmapWrite .initAddr fifo.dmaAddr.toUInt32 else fifo

def pcmHwParams (fifo : AxgFifo) (period cirBufSize : UInt32) : Int32 × AxgFifo :=
  if !fifo.pcmOpened then (-1, fifo)
  else if cirBufSize.toUInt64 > fifo.dmaArea then (-einval, fifo)
  else (0, { fifo.hwParamsRegisters period cirBufSize with dmaCirSize := cirBufSize.toUInt64 })

def pcmHwFree (fifo : AxgFifo) : Int32 × AxgFifo :=
  (0, fifo.regmapUpdateBits .ctrl0 (ctrl0IntEn fifoIntCountRepeat) 0)

def pcmPrepare (fifo : AxgFifo) : Int32 × AxgFifo :=
  if !fifo.pcmOpened then (-1, fifo)
  else if fifo.isFrddr then fifo.frddrPointerReset
  else fifo.toddrPointerReset

def ackIrq (fifo : AxgFifo) (mask : UInt32) : AxgFifo :=
  (fifo.regmapUpdateBits .ctrl1 (ctrl1IntClr fifoIntMask) (ctrl1IntClr mask)).regmapUpdateBits
    .ctrl1 (ctrl1IntClr fifoIntMask) 0

def daiHwParams (fifo : AxgFifo) (bitWidth physWidth : UInt32) : Int32 × AxgFifo :=
  if !fifo.pcmOpened then (-1, fifo)
  else if fifo.isFrddr then (0, fifo)
  else fifo.toddrDaiHwParams bitWidth physWidth

-- What request_irq, clk_prepare_enable and reset_control_deassert return.
structure OpenOutcomes where
  requestIrq : Int32 := 0
  clkPrepareEnable : Int32 := 0
  resetControlDeassert : Int32 := 0

-- The registers pcm_open sets before it takes the arbitror out of reset.
def openRegisters (fifo : AxgFifo) : AxgFifo :=
  let fifo := fifo.regmapUpdateBits .ctrl1 ctrl1Status2SelMask (ctrl1Status2Sel status2SelDdrRead)
  let fifo := fifo.dmaEnable false
  let fifo := fifo.regmapUpdateBits .ctrl0 (ctrl0IntEn fifoIntMask) 0
  fifo.ackIrq fifoIntMask

def daiStartup (fifo : AxgFifo) : Int32 × AxgFifo :=
  if fifo.isFrddr then fifo.frddrDaiStartup else fifo.toddrDaiStartup

def pcmOpen (fifo : AxgFifo) (outcomes : OpenOutcomes) : Int32 × AxgFifo :=
  if fifo.pcmOpened then (0, fifo)
  else
    let fifo := fifo.requestIrq outcomes.requestIrq
    if outcomes.requestIrq ≠ 0 then (outcomes.requestIrq, fifo)
    else
      let fifo := fifo.clkPrepareEnable outcomes.clkPrepareEnable
      if outcomes.clkPrepareEnable ≠ 0 then (outcomes.clkPrepareEnable, fifo.freeIrq)
      else
        let fifo := fifo.openRegisters
        if outcomes.resetControlDeassert ≠ 0 then
          (outcomes.resetControlDeassert, fifo.clkDisableUnprepare.freeIrq)
        else
          let (ret, fifo) := fifo.daiStartup
          if ret ≠ 0 then (ret, fifo.clkDisableUnprepare.freeIrq)
          else (0, { fifo with pcmOpened := true })

def pcmClose (fifo : AxgFifo) (resetControlAssert : Int32) : Int32 × AxgFifo :=
  if !fifo.pcmOpened then (0, fifo)
  else (resetControlAssert, { fifo.clkDisableUnprepare.freeIrq with pcmOpened := false })

def pcmEnable (fifo : AxgFifo) (enable : Bool) : Int32 × AxgFifo :=
  if !fifo.pcmOpened then (-1, fifo) else (0, fifo.dmaEnable enable)

end AxgFifo

inductive AudioFormat where
  | pcm8Bit
  | pcm16Bit
  | pcm24Bit
  | pcm32Bit
  | other
deriving DecidableEq, Repr

def formatToBitWidth : AudioFormat → Option (UInt32 × UInt32)
  | .pcm32Bit => some (32, 32)
  | .pcm24Bit => some (24, 32)
  | .pcm16Bit => some (16, 16)
  | .pcm8Bit => some (8, 8)
  | .other => none

structure AudioPcmHwParams where
  streamType : IfaceStream
  format : AudioFormat
  channels : UInt32
  rate : UInt32

structure PcmInfo where
  channels : UInt32 := 0
  bitWidth : UInt32 := 0
  rate : UInt32 := 0
  streamType : IfaceStream := .capture
deriving DecidableEq, Repr

-- g_fifoDev and the pcmInfo of the DAI's data.
structure AudioDevice where
  fifoDev : IfaceStream → AxgFifo
  pcmInfo : PcmInfo := {}

structure HwParamsOutcomes where
  resetControlAssert : Int32 := 0
  opens : AxgFifo.OpenOutcomes := {}
  tdmIfaceHwParams : Int32 := 0

namespace AudioDevice

def setFifo (device : AudioDevice) (stream : IfaceStream) (fifo : AxgFifo) : AudioDevice :=
  { device with fifoDev := Function.update device.fifoDev stream fifo }

-- A missing card, DAI or parameter is `none`.
def a311dDaiHwParams (device : AudioDevice) (param : Option AudioPcmHwParams)
    (outcomes : HwParamsOutcomes) : Int32 × AudioDevice :=
  match param with
  | none => (hdfFailure, device)
  | some param =>
    match formatToBitWidth param.format with
    | none => (hdfFailure, device)
    | some (bitWidth, phyBitWidth) =>
      let (closed, fifo) :=
        (device.fifoDev param.streamType).pcmClose outcomes.resetControlAssert
      let (opened, fifo) := fifo.pcmOpen outcomes.opens
      if closed ||| opened ≠ 0 then (hdfFailure, device.setFifo param.streamType fifo)
      else
        let (ret, fifo) := fifo.daiHwParams bitWidth phyBitWidth
        let device := device.setFifo param.streamType fifo
        if ret ≠ 0 ∨ outcomes.tdmIfaceHwParams ≠ 0 then (hdfFailure, device)
        else
          (0, { device with pcmInfo :=
            { channels := param.channels
              bitWidth := bitWidth
              rate := param.rate
              streamType := param.streamType } })

def a311dAudioDmaConfigChannel (device : AudioDevice) (stream : IfaceStream)
    (period cirBufSize : UInt32) : Int32 × AudioDevice :=
  let fifo := (device.fifoDev stream).pcmHwFree.2
  let (ret, fifo) := fifo.pcmHwParams period cirBufSize
  (if ret ≠ 0 then hdfFailure else 0, device.setFifo stream fifo)

def bytesToFrames (frameBytes size : UInt32) : UInt32 :=
  if frameBytes = 0 then 0 else size / frameBytes

def a311dAudioDmaPointer (device : AudioDevice) (stream : IfaceStream) (frameSize addr : UInt32) :
    UInt32 × AudioDevice :=
  let (currentPointer, fifo) := (device.fifoDev stream).pcmPointer addr
  (bytesToFrames frameSize currentPointer, device.setFifo stream fifo)

def a311dAudioDmaSubmit (device : AudioDevice) (stream : IfaceStream) : Int32 × AudioDevice :=
  let (ret, fifo) := (device.fifoDev stream).pcmPrepare
  (ret, device.setFifo stream fifo)

def enableStream (device : AudioDevice) (stream : IfaceStream) (enable : Bool) :
    Int32 × AudioDevice :=
  let (ret, fifo) := (device.fifoDev stream).pcmEnable enable
  (ret, device.setFifo stream fifo)

def a311dAudioDmaPending (device : AudioDevice) (stream : IfaceStream) : Int32 × AudioDevice :=
  device.enableStream stream true

def a311dAudioDmaPause (device : AudioDevice) (stream : IfaceStream) : Int32 × AudioDevice :=
  device.enableStream stream false

def a311dAudioDmaResume (device : AudioDevice) (stream : IfaceStream) : Int32 × AudioDevice :=
  device.enableStream stream true

end AudioDevice

inductive AudioCall where
  | hwParams (param : Option AudioPcmHwParams) (outcomes : HwParamsOutcomes)
  | configChannel (stream : IfaceStream) (period cirBufSize : UInt32)
  | submit (stream : IfaceStream)
  | pending (stream : IfaceStream)
  | pause (stream : IfaceStream)
  | resume (stream : IfaceStream)
  | pointer (stream : IfaceStream) (frameSize addr : UInt32)

def AudioDevice.step (device : AudioDevice) : AudioCall → AudioDevice
  | .hwParams param outcomes => (device.a311dDaiHwParams param outcomes).2
  | .configChannel stream period cirBufSize =>
    (device.a311dAudioDmaConfigChannel stream period cirBufSize).2
  | .submit stream => (device.a311dAudioDmaSubmit stream).2
  | .pending stream => (device.a311dAudioDmaPending stream).2
  | .pause stream => (device.a311dAudioDmaPause stream).2
  | .resume stream => (device.a311dAudioDmaResume stream).2
  | .pointer stream frameSize addr => (device.a311dAudioDmaPointer stream frameSize addr).2

end UnionpiTiger.Audio
