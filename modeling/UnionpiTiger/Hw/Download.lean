import UnionpiTiger.Coex.VendorCmd

set_option autoImplicit false

namespace UnionpiTiger.Hw

open Coex

inductive HwCfgState where
  | idle
  | h5Init
  | readLocalVer
  | readEcoVer
  | readChipType
  | start
  | setUartBaudHost
  | setUartBaudController
  | setUartHwFlowControl
  | dlFwPatch
deriving DecidableEq, Repr

inductive OpResult where
  | success
  | fail
deriving DecidableEq, Repr

-- A call of `hci_download_patch_h4`: the index byte, and the bytes of `total_buf` it copies.
structure Fragment where
  index : UInt8
  offset : Nat
  len : Nat
  data : List UInt8
deriving DecidableEq, Repr

-- `hw_cfg_cb`. `fragments` lists the calls of `hci_download_patch_h4`, `commands` every command
-- given to `xmit_cb` and `initCb` what the host is told about the configuration.
structure HwCfgCb where
  maxPatchSize : Nat := 0
  baudrate : UInt32 := 0
  lmpSubversion : UInt16 := 0
  state : HwCfgState := .idle
  eversion : UInt8 := 0
  hciVersion : UInt8 := 0
  hciRevision : UInt8 := 0
  chipType : UInt8 := 0
  dlFwFlag : Bool := false
  fwLen : Nat := 0
  configLen : Nat := 0
  totalLen : Nat := 0
  totalBuf : List UInt8 := []
  patchFragCnt : UInt8 := 0
  patchFragIdx : UInt8 := 0
  patchFragLen : UInt8 := 0
  patchFragTail : UInt8 := 0
  hwFlowCntrl : UInt8 := 0
  fragments : List Fragment := []
  commands : List (List UInt8) := []
  initCb : List OpResult := []
deriving DecidableEq, Repr

-- What loading the config and firmware files leaves in `hw_cfg_cb`.
structure Loaded where
  maxPatchSize : Nat
  baudrate : UInt32
  hwFlowCntrl : UInt8
  dlFwFlag : Bool
  fwLen : Nat
  configLen : Nat
  totalBuf : List UInt8
deriving DecidableEq, Repr

-- The patch table and the files: `checkMatchState` counts the matching entries (with the chip type
-- if the flag is set), and `load` is `get_patch_entry` with the loading of its files.
structure PatchFiles where
  checkMatchState : HwCfgCb → Bool → Nat
  load : HwCfgCb → Option Loaded
  autoRestart : Bool

-- A call of `hw_config_cback`, with the outcome of the `alloc` and `xmit_cb` callbacks.
structure HwEvent where
  evtBuf : Option (List UInt8)
  alloc : Bool
  xmit : Bool
deriving DecidableEq, Repr

def hciEvtCmdCmplStatusOffset : Nat := 5

def HwEvent.status (event : HwEvent) : UInt8 :=
  match event.evtBuf with
  | none => 0
  | some mem => mem.getD hciEvtCmdCmplStatusOffset 0

def HwEvent.opcode (event : HwEvent) : UInt16 :=
  match event.evtBuf with
  | none => 0
  | some mem => streamToUint16 mem hciEvtCmdCmplOpcode

def patchDataFieldMaxSize : Nat := 252

def uint16ToStream (value : UInt16) : List UInt8 := [value.toUInt8, (value >>> 8).toUInt8]

def uint32ToStream (value : UInt32) : List UInt8 :=
  [value.toUInt8, (value >>> 8).toUInt8, (value >>> 16).toUInt8, (value >>> 24).toUInt8]

def hciCommand (opcode : UInt16) (params : List UInt8) : List UInt8 :=
  uint16ToStream opcode ++ [params.length.toUInt8] ++ params

def sendCommand (cfg : HwCfgCb) (opcode : UInt16) (params : List UInt8) : HwCfgCb :=
  { cfg with commands := cfg.commands ++ [hciCommand opcode params] }

def hciDownloadPatchH4 (cfg : HwCfgCb) (event : HwEvent) (index : UInt8) (offset : Nat)
    (len : UInt8) : Bool × HwCfgCb :=
  let data := (cfg.totalBuf.drop offset).take len.toNat
  let cfg := sendCommand cfg hciVscDownloadFwPatch (index :: data)
  (event.xmit,
    { cfg with
      state := .dlFwPatch
      fragments := cfg.fragments ++
        [{ index := index, offset := offset, len := len.toNat, data := data }] })

-- The index byte and the length of the fragment at `patch_frag_idx`. Beyond the last fragment the
-- code sends what it received, with the length of the fragment before.
def nextFragment (cfg : HwCfgCb) (indexRx : UInt8) : UInt8 × UInt8 :=
  if cfg.patchFragIdx < cfg.patchFragCnt then
    let index := if cfg.patchFragIdx ≠ 0 then (cfg.patchFragIdx - 1) % 0x7F + 1 else 0
    if cfg.patchFragIdx.toNat + 1 = cfg.patchFragCnt.toNat then
      (index ||| 0x80, cfg.patchFragTail)
    else (index &&& 0x7F, patchDataFieldMaxSize.toUInt8)
  else (indexRx, cfg.patchFragLen)

def sendFragment (cfg : HwCfgCb) (event : HwEvent) (indexRx : UInt8) : Bool × HwCfgCb :=
  let (index, len) := nextFragment cfg indexRx
  hciDownloadPatchH4 { cfg with patchFragLen := len } event index
    (cfg.patchFragIdx.toNat * patchDataFieldMaxSize) len

def downloadFw (cfg : HwCfgCb) (event : HwEvent) : Bool × HwCfgCb :=
  if event.opcode = hciVscDownloadFwPatch then
    let indexRx := (event.evtBuf.getD []).getD (hciEvtCmdCmplStatusOffset + 1) 0
    let cfg := { cfg with patchFragIdx := cfg.patchFragIdx + 1 }
    if indexRx &&& 0x80 ≠ 0 then
      (true,
        { cfg with
          totalBuf := []
          totalLen := 0
          initCb := cfg.initCb ++ [.success]
          state := .idle })
    else sendFragment cfg event indexRx
  else sendFragment cfg event 0

def setHwFlowControl (cfg : HwCfgCb) (event : HwEvent) : Bool × HwCfgCb :=
  downloadFw { cfg with state := .dlFwPatch } event

def setUartBaudHost (cfg : HwCfgCb) (event : HwEvent) : Bool × HwCfgCb :=
  if cfg.hwFlowCntrl &&& 0x80 = 0 then downloadFw cfg event else setHwFlowControl cfg event

def setUartBaudController (cfg : HwCfgCb) (event : HwEvent) : Bool × HwCfgCb :=
  (event.xmit,
    sendCommand { cfg with state := .setUartBaudHost } hciVscUpdateBaudrate
      (uint32ToStream cfg.baudrate))

def cfgLoad (cfg : HwCfgCb) (loaded : Loaded) : HwCfgCb :=
  { cfg with
    maxPatchSize := loaded.maxPatchSize
    baudrate := loaded.baudrate
    hwFlowCntrl := loaded.hwFlowCntrl
    dlFwFlag := loaded.dlFwFlag
    fwLen := loaded.fwLen
    configLen := loaded.configLen
    totalBuf := loaded.totalBuf
    totalLen := loaded.totalBuf.length }

def fragCnt (totalLen : Nat) : UInt8 :=
  let cnt := (totalLen / patchDataFieldMaxSize).toUInt8
  if (totalLen % patchDataFieldMaxSize).toUInt8 ≠ 0 then cnt + 1 else cnt

def fragTail (totalLen : Nat) : UInt8 :=
  let tail := (totalLen % patchDataFieldMaxSize).toUInt8
  if tail ≠ 0 then tail else patchDataFieldMaxSize.toUInt8

def cfgFragments (cfg : HwCfgCb) : HwCfgCb :=
  { cfg with
    patchFragCnt := fragCnt cfg.totalLen
    patchFragTail := fragTail cfg.totalLen }

def cfgStart (files : PatchFiles) (cfg : HwCfgCb) (event : HwEvent) : Bool × HwCfgCb :=
  match files.load cfg with
  | none => (false, cfg)
  | some loaded =>
    let cfg := cfgLoad cfg loaded
    if cfg.totalLen > cfg.maxPatchSize then (false, cfg)
    else if cfg.totalLen > 0 ∧ cfg.dlFwFlag then
      let cfg := cfgFragments cfg
      if cfg.baudrate = 0 ∧ cfg.hwFlowCntrl &&& 0x80 = 0 then downloadFw cfg event
      else if cfg.baudrate = 0 then setHwFlowControl cfg event
      else setUartBaudController cfg event
    else (false, cfg)

def lmpsubversion8723a : UInt16 := 0x1200

def readLocalVer (files : PatchFiles) (cfg : HwCfgCb) (event : HwEvent) : Bool × HwCfgCb :=
  match event.evtBuf with
  | none => (false, cfg)
  | some mem =>
    if event.status ≠ 0 then (false, cfg)
    else
      let cfg :=
        { cfg with
          hciVersion := (streamToUint16 mem 6).toUInt8
          hciRevision := (streamToUint16 mem 7).toUInt8
          lmpSubversion := streamToUint16 mem 12 }
      if cfg.lmpSubversion = lmpsubversion8723a then
        cfgStart files { cfg with state := .start } event
      else (event.xmit, sendCommand { cfg with state := .readEcoVer } hciVscReadRomVersion [])

def readEcoVer (files : PatchFiles) (cfg : HwCfgCb) (event : HwEvent) : Bool × HwCfgCb :=
  let matched (cfg : HwCfgCb) : Bool × HwCfgCb :=
    if files.checkMatchState cfg false > 1 then
      (event.xmit, sendCommand { cfg with state := .readChipType } hciVscReadChipType
        ([0] ++ uint32ToStream 0xB000A094))
    else cfgStart files { cfg with state := .start } event
  match event.evtBuf, event.status with
  | some mem, 0 => matched { cfg with eversion := mem.getD 6 0 }
  | _, 1 => matched { cfg with eversion := 0 }
  | _, _ => (false, cfg)

def readChipType (files : PatchFiles) (cfg : HwCfgCb) (event : HwEvent) : Bool × HwCfgCb :=
  match event.evtBuf with
  | none => (false, cfg)
  | some mem =>
    if event.status ≠ 0 then (false, cfg)
    else
      let cfg := { cfg with chipType := mem.getD 6 0 &&& 0x0F }
      if files.checkMatchState cfg true > 1 then (false, cfg)
      else cfgStart files { cfg with state := .start } event

def hwConfigSwitch (files : PatchFiles) (cfg : HwCfgCb) (event : HwEvent) : Bool × HwCfgCb :=
  match cfg.state with
  | .h5Init => (event.xmit, sendCommand { cfg with state := .readLocalVer } hciReadLmpVersion [])
  | .readLocalVer => readLocalVer files cfg event
  | .readEcoVer => readEcoVer files cfg event
  | .readChipType => readChipType files cfg event
  | .start => cfgStart files cfg event
  | .setUartBaudController => setUartBaudController cfg event
  | .setUartBaudHost => setUartBaudHost cfg event
  | .setUartHwFlowControl => setHwFlowControl cfg event
  | .dlFwPatch => downloadFw cfg event
  | .idle => (false, cfg)

def hwConfigAbort (cfg : HwCfgCb) : HwCfgCb :=
  { cfg with
    initCb := cfg.initCb ++ [.fail]
    configLen := 0
    fwLen := 0
    totalBuf := if cfg.totalLen ≠ 0 then [] else cfg.totalBuf
    totalLen := 0
    state := .idle }

def hwConfigEnd : Bool × HwCfgCb → HwCfgCb
  | (true, cfg) => cfg
  | (false, cfg) => hwConfigAbort cfg

def hwConfigCback (files : PatchFiles) (cfg : HwCfgCb) (event : HwEvent) : HwCfgCb :=
  if event.opcode = hciVscH5Init ∧ event.status ≠ 0 then
    if files.autoRestart then { cfg with initCb := cfg.initCb ++ [.fail] } else cfg
  else if (event.status = 0 ∨ event.opcode = hciVscReadRomVersion) ∧ event.alloc then
    hwConfigEnd (hwConfigSwitch files cfg event)
  else hwConfigAbort cfg

def rtkbtTransH4 : UInt8 := 0x20

def hwConfigStart (transtype : UInt8) (alloc : Bool) : HwCfgCb :=
  let cfg : HwCfgCb := { dlFwFlag := true, chipType := 0x1F }
  if !alloc then { cfg with initCb := [.fail] }
  else if transtype &&& rtkbtTransH4 ≠ 0 then
    sendCommand { cfg with state := .readLocalVer } hciReadLmpVersion []
  else sendCommand { cfg with state := .h5Init } hciVscH5Init []

end UnionpiTiger.Hw

namespace UnionpiTiger.Hw

open Coex Lib

def maxImage : Nat := 40 * 1024

def fragmentCount (length : Nat) : Nat := (length + 251) / 252

def fragmentIndex (count number : Nat) : Nat :=
  (if number ≤ 127 then number else number - 127) + if number + 1 = count then 0x80 else 0

def fragmentData (image : List UInt8) (number : Nat) : List UInt8 :=
  (image.drop (number * 252)).take 252

def fragmentOf (image : List UInt8) (number : Nat) : Fragment :=
  { index := (fragmentIndex (fragmentCount image.length) number).toUInt8
    offset := number * 252
    len := (fragmentData image number).length
    data := fragmentData image number }

theorem flatten_fragments (image : List UInt8) (count : Nat) :
    ((List.range count).map (fragmentData image)).flatten = image.take (count * 252) := by
  induction count with
  | zero => simp
  | succ count ih =>
    have next : (count + 1) * 252 = count * 252 + 252 := by omega
    rw [List.range_succ, List.map_append, List.flatten_append, ih, next, List.take_add]
    simp [fragmentData]

structure Assembled (cfg : HwCfgCb) : Prop where
  len : cfg.totalLen = cfg.totalBuf.length
  positive : 0 < cfg.totalLen
  cnt : cfg.patchFragCnt = fragCnt cfg.totalLen
  tail : cfg.patchFragTail = fragTail cfg.totalLen

variable {cfg : HwCfgCb} {event : HwEvent} {image : List UInt8} {number : Nat}

theorem Assembled.counts (assembled : Assembled cfg) (fits : cfg.totalBuf.length ≤ maxImage) :
    cfg.patchFragCnt.toNat = fragmentCount cfg.totalBuf.length ∧
    cfg.patchFragTail.toNat =
      cfg.totalBuf.length - (fragmentCount cfg.totalBuf.length - 1) * 252 := by
  have positive := assembled.positive
  rw [assembled.cnt, assembled.tail, assembled.len]
  rw [assembled.len] at positive
  unfold maxImage at fits
  have quotient : cfg.totalBuf.length / 252 < 163 := by omega
  have remainder : cfg.totalBuf.length % 252 < 252 := Nat.mod_lt _ (by decide)
  have zero : (cfg.totalBuf.length % 252).toUInt8 = 0 ↔ cfg.totalBuf.length % 252 = 0 := by
    rw [← UInt8.toNat_inj]
    simp only [Nat.toUInt8, UInt8.toNat_ofNat']
    have value : (0 : UInt8).toNat = 0 := rfl
    omega
  unfold fragCnt fragTail fragmentCount patchDataFieldMaxSize
  by_cases exact : cfg.totalBuf.length % 252 = 0
  · simp only [zero.mpr exact, ne_eq, not_true_eq_false, if_false, Nat.toUInt8,
      UInt8.toNat_ofNat']
    omega
  · simp only [mt zero.mp exact, ne_eq, not_false_eq_true, if_true, Nat.toUInt8, UInt8.toNat_ofNat',
      UInt8.toNat_add]
    have one : (1 : UInt8).toNat = 1 := rfl
    omega

theorem index_bytes : ∀ number : Fin 163,
    ((if number.val.toUInt8 ≠ 0 then (number.val.toUInt8 - 1) % 0x7F + 1 else 0) ||| 0x80) =
      ((if number.val ≤ 127 then number.val else number.val - 127) + 0x80).toUInt8 ∧
    ((if number.val.toUInt8 ≠ 0 then (number.val.toUInt8 - 1) % 0x7F + 1 else 0) &&& 0x7F) =
      (if number.val ≤ 127 then number.val else number.val - 127).toUInt8 := by
  decide +kernel

theorem Assembled.nextFragment (assembled : Assembled cfg) (fits : cfg.totalBuf.length ≤ maxImage)
    (here : cfg.patchFragIdx.toNat = number) (more : number < fragmentCount cfg.totalBuf.length)
    (indexRx : UInt8) :
    nextFragment cfg indexRx = ((fragmentOf cfg.totalBuf number).index,
      (fragmentData cfg.totalBuf number).length.toUInt8) := by
  obtain ⟨cnt, tail⟩ := assembled.counts fits
  have positive := assembled.positive
  rw [assembled.len] at positive
  unfold maxImage at fits
  have bound : number < 163 := by
    unfold fragmentCount at more
    omega
  have below : cfg.patchFragIdx < cfg.patchFragCnt := by
    rw [UInt8.lt_iff_toNat_lt]
    omega
  have index : cfg.patchFragIdx = number.toUInt8 := by
    rw [← UInt8.toNat_inj, here]
    simp only [Nat.toUInt8, UInt8.toNat_ofNat']
    omega
  have bytes := index_bytes ⟨number, bound⟩
  simp only [← index] at bytes
  have length : (fragmentData cfg.totalBuf number).length =
      min 252 (cfg.totalBuf.length - number * 252) := by
    simp [fragmentData]
  simp only [Hw.nextFragment, below, if_true, here, cnt, fragmentOf, fragmentIndex]
  by_cases last : number + 1 = fragmentCount cfg.totalBuf.length
  · have tailByte : cfg.patchFragTail =
        (min 252 (cfg.totalBuf.length - number * 252)).toUInt8 := by
      rw [← UInt8.toNat_inj, tail, ← last]
      unfold fragmentCount at last
      simp only [Nat.toUInt8, UInt8.toNat_ofNat', Nat.add_sub_cancel]
      omega
    simp only [last, if_true]
    rw [bytes.1, length, tailByte]
  · simp only [last, if_false, Nat.add_zero]
    have full : min 252 (cfg.totalBuf.length - number * 252) = 252 := by
      unfold fragmentCount at more last
      omega
    rw [bytes.2, length, full]
    rfl

structure Downloading (image : List UInt8) (number : Nat) (cfg : HwCfgCb) : Prop where
  state : cfg.state = .dlFwPatch
  assembled : Assembled cfg
  buf : cfg.totalBuf = image
  idx : cfg.patchFragIdx.toNat = number
  more : number < fragmentCount image.length
  fragments : cfg.fragments = (List.range (number + 1)).map (fragmentOf image)

theorem fragmentData_length (image : List UInt8) (number : Nat) :
    (fragmentData image number).length = min 252 (image.length - number * 252) := by
  simp [fragmentData]

theorem fragmentData_byte (image : List UInt8) (number : Nat) :
    (fragmentData image number).length.toUInt8.toNat = (fragmentData image number).length := by
  have length := fragmentData_length image number
  simp only [Nat.toUInt8, UInt8.toNat_ofNat']
  omega

theorem take_fragmentData (image : List UInt8) (number : Nat) :
    (image.drop (number * 252)).take (fragmentData image number).length =
      fragmentData image number := by
  rw [fragmentData_length, fragmentData, ← List.take_take, ← List.length_drop, List.take_length]

theorem Assembled.sendFragment (assembled : Assembled cfg) (fits : cfg.totalBuf.length ≤ maxImage)
    (here : cfg.patchFragIdx.toNat = number) (more : number < fragmentCount cfg.totalBuf.length)
    (sent : cfg.fragments = (List.range number).map (fragmentOf cfg.totalBuf))
    (event : HwEvent) (indexRx : UInt8) :
    (sendFragment cfg event indexRx).1 = event.xmit ∧
      Downloading cfg.totalBuf number (sendFragment cfg event indexRx).2 ∧
      (sendFragment cfg event indexRx).2.initCb = cfg.initCb := by
  have next := assembled.nextFragment fits here more indexRx
  have last : (Hw.sendFragment cfg event indexRx).2.fragments =
      cfg.fragments ++ [fragmentOf cfg.totalBuf number] := by
    simp only [Hw.sendFragment, next, hciDownloadPatchH4, sendCommand, here, fragmentData_byte,
      patchDataFieldMaxSize, take_fragmentData, fragmentOf]
  refine ⟨rfl, ⟨rfl, { assembled with }, rfl, here, more, ?_⟩, rfl⟩
  rw [last, sent, List.range_succ, List.map_append, List.map_singleton]

def ackEvent (cfg : HwCfgCb) : HwEvent :=
  let index := (cfg.fragments.getLast?.map Fragment.index).getD 0
  { evtBuf := some [0x0E, 5, 1, 0x20, 0xFC, 0, index], alloc := true, xmit := true }

def acknowledged (files : PatchFiles) (cfg : HwCfgCb) : Nat → HwCfgCb
  | 0 => cfg
  | acks + 1 =>
    hwConfigCback files (acknowledged files cfg acks) (ackEvent (acknowledged files cfg acks))

theorem ackEvent_opcode (cfg : HwCfgCb) : (ackEvent cfg).opcode = hciVscDownloadFwPatch := by
  simp only [HwEvent.opcode, ackEvent, streamToUint16, hciEvtCmdCmplOpcode, List.getD_cons_succ,
    List.getD_cons_zero]
  decide

theorem hwConfigCback_downloading (files : PatchFiles) (state : cfg.state = .dlFwPatch) :
    hwConfigCback files cfg (ackEvent cfg) = hwConfigEnd (downloadFw cfg (ackEvent cfg)) := by
  have opcode : (ackEvent cfg).opcode ≠ hciVscH5Init := by
    rw [ackEvent_opcode]
    decide
  have status : (ackEvent cfg).status = 0 := rfl
  have alloc : (ackEvent cfg).alloc = true := rfl
  unfold hwConfigCback hwConfigSwitch
  simp [opcode, status, alloc, state]

theorem Downloading.index (downloading : Downloading image number cfg) :
    (ackEvent cfg).evtBuf.getD [] =
      [0x0E, 5, 1, 0x20, 0xFC, 0, (fragmentOf image number).index] := by
  simp [ackEvent, downloading.fragments, List.range_succ]

theorem index_end : ∀ number : Fin 163,
    ((if number.val ≤ 127 then number.val else number.val - 127) + 0x80).toUInt8 &&& 0x80 ≠ 0 ∧
    (if number.val ≤ 127 then number.val else number.val - 127).toUInt8 &&& 0x80 = 0 := by
  decide +kernel

theorem fragmentOf_end (image : List UInt8) (fits : image.length ≤ maxImage)
    (more : number < fragmentCount image.length) :
    (fragmentOf image number).index &&& 0x80 ≠ 0 ↔ number + 1 = fragmentCount image.length := by
  have bound : number < 163 := by
    unfold maxImage at fits
    unfold fragmentCount at more
    omega
  have flags := index_end ⟨number, bound⟩
  simp only [fragmentOf, fragmentIndex]
  by_cases last : number + 1 = fragmentCount image.length
  · simp only [last, if_true, iff_true]
    exact flags.1
  · simp only [last, if_false, iff_false, Nat.add_zero, ne_eq, not_not]
    exact flags.2

theorem Downloading.next (downloading : Downloading image number cfg)
    (fits : image.length ≤ maxImage) (files : PatchFiles)
    (inner : number + 1 < fragmentCount image.length) :
    Downloading image (number + 1) (hwConfigCback files cfg (ackEvent cfg)) ∧
      (hwConfigCback files cfg (ackEvent cfg)).initCb = cfg.initCb := by
  have notLast := mt (fragmentOf_end image fits downloading.more).mp (by omega)
  obtain rfl := downloading.buf
  have count : fragmentCount cfg.totalBuf.length ≤ 163 := by
    unfold maxImage at fits
    unfold fragmentCount
    omega
  have idx : ({ cfg with patchFragIdx := cfg.patchFragIdx + 1 } : HwCfgCb).patchFragIdx.toNat =
      number + 1 := by
    have here := downloading.idx
    have one : (1 : UInt8).toNat = 1 := rfl
    simp only [UInt8.toNat_add]
    omega
  have assembled : Assembled { cfg with patchFragIdx := cfg.patchFragIdx + 1 } :=
    { downloading.assembled with }
  obtain ⟨sent, next, reports⟩ := assembled.sendFragment fits idx inner downloading.fragments
    (ackEvent cfg) (fragmentOf cfg.totalBuf number).index
  rw [hwConfigCback_downloading files downloading.state]
  simp only [downloadFw, ackEvent_opcode, if_true, downloading.index, List.getD_cons_succ,
    List.getD_cons_zero, hciEvtCmdCmplStatusOffset]
  rw [if_neg notLast]
  have accepted : sendFragment { cfg with patchFragIdx := cfg.patchFragIdx + 1 } (ackEvent cfg)
      (fragmentOf cfg.totalBuf number).index = (true, (sendFragment
        { cfg with patchFragIdx := cfg.patchFragIdx + 1 } (ackEvent cfg)
        (fragmentOf cfg.totalBuf number).index).2) := Prod.ext sent rfl
  rw [accepted]
  exact ⟨next, reports⟩

theorem Downloading.finish (downloading : Downloading image number cfg)
    (fits : image.length ≤ maxImage) (files : PatchFiles)
    (last : number + 1 = fragmentCount image.length) :
    (hwConfigCback files cfg (ackEvent cfg)).state = .idle ∧
    (hwConfigCback files cfg (ackEvent cfg)).initCb = cfg.initCb ++ [.success] ∧
    (hwConfigCback files cfg (ackEvent cfg)).fragments = cfg.fragments := by
  have isLast := (fragmentOf_end image fits downloading.more).mpr last
  rw [hwConfigCback_downloading files downloading.state]
  simp only [downloadFw, ackEvent_opcode, if_true, downloading.index, List.getD_cons_succ,
    List.getD_cons_zero, hciEvtCmdCmplStatusOffset]
  rw [if_pos isLast]
  exact ⟨rfl, rfl, rfl⟩

theorem Downloading.acknowledged (downloading : Downloading image 0 cfg)
    (fits : image.length ≤ maxImage) (files : PatchFiles) (acks : Nat)
    (inner : acks < fragmentCount image.length) :
    Downloading image acks (acknowledged files cfg acks) ∧
      (acknowledged files cfg acks).initCb = cfg.initCb := by
  induction acks with
  | zero => exact ⟨downloading, rfl⟩
  | succ acks ih =>
    obtain ⟨sofar, reports⟩ := ih (by omega)
    obtain ⟨next, same⟩ := sofar.next fits files inner
    exact ⟨next, same.trans reports⟩

end UnionpiTiger.Hw
