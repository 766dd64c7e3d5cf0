import Mathlib.Logic.Function.Basic
import UnionpiTiger.Hw.Settings
import UnionpiTiger.Hw.Transfer

set_option autoImplicit false

namespace UnionpiTiger.Hw

open Coex Lib

structure Fragment.Inside (fragment : Fragment) (image : List UInt8) : Prop where
  within : fragment.offset + fragment.len ≤ image.length
  slice : fragment.data = (image.drop fragment.offset).take fragment.len

instance (fragment : Fragment) (image : List UInt8) : Decidable (fragment.Inside image) :=
  decidable_of_iff (fragment.offset + fragment.len ≤ image.length ∧
      fragment.data = (image.drop fragment.offset).take fragment.len)
    ⟨fun both => ⟨both.1, both.2⟩, fun inside => ⟨inside.within, inside.slice⟩⟩

structure InsideImage (image : List UInt8) (cfg : HwCfgCb) : Prop where
  fragments : ∀ fragment ∈ cfg.fragments, fragment.Inside image
  idx : cfg.patchFragIdx ≤ cfg.patchFragCnt

structure Transferring (image : List UInt8) (cfg : HwCfgCb) : Prop extends
    InsideImage image cfg where
  state : cfg.state = .dlFwPatch
  assembled : Assembled cfg
  buf : cfg.totalBuf = image
  more : cfg.patchFragIdx.toNat < fragmentCount image.length
  len : 0 < cfg.patchFragLen.toNat

structure Answers (event : HwEvent) : Prop where
  opcode : event.opcode = hciVscDownloadFwPatch
  status : event.status = 0
  alloc : event.alloc = true

def HwEvent.indexRx (event : HwEvent) : UInt8 :=
  (event.evtBuf.getD []).getD (hciEvtCmdCmplStatusOffset + 1) 0

def EndAnswered (cfg : HwCfgCb) (event : HwEvent) : Prop :=
  cfg.state = .dlFwPatch → Answers event →
    cfg.patchFragIdx.toNat + 1 = cfg.patchFragCnt.toNat → event.indexRx &&& 0x80 ≠ 0

variable {cfg : HwCfgCb} {event : HwEvent} {image : List UInt8} {number : Nat}

theorem fragmentOf_inside (image : List UInt8) (more : number < fragmentCount image.length) :
    (fragmentOf image number).Inside image := by
  have length := fragmentData_length image number
  constructor
  · simp only [fragmentOf]
    unfold fragmentCount at more
    omega
  · simp only [fragmentOf]
    exact (take_fragmentData image number).symm

inductive Downloads (cfg : HwCfgCb) (event : HwEvent) : HwCfgCb → Prop where
  | told (next : HwCfgCb) (initCb : List OpResult) (same : next = { cfg with initCb := initCb }) :
      Downloads cfg event next
  | aborts : Downloads cfg event (hwConfigAbort cfg)
  | ends (answers : Answers event) (flag : event.indexRx &&& 0x80 ≠ 0) (next : HwCfgCb)
      (idle : next.state = .idle) (fragments : next.fragments = cfg.fragments)
      (idx : next.patchFragIdx = cfg.patchFragIdx + 1)
      (cnt : next.patchFragCnt = cfg.patchFragCnt) : Downloads cfg event next
  | goesOn (answers : Answers event) (flag : event.indexRx &&& 0x80 = 0) :
      Downloads cfg event (hwConfigEnd (sendFragment
        { cfg with patchFragIdx := cfg.patchFragIdx + 1 } event event.indexRx))
  | again (other : event.opcode ≠ hciVscDownloadFwPatch) :
      Downloads cfg event (hwConfigEnd (sendFragment cfg event 0))

theorem hwConfigCback_downloads (files : PatchFiles) (state : cfg.state = .dlFwPatch)
    (event : HwEvent) : Downloads cfg event (hwConfigCback files cfg event) := by
  unfold hwConfigCback
  split_ifs with reset restart handled
  · exact .told _ _ rfl
  · exact .told cfg cfg.initCb rfl
  · simp only [hwConfigSwitch, state, downloadFw]
    split_ifs with opcode flag
    · have status := handled.1.resolve_right (by rw [opcode]; decide)
      exact .ends ⟨opcode, status, handled.2⟩ flag _ rfl rfl rfl rfl
    · have status := handled.1.resolve_right (by rw [opcode]; decide)
      exact .goesOn ⟨opcode, status, handled.2⟩ (not_not.mp flag)
    · exact .again opcode
  · exact .aborts

def Running (image : List UInt8) (cfg : HwCfgCb) : Prop :=
  Transferring image cfg ∨ InsideImage image cfg ∧ cfg.state = .idle

theorem Running.inside (running : Running image cfg) : InsideImage image cfg := by
  rcases running with transferring | ⟨inside, _⟩
  · exact transferring.toInsideImage
  · exact inside

theorem hwConfigAbort_running (inside : InsideImage image cfg) :
    Running image (hwConfigAbort cfg) := Or.inr ⟨{ inside with }, rfl⟩

theorem hwConfigEnd_running {result : Bool × HwCfgCb} (transferring : Transferring image result.2) :
    Running image (hwConfigEnd result) := by
  rcases result with ⟨_ | _, next⟩
  · exact hwConfigAbort_running transferring.toInsideImage
  · exact Or.inl transferring

theorem Assembled.transferring (assembled : Assembled cfg)
    (inside : ∀ fragment ∈ cfg.fragments, fragment.Inside image)
    (fits : image.length ≤ maxImage) (buf : cfg.totalBuf = image)
    (more : cfg.patchFragIdx.toNat < fragmentCount image.length) (event : HwEvent)
    (indexRx : UInt8) : Transferring image (Hw.sendFragment cfg event indexRx).2 := by
  subst buf
  have next := assembled.nextFragment fits rfl more indexRx
  have bytes := fragmentData_byte cfg.totalBuf cfg.patchFragIdx.toNat
  have length := fragmentData_length cfg.totalBuf cfg.patchFragIdx.toNat
  have cnt := (assembled.counts fits).1
  have last : (Hw.sendFragment cfg event indexRx).2.fragments =
      cfg.fragments ++ [fragmentOf cfg.totalBuf cfg.patchFragIdx.toNat] := by
    simp only [Hw.sendFragment, next, hciDownloadPatchH4, sendCommand, bytes, patchDataFieldMaxSize,
      take_fragmentData, fragmentOf]
  have len : (Hw.sendFragment cfg event indexRx).2.patchFragLen =
      (fragmentData cfg.totalBuf cfg.patchFragIdx.toNat).length.toUInt8 := by
    simp only [Hw.sendFragment, next, hciDownloadPatchH4, sendCommand]
  refine ⟨⟨?_, ?_⟩, rfl, { assembled with }, rfl, more, ?_⟩
  · intro fragment mem
    rw [last] at mem
    rcases List.mem_append.mp mem with early | new
    · exact inside fragment early
    · rw [List.mem_singleton.mp new]
      exact fragmentOf_inside cfg.totalBuf more
  · change cfg.patchFragIdx ≤ cfg.patchFragCnt
    rw [UInt8.le_iff_toNat_le, cnt]
    exact Nat.le_of_lt more
  · rw [len, bytes, length]
    unfold fragmentCount at more
    omega

theorem Transferring.idx_succ (transferring : Transferring image cfg)
    (fits : image.length ≤ maxImage) : (cfg.patchFragIdx + 1).toNat = cfg.patchFragIdx.toNat + 1 := by
  have more := transferring.more
  unfold fragmentCount at more
  unfold maxImage at fits
  have one : (1 : UInt8).toNat = 1 := rfl
  rw [UInt8.toNat_add]
  omega

theorem Transferring.step (transferring : Transferring image cfg) (fits : image.length ≤ maxImage)
    (files : PatchFiles) (answered : EndAnswered cfg event) :
    Running image (hwConfigCback files cfg event) := by
  have cnt := (transferring.assembled.counts (transferring.buf ▸ fits)).1
  rw [transferring.buf] at cnt
  have succ := transferring.idx_succ fits
  have more := transferring.more
  have downloads := hwConfigCback_downloads files transferring.state event
  generalize hwConfigCback files cfg event = next at downloads ⊢
  cases downloads with
  | told _ initCb same =>
    rw [same]
    exact Or.inl { transferring with assembled := { transferring.assembled with } }
  | aborts => exact hwConfigAbort_running transferring.toInsideImage
  | ends answers flag _ idle fragments idx count =>
    refine Or.inr ⟨⟨?_, ?_⟩, idle⟩
    · rw [fragments]
      exact transferring.fragments
    · rw [idx, count, UInt8.le_iff_toNat_le, succ, cnt]
      exact more
  | goesOn answers flag =>
    have inner : cfg.patchFragIdx.toNat + 1 ≠ cfg.patchFragCnt.toNat :=
      fun last => answered transferring.state answers last flag
    have assembled : Assembled { cfg with patchFragIdx := cfg.patchFragIdx + 1 } :=
      { transferring.assembled with }
    have inside : (cfg.patchFragIdx + 1).toNat < fragmentCount image.length := by omega
    exact hwConfigEnd_running (assembled.transferring transferring.fragments fits transferring.buf
      inside event event.indexRx)
  | again other =>
    exact hwConfigEnd_running (transferring.assembled.transferring transferring.fragments fits
      transferring.buf more event 0)

theorem hwConfigCback_goesOn (files : PatchFiles) (state : cfg.state = .dlFwPatch)
    (answers : Answers event) (flag : event.indexRx &&& 0x80 = 0) :
    hwConfigCback files cfg event = hwConfigEnd (sendFragment
      { cfg with patchFragIdx := cfg.patchFragIdx + 1 } event event.indexRx) := by
  have opcode : event.opcode ≠ hciVscH5Init := by
    rw [answers.opcode]
    decide
  have index : (event.evtBuf.getD []).getD (hciEvtCmdCmplStatusOffset + 1) 0 = event.indexRx := rfl
  unfold hwConfigCback hwConfigSwitch downloadFw
  rw [if_neg fun reset => opcode reset.1, if_pos ⟨Or.inl answers.status, answers.alloc⟩, state]
  simp only [answers.opcode, if_true, index, flag, ne_eq, not_true_eq_false, if_false]

theorem hwConfigEnd_fragments (result : Bool × HwCfgCb) :
    (hwConfigEnd result).fragments = result.2.fragments := by
  rcases result with ⟨_ | _, next⟩
  · rfl
  · rfl

theorem Transferring.answer_needed (transferring : Transferring image cfg)
    (fits : image.length ≤ maxImage) (files : PatchFiles)
    (next : InsideImage image (hwConfigCback files cfg event)) : EndAnswered cfg event := by
  intro state answers last flag
  have cnt := (transferring.assembled.counts (transferring.buf ▸ fits)).1
  rw [transferring.buf] at cnt
  have succ := transferring.idx_succ fits
  have beyond : ¬ cfg.patchFragIdx + 1 < cfg.patchFragCnt := by
    rw [UInt8.lt_iff_toNat_lt]
    omega
  have inside := next.fragments
  rw [hwConfigCback_goesOn files state answers flag, hwConfigEnd_fragments] at inside
  simp only [sendFragment, nextFragment, if_neg beyond, hciDownloadPatchH4, sendCommand] at inside
  have within := (inside _ (List.mem_append_right _ (List.mem_singleton_self _))).within
  have positive := transferring.len
  simp only [patchDataFieldMaxSize] at within
  unfold fragmentCount at cnt
  omega

theorem EndAnswered.idle (state : cfg.state = .idle) : EndAnswered cfg event := by
  intro downloading
  rw [state] at downloading
  cases downloading

theorem hwConfigCback_idle (files : PatchFiles) (inside : InsideImage image cfg)
    (state : cfg.state = .idle) : Running image (hwConfigCback files cfg event) := by
  unfold hwConfigCback
  split_ifs with reset restart handled
  · exact Or.inr ⟨{ inside with }, state⟩
  · exact Or.inr ⟨inside, state⟩
  · simp only [hwConfigSwitch, state]
    exact hwConfigAbort_running inside
  · exact hwConfigAbort_running inside

theorem fragments_inside_iff (files : PatchFiles) (cfg : HwCfgCb)
    (transferring : Transferring cfg.totalBuf cfg) (fits : cfg.totalBuf.length ≤ maxImage)
    (events : List HwEvent) :
    (∀ first, first <+: events →
      InsideImage cfg.totalBuf (run (hwConfigCback files) cfg first)) ↔
      Along (hwConfigCback files) EndAnswered cfg events := by
  refine (along_iff_always (hwConfigCback files) EndAnswered (Running cfg.totalBuf)
    (InsideImage cfg.totalBuf) (fun _ running => running.inside) ?_ ?_ cfg (Or.inl transferring)
    events).symm
  · rintro next event (sending | ⟨inside, idle⟩) answered
    · exact sending.step fits files answered
    · exact hwConfigCback_idle files inside idle
  · rintro next event (sending | ⟨_, idle⟩) inside
    · exact sending.answer_needed fits files inside
    · exact EndAnswered.idle idle

def firstSent : HwCfgCb :=
  run (hwConfigCback oneByteTail) (hwConfigStart 0x20 true) [localVersion8723a]

def answerWith (indexRx : UInt8) : HwEvent :=
  { evtBuf := some [0x0E, 5, 1, 0x20, 0xFC, 0, indexRx], alloc := true, xmit := true }

theorem firstSent_transferring : Transferring firstSent.totalBuf firstSent := by
  refine ⟨⟨?_, ?_⟩, ?_, ⟨?_, ?_, ?_, ?_⟩, rfl, ?_, ?_⟩
  all_goals decide +kernel

theorem fragments_inside_oneByteTail :
    InsideImage firstSent.totalBuf
      (run (hwConfigCback oneByteTail) firstSent [answerWith 0, answerWith 0x81]) := by
  have answered : Along (hwConfigCback oneByteTail) EndAnswered firstSent
      [answerWith 0, answerWith 0x81] := by
    refine ⟨fun _ _ last => ?_, fun _ _ _ => by decide, trivial⟩
    revert last
    decide +kernel
  exact (fragments_inside_iff oneByteTail firstSent firstSent_transferring (by decide +kernel)
    _).mpr answered _ (List.prefix_refl _)

theorem fragment_outside_oneByteTail : ¬ ∀ events : List HwEvent,
    InsideImage firstSent.totalBuf (run (hwConfigCback oneByteTail) firstSent events) := by
  intro always
  have inside := (always [answerWith 0, answerWith 1]).fragments
  revert inside
  decide +kernel

end UnionpiTiger.Hw

namespace UnionpiTiger.Hw

open Coex

inductive Which where
  | config
  | fw
  | total
deriving DecidableEq, Repr

inductive Held where
  | absent
  | allocated
  | released
deriving DecidableEq, Repr

-- `hw_cfg_cb` with what its buffer pointers point to. `misused` lists the buffers that were read,
-- written or released without being allocated; `taken` and `given` count allocations and releases.
structure Owner where
  cfg : HwCfgCb := {}
  held : Which → Held := fun _ => .absent
  misused : List Which := []
  taken : Which → Nat := fun _ => 0
  given : Which → Nat := fun _ => 0

structure ConfigFile where
  stat : Option Nat
  opens : Bool
  alloc : Bool
  read : Int
  baudrate : UInt32
  hwFlowCntrl : UInt8
  dataLen : Nat
  patched : Nat

structure FirmwareFile where
  stat : Option Nat
  opens : Bool
  alloc : Bool
  read : Int
  signed : Bool
  extension : Bool
  project : Bool
  patchLength : Option UInt16
  totalAlloc : Bool
  image : Nat → UInt8

structure Files where
  checkMatchState : HwCfgCb → Bool → Nat
  getPatchEntry : HwCfgCb → Option Nat
  config : ConfigFile
  firmware : FirmwareFile
  autoRestart : Bool

def HwEvent.ends (event : HwEvent) : Bool :=
  event.opcode = hciVscDownloadFwPatch && event.indexRx &&& 0x80 ≠ 0

namespace Owner

def len (s : Owner) : Which → Nat
  | .config => s.cfg.configLen
  | .fw => s.cfg.fwLen
  | .total => s.cfg.totalLen

def setLen (s : Owner) (which : Which) (len : Nat) : Owner :=
  match which with
  | .config => { s with cfg := { s.cfg with configLen := len } }
  | .fw => { s with cfg := { s.cfg with fwLen := len } }
  | .total => { s with cfg := { s.cfg with totalLen := len } }

def access (s : Owner) (which : Which) : Owner :=
  if s.held which = .allocated then s else { s with misused := s.misused ++ [which] }

def malloc (s : Owner) (which : Which) (ok : Bool) : Owner :=
  if ok then
    { s with
      held := Function.update s.held which .allocated
      taken := Function.update s.taken which (s.taken which + 1) }
  else { s with held := Function.update s.held which .absent }

def free (s : Owner) (which : Which) : Owner :=
  let s := s.access which
  { s with
    held := Function.update s.held which .released
    given := Function.update s.given which (s.given which + 1) }

def release (s : Owner) (which : Which) : Owner :=
  if s.len which ≠ 0 then (s.free which).setLen which 0 else s

def copy (s : Owner) (which : Which) : Owner := if s.len which ≠ 0 then s.access which else s

def cleanUp (s : Owner) (dlFwFlag : Bool) : Owner :=
  ({ s with cfg := { s.cfg with dlFwFlag := dlFwFlag } }.release .fw).release .config

def rtkGetBtConfig (file : ConfigFile) (s : Owner) : Owner :=
  match file.stat with
  | none => s.setLen .config 0
  | some filelen =>
    if filelen > maxOrgConfigSize then s.setLen .config 0
    else if !file.opens then s.setLen .config 0
    else if !file.alloc then (s.malloc .config false).setLen .config 0
    else
      let s := s.malloc .config true
      if file.read < filelen then (s.free .config).setLen .config 0
      else
        let s := s.access .config
        { s with cfg := { s.cfg with baudrate := file.baudrate, hwFlowCntrl := file.hwFlowCntrl } }.setLen .config filelen

def rtkUpdateAltsettings (file : ConfigFile) (s : Owner) : Owner :=
  let s := s.access .config
  if file.dataLen + configHead = s.len .config then s.setLen .config (file.patched + configHead) else s

def rtkGetBtFirmware (file : FirmwareFile) (s : Owner) : Int × Owner :=
  match file.stat with
  | none => (-1, s)
  | some size =>
    if !file.opens then (-1, s)
    else if !file.alloc then (-1, s.malloc .fw false)
    else
      let s := s.malloc .fw true
      if file.read < size then
        let s := s.free .fw
        (-1, { s with held := Function.update s.held .fw .absent })
      else ((size : Int).bmod (2 ^ 32), s)

def mallocTotal (file : FirmwareFile) (s : Owner) (len : Nat) : Owner :=
  (s.setLen .total (len % 2 ^ 32)).malloc .total file.totalAlloc

def fillTotal (file : FirmwareFile) (s : Owner) : Owner :=
  let s := s.copy .total
  { s with cfg := { s.cfg with totalBuf := (List.range s.cfg.totalLen).map file.image } }

def rtkGetBtFinalPatch (file : FirmwareFile) (s : Owner) : Owner :=
  let s := s.access .fw
  if s.cfg.lmpSubversion = lmpsubversion8723a then
    if file.signed then s.cleanUp false
    else
      let s := mallocTotal file s (s.len .fw + s.len .config)
      if !file.totalAlloc then s.cleanUp false
      else (fillTotal file ((s.copy .fw).copy .config)).cleanUp true
  else if !file.signed then s.cleanUp false
  else if !file.extension then s.cleanUp false
  else if !file.project then s.cleanUp false
  else
    match file.patchLength with
    | none => s.cleanUp false
    | some patchLength =>
      let s := mallocTotal file s (patchLength.toNat + s.len .config)
      if !file.totalAlloc then s.cleanUp false
      else
        let s := fillTotal file ((s.access .fw).copy .config)
        { s with cfg := { s.cfg with dlFwFlag := true } }

def loadFirmware (file : FirmwareFile) (s : Owner) : Owner :=
  let (fwLen, s) := rtkGetBtFirmware file s
  if fwLen < 0 then s.setLen .fw 0 else rtkGetBtFinalPatch file (s.setLen .fw fwLen.toNat)

def downloadFw (s : Owner) (event : HwEvent) : Bool × Owner :=
  let (proceeding, cfg) := Hw.downloadFw s.cfg event
  let s := if event.ends then s.free .total else s.access .total
  (proceeding, { s with cfg := cfg })

def setHwFlowControl (s : Owner) (event : HwEvent) : Bool × Owner :=
  { s with cfg := { s.cfg with state := .dlFwPatch } }.downloadFw event

def setUartBaudHost (s : Owner) (event : HwEvent) : Bool × Owner :=
  if s.cfg.hwFlowCntrl &&& 0x80 = 0 then s.downloadFw event else s.setHwFlowControl event

def setUartBaudController (s : Owner) (event : HwEvent) : Bool × Owner :=
  let (proceeding, cfg) := Hw.setUartBaudController s.cfg event
  (proceeding, { s with cfg := cfg })

def load (files : Files) (s : Owner) (maxPatchSize : Nat) : Owner :=
  let s := { s with cfg := { s.cfg with maxPatchSize := maxPatchSize } }
  loadFirmware files.firmware (rtkUpdateAltsettings files.config (rtkGetBtConfig files.config s))

def startDownload (s : Owner) (event : HwEvent) : Bool × Owner :=
  if s.cfg.totalLen > s.cfg.maxPatchSize then (false, s)
  else if s.cfg.totalLen > 0 ∧ s.cfg.dlFwFlag then
    let s := { s with cfg := cfgFragments s.cfg }
    if s.cfg.baudrate = 0 ∧ s.cfg.hwFlowCntrl &&& 0x80 = 0 then s.downloadFw event
    else if s.cfg.baudrate = 0 then s.setHwFlowControl event
    else s.setUartBaudController event
  else (false, s)

def cfgStart (files : Files) (s : Owner) (event : HwEvent) : Bool × Owner :=
  match files.getPatchEntry s.cfg with
  | none => (false, s)
  | some maxPatchSize => (load files s maxPatchSize).startDownload event

end Owner

-- What a state before the loading of the files comes to: the end of its case, or CFG_START.
inductive Probed where
  | ends (proceeding : Bool) (cfg : HwCfgCb)
  | cfgStart (cfg : HwCfgCb)

def probeLocalVer (cfg : HwCfgCb) (event : HwEvent) : Probed :=
  match event.evtBuf with
  | none => .ends false cfg
  | some mem =>
    if event.status ≠ 0 then .ends false cfg
    else
      let cfg :=
        { cfg with
          hciVersion := (streamToUint16 mem 6).toUInt8
          hciRevision := (streamToUint16 mem 7).toUInt8
          lmpSubversion := streamToUint16 mem 12 }
      if cfg.lmpSubversion = lmpsubversion8723a then .cfgStart { cfg with state := .start }
      else .ends event.xmit (sendCommand { cfg with state := .readEcoVer } hciVscReadRomVersion [])

def probeEcoVer (checkMatchState : HwCfgCb → Bool → Nat) (cfg : HwCfgCb) (event : HwEvent) : Probed :=
  let matched (cfg : HwCfgCb) : Probed :=
    if checkMatchState cfg false > 1 then
      .ends event.xmit (sendCommand { cfg with state := .readChipType } hciVscReadChipType
        ([0] ++ uint32ToStream 0xB000A094))
    else .cfgStart { cfg with state := .start }
  match event.evtBuf, event.status with
  | some mem, 0 => matched { cfg with eversion := mem.getD 6 0 }
  | _, 1 => matched { cfg with eversion := 0 }
  | _, _ => .ends false cfg

def probeChipType (checkMatchState : HwCfgCb → Bool → Nat) (cfg : HwCfgCb) (event : HwEvent) : Probed :=
  match event.evtBuf with
  | none => .ends false cfg
  | some mem =>
    if event.status ≠ 0 then .ends false cfg
    else
      let cfg := { cfg with chipType := mem.getD 6 0 &&& 0x0F }
      if checkMatchState cfg true > 1 then .ends false cfg else .cfgStart { cfg with state := .start }

def probe (checkMatchState : HwCfgCb → Bool → Nat) (cfg : HwCfgCb) (event : HwEvent) : Probed :=
  match cfg.state with
  | .h5Init => .ends event.xmit (sendCommand { cfg with state := .readLocalVer } hciReadLmpVersion [])
  | .readLocalVer => probeLocalVer cfg event
  | .readEcoVer => probeEcoVer checkMatchState cfg event
  | .readChipType => probeChipType checkMatchState cfg event
  | .start => .cfgStart cfg
  | _ => .ends false cfg

def HwCfgState.downloading : HwCfgState → Bool
  | .setUartBaudHost | .setUartBaudController | .setUartHwFlowControl | .dlFwPatch => true
  | _ => false

def HwEvent.handled (event : HwEvent) : Bool :=
  !(event.opcode = hciVscH5Init && event.status ≠ 0) &&
    (event.status = 0 || event.opcode = hciVscReadRomVersion) && event.alloc

namespace Owner

def hwConfigSwitch (files : Files) (s : Owner) (event : HwEvent) : Bool × Owner :=
  match s.cfg.state with
  | .setUartBaudController => s.setUartBaudController event
  | .setUartBaudHost => s.setUartBaudHost event
  | .setUartHwFlowControl => s.setHwFlowControl event
  | .dlFwPatch => s.downloadFw event
  | _ =>
    match probe files.checkMatchState s.cfg event with
    | .ends proceeding cfg => (proceeding, { s with cfg := cfg })
    | .cfgStart cfg => cfgStart files { s with cfg := cfg } event

def hwConfigAbort (s : Owner) : Owner :=
  { ((s.release .config).release .fw).release .total with cfg := Hw.hwConfigAbort s.cfg }

def hwConfigEnd : Bool × Owner → Owner
  | (true, s) => s
  | (false, s) => s.hwConfigAbort

def hwConfigCback (files : Files) (s : Owner) (event : HwEvent) : Owner :=
  if event.opcode = hciVscH5Init ∧ event.status ≠ 0 then
    if files.autoRestart then { s with cfg := { s.cfg with initCb := s.cfg.initCb ++ [.fail] } } else s
  else if (event.status = 0 ∨ event.opcode = hciVscReadRomVersion) ∧ event.alloc then
    hwConfigEnd (s.hwConfigSwitch files event)
  else s.hwConfigAbort

def hwConfigStart (s : Owner) (transtype : UInt8) (alloc : Bool) : Owner :=
  { s with cfg := Hw.hwConfigStart transtype alloc, held := fun _ => .absent }

end Owner

inductive HwCall where
  | start (transtype : UInt8) (alloc : Bool)
  | event (files : Files) (event : HwEvent)

def Owner.call (s : Owner) : HwCall → Owner
  | .start transtype alloc => s.hwConfigStart transtype alloc
  | .event files event => s.hwConfigCback files event

end UnionpiTiger.Hw
