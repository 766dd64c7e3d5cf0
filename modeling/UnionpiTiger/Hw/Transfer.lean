import UnionpiTiger.Hw.Download

set_option autoImplicit false

namespace UnionpiTiger.Hw

open Coex Lib

variable {cfg : HwCfgCb} {event : HwEvent} {files : PatchFiles}

def HwCfgState.Early : HwCfgState → Prop
  | idle | h5Init | readLocalVer | readEcoVer | readChipType => True
  | _ => False

-- A configuration before the first acknowledgement: nothing sent yet, the first fragment sent, or
-- the first fragment sent and then something else done.
inductive Prelude (cfg : HwCfgCb) : Prop where
  | early (none : cfg.fragments = []) (idx : cfg.patchFragIdx = 0) (state : cfg.state.Early)
  | baud (none : cfg.fragments = []) (idx : cfg.patchFragIdx = 0)
      (state : cfg.state = .setUartBaudHost) (assembled : Assembled cfg)
  | first (sent : cfg.fragments ≠ []) (state : cfg.state = .dlFwPatch)
      (downloading : cfg.totalBuf.length ≤ maxImage → Downloading cfg.totalBuf 0 cfg)
  | ended (sent : cfg.fragments ≠ []) (state : cfg.state = .idle)
  | again (sent : 2 ≤ cfg.fragments.length)

structure Settles (result : Bool × HwCfgCb) : Prop where
  proceeding : result.1 = true → Prelude result.2
  idx : result.2.fragments = [] → result.2.patchFragIdx = 0

theorem Settles.prelude {result : Bool × HwCfgCb} (settles : Settles result) :
    Prelude (hwConfigEnd result) := by
  rcases result with ⟨_ | _, cfg⟩
  · by_cases none : cfg.fragments = []
    · exact .early none (settles.idx none) trivial
    · exact .ended none rfl
  · exact settles.proceeding rfl

theorem sendFragment_fragments (cfg : HwCfgCb) (event : HwEvent) (indexRx : UInt8) :
    ∃ fragment, (sendFragment cfg event indexRx).2.fragments = cfg.fragments ++ [fragment] :=
  ⟨_, rfl⟩

theorem Assembled.settles (assembled : Assembled cfg) (none : cfg.fragments = [])
    (idx : cfg.patchFragIdx = 0) (other : event.opcode ≠ hciVscDownloadFwPatch) :
    Settles (downloadFw cfg event) := by
  obtain ⟨fragment, sent⟩ := sendFragment_fragments cfg event 0
  have count : 0 < fragmentCount cfg.totalBuf.length := by
    have positive := assembled.positive
    rw [assembled.len] at positive
    unfold fragmentCount
    omega
  simp only [downloadFw, other, if_false]
  refine ⟨fun _ => ?_, fun empty => ?_⟩
  · refine .first (by simp [sent]) rfl fun fits => ?_
    have here : cfg.patchFragIdx.toNat = 0 := by
      rw [idx]
      rfl
    exact (assembled.sendFragment fits here count none event 0).2.1
  · simp [sent] at empty

theorem Settles.failed (idx : cfg.patchFragIdx = 0) : Settles (false, cfg) :=
  ⟨fun proceeding => absurd proceeding Bool.false_ne_true, fun _ => idx⟩

theorem Settles.cfgStart (files : PatchFiles) (none : cfg.fragments = [])
    (idx : cfg.patchFragIdx = 0) (other : event.opcode ≠ hciVscDownloadFwPatch) :
    Settles (cfgStart files cfg event) := by
  unfold Hw.cfgStart
  split
  · exact Settles.failed idx
  next loaded _ =>
    simp only
    split_ifs with large assembled direct flow
    · exact Settles.failed idx
    · have ready : Assembled (cfgFragments (cfgLoad cfg loaded)) :=
        ⟨rfl, assembled.1, rfl, rfl⟩
      exact ready.settles none idx other
    · have ready : Assembled { cfgFragments (cfgLoad cfg loaded) with state := .dlFwPatch } :=
        ⟨rfl, assembled.1, rfl, rfl⟩
      exact ready.settles none idx other
    · refine ⟨fun _ => .baud none idx rfl ⟨rfl, assembled.1, rfl, rfl⟩, fun _ => idx⟩
    · exact Settles.failed idx

theorem Settles.readLocalVer (files : PatchFiles) (none : cfg.fragments = [])
    (idx : cfg.patchFragIdx = 0) (other : event.opcode ≠ hciVscDownloadFwPatch) :
    Settles (readLocalVer files cfg event) := by
  unfold Hw.readLocalVer
  split
  · exact Settles.failed idx
  · simp only
    split_ifs
    · exact Settles.failed idx
    · exact Settles.cfgStart files none idx other
    · exact ⟨fun _ => .early none idx trivial, fun _ => idx⟩

theorem Settles.readEcoVer (files : PatchFiles) (none : cfg.fragments = [])
    (idx : cfg.patchFragIdx = 0) (other : event.opcode ≠ hciVscDownloadFwPatch) :
    Settles (readEcoVer files cfg event) := by
  unfold Hw.readEcoVer
  simp only
  split
  · split_ifs
    · exact ⟨fun _ => .early none idx trivial, fun _ => idx⟩
    · exact Settles.cfgStart files none idx other
  · split_ifs
    · exact ⟨fun _ => .early none idx trivial, fun _ => idx⟩
    · exact Settles.cfgStart files none idx other
  · exact Settles.failed idx

theorem Settles.readChipType (files : PatchFiles) (none : cfg.fragments = [])
    (idx : cfg.patchFragIdx = 0) (other : event.opcode ≠ hciVscDownloadFwPatch) :
    Settles (readChipType files cfg event) := by
  unfold Hw.readChipType
  split
  · exact Settles.failed idx
  · simp only
    split_ifs
    · exact Settles.failed idx
    · exact Settles.failed idx
    · exact Settles.cfgStart files none idx other

theorem Settles.early (files : PatchFiles) (none : cfg.fragments = []) (idx : cfg.patchFragIdx = 0)
    (state : cfg.state.Early) (other : event.opcode ≠ hciVscDownloadFwPatch) :
    Settles (hwConfigSwitch files cfg event) := by
  unfold hwConfigSwitch
  cases here : cfg.state with
  | idle => exact Settles.failed idx
  | h5Init => exact ⟨fun _ => .early none idx trivial, fun _ => idx⟩
  | readLocalVer => exact Settles.readLocalVer files none idx other
  | readEcoVer => exact Settles.readEcoVer files none idx other
  | readChipType => exact Settles.readChipType files none idx other
  | start | setUartBaudHost | setUartBaudController | setUartHwFlowControl | dlFwPatch =>
    rw [here] at state
    exact state.elim

theorem Settles.baud (none : cfg.fragments = []) (idx : cfg.patchFragIdx = 0)
    (assembled : Assembled cfg) (other : event.opcode ≠ hciVscDownloadFwPatch) :
    Settles (setUartBaudHost cfg event) := by
  unfold setUartBaudHost
  split_ifs
  · exact assembled.settles none idx other
  · have ready : Assembled { cfg with state := .dlFwPatch } := { assembled with }
    exact ready.settles none idx other

theorem downloadFw_fragments (cfg : HwCfgCb) (event : HwEvent) {sent : List Fragment}
    (before : cfg.fragments = sent) : sent.length ≤ (downloadFw cfg event).2.fragments.length := by
  subst before
  unfold downloadFw
  simp only
  split_ifs
  · exact Nat.le_refl _
  · obtain ⟨fragment, sent⟩ := sendFragment_fragments
      { cfg with patchFragIdx := cfg.patchFragIdx + 1 } event
      ((event.evtBuf.getD []).getD (hciEvtCmdCmplStatusOffset + 1) 0)
    rw [sent, List.length_append]
    exact Nat.le_add_right _ _
  · obtain ⟨fragment, sent⟩ := sendFragment_fragments cfg event 0
    rw [sent, List.length_append]
    exact Nat.le_add_right _ _

theorem cfgStart_fragments (files : PatchFiles) (cfg : HwCfgCb) (event : HwEvent)
    {sent : List Fragment} (before : cfg.fragments = sent) :
    sent.length ≤ (cfgStart files cfg event).2.fragments.length := by
  have same : sent.length ≤ cfg.fragments.length := Nat.le_of_eq (by rw [before])
  unfold cfgStart
  split
  · exact same
  · simp only
    split_ifs
    · exact same
    · exact downloadFw_fragments _ event before
    · exact downloadFw_fragments _ event before
    · exact same
    · exact same

theorem hwConfigSwitch_fragments (files : PatchFiles) (cfg : HwCfgCb) (event : HwEvent) :
    cfg.fragments.length ≤ (hwConfigSwitch files cfg event).2.fragments.length := by
  unfold hwConfigSwitch
  split
  · exact Nat.le_refl _
  · unfold readLocalVer
    split
    · exact Nat.le_refl _
    · simp only
      split_ifs
      · exact Nat.le_refl _
      · exact cfgStart_fragments files _ event rfl
      · exact Nat.le_refl _
  · unfold readEcoVer
    simp only
    split
    · split_ifs
      · exact Nat.le_refl _
      · exact cfgStart_fragments files _ event rfl
    · split_ifs
      · exact Nat.le_refl _
      · exact cfgStart_fragments files _ event rfl
    · exact Nat.le_refl _
  · unfold readChipType
    split
    · exact Nat.le_refl _
    · simp only
      split_ifs
      · exact Nat.le_refl _
      · exact Nat.le_refl _
      · exact cfgStart_fragments files _ event rfl
  · exact cfgStart_fragments files cfg event rfl
  · exact Nat.le_refl _
  · unfold setUartBaudHost
    split_ifs
    · exact downloadFw_fragments cfg event rfl
    · exact downloadFw_fragments _ event rfl
  · exact downloadFw_fragments _ event rfl
  · exact downloadFw_fragments cfg event rfl
  · exact Nat.le_refl _

theorem hwConfigCback_fragments (files : PatchFiles) (cfg : HwCfgCb) (event : HwEvent) :
    cfg.fragments.length ≤ (hwConfigCback files cfg event).fragments.length := by
  have switched := hwConfigSwitch_fragments files cfg event
  unfold hwConfigCback
  split_ifs
  · exact Nat.le_refl _
  · exact Nat.le_refl _
  · rcases result : hwConfigSwitch files cfg event with ⟨_ | _, next⟩ <;>
      · rw [result] at switched
        exact switched
  · exact Nat.le_refl _

theorem Prelude.step (files : PatchFiles) (prelude : Prelude cfg)
    (other : event.opcode ≠ hciVscDownloadFwPatch) : Prelude (hwConfigCback files cfg event) := by
  have extended := hwConfigCback_fragments files cfg event
  have aborted (idx : cfg.fragments = [] → cfg.patchFragIdx = 0) : Prelude (hwConfigAbort cfg) := by
    by_cases none : cfg.fragments = []
    · exact .early none (idx none) trivial
    · exact .ended none rfl
  have settled (settles : Settles (hwConfigSwitch files cfg event))
      (idx : cfg.fragments = [] → cfg.patchFragIdx = 0)
      (told : Prelude { cfg with initCb := cfg.initCb ++ [.fail] }) :
      Prelude (hwConfigCback files cfg event) := by
    unfold hwConfigCback
    split_ifs
    · exact told
    · exact prelude
    · exact settles.prelude
    · exact aborted idx
  cases prelude with
  | early none idx state =>
    exact settled (Settles.early files none idx state other) (fun _ => idx) (.early none idx state)
  | baud none idx state assembled =>
    have settles : Settles (hwConfigSwitch files cfg event) := by
      simp only [hwConfigSwitch, state]
      exact Settles.baud none idx assembled other
    exact settled settles (fun _ => idx) (.baud none idx state { assembled with })
  | first sent state downloading =>
    have settles : Settles (hwConfigSwitch files cfg event) := by
      obtain ⟨fragment, more⟩ := sendFragment_fragments cfg event 0
      have positive := List.length_pos_iff.mpr sent
      simp only [hwConfigSwitch, state, downloadFw, other, if_false]
      refine ⟨fun _ => .again ?_, fun empty => ?_⟩
      · rw [more, List.length_append, List.length_singleton]
        omega
      · simp [more] at empty
    exact settled settles (fun none => absurd none sent)
      (.first sent state (fun fits => { downloading fits with
        assembled := { (downloading fits).assembled with } }))
  | ended sent state =>
    have settles : Settles (hwConfigSwitch files cfg event) := by
      simp only [hwConfigSwitch, state]
      exact ⟨fun proceeding => absurd proceeding Bool.false_ne_true, fun none => absurd none sent⟩
    exact settled settles (fun none => absurd none sent) (.ended sent state)
  | again sent => exact .again (Nat.le_trans sent extended)

theorem hwConfigStart_prelude (transtype : UInt8) (alloc : Bool) :
    Prelude (hwConfigStart transtype alloc) := by
  unfold hwConfigStart
  simp only
  split_ifs
  · exact .early rfl rfl trivial
  · exact .early rfl rfl trivial
  · exact .early rfl rfl trivial

theorem prelude_run (files : PatchFiles) (events : List HwEvent)
    (others : ∀ event ∈ events, event.opcode ≠ hciVscDownloadFwPatch) (prelude : Prelude cfg) :
    Prelude (run (hwConfigCback files) cfg events) := by
  induction events generalizing cfg with
  | nil => exact prelude
  | cons event rest ih =>
    exact ih (fun other mem => others other (List.mem_cons_of_mem event mem))
      (prelude.step files (others event List.mem_cons_self))

theorem Prelude.downloading (prelude : Prelude cfg) (state : cfg.state = .dlFwPatch)
    (once : cfg.fragments.length = 1) (fits : cfg.totalBuf.length ≤ maxImage) :
    Downloading cfg.totalBuf 0 cfg := by
  cases prelude with
  | early none _ _ => simp [none] at once
  | baud none _ _ _ => simp [none] at once
  | first _ _ downloading => exact downloading fits
  | ended _ idle =>
    rw [idle] at state
    cases state
  | again sent => omega

theorem fragmentIndex_lt (count number : Nat) (bound : number < 163) :
    fragmentIndex count number < 256 := by
  unfold fragmentIndex
  split_ifs <;> omega

theorem download_transfers_image (files : PatchFiles) (transtype : UInt8) (alloc : Bool)
    (prelude : List HwEvent) (cfg : HwCfgCb)
    (others : ∀ event ∈ prelude, event.opcode ≠ hciVscDownloadFwPatch)
    (started : run (hwConfigCback files) (hwConfigStart transtype alloc) prelude = cfg)
    (state : cfg.state = .dlFwPatch) (once : cfg.fragments.length = 1)
    (fits : cfg.totalBuf.length ≤ maxImage) :
    (∀ acks, acks < fragmentCount cfg.totalBuf.length →
      (acknowledged files cfg acks).state = .dlFwPatch ∧
      (acknowledged files cfg acks).fragments.length = acks + 1 ∧
      (acknowledged files cfg acks).initCb = cfg.initCb) ∧
    (acknowledged files cfg (fragmentCount cfg.totalBuf.length)).state = .idle ∧
    (acknowledged files cfg (fragmentCount cfg.totalBuf.length)).initCb =
      cfg.initCb ++ [.success] ∧
    ((acknowledged files cfg (fragmentCount cfg.totalBuf.length)).fragments.map
      Fragment.data).flatten = cfg.totalBuf ∧
    (acknowledged files cfg (fragmentCount cfg.totalBuf.length)).fragments.map
        (fun fragment => fragment.index.toNat) =
      (List.range (fragmentCount cfg.totalBuf.length)).map
        (fragmentIndex (fragmentCount cfg.totalBuf.length)) := by
  have reached : Prelude cfg := by
    rw [← started]
    exact prelude_run files prelude others (hwConfigStart_prelude transtype alloc)
  have first := reached.downloading state once fits
  have small : fragmentCount cfg.totalBuf.length ≤ 163 := by
    unfold maxImage at fits
    unfold fragmentCount
    omega
  obtain ⟨last, count⟩ : ∃ last, fragmentCount cfg.totalBuf.length = last + 1 :=
    ⟨fragmentCount cfg.totalBuf.length - 1, by have := first.more; omega⟩
  obtain ⟨sending, reports⟩ := first.acknowledged fits files last (by omega)
  obtain ⟨idle, success, kept⟩ := sending.finish fits files count.symm
  have fragments : (acknowledged files cfg (last + 1)).fragments =
      (List.range (last + 1)).map (fragmentOf cfg.totalBuf) := kept.trans sending.fragments
  have covered : cfg.totalBuf.take ((last + 1) * 252) = cfg.totalBuf := by
    apply List.take_of_length_le
    rw [← count]
    unfold fragmentCount
    omega
  refine ⟨fun acks inner => ?_, ?_⟩
  · obtain ⟨downloading, same⟩ := first.acknowledged fits files acks inner
    refine ⟨downloading.state, ?_, same⟩
    rw [downloading.fragments, List.length_map, List.length_range]
  · rw [count]
    refine ⟨idle, ?_, ?_, ?_⟩
    · rw [← reports]
      exact success
    · rw [fragments, List.map_map]
      exact (flatten_fragments cfg.totalBuf (last + 1)).trans covered
    · rw [fragments, List.map_map]
      apply List.map_congr_left
      intro number mem
      have bound : number < 163 := by
        have := List.mem_range.mp mem
        omega
      simp only [Function.comp_apply, fragmentOf, Nat.toUInt8, UInt8.toNat_ofNat', count]
      exact Nat.mod_eq_of_lt (fragmentIndex_lt (last + 1) number bound)

def oneByteTail : PatchFiles :=
  { checkMatchState := fun _ _ => 1
    load := fun _ => some
      { maxPatchSize := maxImage
        baudrate := 0
        hwFlowCntrl := 0
        dlFwFlag := true
        fwLen := 0
        configLen := 0
        totalBuf := List.replicate 252 0xA5 ++ [0x5A] }
    autoRestart := false }

def localVersion8723a : HwEvent :=
  { evtBuf := some [0x0E, 12, 1, 0x01, 0x10, 0, 4, 0, 0, 4, 0x5D, 0, 0x00, 0x12]
    alloc := true
    xmit := true }

theorem download_transfers_image_oneByteTail :
    (acknowledged oneByteTail
      (run (hwConfigCback oneByteTail) (hwConfigStart 0x20 true) [localVersion8723a]) 1).state =
        .dlFwPatch ∧
    ((acknowledged oneByteTail
      (run (hwConfigCback oneByteTail) (hwConfigStart 0x20 true) [localVersion8723a])
        2).fragments.map (fun fragment => fragment.index.toNat)) = [0, 0x81] := by
  have transfers := download_transfers_image oneByteTail 0x20 true [localVersion8723a] _
    (by decide) rfl (by decide +kernel) (by decide +kernel) (by decide +kernel)
  have count : fragmentCount (run (hwConfigCback oneByteTail) (hwConfigStart 0x20 true)
      [localVersion8723a]).totalBuf.length = 2 := by decide +kernel
  rw [count] at transfers
  exact ⟨(transfers.1 1 (by decide)).1, transfers.2.2.2.2⟩

end UnionpiTiger.Hw
