import UnionpiTiger.Hw.Owned

set_option autoImplicit false

namespace UnionpiTiger.Hw

open Coex

theorem chosen_probe (files : PatchFiles) (event : HwEvent) (multi : Prop) [Decidable multi]
    (proceeding : Bool) (asking started : HwCfgCb) :
    (if multi then (proceeding, asking) else cfgStart files started event) =
      match if multi then Probed.ends proceeding asking else Probed.cfgStart started with
      | .ends proceeding cfg => (proceeding, cfg)
      | .cfgStart cfg => cfgStart files cfg event := by
  split
  next => rfl
  next => rfl

-- The case of a state before the loading is what `hw_config_cback` does there.
theorem hwConfigSwitch_probe (files : PatchFiles) (cfg : HwCfgCb) (event : HwEvent)
    (before : cfg.state.downloading = false) :
    hwConfigSwitch files cfg event = match probe files.checkMatchState cfg event with
      | .ends proceeding cfg => (proceeding, cfg)
      | .cfgStart cfg => cfgStart files cfg event := by
  unfold hwConfigSwitch probe
  cases state : cfg.state with
  | readLocalVer =>
    dsimp only
    unfold readLocalVer probeLocalVer
    cases event.evtBuf with
    | none => rfl
    | some mem =>
      dsimp only
      split
      next => rfl
      next =>
        split
        next => rfl
        next => rfl
  | readEcoVer =>
    dsimp only
    unfold readEcoVer probeEcoVer
    dsimp only
    generalize event.evtBuf = buf
    generalize event.status = status
    split
    next => exact chosen_probe files event ..
    next =>
      cases buf with
      | none => exact chosen_probe files event ..
      | some mem => exact chosen_probe files event ..
    next => simp_all
  | readChipType =>
    dsimp only
    unfold readChipType probeChipType
    cases event.evtBuf with
    | none => rfl
    | some mem =>
      dsimp only
      split
      next => rfl
      next =>
        split
        next => rfl
        next => rfl
  | setUartBaudHost | setUartBaudController | setUartHwFlowControl | dlFwPatch =>
    rw [state] at before
    cases before
  | idle | h5Init | start => rfl

theorem HwEvent.ends_iff (event : HwEvent) :
    event.ends = true ↔ event.opcode = hciVscDownloadFwPatch ∧ event.indexRx &&& 0x80 ≠ 0 := by
  unfold HwEvent.ends
  rw [Bool.and_eq_true, decide_eq_true_iff, decide_eq_true_iff]

def chipAndLens (cfg : HwCfgCb) : UInt16 × Nat × Nat × Nat :=
  (cfg.lmpSubversion, cfg.configLen, cfg.fwLen, cfg.totalLen)

theorem downloadFw_sends (cfg : HwCfgCb) {event : HwEvent} (more : event.ends ≠ true) :
    (downloadFw cfg event).2.state = .dlFwPatch ∧
      chipAndLens (downloadFw cfg event).2 = chipAndLens cfg := by
  rw [ne_eq, event.ends_iff] at more
  unfold HwEvent.indexRx at more
  unfold downloadFw
  split
  next opcode =>
    dsimp only
    rw [if_neg fun flag => more ⟨opcode, flag⟩]
    exact ⟨rfl, rfl⟩
  next => exact ⟨rfl, rfl⟩

namespace Owner

variable {s t : Owner} {files : Files} {event : HwEvent}

-- Between the calls: nothing is held unless a download is under way, which needs the image only on
-- the chip whose firmware is taken as it is.
structure Kept (s : Owner) : Prop where
  owns : s.Owns
  clear : s.cfg.state.downloading = false → ∀ which, s.len which = 0
  total : s.cfg.state.downloading = true → s.len .total ≠ 0
  direct : s.cfg.state.downloading = true → s.cfg.lmpSubversion = lmpsubversion8723a →
    s.len .fw = 0 ∧ s.len .config = 0

structure Left (left : Bool × Owner) : Prop where
  owns : left.2.Owns
  kept : left.1 = true → left.2.Kept

theorem Owns.abort (owns : s.Owns) : s.hwConfigAbort.Kept := by
  have done : (((s.release .config).release .fw).release .total).Owns := owns.release.release.release
  have zero : ∀ which, s.hwConfigAbort.len which = 0 := fun which => by cases which <;> rfl
  refine ⟨done.control fun which => ?_, fun _ => zero, nofun, nofun⟩
  have before : (((s.release .config).release .fw).release .total).len which = 0 := by
    rw [release_len, release_len, release_len]
    cases which <;> rfl
  rw [before]
  exact zero which

theorem Left.end_ {left : Bool × Owner} (fine : Left left) : (hwConfigEnd left).Kept := by
  obtain ⟨proceeding, s⟩ := left
  cases proceeding with
  | false => exact fine.owns.abort
  | true => exact fine.kept rfl

theorem len_of_lens {cfg : HwCfgCb} (same : (chipAndLens cfg).2 = (chipAndLens s.cfg).2)
    (which : Which) :
    len { s with cfg := cfg } which = s.len which := by
  cases which with
  | config => exact congrArg Prod.fst same
  | fw => exact congrArg (fun lens => lens.2.1) same
  | total => exact congrArg (fun lens => lens.2.2) same

theorem downloadFw_left (owns : s.Owns) (total : s.len .total ≠ 0)
    (direct : s.cfg.lmpSubversion = lmpsubversion8723a → s.len .fw = 0 ∧ s.len .config = 0)
    (ends : event.ends = true → s.cfg.lmpSubversion = lmpsubversion8723a) :
    Left (s.downloadFw event) := by
  unfold downloadFw
  dsimp only
  by_cases last : event.ends = true
  · obtain ⟨opcode, flag⟩ := (HwEvent.ends_iff event).mp last
    obtain ⟨fw, config⟩ := direct (ends last)
    unfold Hw.downloadFw
    rw [if_pos opcode]
    dsimp only
    unfold HwEvent.indexRx at flag
    rw [if_pos flag, if_pos last]
    have freed := owns.freed total
    have len : ∀ which, ((s.free .total).setLen .total 0).len which = 0 := by
      intro which
      rw [setLen_len, free_len]
      cases which with
      | config => exact config
      | fw => exact fw
      | total => rfl
    have all : ∀ which, (Owner.len { s.free .total with
        cfg := { s.cfg with
          patchFragIdx := s.cfg.patchFragIdx + 1, totalBuf := [], totalLen := 0,
          initCb := s.cfg.initCb ++ [.success], state := .idle } } which) = 0 := by
      intro which
      cases which with
      | config => exact config
      | fw => exact fw
      | total => rfl
    have left := freed.control fun which => (all which).trans (len which).symm
    exact ⟨left, fun _ => ⟨left, fun _ => all, nofun, nofun⟩⟩
  · obtain ⟨state, same⟩ := downloadFw_sends s.cfg last
    rw [if_neg last, owns.access_eq total]
    have len := len_of_lens (congrArg Prod.snd same)
    have left := owns.control len
    have chip : (Hw.downloadFw s.cfg event).2.lmpSubversion = s.cfg.lmpSubversion :=
      congrArg Prod.fst same
    refine ⟨left, fun _ => ⟨left, fun before => ?_, fun _ => ?_, fun _ only => ?_⟩⟩
    · dsimp only at before
      rw [state] at before
      cases before
    · rw [len]
      exact total
    · rw [len, len]
      exact direct (chip.symm.trans only)

theorem setHwFlowControl_left (owns : s.Owns) (total : s.len .total ≠ 0)
    (direct : s.cfg.lmpSubversion = lmpsubversion8723a → s.len .fw = 0 ∧ s.len .config = 0)
    (ends : event.ends = true → s.cfg.lmpSubversion = lmpsubversion8723a) :
    Left (s.setHwFlowControl event) :=
  downloadFw_left (owns.control fun which => by cases which <;> rfl) total direct ends

theorem setUartBaudController_left (owns : s.Owns) (total : s.len .total ≠ 0)
    (direct : s.cfg.lmpSubversion = lmpsubversion8723a → s.len .fw = 0 ∧ s.len .config = 0) :
    Left (s.setUartBaudController event) :=
  have left : Owns { s with cfg := (Hw.setUartBaudController s.cfg event).2 } :=
    owns.control fun which => by cases which <;> rfl
  ⟨left, fun _ => ⟨left, nofun, fun _ => total, fun _ => direct⟩⟩

theorem setUartBaudHost_left (owns : s.Owns) (total : s.len .total ≠ 0)
    (direct : s.cfg.lmpSubversion = lmpsubversion8723a → s.len .fw = 0 ∧ s.len .config = 0)
    (ends : event.ends = true → s.cfg.lmpSubversion = lmpsubversion8723a) :
    Left (s.setUartBaudHost event) := by
  unfold setUartBaudHost
  split
  next => exact downloadFw_left owns total direct ends
  next => exact setHwFlowControl_left owns total direct ends

def EndsWell (files : Files) (cfg : HwCfgCb) (event : HwEvent) : Prop :=
  event.ends = true → cfg.lmpSubversion ≠ lmpsubversion8723a → files.config.baudrate = 0 →
    ∀ maxPatchSize ∈ files.getPatchEntry cfg, ∀ part ∈ files.part cfg.lmpSubversion,
      maxPatchSize < files.total part

theorem cfgStart_left (owns : s.Owns) (clear : ∀ which, s.len which = 0)
    (suits : (files.getPatchEntry s.cfg).isSome = true → Suits files s.cfg)
    (well : EndsWell files s.cfg event) :
    Left (cfgStart files s event) := by
  unfold cfgStart
  cases entry : files.getPatchEntry s.cfg with
  | none => exact ⟨owns, nofun⟩
  | some maxPatchSize =>
    have loads := load_loads owns clear (suits (by rw [entry]; rfl)) maxPatchSize
    dsimp only
    generalize load files s maxPatchSize = t at loads ⊢
    unfold startDownload
    have max : t.cfg.maxPatchSize = maxPatchSize := congrArg (fun kept => kept.2.2.1) loads.fixed
    have chip : t.cfg.lmpSubversion = s.cfg.lmpSubversion := congrArg (fun kept => kept.2.1) loads.fixed
    have baudrate : t.cfg.baudrate = files.config.baudrate :=
      congrArg (fun kept => kept.2.2.2) loads.fixed
    by_cases large : t.cfg.totalLen > t.cfg.maxPatchSize
    · rw [if_pos large]
      exact ⟨loads.owns, nofun⟩
    · rw [if_neg large]
      by_cases some : t.cfg.totalLen > 0 ∧ t.cfg.dlFwFlag
      · rw [if_pos some]
        have total : t.len .total ≠ 0 := Nat.ne_of_gt some.1
        have direct : t.cfg.lmpSubversion = lmpsubversion8723a → t.len .fw = 0 ∧ t.len .config = 0 :=
          fun only => loads.direct (chip.symm.trans only) total
        have left : Owns { t with cfg := cfgFragments t.cfg } := loads.owns.control fun which => by
          cases which <;> rfl
        have ends : t.cfg.baudrate = 0 → event.ends = true →
            t.cfg.lmpSubversion = lmpsubversion8723a := by
          intro zero last
          by_contra other
          cases part : files.part s.cfg.lmpSubversion with
          | none =>
            have sum := loads.total
            rw [part] at sum
            exact total sum
          | some part_ =>
            have sum : t.cfg.totalLen = files.total part_ := by
              have sum := loads.total
              rw [part] at sum
              exact sum
            have exceeds := well last (fun only => other (chip.trans only))
              (baudrate.symm.trans zero) maxPatchSize entry part_ part
            rw [← sum] at exceeds
            rw [max] at large
            exact large exceeds
        dsimp only
        split
        next none =>
          exact downloadFw_left left total direct (ends none.1)
        next =>
          split
          next none => exact setHwFlowControl_left left total direct (ends none)
          next => exact setUartBaudController_left left total direct
      · rw [if_neg some]
        exact ⟨loads.owns, nofun⟩

def CallSuits (s : Owner) : HwCall → Prop
  | .start _ _ => s.cfg.state.downloading = false
  | .event files event =>
    event.handled = true →
      (s.cfg.state.downloading = true → event.ends = true → s.cfg.lmpSubversion = lmpsubversion8723a) ∧
        ∀ cfg, probe files.checkMatchState s.cfg event = .cfgStart cfg →
          ((files.getPatchEntry cfg).isSome = true → Suits files cfg) ∧ EndsWell files cfg event

def Keeps (cfg : HwCfgCb) : Probed → Prop
  | .ends proceeding next => (chipAndLens next).2 = (chipAndLens cfg).2 ∧
      (proceeding = true → next.state.downloading = false)
  | .cfgStart next => (chipAndLens next).2 = (chipAndLens cfg).2

theorem probeLocalVer_keeps (cfg : HwCfgCb) (event : HwEvent) :
    Keeps cfg (probeLocalVer cfg event) := by
  unfold probeLocalVer
  cases event.evtBuf with
  | none => exact ⟨rfl, nofun⟩
  | some mem =>
    dsimp only
    by_cases bad : event.status ≠ 0
    · rw [if_pos bad]
      exact ⟨rfl, nofun⟩
    · rw [if_neg bad]
      by_cases direct : streamToUint16 mem 12 = lmpsubversion8723a
      · rw [if_pos direct]
        rfl
      · rw [if_neg direct]
        exact ⟨rfl, fun _ => rfl⟩

theorem probeEcoVer_keeps (checkMatchState : HwCfgCb → Bool → Nat) (cfg : HwCfgCb) (event : HwEvent) :
    Keeps cfg (probeEcoVer checkMatchState cfg event) := by
  have matched : ∀ next : HwCfgCb, (chipAndLens next).2 = (chipAndLens cfg).2 →
      Keeps cfg (if checkMatchState next false > 1 then
          .ends event.xmit (sendCommand { next with state := .readChipType } hciVscReadChipType
            ([0] ++ uint32ToStream 0xB000A094))
        else .cfgStart { next with state := .start }) := by
    intro next same
    by_cases multi : checkMatchState next false > 1
    · rw [if_pos multi]
      exact ⟨same, fun _ => rfl⟩
    · rw [if_neg multi]
      exact same
  unfold probeEcoVer
  dsimp only
  split
  next => exact matched _ rfl
  next => exact matched _ rfl
  next => exact ⟨rfl, nofun⟩

theorem probeChipType_keeps (checkMatchState : HwCfgCb → Bool → Nat) (cfg : HwCfgCb) (event : HwEvent) :
    Keeps cfg (probeChipType checkMatchState cfg event) := by
  unfold probeChipType
  cases event.evtBuf with
  | none => exact ⟨rfl, nofun⟩
  | some mem =>
    dsimp only
    by_cases bad : event.status ≠ 0
    · rw [if_pos bad]
      exact ⟨rfl, nofun⟩
    · rw [if_neg bad]
      by_cases multi : checkMatchState { cfg with chipType := mem.getD 6 0 &&& 0x0F } true > 1
      · rw [if_pos multi]
        exact ⟨rfl, nofun⟩
      · rw [if_neg multi]
        rfl

theorem probe_keeps (checkMatchState : HwCfgCb → Bool → Nat) (cfg : HwCfgCb) (event : HwEvent) :
    Keeps cfg (probe checkMatchState cfg event) := by
  unfold probe
  split
  next => exact ⟨rfl, fun _ => rfl⟩
  next => exact probeLocalVer_keeps cfg event
  next => exact probeEcoVer_keeps checkMatchState cfg event
  next => exact probeChipType_keeps checkMatchState cfg event
  next => exact rfl
  next => exact ⟨rfl, nofun⟩

theorem hwConfigSwitch_left (kept : s.Kept)
    (ends : s.cfg.state.downloading = true → event.ends = true →
      s.cfg.lmpSubversion = lmpsubversion8723a)
    (loads : ∀ cfg, probe files.checkMatchState s.cfg event = .cfgStart cfg →
      ((files.getPatchEntry cfg).isSome = true → Suits files cfg) ∧ EndsWell files cfg event) :
    Left (s.hwConfigSwitch files event) := by
  have before : s.cfg.state.downloading = false →
      Left (match probe files.checkMatchState s.cfg event with
        | .ends proceeding cfg => (proceeding, { s with cfg := cfg })
        | .cfgStart cfg => cfgStart files { s with cfg := cfg } event) := by
    intro not_
    have clear := kept.clear not_
    have keeps := probe_keeps files.checkMatchState s.cfg event
    cases found : probe files.checkMatchState s.cfg event with
    | ends proceeding cfg =>
      rw [found] at keeps
      have zero : ∀ which, len { s with cfg := cfg } which = s.len which := len_of_lens keeps.1
      have owns := kept.owns.control zero
      dsimp only
      refine ⟨owns, fun goes => ⟨owns, fun _ which => (zero which).trans (clear which),
        fun yes => ?_, fun yes => ?_⟩⟩
      · exact absurd ((keeps.2 goes).symm.trans yes) Bool.false_ne_true
      · exact absurd ((keeps.2 goes).symm.trans yes) Bool.false_ne_true
    | cfgStart cfg =>
      rw [found] at keeps
      have zero : ∀ which, len { s with cfg := cfg } which = s.len which := len_of_lens keeps
      obtain ⟨suits, well⟩ := loads cfg found
      exact cfgStart_left (kept.owns.control zero) (fun which =>
        (zero which).trans (clear which)) suits well
  unfold hwConfigSwitch
  have total := kept.total
  have direct := kept.direct
  cases state : s.cfg.state with
  | setUartBaudHost =>
    rw [state] at ends total direct
    exact setUartBaudHost_left kept.owns (total rfl) (direct rfl) (ends rfl)
  | setUartBaudController =>
    rw [state] at ends total direct
    exact setUartBaudController_left kept.owns (total rfl) (direct rfl)
  | setUartHwFlowControl =>
    rw [state] at ends total direct
    exact setHwFlowControl_left kept.owns (total rfl) (direct rfl) (ends rfl)
  | dlFwPatch =>
    rw [state] at ends total direct
    exact downloadFw_left kept.owns (total rfl) (direct rfl) (ends rfl)
  | idle | h5Init | readLocalVer | readEcoVer | readChipType | start =>
      exact before (by rw [state]; rfl)

theorem Kept.call (kept : s.Kept) {call : HwCall} (suits : CallSuits s call) : (s.call call).Kept := by
  cases call with
  | start transtype alloc =>
    have clear := kept.clear suits
    have zero : ∀ which, (s.hwConfigStart transtype alloc).len which = 0 := by
      intro which
      unfold hwConfigStart Hw.hwConfigStart
      dsimp only
      split
      next => cases which <;> rfl
      next => split <;> cases which <;> rfl
    have not_ : (s.hwConfigStart transtype alloc).cfg.state.downloading = false := by
      unfold hwConfigStart Hw.hwConfigStart
      dsimp only
      split
      next => rfl
      next => split <;> rfl
    refine ⟨⟨kept.owns.misused, fun which => ⟨?_, ?_⟩⟩, fun _ => zero, fun yes => ?_, fun yes => ?_⟩
    · exact iff_of_false Held.noConfusion fun some => some (zero which)
    · rw [if_neg Held.noConfusion]
      exact kept.owns.none (clear which)
    · exact absurd (not_.symm.trans yes) Bool.false_ne_true
    · exact absurd (not_.symm.trans yes) Bool.false_ne_true
  | event files event =>
    unfold Owner.call
    dsimp only
    unfold Owner.hwConfigCback
    by_cases restart : event.opcode = hciVscH5Init ∧ event.status ≠ 0
    · rw [if_pos restart]
      split
      next => exact ⟨kept.owns.control fun which =>
        by cases which <;> rfl, fun not_ => kept.clear not_, kept.total, kept.direct⟩
      next => exact kept
    · rw [if_neg restart]
      split
      next goes =>
        have handled : event.handled = true := by
          unfold HwEvent.handled
          simp only [Bool.and_eq_true, Bool.not_eq_true', Bool.and_eq_false_iff,
            decide_eq_false_iff_not, Bool.or_eq_true, decide_eq_true_iff]
          exact ⟨⟨not_and_or.mp restart, goes.1⟩, goes.2⟩
        obtain ⟨ends, loads⟩ := suits handled
        exact (hwConfigSwitch_left kept ends loads).end_
      next => exact kept.owns.abort

-- No buffer was used without being allocated, a buffer is allocated when its length is not zero, and
-- at the end of a configuration every allocation was released once.
structure Settled (s : Owner) : Prop where
  misused : s.misused = []
  held : ∀ which, s.held which = .allocated ↔ s.len which ≠ 0
  ended : s.cfg.state = .idle → ∀ which, s.held which ≠ .allocated ∧ s.given which = s.taken which

theorem Kept.settled (kept : s.Kept) : s.Settled := by
  refine ⟨kept.owns.misused, fun which => (kept.owns.at_ which).held, fun idle which => ?_⟩
  have zero := kept.clear (by rw [idle]; rfl) which
  exact ⟨fun held => (kept.owns.at_ which).held.mp held zero, (kept.owns.none zero).symm⟩

theorem kept_init : Kept {} :=
  ⟨⟨rfl, fun which => ⟨iff_of_false Held.noConfusion fun some => some (by cases which <;> rfl), rfl⟩⟩,
    fun _ which => by cases which <;> rfl, nofun, nofun⟩

theorem configurations_settled (calls : List HwCall) (suits : Lib.Along call CallSuits {} calls)
    (first : List HwCall) (within : first <+: calls) : (Lib.run call {} first).Settled := by
  obtain ⟨more, rfl⟩ := within
  exact (Lib.run_invariant call CallSuits Kept (fun _ _ kept suits => kept.call suits) {} kept_init
    first suits.take).settled

def plainFiles (signed : Bool) : Files where
  checkMatchState := fun _ _ => 1
  getPatchEntry := fun _ => some 1000
  config := { stat := some 10, opens := true, alloc := true, read := 10, baudrate := 0, hwFlowCntrl := 0, dataLen := 4, patched := 4 }
  firmware :=
    { stat := some 100, opens := true, alloc := true, read := 100, signed := signed,
      extension := true, project := true,
      patchLength := some 20, totalAlloc := true, image := fun _ => 0 }
  autoRestart := false

def plainCalls : List HwCall :=
  [.start 0x20 true, .event (plainFiles false) localVersion8723a,
    .event (plainFiles false) (answerWith 0x80)]

theorem plain_suits {cfg : HwCfgCb} (direct : cfg.lmpSubversion = lmpsubversion8723a) : Suits (plainFiles false) cfg := by
  refine ⟨rfl, fun len found => ?_, fun part found => ⟨rfl, ?_⟩⟩
  · cases Option.mem_some_iff.mp found
    decide
  · rw [direct] at found
    cases Option.mem_some_iff.mp found
    decide

def Probed.chip : Probed → UInt16
  | .ends _ cfg | .cfgStart cfg => cfg.lmpSubversion

theorem configurations_settled_of_plain : (Lib.run call {} plainCalls).Settled := by
  refine configurations_settled plainCalls ⟨rfl, fun _ => ⟨nofun, ?_⟩, fun _ => ⟨fun _ _ => ?_, ?_⟩,
    trivial⟩ plainCalls
    (List.prefix_refl _)
  · intro cfg found
    have direct : lmpsubversion8723a = cfg.lmpSubversion := congrArg Probed.chip found
    exact ⟨fun _ => plain_suits direct.symm, fun _ other => absurd direct.symm other⟩
  · decide +kernel
  · nofun

def localVersionOther : HwEvent :=
  { evtBuf := some [0x0E, 12, 1, 0x01, 0x10, 0, 4, 0, 0, 4, 0x5D, 0, 0x23, 0x87], alloc := true,
    xmit := true }

def romVersion :
    HwEvent := { evtBuf := some [0x0E, 5, 1, 0x6D, 0xFC, 0, 1], alloc := true, xmit := true }

def withoutConfig :
    Files := { plainFiles false with config := { (plainFiles false).config with stat := none } }

def signedCalls : List HwCall :=
  [.start 0x20 true, .event (plainFiles true) localVersionOther, .event (plainFiles true) romVersion,
    .event (plainFiles true) (answerWith 0x80)]

theorem configurations_not_settled :
    (Lib.run call {} [.start 0x20 true, .event withoutConfig localVersion8723a]).misused = [.config] ∧
      (Lib.run call {} signedCalls).cfg.state = .idle ∧
      (Lib.run call {} signedCalls).cfg.initCb = [.success] ∧
      (Lib.run call {} signedCalls).held .config = .allocated ∧ (Lib.run call {} signedCalls).held .fw = .allocated := by
  decide +kernel

end Owner

end UnionpiTiger.Hw
