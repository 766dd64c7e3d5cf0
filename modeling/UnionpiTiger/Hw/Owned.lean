import UnionpiTiger.Hw.Buffers
import UnionpiTiger.Lib.Run

set_option autoImplicit false

namespace UnionpiTiger.Hw

namespace Owner

variable {s t : Owner} {which other : Which} {n : Nat}

def fixed (s : Owner) : HwCfgState × UInt16 × Nat × UInt32 :=
  (s.cfg.state, s.cfg.lmpSubversion, s.cfg.maxPatchSize, s.cfg.baudrate)

theorem fixed_of_cfg {s t : Owner} (cfg : t.cfg = s.cfg) : t.fixed = s.fixed := by
  unfold fixed
  rw [cfg]

theorem len_of_cfg {s t : Owner} (cfg : t.cfg = s.cfg) (which : Which) : t.len which = s.len which := by
  unfold len
  rw [cfg]

@[simp] theorem setLen_fixed (s : Owner) (which : Which) (n : Nat) :
    (s.setLen which n).fixed = s.fixed := by
  cases which <;> rfl

@[simp] theorem setLen_held (s : Owner) (which : Which) (n : Nat) :
    (s.setLen which n).held = s.held := by
  cases which <;> rfl

@[simp] theorem setLen_misused (s : Owner) (which : Which) (n : Nat) :
    (s.setLen which n).misused = s.misused := by
  cases which <;> rfl

@[simp] theorem setLen_taken (s : Owner) (which : Which) (n : Nat) :
    (s.setLen which n).taken = s.taken := by
  cases which <;> rfl

@[simp] theorem setLen_given (s : Owner) (which : Which) (n : Nat) :
    (s.setLen which n).given = s.given := by
  cases which <;> rfl

@[simp] theorem setLen_len (s : Owner) (which other : Which) (n : Nat) :
    (s.setLen which n).len other = if other = which then n else s.len other := by
  cases which <;> cases other <;> rfl

@[simp] theorem access_len (s : Owner) (which other : Which) :
    (s.access which).len other = s.len other := by
  unfold access
  split <;> rfl

@[simp] theorem malloc_len (s : Owner) (which other : Which) (ok : Bool) :
    (s.malloc which ok).len other = s.len other := by
  unfold malloc
  split <;> rfl

theorem malloc_held (s : Owner) (which : Which) : (s.malloc which true).held which = .allocated :=
  Function.update_self which _ _

@[simp] theorem free_len (s : Owner) (which other : Which) :
    (s.free which).len other = s.len other := access_len s which other

theorem free_cfg (s : Owner) (which : Which) : (s.free which).cfg = s.cfg := by
  unfold free access
  split <;> rfl

theorem free_fixed (s : Owner) (which : Which) : (s.free which).fixed = s.fixed := by
  unfold fixed
  rw [free_cfg]

theorem release_fixed (s : Owner) (which : Which) : (s.release which).fixed = s.fixed := by
  unfold release
  split
  next => rw [setLen_fixed, free_fixed]
  next => rfl

theorem release_len (s : Owner) (which other : Which) :
    (s.release which).len other = if other = which then 0 else s.len other := by
  unfold release
  split
  next => rw [setLen_len, free_len]
  next zero =>
    split
    next same =>
      rw [same]
      exact not_not.mp zero
    next => rfl

structure OwnsAt (s : Owner) (which : Which) : Prop where
  held : s.held which = .allocated ↔ s.len which ≠ 0
  ledger : s.taken which = s.given which + if s.held which = .allocated then 1 else 0

structure Owns (s : Owner) : Prop where
  misused : s.misused = []
  at_ : ∀ which, s.OwnsAt which

theorem OwnsAt.congr (at_ : s.OwnsAt which) (held : t.held which = s.held which)
    (len : t.len which = s.len which) (taken : t.taken which = s.taken which)
    (given : t.given which = s.given which) : t.OwnsAt which :=
  ⟨by rw [held, len]; exact at_.held, by rw [held, taken, given]; exact at_.ledger⟩

theorem Owns.control (owns : s.Owns) {cfg : HwCfgCb}
    (len : ∀ which, len { s with cfg := cfg } which = s.len which) :
    Owns { s with cfg := cfg } :=
  ⟨owns.misused, fun which => (owns.at_ which).congr rfl (len which) rfl rfl⟩

theorem Owns.access_eq (owns : s.Owns) (some : s.len which ≠ 0) : s.access which = s :=
  if_pos ((owns.at_ which).held.mpr some)

theorem Owns.copy_eq (owns : s.Owns) : s.copy which = s := by
  unfold copy
  split
  next some => exact owns.access_eq some
  next => rfl

theorem Owns.setLen (owns : s.Owns) (some : s.len which ≠ 0) (more : n ≠ 0) :
    (s.setLen which n).Owns := by
  refine ⟨by rw [setLen_misused, owns.misused], fun other => ⟨?_, ?_⟩⟩
  · rw [setLen_held, setLen_len, (owns.at_ other).held]
    split
    next same =>
      rw [same]
      exact iff_of_true some more
    next => exact Iff.rfl
  · rw [setLen_held, setLen_taken, setLen_given]
    exact (owns.at_ other).ledger

theorem Owns.changed (owns : s.Owns) (which : Which) (misused : t.misused = s.misused)
    (now : t.OwnsAt which)
    (rest : ∀ other, other ≠ which → t.held other = s.held other ∧ t.len other = s.len other ∧
      t.taken other = s.taken other ∧ t.given other = s.given other) : t.Owns := by
  refine ⟨misused.trans owns.misused, fun other => ?_⟩
  by_cases same : other = which
  · rw [same]
    exact now
  · obtain ⟨held, len, taken, given⟩ := rest other same
    exact (owns.at_ other).congr held len taken given

theorem Owns.none (owns : s.Owns) (none : s.len which = 0) : s.taken which = s.given which := by
  have free_ : s.held which ≠ .allocated := fun held => (owns.at_ which).held.mp held none
  have ledger := (owns.at_ which).ledger
  rw [if_neg free_] at ledger
  exact ledger

theorem Owns.some (owns : s.Owns) (some : s.len which ≠ 0) : s.taken which = s.given which + 1 := by
  have ledger := (owns.at_ which).ledger
  rw [if_pos ((owns.at_ which).held.mpr some)] at ledger
  exact ledger

theorem Owns.written (owns : s.Owns) {held : Held} {taken given : Nat}
    (misused : t.misused = s.misused) (len : ∀ other, t.len other = s.len other)
    (hold : t.held = Function.update s.held which held)
    (take : t.taken = Function.update s.taken which taken)
    (give : t.given = Function.update s.given which given) (fits : held = .allocated ↔ n ≠ 0)
    (ledger : taken = given + if held = .allocated then 1 else 0) :
    (t.setLen which n).Owns := by
  refine owns.changed which ((setLen_misused _ _ _).trans misused) ⟨?_, ?_⟩ fun other apart =>
    ⟨?_, ?_, ?_, ?_⟩
  · rw [setLen_held, hold, Function.update_self, setLen_len, if_pos rfl]
    exact fits
  · rw [setLen_held, setLen_taken, setLen_given, hold, take, give]
    simp only [Function.update_self]
    exact ledger
  · rw [setLen_held, hold, Function.update_of_ne apart]
  · rw [setLen_len, if_neg apart, len]
  · rw [setLen_taken, take, Function.update_of_ne apart]
  · rw [setLen_given, give, Function.update_of_ne apart]

theorem Owns.obtained (owns : s.Owns) (none : s.len which = 0) (more : n ≠ 0) :
    ((s.malloc which true).setLen which n).Owns :=
  owns.written rfl (fun other => malloc_len s which other true)
    rfl rfl (Function.update_eq_self which s.given).symm
    (iff_of_true rfl more) (congrArg (· + 1) (owns.none none))

theorem Owns.refused (owns : s.Owns) (none : s.len which = 0) :
    ((s.malloc which false).setLen which 0).Owns :=
  owns.written rfl (fun other => malloc_len s which other false)
    rfl (Function.update_eq_self which s.taken).symm
    (Function.update_eq_self which s.given).symm (iff_of_false Held.noConfusion fun some =>
      some rfl) (owns.none none)

theorem Owns.freed (owns : s.Owns) (some : s.len which ≠ 0) : ((s.free which).setLen which 0).Owns := by
  unfold free
  rw [owns.access_eq some]
  exact owns.written rfl (fun _ => rfl) rfl (Function.update_eq_self which s.taken).symm rfl
    (iff_of_false Held.noConfusion fun some => some rfl) (owns.some some)

theorem Owns.given_up (owns : s.Owns) (none : s.len which = 0) :
    ({ (s.malloc which true).free which with
        held := Function.update ((s.malloc which true).free which).held which .absent }.setLen
          which 0).Owns := by
  unfold free access
  rw [if_pos (malloc_held s which)]
  have held : Function.update
      (Function.update (Function.update s.held which .allocated) which .released) which .absent =
      Function.update s.held which .absent := by
    rw [Function.update_idem, Function.update_idem]
  have ledger : s.taken which + 1 = s.given which + 1 + if Held.absent = .allocated then 1 else 0 := by
    rw [owns.none none, if_neg Held.noConfusion]
  exact owns.written rfl (fun _ => rfl) held rfl rfl (iff_of_false Held.noConfusion fun some =>
    some rfl) ledger

theorem Owns.release (owns : s.Owns) : (s.release which).Owns := by
  unfold Owner.release
  split
  next some => exact owns.freed some
  next => exact owns

end Owner

def ConfigFile.loads (file : ConfigFile) : Bool :=
  match file.stat with
  | none => false
  | some filelen => 0 < filelen && filelen ≤ maxOrgConfigSize && file.opens && file.alloc &&
      (filelen : Int) ≤ file.read

def ConfigFile.len (file : ConfigFile) : Nat :=
  if file.dataLen + configHead = file.stat.getD 0 then file.patched + configHead else file.stat.getD 0

def FirmwareFile.len (file : FirmwareFile) : Option Int :=
  match file.stat with
  | none => none
  | some size =>
    if file.opens && file.alloc && (size : Int) ≤ file.read
      then some ((size : Int).bmod (2 ^ 32)) else none

def FirmwareFile.part (file : FirmwareFile) (lmpSubversion : UInt16) (fwLen : Nat) : Option Nat :=
  if lmpSubversion = lmpsubversion8723a then if file.signed then none else some fwLen
  else if file.signed && file.extension && file.project then file.patchLength.map UInt16.toNat else none

def Files.part (files : Files) (lmpSubversion : UInt16) : Option Nat :=
  files.firmware.len.bind fun fwLen => files.firmware.part lmpSubversion fwLen.toNat

def Files.total (files : Files) (part : Nat) : Nat := (part + files.config.len) % 2 ^ 32

namespace Owner

variable {s t : Owner} {n : Nat}

theorem rtkGetBtConfig_loads {file : ConfigFile} (loads : file.loads = true) (owns : s.Owns)
    (none : s.len .config = 0) :
    (rtkGetBtConfig file s).Owns ∧
      (rtkGetBtConfig file s).fixed = (s.cfg.state, s.cfg.lmpSubversion, s.cfg.maxPatchSize,
        file.baudrate) ∧
      file.stat.getD 0 ≠ 0 ∧
      ∀ which, (rtkGetBtConfig file s).len which = if which = .config then file.stat.getD 0
        else s.len which := by
  unfold ConfigFile.loads at loads
  unfold rtkGetBtConfig
  cases stat : file.stat with
  | none =>
    rw [stat] at loads
    cases loads
  | some filelen =>
    rw [stat] at loads
    simp only [Bool.and_eq_true, decide_eq_true_iff] at loads
    obtain ⟨⟨⟨⟨some, small⟩, opens⟩, alloc⟩, read⟩ := loads
    have whole : ¬ file.read < filelen := Int.not_lt.mpr read
    have held := malloc_held s .config
    dsimp only
    rw [if_neg (Nat.not_lt.mpr small), opens, alloc, if_neg (by decide),
      if_neg (by decide), if_neg whole]
    unfold access
    rw [if_pos held]
    refine ⟨?_, rfl, Nat.ne_of_gt some, fun which => ?_⟩
    · have got := owns.obtained none (Nat.ne_of_gt some)
      exact got.control fun which => by cases which <;> rfl
    · cases which <;> rfl

structure ConfigLoaded (file : ConfigFile) (s t : Owner) : Prop where
  owns : t.Owns
  fixed : t.fixed = (s.cfg.state, s.cfg.lmpSubversion, s.cfg.maxPatchSize, file.baudrate)
  some : file.len ≠ 0
  len : ∀ which, t.len which = if which = .config then file.len else s.len which

theorem config_loaded {file : ConfigFile} (loads : file.loads = true) (owns : s.Owns)
    (none : s.len .config = 0) :
    ConfigLoaded file s (rtkUpdateAltsettings file (rtkGetBtConfig file s)) := by
  obtain ⟨owns, fixed, some, len⟩ := rtkGetBtConfig_loads loads owns none
  have here := len .config
  rw [if_pos rfl] at here
  have held : (rtkGetBtConfig file s).len .config ≠ 0 := by
    rw [here]
    exact some
  unfold rtkUpdateAltsettings
  dsimp only
  rw [owns.access_eq held, here]
  by_cases right : file.dataLen + configHead = file.stat.getD 0
  · have whole : file.len = file.patched + configHead := if_pos right
    have more : file.patched + configHead ≠ 0 :=
      Nat.ne_of_gt (Nat.lt_of_lt_of_le (by decide) (Nat.le_add_left _ _))
    rw [if_pos right]
    refine ⟨owns.setLen held more, (setLen_fixed _ _ _).trans fixed,
      by rw [whole]; exact more, fun which => ?_⟩
    rw [setLen_len, whole, len]
    split <;> rfl
  · have whole : file.len = file.stat.getD 0 := if_neg right
    rw [if_neg right]
    refine ⟨owns, fixed, by rw [whole]; exact some, fun which => ?_⟩
    rw [whole, len]

theorem rtkGetBtFirmware_owns (file : FirmwareFile) (positive : ∀ len ∈ file.len, 0 < len)
    (owns : s.Owns) (none : s.len .fw = 0) :
    (rtkGetBtFirmware file s).2.cfg = s.cfg ∧
      match file.len with
      | Option.none => (rtkGetBtFirmware file s).1 < 0 ∧ ((rtkGetBtFirmware file s).2.setLen .fw 0).Owns
      | Option.some len => (rtkGetBtFirmware file s).1 = len ∧
          ((rtkGetBtFirmware file s).2.setLen .fw len.toNat).Owns := by
  have zero : s.setLen .fw 0 = s := by
    have here : s.cfg.fwLen = 0 := none
    unfold Owner.setLen
    dsimp only
    rw [← here]
  have negative : (-1 : Int) < 0 := by decide
  obtain ⟨stat, opens, alloc, read, _, _, _, _, _, _⟩ := file
  unfold FirmwareFile.len at positive ⊢
  unfold rtkGetBtFirmware
  dsimp only at positive ⊢
  cases stat with
  | none => exact ⟨rfl, negative, by rw [zero]; exact owns⟩
  | some size =>
    cases opens with
    | false => exact ⟨rfl, negative, by change (s.setLen .fw 0).Owns; rw [zero]; exact owns⟩
    | true =>
      cases alloc with
      | false => exact ⟨rfl, negative, owns.refused none⟩
      | true =>
        dsimp only at positive ⊢
        rw [if_neg (by decide), if_neg (by decide)]
        by_cases whole : (size : Int) ≤ read
        · rw [decide_eq_true whole, if_pos (by decide)] at positive
          rw [if_neg (Int.not_lt.mpr whole), decide_eq_true whole, if_pos (by decide)]
          generalize (size : Int).bmod (2 ^ 32) = len at positive ⊢
          refine ⟨rfl, rfl, owns.obtained none ?_⟩
          have more := positive _ rfl
          omega
        · rw [if_pos (Int.not_le.mp whole), decide_eq_false whole, if_neg (by decide)]
          exact ⟨(free_cfg _ _).trans rfl, negative, owns.given_up none⟩

theorem cleanUp_len (s : Owner) (dlFwFlag : Bool) (which : Which) :
    (s.cleanUp dlFwFlag).len which = if which = .total then s.len .total else 0 := by
  unfold cleanUp
  rw [release_len, release_len]
  cases which <;> rfl

theorem cleanUp_fixed (s : Owner) (dlFwFlag : Bool) : (s.cleanUp dlFwFlag).fixed = s.fixed := by
  unfold cleanUp
  rw [release_fixed, release_fixed]
  rfl

theorem Owns.cleanUp (owns : s.Owns) (dlFwFlag : Bool) : (s.cleanUp dlFwFlag).Owns :=
  (owns.control fun which => by cases which <;> rfl).release.release

theorem Owns.filled (owns : s.Owns) (file : FirmwareFile) :
    (fillTotal file s).Owns ∧ (fillTotal file s).fixed = s.fixed ∧ ∀ which,
      (fillTotal file s).len which = s.len which := by
  unfold fillTotal
  rw [owns.copy_eq]
  exact ⟨owns.control fun which => by cases which <;> rfl, rfl, fun which => by cases which <;> rfl⟩

structure Assembled (file : FirmwareFile) (s t : Owner) : Prop where
  owns : t.Owns
  fixed : t.fixed = s.fixed
  total : t.len .total = match file.part s.cfg.lmpSubversion (s.len .fw) with
    | none => 0
    | some part => (part + s.len .config) % 2 ^ 32
  direct : s.cfg.lmpSubversion = lmpsubversion8723a → t.len .fw = 0 ∧ t.len .config = 0

theorem Owns.turned_down (owns : s.Owns) {file : FirmwareFile} (none : s.len .total = 0)
    (refused : file.part s.cfg.lmpSubversion (s.len .fw) = Option.none) :
    Assembled file s (s.cleanUp false) := by
  refine ⟨owns.cleanUp false, cleanUp_fixed s false, ?_,
    fun _ => ⟨cleanUp_len s false .fw, cleanUp_len s false .config⟩⟩
  rw [refused]
  exact (cleanUp_len s false .total).trans none

theorem Owns.room (owns : s.Owns) (none : s.len .total = 0) {file : FirmwareFile}
    (alloc : file.totalAlloc = true) {len : Nat} (some : len % 2 ^ 32 ≠ 0) :
    (mallocTotal file s len).Owns ∧ (mallocTotal file s len).fixed = s.fixed ∧
      ∀ which, (mallocTotal file s len).len which = if which = .total then len % 2 ^ 32
        else s.len which := by
  unfold mallocTotal
  rw [alloc]
  refine ⟨owns.obtained none some, rfl, fun which => ?_⟩
  rw [malloc_len, setLen_len]

theorem rtkGetBtFinalPatch_assembled (file : FirmwareFile) (owns : s.Owns) (fw : s.len .fw ≠ 0)
    (none : s.len .total = 0)
    (room : ∀ part ∈ file.part s.cfg.lmpSubversion (s.len .fw), file.totalAlloc = true ∧
      (part + s.len .config) % 2 ^ 32 ≠ 0) :
    Assembled file s (rtkGetBtFinalPatch file s) := by
  unfold rtkGetBtFinalPatch
  dsimp only
  rw [owns.access_eq fw]
  by_cases direct : s.cfg.lmpSubversion = lmpsubversion8723a
  · rw [if_pos direct]
    have part : file.part s.cfg.lmpSubversion (s.len .fw) = if file.signed then Option.none
        else Option.some (s.len .fw) :=
      if_pos direct
    cases signed : file.signed with
    | true =>
      rw [signed] at part
      exact owns.turned_down none part
    | false =>
      rw [signed] at part
      obtain ⟨alloc, some⟩ := room _ part
      obtain ⟨got, fixed, len⟩ := owns.room none alloc some
      rw [if_neg (by decide), alloc, if_neg (by decide), got.copy_eq, got.copy_eq]
      obtain ⟨full, fixed', len'⟩ := got.filled file
      refine ⟨full.cleanUp true, (cleanUp_fixed _ _).trans (fixed'.trans fixed), ?_,
        fun _ => ⟨cleanUp_len _ _ .fw, cleanUp_len _ _ .config⟩⟩
      rw [cleanUp_len, if_pos rfl, len', len, part]
      rfl
  · rw [if_neg direct]
    have part : file.part s.cfg.lmpSubversion (s.len .fw) =
        if file.signed && file.extension && file.project then file.patchLength.map UInt16.toNat
          else Option.none :=
      if_neg direct
    cases signed : file.signed with
    | false =>
      rw [signed] at part
      exact owns.turned_down none part
    | true =>
      cases extension : file.extension with
      | false =>
        rw [extension, signed] at part
        exact owns.turned_down none part
      | true =>
        cases project : file.project with
        | false =>
          rw [project, extension, signed] at part
          exact owns.turned_down none part
        | true =>
          rw [project, extension, signed] at part
          cases patchLength : file.patchLength with
          | none =>
            rw [patchLength] at part
            exact owns.turned_down none part
          | some size =>
            rw [patchLength] at part
            obtain ⟨alloc, some⟩ := room _ part
            obtain ⟨got, fixed, len⟩ := owns.room none alloc some
            have held : (mallocTotal file s (size.toNat + s.len .config)).len .fw ≠ 0 := by
              rw [len]
              exact fw
            dsimp only
            rw [if_neg (by decide), if_neg (by decide), if_neg (by decide), alloc,
              if_neg (by decide), got.access_eq held, got.copy_eq]
            obtain ⟨full, fixed', len'⟩ := got.filled file
            refine ⟨full.control fun which =>
              by cases which <;> rfl, fixed'.trans fixed, ?_, fun same => absurd same direct⟩
            rw [part]
            exact (len' .total).trans (len .total)

theorem loadFirmware_assembled (file : FirmwareFile) (positive : ∀ len ∈ file.len, 0 < len)
    (owns : s.Owns)
    (fw : s.len .fw = 0) (none : s.len .total = 0)
    (room : ∀ part ∈ file.len.bind fun fwLen => file.part s.cfg.lmpSubversion fwLen.toNat,
      file.totalAlloc = true ∧ (part + s.len .config) % 2 ^ 32 ≠ 0) :
    (loadFirmware file s).Owns ∧ (loadFirmware file s).fixed = s.fixed ∧
      ((loadFirmware file s).len .total = match file.len.bind fun fwLen =>
        file.part s.cfg.lmpSubversion fwLen.toNat with
        | Option.none => 0
        | Option.some part => (part + s.len .config) % 2 ^ 32) ∧
      (s.cfg.lmpSubversion = lmpsubversion8723a → (loadFirmware file s).len .total ≠ 0 →
        (loadFirmware file s).len .fw = 0 ∧ (loadFirmware file s).len .config = 0) := by
  obtain ⟨cfg, read⟩ := rtkGetBtFirmware_owns file positive owns fw
  have len := len_of_cfg cfg
  unfold loadFirmware
  cases found : file.len with
  | none =>
    rw [found] at read
    obtain ⟨negative, owns⟩ := read
    dsimp only
    rw [if_pos negative]
    have total : ((rtkGetBtFirmware file s).2.setLen .fw 0).len .total = 0 := by
      rw [setLen_len]
      exact (len .total).trans none
    refine ⟨owns, ?_, total, fun _ some => absurd total some⟩
    rw [setLen_fixed]
    exact fixed_of_cfg cfg
  | some fwLen =>
    rw [found] at read room
    obtain ⟨same, owns⟩ := read
    dsimp only
    have more := positive fwLen found
    rw [same, if_neg (Int.not_lt.mpr (Int.le_of_lt more))]
    have lmp : ((rtkGetBtFirmware file s).2.setLen .fw fwLen.toNat).cfg.lmpSubversion =
        s.cfg.lmpSubversion := by
      change (rtkGetBtFirmware file s).2.cfg.lmpSubversion = s.cfg.lmpSubversion
      rw [cfg]
    have fwHere : ((rtkGetBtFirmware file s).2.setLen .fw fwLen.toNat).len .fw = fwLen.toNat := rfl
    have configHere : ((rtkGetBtFirmware file s).2.setLen .fw fwLen.toNat).len .config =
        s.len .config := len .config
    have all := rtkGetBtFinalPatch_assembled file owns (by rw [fwHere]; omega) ((len .total).trans none)
      (by rw [lmp, fwHere, configHere]; exact room)
    have total := all.total
    rw [lmp, fwHere, configHere] at total
    exact ⟨all.owns, all.fixed.trans ((setLen_fixed _ _ _).trans (fixed_of_cfg cfg)), total,
      fun direct _ => all.direct (lmp.trans direct)⟩

-- What the files come to where CFG_START is reached.
structure Suits (files : Files) (cfg : HwCfgCb) : Prop where
  config : files.config.loads = true
  fw : ∀ len ∈ files.firmware.len, 0 < len
  room : ∀ part ∈ files.part cfg.lmpSubversion, files.firmware.totalAlloc = true ∧ files.total part ≠ 0

structure Loads (files : Files) (s : Owner) (maxPatchSize : Nat) (t : Owner) : Prop where
  owns : t.Owns
  fixed : t.fixed = (s.cfg.state, s.cfg.lmpSubversion, maxPatchSize, files.config.baudrate)
  total : t.len .total = match files.part s.cfg.lmpSubversion with
    | none => 0
    | some part => files.total part
  direct : s.cfg.lmpSubversion = lmpsubversion8723a → t.len .total ≠ 0 →
    t.len .fw = 0 ∧ t.len .config = 0

theorem load_loads {files : Files} (owns : s.Owns) (clear : ∀ which, s.len which = 0)
    (suits : Suits files s.cfg) (maxPatchSize : Nat) :
    Loads files s maxPatchSize (load files s maxPatchSize) := by
  have start : Owns { s with cfg := { s.cfg with maxPatchSize := maxPatchSize } } :=
    owns.control fun which => by cases which <;> rfl
  have config := config_loaded suits.config start (clear .config)
  have lmp := congrArg (fun kept => kept.2.1) config.fixed
  have len := config.len .config
  have fw := config.len .fw
  have total := config.len .total
  unfold load
  dsimp only at lmp ⊢
  generalize rtkUpdateAltsettings files.config
    (rtkGetBtConfig files.config { s with cfg := { s.cfg with maxPatchSize := maxPatchSize } }) =
      mid at config lmp len fw total ⊢
  have same : mid.cfg.lmpSubversion = s.cfg.lmpSubversion := lmp
  rw [if_pos rfl] at len
  obtain ⟨owns, fixed, sum, direct⟩ :=
    loadFirmware_assembled files.firmware suits.fw config.owns (fw.trans (clear .fw))
    (total.trans (clear .total)) (by rw [same, len]; exact suits.room)
  rw [same, len] at sum
  rw [same] at direct
  exact ⟨owns, fixed.trans config.fixed, sum, direct⟩

end Owner

end UnionpiTiger.Hw
