import UnionpiTiger.Lib.Run

set_option autoImplicit false

namespace UnionpiTiger.Coex

open Lib

def hciVendorSetProfileReportCommand : UInt16 := 0xFC19
def hciVendorMailboxCmd : UInt16 := 0xFC8F
def hciVendorAddBitpoolFw : UInt16 := 0xFC51
def hciCmdVndrHeartbeat : UInt16 := 0xFC94
def hciVscUpdateBaudrate : UInt16 := 0xFC17
def hciVscReadChipType : UInt16 := 0xFC61
def hciVscH5Init : UInt16 := 0xFCEE
def hciVscDownloadFwPatch : UInt16 := 0xFC20
def hciReadLmpVersion : UInt16 := 0x1001
def hciVscReadRomVersion : UInt16 := 0xFC6D
def hciVendorReset : UInt16 := 0x0C03

-- A command as it stands in `p_buf` or in `coex_list`; callbacks are known by number.
structure VendorCmd where
  opcode : UInt16
  parameter : List UInt8
  pCback : Option Nat
deriving DecidableEq, Repr

-- `coex_cmd_send` is a static of its own, outside `rtk_prof`. `xmit` and `called` list what went
-- to `xmit_cb` and which callbacks were invoked.
structure CoexPipe where
  coexCmdSend : Bool := false
  coexList : List VendorCmd := []
  currentCback : Option Nat := none
  xmit : List VendorCmd := []
  called : List Nat := []
deriving DecidableEq, Repr

def rtkVendorCmdToFw (pipe : CoexPipe) (cmd : VendorCmd) (buffer info : Bool) : CoexPipe :=
  if !buffer then pipe
  else if !pipe.coexCmdSend then
    { pipe with
      coexCmdSend := true
      currentCback := cmd.pCback
      xmit := pipe.xmit ++ [cmd] }
  else if !info then pipe
  else { pipe with coexList := pipe.coexList ++ [cmd] }

def rtkCmdCompleteCback (pipe : CoexPipe) : CoexPipe :=
  let called := pipe.called ++ pipe.currentCback.toList
  match pipe.coexList with
  | [] =>
    { pipe with
      coexCmdSend := false
      currentCback := none
      called := called }
  | desc :: rest =>
    { pipe with
      coexList := rest
      currentCback := desc.pCback
      xmit := pipe.xmit ++ [desc]
      called := called }

inductive CompletionCback where
  | hwConfigCback
  | rtkCmdCompleteCback
deriving DecidableEq, Repr

def completionCback (opcode : UInt16) : Option CompletionCback :=
  if opcode = hciVscUpdateBaudrate ∨ opcode = hciVscReadChipType ∨ opcode = hciVscH5Init ∨
      opcode = hciVscDownloadFwPatch ∨ opcode = hciReadLmpVersion ∨
      opcode = hciVscReadRomVersion ∨ opcode = hciVendorReset then some .hwConfigCback
  else if opcode = 0xFC1B ∨ opcode = hciCmdVndrHeartbeat ∨
      opcode = hciVendorSetProfileReportCommand ∨ opcode = hciVendorAddBitpoolFw ∨
      opcode = hciVendorMailboxCmd then some .rtkCmdCompleteCback
  else none

def streamToUint16 (p : List UInt8) (offset : Nat) : UInt16 :=
  (p.getD offset 0).toUInt16 + ((p.getD (offset + 1) 0).toUInt16 <<< 8)

def hciEvtCmdCmplOpcode : Nat := 3

def hwProcessEvent (pipe : CoexPipe) (pBuf : List UInt8) : CoexPipe :=
  match completionCback (streamToUint16 pBuf hciEvtCmdCmplOpcode) with
  | some .rtkCmdCompleteCback => rtkCmdCompleteCback pipe
  | _ => pipe

-- `rtk_parse_cleanup` and then `rtk_parse_init`: `rtk_prof` is cleared, `coex_cmd_send` is not.
def rtkParseReinit (pipe : CoexPipe) : CoexPipe :=
  { pipe with
    coexList := []
    currentCback := none }

-- The pipe with the controller at its other end: `calls` are the commands given to
-- `rtk_vendor_cmd_to_fw`, `pending` those transmitted and not completed.
structure VendorLink where
  pipe : CoexPipe := {}
  calls : List VendorCmd := []
  pending : List VendorCmd := []
deriving DecidableEq, Repr

inductive PipeEvent where
  | vendorCmd (cmd : VendorCmd) (buffer info : Bool)
  | commandComplete (pBuf : List UInt8)
  | reinit (poweredOff : Bool)
deriving DecidableEq, Repr

def completes (pBuf : List UInt8) (cmd : VendorCmd) : Bool :=
  cmd.opcode = streamToUint16 pBuf hciEvtCmdCmplOpcode

def VendorLink.transmit (link : VendorLink) (next : CoexPipe) : VendorLink :=
  { link with
    pipe := next
    pending := link.pending ++ next.xmit.drop link.pipe.xmit.length }

def VendorLink.step (link : VendorLink) : PipeEvent → VendorLink
  | .vendorCmd cmd buffer info =>
    { link with calls := link.calls ++ [cmd] }.transmit (rtkVendorCmdToFw link.pipe cmd buffer info)
  | .commandComplete pBuf =>
    { link with pending := link.pending.eraseP (completes pBuf) }.transmit
      (hwProcessEvent link.pipe pBuf)
  | .reinit poweredOff =>
    { link with
      pipe := rtkParseReinit link.pipe
      pending := if poweredOff then [] else link.pending }

structure PipeInOrder (link : VendorLink) : Prop where
  inOrder : (link.pipe.xmit ++ link.pipe.coexList).Sublist link.calls
  oneOutstanding : link.pending.length ≤ 1
  busy : link.pipe.coexCmdSend = true ↔ link.pending ≠ []
  released : link.pending = [] → link.pipe.coexList = []

-- The completion of an outstanding command reaches `rtk_cmd_complete_cback`, and nothing else
-- reaches it while a command is outstanding; the controller loses power only when idle.
def Completing (link : VendorLink) : PipeEvent → Prop
  | .vendorCmd _ _ _ => True
  | .commandComplete pBuf =>
    if link.pending.any (completes pBuf) then
      completionCback (streamToUint16 pBuf hciEvtCmdCmplOpcode) = some .rtkCmdCompleteCback
    else
      completionCback (streamToUint16 pBuf hciEvtCmdCmplOpcode) = some .rtkCmdCompleteCback →
        link.pending = []
  | .reinit poweredOff => poweredOff = true → link.pending = []

theorem rtkVendorCmdToFw_cases (pipe : CoexPipe) (cmd : VendorCmd) (buffer info : Bool) :
    rtkVendorCmdToFw pipe cmd buffer info = pipe ∨
    (pipe.coexCmdSend = false ∧ rtkVendorCmdToFw pipe cmd buffer info =
      { pipe with
        coexCmdSend := true
        currentCback := cmd.pCback
        xmit := pipe.xmit ++ [cmd] }) ∨
    (pipe.coexCmdSend = true ∧ rtkVendorCmdToFw pipe cmd buffer info =
      { pipe with coexList := pipe.coexList ++ [cmd] }) := by
  unfold rtkVendorCmdToFw
  cases buffer
  · exact Or.inl rfl
  · cases busy : pipe.coexCmdSend
    · exact Or.inr (Or.inl ⟨rfl, rfl⟩)
    · cases info
      · exact Or.inl rfl
      · exact Or.inr (Or.inr ⟨rfl, rfl⟩)

variable {link : VendorLink}

theorem PipeInOrder.idle (inv : PipeInOrder link) (idle : link.pipe.coexCmdSend = false) :
    link.pending = [] := by
  by_contra outstanding
  rw [inv.busy.mpr outstanding] at idle
  cases idle

theorem PipeInOrder.outstanding (inv : PipeInOrder link) (busy : link.pipe.coexCmdSend = true) :
    ∃ cmd, link.pending = [cmd] := by
  have outstanding := inv.busy.mp busy
  have one := inv.oneOutstanding
  match pending : link.pending, outstanding, one with
  | [cmd], _, _ => exact ⟨cmd, rfl⟩

theorem PipeInOrder.vendorCmd (inv : PipeInOrder link) (cmd : VendorCmd) (buffer info : Bool) :
    PipeInOrder (link.step (.vendorCmd cmd buffer info)) := by
  obtain refused | ⟨idle, sent⟩ | ⟨busy, queued⟩ := rtkVendorCmdToFw_cases link.pipe cmd buffer info
  · simp only [VendorLink.step, VendorLink.transmit, refused, List.drop_length, List.append_nil]
    exact { inv with inOrder := inv.inOrder.trans (List.sublist_append_left _ _) }
  · have none := inv.idle idle
    have empty := inv.released none
    simp only [VendorLink.step, VendorLink.transmit, sent, List.drop_left, none, List.nil_append]
    refine ⟨?_, Nat.le_refl 1, by simp, by simp⟩
    have inOrder := inv.inOrder
    simp only [empty, List.append_nil] at inOrder ⊢
    exact inOrder.append (List.Sublist.refl [cmd])
  · obtain ⟨outstanding, pending⟩ := inv.outstanding busy
    simp only [VendorLink.step, VendorLink.transmit, queued, List.drop_length, List.append_nil]
    refine ⟨?_, inv.oneOutstanding, inv.busy, fun none => by simp [pending] at none⟩
    rw [← List.append_assoc]
    exact inv.inOrder.append (List.Sublist.refl [cmd])

theorem PipeInOrder.reinit (inv : PipeInOrder link) (poweredOff : Bool) :
    Completing link (.reinit poweredOff) ↔ PipeInOrder (link.step (.reinit poweredOff)) := by
  have inOrder : (link.pipe.xmit ++ []).Sublist link.calls := by
    rw [List.append_nil]
    exact (List.sublist_append_left _ _).trans inv.inOrder
  cases poweredOff with
  | false =>
    simp only [Completing, Bool.false_eq_true, false_implies, true_iff]
    exact ⟨inOrder, inv.oneOutstanding, inv.busy, fun _ => rfl⟩
  | true =>
    simp only [Completing, true_implies]
    constructor
    · intro none
      refine ⟨inOrder, Nat.zero_le 1, ?_, fun _ => rfl⟩
      have busy := inv.busy
      rw [none] at busy
      exact busy
    · intro kept
      by_contra outstanding
      exact kept.busy.mp (inv.busy.mpr outstanding) rfl

theorem hwProcessEvent_completing (pipe : CoexPipe) (pBuf : List UInt8)
    (reaches : completionCback (streamToUint16 pBuf hciEvtCmdCmplOpcode) = some .rtkCmdCompleteCback) :
    hwProcessEvent pipe pBuf = rtkCmdCompleteCback pipe := by
  simp only [hwProcessEvent, reaches]

theorem hwProcessEvent_other (pipe : CoexPipe) (pBuf : List UInt8)
    (misses : completionCback (streamToUint16 pBuf hciEvtCmdCmplOpcode) ≠ some .rtkCmdCompleteCback) :
    hwProcessEvent pipe pBuf = pipe := by
  unfold hwProcessEvent
  split
  next reaches => exact absurd reaches misses
  next => rfl

theorem PipeInOrder.ownCompletion (inv : PipeInOrder link) (pBuf : List UInt8) (cmd : VendorCmd)
    (pending : link.pending = [cmd]) (completed : completes pBuf cmd = true) :
    completionCback (streamToUint16 pBuf hciEvtCmdCmplOpcode) = some .rtkCmdCompleteCback ↔
      PipeInOrder (link.step (.commandComplete pBuf)) := by
  have busy : link.pipe.coexCmdSend = true := inv.busy.mpr (by simp [pending])
  have erased : link.pending.eraseP (completes pBuf) = [] := by simp [pending, completed]
  constructor
  · intro reaches
    simp only [VendorLink.step, VendorLink.transmit, erased, hwProcessEvent_completing _ _ reaches,
      rtkCmdCompleteCback, List.nil_append]
    cases queue : link.pipe.coexList with
    | nil =>
      simp only [List.drop_length]
      refine ⟨?_, Nat.zero_le 1, by simp, fun _ => rfl⟩
      simpa [queue] using inv.inOrder
    | cons desc rest =>
      simp only [List.drop_left]
      refine ⟨?_, Nat.le_refl 1, by simp [busy], by simp⟩
      simpa [queue] using inv.inOrder
  · intro kept
    by_contra misses
    simp only [VendorLink.step, VendorLink.transmit, erased, hwProcessEvent_other _ _ misses,
      List.drop_length, List.nil_append] at kept
    exact kept.busy.mp busy rfl

theorem PipeInOrder.otherCompletion (inv : PipeInOrder link) (pBuf : List UInt8)
    (other : ∀ cmd ∈ link.pending, completes pBuf cmd = false) :
    (completionCback (streamToUint16 pBuf hciEvtCmdCmplOpcode) = some .rtkCmdCompleteCback →
      link.pending = []) ↔ PipeInOrder (link.step (.commandComplete pBuf)) := by
  have kept : link.pending.eraseP (completes pBuf) = link.pending :=
    List.eraseP_of_forall_not (fun cmd mem => by simp [other cmd mem])
  by_cases reaches :
      completionCback (streamToUint16 pBuf hciEvtCmdCmplOpcode) = some .rtkCmdCompleteCback
  · simp only [reaches, true_implies, VendorLink.step, VendorLink.transmit, kept,
      hwProcessEvent_completing _ _ reaches]
    constructor
    · intro none
      have empty := inv.released none
      simp only [rtkCmdCompleteCback, empty, none, List.drop_length, List.append_nil]
      exact ⟨by simpa [empty] using inv.inOrder, Nat.zero_le 1, by simp, fun _ => rfl⟩
    · intro after
      by_contra outstanding
      have one := after.oneOutstanding
      have busy := after.busy
      have some : 0 < link.pending.length := List.length_pos_iff.mpr outstanding
      cases queue : link.pipe.coexList with
      | nil => simp [rtkCmdCompleteCback, queue, outstanding] at busy
      | cons desc rest =>
        simp only [rtkCmdCompleteCback, queue, List.drop_left, List.length_append,
          List.length_singleton] at one
        omega
  · simp only [reaches, false_implies, true_iff, VendorLink.step, VendorLink.transmit, kept,
      hwProcessEvent_other _ _ reaches, List.drop_length, List.append_nil]
    exact inv

theorem PipeInOrder.step_iff (inv : PipeInOrder link) (event : PipeEvent) :
    Completing link event ↔ PipeInOrder (link.step event) := by
  cases event with
  | vendorCmd cmd buffer info =>
    simp only [Completing, true_iff]
    exact inv.vendorCmd cmd buffer info
  | reinit poweredOff => exact inv.reinit poweredOff
  | commandComplete pBuf =>
    simp only [Completing]
    split_ifs with own
    · obtain ⟨cmd, mem, completed⟩ := List.any_eq_true.mp own
      obtain ⟨outstanding, pending⟩ := inv.outstanding (inv.busy.mpr (List.ne_nil_of_mem mem))
      rw [pending, List.mem_singleton] at mem
      subst mem
      exact inv.ownCompletion pBuf cmd pending completed
    · simp only [List.any_eq_true, not_exists, not_and, Bool.not_eq_true] at own
      exact inv.otherCompletion pBuf own

theorem vendorPipe_inOrder_iff (events : List PipeEvent) :
    Along VendorLink.step Completing {} events ↔
      ∀ first, first <+: events → PipeInOrder (run VendorLink.step {} first) := by
  have init : PipeInOrder {} :=
    ⟨List.Sublist.refl [], Nat.zero_le 1, by simp, fun _ => rfl⟩
  exact along_iff_invariant VendorLink.step Completing PipeInOrder
    (fun _ event inv => inv.step_iff event) {} init events

def commandCompleteEvt (opcode : UInt16) : List UInt8 :=
  [0x0E, 4, 1, opcode.toUInt8, (opcode >>> 8).toUInt8, 0]

def vendorCmdOf (opcode : UInt16) : PipeEvent := .vendorCmd ⟨opcode, [1], none⟩ true true

-- `HCI_VENDOR_ENABLE_PROFILE_REPORT_COMMAND` (0xFC18) is not in the switch of `hw_process_event`,
-- and a command that was outstanding when the controller lost power leaves `coex_cmd_send` set.
theorem vendorPipe_stuck :
    ¬ PipeInOrder (run VendorLink.step {}
      [vendorCmdOf 0xFC18, vendorCmdOf 0xFC19, .commandComplete (commandCompleteEvt 0xFC18)]) ∧
    ¬ PipeInOrder (run VendorLink.step {}
      [vendorCmdOf 0xFC19, .reinit true, vendorCmdOf 0xFC1B]) := by
  constructor <;> exact fun inv => absurd (inv.released (by decide)) (by decide)

end UnionpiTiger.Coex
