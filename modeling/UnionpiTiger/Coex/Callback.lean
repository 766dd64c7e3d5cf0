import UnionpiTiger.Coex.VendorCmd

set_option autoImplicit false

namespace UnionpiTiger.Coex

open Lib

-- What is given to rtk_vendor_cmd_to_fw as `p_cback`: NULL, a callback of the caller, or
-- Rtk_Service_Cmd_Event_Cback.
inductive CmdCback (C : Type) where
  | null
  | own (cback : C)
  | service
deriving DecidableEq, Repr

structure CoexCmd (C : Type) where
  opcode : UInt16
  pCback : CmdCback C
  owner : Option C
deriving DecidableEq, Repr

structure RtkQueueData (C : Type) where
  opcode : UInt16
  completeCback : Option C
deriving DecidableEq, Repr

-- Where cmdready_thread is: it waits, has taken an entry, or has written current_complete_cback.
inductive CmdreadyAt (C : Type) where
  | waiting
  | taken (desc : RtkQueueData C)
  | registered (desc : RtkQueueData C)
deriving DecidableEq, Repr

-- The variables the threads share. `granted` are the senders that have set `coex_cmd_send` and not
-- transmitted yet, `sent` the commands the controller has, and `completing` is set while
-- rtk_cmd_complete_cback is behind its locked section: the command that is completed and the one it
-- took from `coex_list`. `cmdqueueHeld` is set once cmdqueue_mutex is never given back. `completed`
-- and `called` list the completed commands and what was called for each.
structure VendorCalls (C : Type) where
  coexCmdSend : Bool := false
  coexList : List (CoexCmd C) := []
  currentCback : CmdCback C := .null
  granted : List (CoexCmd C) := []
  sent : List (CoexCmd C) := []
  completing : Option (CoexCmd C × Option (CoexCmd C)) := none
  cmdqueueList : List (RtkQueueData C) := []
  cmdqueueSem : Nat := 0
  cmdsendSem : Nat := 1
  cmdqueueHeld : Bool := false
  currentCompleteCback : Option C := none
  cmdready : CmdreadyAt C := .waiting
  completed : List (CoexCmd C) := []
  called : List (Option C) := []
deriving DecidableEq, Repr

variable {C : Type}

-- rtk_vendor_cmd_to_fw up to the release of coex_mutex; `buffer` and `info` say whether the two
-- allocations succeed.
def vendorCmdLocked (calls : VendorCalls C) (cmd : CoexCmd C) (buffer info : Bool) :
    VendorCalls C :=
  if !buffer then calls
  else if !calls.coexCmdSend then
    { calls with coexCmdSend := true, granted := calls.granted ++ [cmd] }
  else if !info then calls
  else { calls with coexList := calls.coexList ++ [cmd] }

-- The rest of rtk_vendor_cmd_to_fw for a sender that was granted the pipe.
def vendorCmdTransmit (calls : VendorCalls C) (sender : Nat) : VendorCalls C :=
  match calls.granted[sender]? with
  | none => calls
  | some cmd =>
    { calls with
      granted := calls.granted.eraseIdx sender
      currentCback := cmd.pCback
      sent := calls.sent ++ [cmd] }

def completionDispatched (cmd : CoexCmd C) : Bool :=
  completionCback cmd.opcode == some .rtkCmdCompleteCback

-- The Command Complete of the oldest command the controller has, up to the release of coex_mutex.
-- hw_process_event drops it if its opcode is not one of those for rtk_cmd_complete_cback.
def cmdCompleteLocked (calls : VendorCalls C) : VendorCalls C :=
  match calls.completing, calls.sent with
  | none, cmd :: rest =>
    let calls := { calls with sent := rest, completed := calls.completed ++ [cmd] }
    if !completionDispatched cmd then { calls with called := calls.called ++ [none] }
    else
      match calls.coexList with
      | [] => { calls with coexCmdSend := false, completing := some (cmd, none) }
      | desc :: list => { calls with coexList := list, completing := some (cmd, some desc) }
  | _, _ => calls

def serviceCmdEventCback (calls : VendorCalls C) : VendorCalls C :=
  { calls with
    called := calls.called ++ [calls.currentCompleteCback]
    currentCompleteCback := none
    cmdsendSem := calls.cmdsendSem + 1 }

def callCurrentCback (calls : VendorCalls C) : VendorCalls C :=
  match calls.currentCback with
  | .null => { calls with called := calls.called ++ [none] }
  | .own cback => { calls with called := calls.called ++ [some cback], currentCback := .null }
  | .service => { serviceCmdEventCback calls with currentCback := .null }

def cmdCompleteRest (calls : VendorCalls C) : VendorCalls C :=
  match calls.completing with
  | none => calls
  | some (_, desc) =>
    let calls := { callCurrentCback calls with completing := none }
    match desc with
    | none => calls
    | some desc => { calls with currentCback := desc.pCback, sent := calls.sent ++ [desc] }

-- Rtk_Service_Vendorcmd_Hook, which keeps cmdqueue_mutex if its allocation fails.
def serviceVendorcmdHook (calls : VendorCalls C) (data : RtkQueueData C) (alloc : Bool) :
    VendorCalls C :=
  if calls.cmdqueueHeld then calls
  else if !alloc then { calls with cmdqueueHeld := true }
  else
    { calls with
      cmdqueueList := calls.cmdqueueList ++ [data]
      cmdqueueSem := calls.cmdqueueSem + 1 }

-- cmdready_thread from one point at which it can be held up to the next; it waits for both
-- semaphores before it takes an entry.
def cmdreadyThread (calls : VendorCalls C) (buffer info : Bool) : VendorCalls C :=
  match calls.cmdready with
  | .waiting =>
    if calls.cmdqueueSem = 0 ∨ calls.cmdsendSem = 0 ∨ calls.cmdqueueHeld then calls
    else
      let calls :=
        { calls with cmdqueueSem := calls.cmdqueueSem - 1, cmdsendSem := calls.cmdsendSem - 1 }
      match calls.cmdqueueList with
      | [] => calls
      | desc :: list => { calls with cmdqueueList := list, cmdready := .taken desc }
  | .taken desc =>
    { calls with currentCompleteCback := desc.completeCback, cmdready := .registered desc }
  | .registered desc =>
    vendorCmdLocked { calls with cmdready := .waiting }
      { opcode := desc.opcode, pCback := .service, owner := desc.completeCback } buffer info

inductive CallAct (C : Type) where
  | vendorCmd (opcode : UInt16) (pCback : Option C) (buffer info : Bool)
  | transmit (sender : Nat)
  | commandComplete
  | commandCompleteRest
  | hook (data : RtkQueueData C) (alloc : Bool)
  | cmdready (buffer info : Bool)
deriving DecidableEq, Repr

def CmdCback.ofPointer : Option C → CmdCback C
  | none => .null
  | some cback => .own cback

def VendorCalls.act (calls : VendorCalls C) : CallAct C → VendorCalls C
  | .vendorCmd opcode pCback buffer info =>
    vendorCmdLocked calls
      { opcode := opcode, pCback := .ofPointer pCback, owner := pCback } buffer info
  | .transmit sender => vendorCmdTransmit calls sender
  | .commandComplete => cmdCompleteLocked calls
  | .commandCompleteRest => cmdCompleteRest calls
  | .hook data alloc => serviceVendorcmdHook calls data alloc
  | .cmdready buffer info => cmdreadyThread calls buffer info

def CalledBack (calls : VendorCalls C) : Prop :=
  calls.called ++ (calls.completing.map fun done => done.1.owner).toList =
    calls.completed.map CoexCmd.owner

-- No sender transmits while a completion is between its locked section and its callback, unless
-- neither of them has one; and a completed command with a callback has an opcode hw_process_event
-- knows.
def Apart (calls : VendorCalls C) : CallAct C → Prop
  | .transmit sender => calls.completing.isSome → ∀ cmd ∈ calls.granted[sender]?,
      cmd.pCback = .null ∧ calls.currentCback = .null
  | .commandComplete => calls.completing = none → ∀ cmd ∈ calls.sent.head?,
      completionDispatched cmd = true ∨ cmd.pCback = .null
  | _ => True

def CoexCmd.isService (cmd : CoexCmd C) : Bool :=
  match cmd.pCback with
  | .service => true
  | _ => false

-- The owner is the callback that calling `p_cback` comes to, given current_complete_cback.
def CoexCmd.Owned (cmd : CoexCmd C) (complete : Option C) : Prop :=
  cmd.owner = match cmd.pCback with
    | .null => none
    | .own cback => some cback
    | .service => complete

def CmdreadyAt.busy : CmdreadyAt C → Nat
  | .waiting => 0
  | _ => 1

def VendorCalls.desc (calls : VendorCalls C) : List (CoexCmd C) :=
  (calls.completing.bind Prod.snd).toList

def VendorCalls.inPipe (calls : VendorCalls C) : List (CoexCmd C) :=
  calls.coexList ++ calls.granted ++ calls.sent ++ calls.desc ++
    (calls.completing.map Prod.fst).toList

structure CallsInv (calls : VendorCalls C) : Prop where
  paired : CalledBack calls
  one : calls.granted.length + calls.sent.length + calls.desc.length ≤ calls.coexCmdSend.toNat
  slotDone : ∀ done desc, calls.completing = some (done, desc) → calls.currentCback = done.pCback
  slotSent : ∀ cmd ∈ calls.sent, calls.currentCback = cmd.pCback
  apart : calls.completing.isSome → calls.sent ≠ [] → calls.currentCback = .null
  owned : ∀ cmd ∈ calls.inPipe, cmd.Owned calls.currentCompleteCback
  -- The service has one command on its way at a time.
  tokens : calls.inPipe.countP CoexCmd.isService + calls.cmdready.busy + calls.cmdsendSem ≤ 1
  registered : ∀ desc, calls.cmdready = .registered desc →
    calls.currentCompleteCback = desc.completeCback

variable {calls : VendorCalls C}

theorem CallsInv.joins (inv : CallsInv calls) (next : VendorCalls C) (cmd : CoexCmd C)
    (joined : next.inPipe.Perm (cmd :: calls.inPipe))
    (complete : next.currentCompleteCback = calls.currentCompleteCback)
    (owned : cmd.Owned calls.currentCompleteCback) :
    (∀ other ∈ next.inPipe, other.Owned next.currentCompleteCback) ∧
    next.inPipe.countP CoexCmd.isService =
      calls.inPipe.countP CoexCmd.isService + cmd.isService.toNat := by
  constructor
  · intro other mem
    rw [complete]
    rcases List.mem_cons.mp (joined.mem_iff.mp mem) with rfl | there
    · exact owned
    · exact inv.owned other there
  · rw [joined.countP_eq, List.countP_cons]
    cases cmd.isService <;> rfl

theorem CallsInv.locked (inv : CallsInv calls) (cmd : CoexCmd C) (buffer info : Bool)
    (owned : cmd.Owned calls.currentCompleteCback)
    (room : calls.inPipe.countP CoexCmd.isService + cmd.isService.toNat + calls.cmdready.busy +
      calls.cmdsendSem ≤ 1) :
    CallsInv (vendorCmdLocked calls cmd buffer info) := by
  have one := inv.one
  unfold vendorCmdLocked
  split_ifs with noBuffer free noInfo
  · exact inv
  · have idle : calls.coexCmdSend = false := by simpa using free
    rw [idle, Bool.toNat_false] at one
    have joined := @List.perm_middle _ cmd (calls.coexList ++ calls.granted)
      (calls.sent ++ calls.desc ++ (calls.completing.map Prod.fst).toList)
    obtain ⟨owners, count⟩ := inv.joins
      { calls with coexCmdSend := true, granted := calls.granted ++ [cmd] } cmd
      (by simpa [VendorCalls.inPipe, VendorCalls.desc] using joined) rfl owned
    refine { inv with one := ?_, owned := owners, tokens := ?_ }
    · change (calls.granted ++ [cmd]).length + calls.sent.length + calls.desc.length ≤ 1
      rw [List.length_append, List.length_singleton]
      omega
    · rw [count]
      exact room
  · exact inv
  · obtain ⟨owners, count⟩ := inv.joins { calls with coexList := calls.coexList ++ [cmd] } cmd
      (by simp [VendorCalls.inPipe, VendorCalls.desc]) rfl owned
    refine { inv with owned := owners, tokens := ?_ }
    rw [count]
    exact room

theorem CallsInv.moves (inv : CallsInv calls) (next : VendorCalls C)
    (moved : next.inPipe.Perm calls.inPipe)
    (complete : next.currentCompleteCback = calls.currentCompleteCback)
    (ready : next.cmdready = calls.cmdready) (sem : next.cmdsendSem = calls.cmdsendSem) :
    (∀ cmd ∈ next.inPipe, cmd.Owned next.currentCompleteCback) ∧
    next.inPipe.countP CoexCmd.isService + next.cmdready.busy + next.cmdsendSem ≤ 1 := by
  rw [complete, ready, sem, moved.countP_eq]
  exact ⟨fun cmd mem => inv.owned cmd (moved.mem_iff.mp mem), inv.tokens⟩

theorem CallsInv.granted_one (inv : CallsInv calls) {sender : Nat} {cmd : CoexCmd C}
    (granted : calls.granted[sender]? = some cmd) :
    sender = 0 ∧ calls.granted = [cmd] ∧ calls.sent = [] ∧ calls.desc = [] ∧
      calls.coexCmdSend = true := by
  have one := inv.one
  have flag := Bool.toNat_le calls.coexCmdSend
  obtain ⟨bound, value⟩ := List.getElem?_eq_some_iff.mp granted
  have length : calls.granted.length = 1 := by omega
  obtain ⟨only, single⟩ := List.length_eq_one_iff.mp length
  obtain rfl : sender = 0 := by omega
  refine ⟨rfl, ?_, List.length_eq_zero_iff.mp (by omega), List.length_eq_zero_iff.mp (by omega), ?_⟩
  · rw [single] at granted
    rw [single, Option.some.inj granted]
  · cases send : calls.coexCmdSend with
    | true => rfl
    | false =>
      rw [send, Bool.toNat_false] at one
      omega

theorem CallsInv.transmit (inv : CallsInv calls) (sender : Nat)
    (apart : Apart calls (.transmit sender)) : CallsInv (vendorCmdTransmit calls sender) := by
  unfold vendorCmdTransmit
  cases granted : calls.granted[sender]? with
  | none => exact inv
  | some cmd =>
    obtain ⟨rfl, only, sent, desc, send⟩ := inv.granted_one granted
    have alone : calls.completing.isSome → cmd.pCback = .null ∧ calls.currentCback = .null :=
      fun some => apart some cmd granted
    obtain ⟨owned, tokens⟩ := inv.moves { calls with
      granted := calls.granted.eraseIdx 0, currentCback := cmd.pCback, sent := calls.sent ++ [cmd] }
      (by simp [VendorCalls.inPipe, VendorCalls.desc, only, sent]) rfl rfl rfl
    refine ⟨inv.paired, ?_, ?_, ?_, ?_, owned, tokens, inv.registered⟩
    · change (calls.granted.eraseIdx 0).length + (calls.sent ++ [cmd]).length +
        calls.desc.length ≤ calls.coexCmdSend.toNat
      rw [only, sent, desc, send]
      exact Nat.le_refl 1
    · intro done next completing
      obtain ⟨null, slot⟩ := alone (by rw [completing]; rfl)
      exact null.trans (slot.symm.trans (inv.slotDone done next completing))
    · intro other mem
      rw [sent] at mem
      rw [List.mem_singleton.mp mem]
    · intro completing _
      exact (alone completing).1

theorem CallsInv.completed_one (inv : CallsInv calls) {cmd : CoexCmd C} {rest : List (CoexCmd C)}
    (sent : calls.sent = cmd :: rest) :
    rest = [] ∧ calls.granted = [] ∧ 1 ≤ calls.coexCmdSend.toNat := by
  have one := inv.one
  have flag := Bool.toNat_le calls.coexCmdSend
  rw [sent, List.length_cons] at one
  exact ⟨List.length_eq_zero_iff.mp (by omega), List.length_eq_zero_iff.mp (by omega), by omega⟩

-- The locked section of rtk_cmd_complete_cback.
theorem CallsInv.takes (inv : CallsInv calls) {cmd : CoexCmd C} (idle : calls.completing = none)
    (sent : calls.sent = [cmd]) (desc : Option (CoexCmd C)) (list : List (CoexCmd C))
    (queue : calls.coexList = desc.toList ++ list) (send : Bool)
    (busy : desc.toList.length ≤ send.toNat) :
    CallsInv { calls with
      sent := []
      completed := calls.completed ++ [cmd]
      coexList := list
      coexCmdSend := send
      completing := some (cmd, desc) } := by
  obtain ⟨_, granted, _⟩ := inv.completed_one sent
  have paired := inv.paired
  unfold CalledBack at paired
  rw [idle] at paired
  simp only [Option.map_none, Option.toList_none, List.append_nil] at paired
  have moved : (VendorCalls.inPipe { calls with
      sent := []
      completed := calls.completed ++ [cmd]
      coexList := list
      coexCmdSend := send
      completing := some (cmd, desc) }).Perm calls.inPipe := by
    have order := @List.perm_append_comm _ list desc.toList
    simpa [VendorCalls.inPipe, VendorCalls.desc, queue, granted, sent, idle] using
      order.append_right [cmd]
  obtain ⟨owned, tokens⟩ := inv.moves { calls with
    sent := []
    completed := calls.completed ++ [cmd]
    coexList := list
    coexCmdSend := send
    completing := some (cmd, desc) } moved rfl rfl rfl
  refine ⟨?_, ?_, ?_, ?_, ?_, owned, tokens, inv.registered⟩
  · simp [CalledBack, paired]
  · simpa [VendorCalls.desc, granted] using busy
  · intro done next here
    have same : cmd = done := congrArg Prod.fst (Option.some.inj here)
    rw [← same]
    exact inv.slotSent cmd (by simp [sent])
  · intro other mem
    exact absurd mem List.not_mem_nil
  · intro _ some
    exact absurd rfl some

theorem CallsInv.drops (inv : CallsInv calls) {cmd : CoexCmd C} (idle : calls.completing = none)
    (sent : calls.sent = [cmd]) (null : cmd.pCback = .null) :
    CallsInv { calls with
      sent := []
      completed := calls.completed ++ [cmd]
      called := calls.called ++ [none] } := by
  obtain ⟨_, granted, _⟩ := inv.completed_one sent
  have owner : cmd.owner = none := by
    rw [inv.owned cmd (by simp [VendorCalls.inPipe, sent]), null]
  have paired := inv.paired
  unfold CalledBack at paired
  have fewer : (VendorCalls.inPipe { calls with sent := [] }).Sublist calls.inPipe := by
    simp [VendorCalls.inPipe, VendorCalls.desc, sent, idle]
  have count : _ ≤ calls.inPipe.countP CoexCmd.isService := fewer.countP_le
  have tokens := inv.tokens
  refine ⟨?_, ?_, ?_, ?_, ?_, ?_, ?_, inv.registered⟩
  · rw [idle] at paired
    simp only [Option.map_none, Option.toList_none, List.append_nil] at paired
    simp [CalledBack, idle, paired, owner]
  · simp [VendorCalls.desc, idle, granted]
  · intro done desc other
    have impossible := idle.symm.trans other
    cases impossible
  · intro other mem
    exact absurd mem List.not_mem_nil
  · intro _ some
    exact absurd rfl some
  · intro other mem
    exact inv.owned other (fewer.mem mem)
  · change (VendorCalls.inPipe { calls with sent := [] }).countP CoexCmd.isService +
      calls.cmdready.busy + calls.cmdsendSem ≤ 1
    omega

theorem CallsInv.commandComplete (inv : CallsInv calls)
    (apart : Apart calls .commandComplete) : CallsInv (cmdCompleteLocked calls) := by
  unfold cmdCompleteLocked
  split
  next cmd rest idle sent =>
    obtain ⟨rfl, _, busy⟩ := inv.completed_one sent
    dsimp only
    split_ifs with dropped
    · have known : completionDispatched cmd = false := by simpa using dropped
      have null : cmd.pCback = .null :=
        (apart idle cmd (by rw [sent]; rfl)).resolve_left (by rw [known]; decide)
      exact inv.drops idle sent null
    · split
      next list =>
        exact inv.takes idle sent none calls.coexList rfl false (Nat.zero_le _)
      next desc list queue =>
        exact inv.takes idle sent (some desc) list queue calls.coexCmdSend busy
  next => exact inv

theorem CallsInv.calls_owner (inv : CallsInv calls) {done : CoexCmd C} {desc : Option (CoexCmd C)}
    (completing : calls.completing = some (done, desc)) :
    callCurrentCback calls = { calls with
      called := calls.called ++ [done.owner]
      currentCback := .null
      currentCompleteCback := if done.isService then none else calls.currentCompleteCback
      cmdsendSem := calls.cmdsendSem + done.isService.toNat } := by
  have slot := inv.slotDone done desc completing
  have owned : done.Owned calls.currentCompleteCback :=
    inv.owned done (by simp [VendorCalls.inPipe, completing])
  unfold CoexCmd.Owned at owned
  unfold callCurrentCback CoexCmd.isService
  rw [slot]
  cases kind : done.pCback with
  | null =>
    rw [kind] at owned slot
    simp [owned, ← slot]
  | own cback =>
    rw [kind] at owned
    simp [owned]
  | service =>
    rw [kind] at owned
    simp [serviceCmdEventCback, owned]

theorem CoexCmd.Owned.other {cmd : CoexCmd C} {complete : Option C} (owned : cmd.Owned complete)
    (direct : cmd.isService = false) (other : Option C) : cmd.Owned other := by
  unfold CoexCmd.Owned CoexCmd.isService at *
  cases kind : cmd.pCback with
  | null =>
    rw [kind] at owned
    exact owned
  | own cback =>
    rw [kind] at owned
    exact owned
  | service =>
    rw [kind] at direct
    cases direct

theorem CallsInv.leaves (inv : CallsInv calls) {done : CoexCmd C} (pipe : List (CoexCmd C))
    (left : calls.inPipe.Perm (done :: pipe)) :
    (∀ cmd ∈ pipe, cmd.Owned (if done.isService then none else calls.currentCompleteCback)) ∧
    pipe.countP CoexCmd.isService + calls.cmdready.busy +
      (calls.cmdsendSem + done.isService.toNat) ≤ 1 ∧
    (done.isService = true → calls.cmdready.busy = 0) := by
  have tokens := inv.tokens
  have count := left.countP_eq CoexCmd.isService
  rw [List.countP_cons] at count
  cases service : done.isService with
  | true =>
    rw [service] at count
    simp only [if_true] at count
    refine ⟨?_, by simp only [Bool.toNat_true]; omega, fun _ => by omega⟩
    intro cmd mem
    have direct : cmd.isService = false := by
      have none : pipe.countP CoexCmd.isService = 0 := by omega
      exact Bool.eq_false_iff.mpr (List.countP_eq_zero.mp none cmd mem)
    exact (inv.owned cmd (left.mem_iff.mpr (List.mem_cons_of_mem done mem))).other direct none
  | false =>
    rw [service] at count
    simp only [Bool.false_eq_true, if_false] at count
    refine ⟨?_, by simp only [Bool.toNat_false]; omega, fun impossible => by cases impossible⟩
    intro cmd mem
    exact inv.owned cmd (left.mem_iff.mpr (List.mem_cons_of_mem done mem))

-- The callback of the entry cmdready_thread has registered outlives the completion of a command
-- that is not the service's; a command of the service has no such entry next to it.
theorem CallsInv.registered_after (inv : CallsInv calls) {done : CoexCmd C}
    (ready : done.isService = true → calls.cmdready.busy = 0) {entry : RtkQueueData C}
    (here : calls.cmdready = .registered entry) :
    (if done.isService then none else calls.currentCompleteCback) = entry.completeCback := by
  cases service : done.isService with
  | true =>
    have waiting := ready service
    rw [here] at waiting
    cases waiting
  | false => exact inv.registered entry here

theorem CallsInv.sent_null (inv : CallsInv calls) (completing : calls.completing.isSome = true)
    {cmd : CoexCmd C} (mem : cmd ∈ calls.sent) : cmd.pCback = .null := by
  have null := inv.apart completing (List.ne_nil_of_mem mem)
  rw [← inv.slotSent cmd mem]
  exact null

theorem CallsInv.commandCompleteRest (inv : CallsInv calls) :
    CallsInv (cmdCompleteRest calls) := by
  unfold cmdCompleteRest
  split
  next => exact inv
  next done desc completing =>
    have one := inv.one
    have flag := Bool.toNat_le calls.coexCmdSend
    have paired := inv.paired
    unfold CalledBack at paired
    rw [completing] at paired
    have kept : calls.desc = desc.toList := by rw [VendorCalls.desc, completing]; rfl
    rw [kept] at one
    rw [inv.calls_owner completing]
    have pipe : calls.inPipe.Perm
        (done :: (calls.coexList ++ calls.granted ++ calls.sent ++ desc.toList)) := by
      rw [VendorCalls.inPipe, kept, completing]
      exact List.perm_append_singleton done _
    obtain ⟨owned, tokens, ready⟩ := inv.leaves _ pipe
    have registered (entry : RtkQueueData C) (here : calls.cmdready = .registered entry) :=
      inv.registered_after ready here
    dsimp only
    split
    next =>
      refine ⟨?_, ?_, ?_, ?_, ?_, ?_, ?_, registered⟩
      · simpa [CalledBack] using paired
      · simpa [VendorCalls.desc] using one
      · intro other next here
        cases here
      · intro cmd mem
        exact (inv.sent_null (by rw [completing]; rfl) mem).symm
      · intro here
        cases here
      · simpa [VendorCalls.inPipe, VendorCalls.desc] using owned
      · simpa [VendorCalls.inPipe, VendorCalls.desc] using tokens
    next next =>
      have sent : calls.sent = [] := by
        simp only [Option.toList_some, List.length_singleton] at one
        exact List.length_eq_zero_iff.mp (by omega)
      refine ⟨?_, ?_, ?_, ?_, ?_, ?_, ?_, registered⟩
      · simpa [CalledBack] using paired
      · simpa [VendorCalls.desc, sent] using one
      · intro other next here
        cases here
      · intro cmd mem
        rw [sent] at mem
        rw [List.mem_singleton.mp mem]
      · intro here
        cases here
      · simpa [VendorCalls.inPipe, VendorCalls.desc] using owned
      · simpa [VendorCalls.inPipe, VendorCalls.desc] using tokens

-- While cmdready_thread has an entry, no other command of the service is on its way.
theorem CallsInv.no_service (inv : CallsInv calls) (busy : calls.cmdready.busy = 1) :
    calls.inPipe.countP CoexCmd.isService = 0 := by
  have tokens := inv.tokens
  omega

theorem CallsInv.cmdreadyThread (inv : CallsInv calls) (buffer info : Bool) :
    CallsInv (cmdreadyThread calls buffer info) := by
  have tokens := inv.tokens
  unfold Coex.cmdreadyThread
  split
  next waiting =>
    split_ifs with blocked
    · exact inv
    · have available : calls.cmdsendSem ≠ 0 := fun none => blocked (Or.inr (Or.inl none))
      dsimp only
      split
      · refine { inv with tokens := ?_ }
        change calls.inPipe.countP CoexCmd.isService + calls.cmdready.busy +
          (calls.cmdsendSem - 1) ≤ 1
        omega
      · refine { inv with tokens := ?_, registered := ?_ }
        · rw [waiting] at tokens
          change calls.inPipe.countP CoexCmd.isService + 1 + (calls.cmdsendSem - 1) ≤ 1
          change calls.inPipe.countP CoexCmd.isService + 0 + calls.cmdsendSem ≤ 1 at tokens
          omega
        · intro desc here
          cases here
  next desc taken =>
    have none := inv.no_service (by rw [taken]; rfl)
    rw [taken] at tokens
    refine { inv with owned := ?_, tokens := tokens, registered := ?_ }
    · intro cmd mem
      have direct := List.countP_eq_zero.mp none cmd mem
      exact (inv.owned cmd mem).other (Bool.eq_false_iff.mpr direct) desc.completeCback
    · intro other here
      cases here
      rfl
  next desc registered =>
    rw [registered] at tokens
    have waiting : CallsInv { calls with cmdready := .waiting } := by
      refine { inv with tokens := ?_, registered := ?_ }
      · change calls.inPipe.countP CoexCmd.isService + 0 + calls.cmdsendSem ≤ 1
        change calls.inPipe.countP CoexCmd.isService + 1 + calls.cmdsendSem ≤ 1 at tokens
        omega
      · intro other here
        cases here
    exact waiting.locked _ buffer info (inv.registered desc registered).symm tokens

theorem CallsInv.act (inv : CallsInv calls) (act : CallAct C) (apart : Apart calls act) :
    CallsInv (calls.act act) := by
  cases act with
  | vendorCmd opcode pCback buffer info =>
    have tokens := inv.tokens
    cases pCback with
    | none => exact inv.locked _ buffer info rfl tokens
    | some cback => exact inv.locked _ buffer info rfl tokens
  | transmit sender => exact inv.transmit sender apart
  | commandComplete => exact inv.commandComplete apart
  | commandCompleteRest => exact inv.commandCompleteRest
  | hook data alloc =>
    simp only [VendorCalls.act, serviceVendorcmdHook]
    split_ifs
    · exact inv
    · exact { inv with }
    · exact { inv with }
  | cmdready buffer info => exact inv.cmdreadyThread buffer info

theorem callbacks_called (acts : List (CallAct C))
    (apart : Along VendorCalls.act Apart {} acts) : CalledBack (run VendorCalls.act {} acts) := by
  have init : CallsInv ({} : VendorCalls C) := by
    refine ⟨rfl, Nat.le_refl 0, ?_, ?_, ?_, ?_, Nat.le_refl 1, ?_⟩
    · intro done desc here
      cases here
    · intro cmd mem
      cases mem
    · intro here
      cases here
    · intro cmd mem
      cases mem
    · intro desc here
      cases here
  exact (run_invariant VendorCalls.act Apart CallsInv (fun _ act inv ok => inv.act act ok) {} init
    acts apart).paired

def twoCallers : List (CallAct Nat) :=
  [.hook { opcode := hciCmdVndrHeartbeat, completeCback := some 7 } true, .cmdready true true,
    .cmdready true true, .cmdready true true,
    .vendorCmd hciVendorSetProfileReportCommand (some 1) true true, .transmit 0, .commandComplete,
    .commandCompleteRest, .commandComplete, .commandCompleteRest]

theorem callbacks_called_two_callers :
    CalledBack (run VendorCalls.act {} twoCallers) ∧
      (run VendorCalls.act {} twoCallers).called = [some 7, some 1] := by
  have apart : Along VendorCalls.act Apart {} twoCallers := by
    refine ⟨trivial, trivial, trivial, trivial, trivial, ?_, ?_, trivial, ?_, trivial, trivial⟩
    · intro completing
      cases completing
    · intro _ cmd first
      rw [← Option.some.inj first]
      exact Or.inl (by decide)
    · intro _ cmd first
      rw [← Option.some.inj first]
      exact Or.inl (by decide)
  exact ⟨callbacks_called twoCallers apart, by decide⟩

theorem callbacks_called_not_overlapping : ¬ ∀ acts : List (CallAct Nat),
    CalledBack (run VendorCalls.act {} acts) := by
  intro always
  have swapped := always [.vendorCmd hciVendorSetProfileReportCommand (some 1) true true,
    .transmit 0, .commandComplete, .vendorCmd hciVendorSetProfileReportCommand (some 2) true true,
    .transmit 0, .commandCompleteRest]
  unfold CalledBack at swapped
  revert swapped
  decide

end UnionpiTiger.Coex
