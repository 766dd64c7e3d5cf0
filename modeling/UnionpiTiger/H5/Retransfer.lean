import UnionpiTiger.H5.Complete
import UnionpiTiger.H5.Queues

set_option autoImplicit false

namespace UnionpiTiger.H5

open Bt Lib

def h5EventRx : UInt16 := 0x0001
def h5EventExit : UInt16 := 0x0200

def h5RetransferSignalEvent (h5 : HciH5Cb) (event : UInt16) : HciH5Cb :=
  { h5 with h5ReadyEvents := h5.h5ReadyEvents ||| event }

def h5RetransferTimeoutHandler (h5 : HciH5Cb) : HciH5Cb :=
  if h5.cleanuping then h5 else h5RetransferSignalEvent h5 h5EventRx

-- How far data_retransfer_thread is: it waits for an event, has taken one, has found the count
-- below the limit, has queued the packets again, has counted, or has returned.
inductive RetransferAt where
  | waiting
  | fetched
  | accepted
  | requeued
  | counted
  | exited
deriving DecidableEq, Repr

def RetransferAt.processing : RetransferAt → Bool
  | .fetched | .accepted => true
  | _ => false

def RetransferAt.inRound : RetransferAt → Bool
  | .fetched | .accepted | .requeued => true
  | _ => false

-- What was the case when the thread called rtkbt_h5_send_hw_error: the limit, how often the timer
-- had expired since an ack last removed a packet and since one last left `unack` empty, and whether
-- a round of the thread was in progress then.
structure HwReport where
  limit : Nat
  sinceRemoved : Nat
  sinceEmptied : Nat
  midRound : Bool
deriving DecidableEq, Repr

-- An endpoint with its retransmission thread. What follows `thread` is read by no code.
structure Station where
  h5 : HciH5Cb := hciH5IntInit
  thread : RetransferAt := .waiting
  sinceRemoved : Nat := 0
  sinceEmptied : Nat := 0
  midRound : Bool := false
  reports : List HwReport := []

def dataRetransLimit (h5 : HciH5Cb) : Nat :=
  if h5.h5InitDatatransFlag then btInitDataRetransCounts else dataRetransCounts

-- data_retransfer_thread up to the next point at which another thread may come in between.
def dataRetransferThread (station : Station) : Station :=
  let h5 := station.h5
  match station.thread with
  | .waiting =>
    let events := h5.h5ReadyEvents
    if events = 0 then station
    else
      { station with
        h5 := { h5 with h5ReadyEvents := 0 }
        thread :=
          if events &&& h5EventRx ≠ 0 then .fetched
          else if events &&& h5EventExit ≠ 0 then .exited
          else .waiting }
  | .fetched =>
    if h5.dataRetransCount < dataRetransLimit h5 then { station with thread := .accepted }
    else
      { station with
        h5 := rtkbtH5SendHwError h5
        thread := .waiting
        reports := station.reports ++
          [{ limit := dataRetransLimit h5
             sinceRemoved := station.sinceRemoved
             sinceEmptied := station.sinceEmptied
             midRound := station.midRound }] }
  | .accepted => { station with h5 := retransferRequeue h5, thread := .requeued }
  | .requeued =>
    { station with
      h5 := { h5 with dataRetransCount := h5.dataRetransCount + 1 }, thread := .counted }
  | .counted => { station with h5 := h5WakeUp h5, thread := .waiting }
  | .exited => station

def timerExpires (station : Station) : Station :=
  if station.h5.timerDataRetrans then
    { station with
      h5 := h5RetransferTimeoutHandler { station.h5 with timerDataRetrans := false }
      sinceRemoved := station.sinceRemoved + 1
      sinceEmptied := station.sinceEmptied + 1 }
  else station

def beginRxPkt (h5 : HciH5Cb) (skb : RtkBuffer) : HciH5Cb :=
  let h5 := { h5 with log := { h5.log with completed := h5.log.completed ++ [skb] } }
  if h5HdrReliable skb = 1 then h5CompleteRxSeq h5 skb else h5

-- The rest of h5_complete_rx_pkt, which begins with the ack of the packet.
def finishRxPkt (station : Station) (skb : RtkBuffer) : Station :=
  let before := station.h5.unack.length
  let left := (h5RemoveAckedPkt { station.h5 with rxack := h5HdrAck skb }).unack.length
  { station with
    h5 := h5CompleteRxTail station.h5 skb
    sinceRemoved := if left < before then 0 else station.sinceRemoved
    sinceEmptied := if left = 0 then 0 else station.sinceEmptied
    midRound := if left = 0 then station.thread.inRound else station.midRound }

inductive StationAct where
  | enqueue (skb : RtkBuffer)
  | wakeUp
  | beginRx (skb : RtkBuffer)
  | finishRx (skb : RtkBuffer)
  | outOfOrder
  | timerExpires
  | thread
  | setDatatransFlag (on : Bool)
  | syncRetrans
  | confRetrans
  | baudrateReady
  | sendSyncCmd (opcode : UInt16)
  | memory (outcomes : List (Option (List UInt8)))

def Station.act (station : Station) : StationAct → Station
  | .enqueue skb => { station with h5 := h5Enqueue station.h5 skb }
  | .wakeUp => { station with h5 := h5WakeUp station.h5 }
  | .beginRx skb => { station with h5 := beginRxPkt station.h5 skb }
  | .finishRx skb => finishRxPkt station skb
  | .outOfOrder => { station with h5 := { station.h5 with isTxackReq := true } }
  | .timerExpires => timerExpires station
  | .thread => dataRetransferThread station
  | .setDatatransFlag on => { station with h5 := { station.h5 with h5InitDatatransFlag := on } }
  | .syncRetrans => { station with h5 := h5SyncRetransTimeout station.h5 }
  | .confRetrans => { station with h5 := h5ConfRetransTimeout station.h5 }
  | .baudrateReady => { station with h5 := h5WaitControllerBaudrateReadyTimeout station.h5 }
  | .sendSyncCmd opcode => { station with h5 := hciH5SendSyncCmd station.h5 opcode }
  | .memory outcomes => { station with h5 := { station.h5 with mem := outcomes } }

def receives (h5 : HciH5Cb) (skb : RtkBuffer) : List StationAct :=
  if h5HdrReliable skb = 1 ∧ h5HdrSeq skb ≠ h5.rxseqTxack then [.outOfOrder, .wakeUp]
  else if h5HdrReliable skb = 1 then [.beginRx skb, .wakeUp, .finishRx skb]
  else [.beginRx skb, .finishRx skb]

theorem run_receives (station : Station) (skb : RtkBuffer) :
    (run Station.act station (receives station.h5 skb)).h5 = h5RecvPacket station.h5 skb := by
  unfold receives h5RecvPacket
  split_ifs with order reliable
  · rfl
  · simp only [run_cons, run_nil, Station.act, beginRxPkt, finishRxPkt, h5CompleteRxPkt,
      if_pos reliable]
  · simp only [run_cons, run_nil, Station.act, beginRxPkt, finishRxPkt, h5CompleteRxPkt,
      if_neg reliable]

-- What sending can do to the retransmission: nothing, or it arms the timer.
structure Arms (h5 next : HciH5Cb) : Prop where
  events : next.h5ReadyEvents = h5.h5ReadyEvents
  count : next.dataRetransCount = h5.dataRetransCount
  cleanuping : next.cleanuping = h5.cleanuping
  armed : next.timerDataRetrans = true ∨
    next.timerDataRetrans = h5.timerDataRetrans ∧ next.unack = h5.unack

theorem Arms.refl (h5 : HciH5Cb) : Arms h5 h5 := ⟨rfl, rfl, rfl, Or.inr ⟨rfl, rfl⟩⟩

theorem Arms.trans {h5 middle next : HciH5Cb} (first : Arms h5 middle)
    (second : Arms middle next) : Arms h5 next := by
  refine ⟨second.events.trans first.events, second.count.trans first.count,
    second.cleanuping.trans first.cleanuping, ?_⟩
  rcases second.armed with on | ⟨timer, unack⟩
  · exact Or.inl on
  · rw [timer, unack]
    exact first.armed

theorem Dequeues.arms {h5 next : HciH5Cb} {out : Option RtkBuffer} (deq : Dequeues h5 out next) :
    Arms h5 next := by
  cases deq with
  | idle mem => exact { Arms.refl h5 with }
  | unrel mem skb nskb rest rel queue kind frame => exact ⟨rfl, rfl, rfl, Or.inr ⟨rfl, rfl⟩⟩
  | rel mem skb nskb rest rel queue window kind frame => exact ⟨rfl, rfl, rfl, Or.inl rfl⟩
  | ack mem nskb owed frame => exact ⟨rfl, rfl, rfl, Or.inr ⟨rfl, rfl⟩⟩

theorem h5WakeUp_arms (h5 : HciH5Cb) : Arms h5 (h5WakeUp h5) := by
  apply h5WakeUp_invariant (Arms h5)
  · intro before next arms deq
    exact arms.trans deq.arms
  · intro before skb next arms deq
    have sent := arms.trans deq.arms
    exact { sent with }
  · exact Arms.refl h5

theorem h5Enqueue_arms (h5 : HciH5Cb) (skb : RtkBuffer) : Arms h5 (h5Enqueue h5 skb) := by
  unfold h5Enqueue
  split_ifs <;> exact ⟨rfl, rfl, rfl, Or.inr ⟨rfl, rfl⟩⟩

theorem hciH5SendLinkCtl_arms (h5 : HciH5Cb) (message : List UInt8) :
    Arms h5 (hciH5SendLinkCtl h5 message) := by
  obtain ⟨mem, failed | ⟨skb, _, _, allocated⟩⟩ := skbAllocAndInit_cases h5 h5LinkCtlPkt message
  · simp only [hciH5SendLinkCtl, failed]
    exact { Arms.refl h5 with }
  · simp only [hciH5SendLinkCtl, allocated]
    have queued := h5Enqueue_arms { h5 with mem := mem } skb
    exact { queued.trans (h5WakeUp_arms _) with }

theorem rtkNotifyHwH5InitResult_arms (h5 : HciH5Cb) (status : UInt8) :
    Arms h5 (rtkNotifyHwH5InitResult h5 status) := by
  obtain ⟨mem, recvData, notified⟩ := rtkNotifyHwH5InitResult_eq h5 status
  rw [notified]
  exact { Arms.refl h5 with }

theorem LinkWork.arms {h5 next : HciH5Cb} (work : LinkWork h5 next) : Arms h5 next := by
  induction work with
  | refl => exact Arms.refl h5
  | send message work ih => exact ih.trans (hciH5SendLinkCtl_arms _ message)
  | notify status work ih => exact ih.trans (rtkNotifyHwH5InitResult_arms _ status)
  | report work ih => exact { ih with }
  | sets link timerSync timerConf syncs confs window oof dic crc work ih => exact { ih with }

-- What an ack can do to the retransmission: it leaves nothing unacknowledged and the count starts
-- again, or packets are left and the timer and the count stay as they are.
structure Acks (h5 next : HciH5Cb) : Prop where
  events : next.h5ReadyEvents = h5.h5ReadyEvents
  cleanuping : next.cleanuping = h5.cleanuping
  queue : next.unack = [] ∧ next.dataRetransCount = 0 ∨
    next.unack ≠ [] ∧ h5.unack ≠ [] ∧ next.timerDataRetrans = h5.timerDataRetrans ∧
      next.dataRetransCount = h5.dataRetransCount

theorem h5RemoveAckedPkt_acks (h5 : HciH5Cb) : Acks h5 (h5RemoveAckedPkt h5) := by
  simp only [h5RemoveAckedPkt]
  split_ifs with empty
  · exact ⟨rfl, rfl, Or.inl ⟨List.length_eq_zero_iff.mp empty, rfl⟩⟩
  · have some : h5.unack.drop (pktsToBeRemoved h5.rxack h5.unack.length h5.msgqTxseq) ≠ [] :=
      fun none => empty (List.length_eq_zero_iff.mpr none)
    refine ⟨rfl, rfl, Or.inr ⟨some, ?_, rfl, rfl⟩⟩
    intro none
    rw [none, List.drop_nil] at some
    exact some rfl

theorem h5CompleteRxTail_acks (h5 : HciH5Cb) (skb : RtkBuffer) :
    ∃ acked, acked = h5RemoveAckedPkt { h5 with rxack := h5HdrAck skb } ∧ Acks h5 acked ∧
      Arms acked (h5CompleteRxTail h5 skb) := by
  have acks := h5RemoveAckedPkt_acks { h5 with rxack := h5HdrAck skb }
  refine ⟨_, rfl, { acks with }, ?_⟩
  simp only [h5CompleteRxTail]
  split_ifs
  · exact { (h5ProcessCtlPkts_linkWork _ _).arms with }
  · unfold hciRecvFrame
    split_ifs
    · exact { Arms.refl _ with }
    · exact { Arms.refl _ with }
  · exact { Arms.refl _ with }

inductive StationSteps (station : Station) : Station → Prop where
  | arms (next : HciH5Cb) (arms : Arms station.h5 next) :
      StationSteps station { station with h5 := next }
  | finishes (skb : RtkBuffer) : StationSteps station (finishRxPkt station skb)
  | expires : StationSteps station (timerExpires station)
  | runs : StationSteps station (dataRetransferThread station)

theorem Station.act_steps (station : Station) (act : StationAct) :
    StationSteps station (station.act act) := by
  cases act with
  | enqueue skb => exact .arms _ (h5Enqueue_arms station.h5 skb)
  | wakeUp => exact .arms _ (h5WakeUp_arms station.h5)
  | beginRx skb =>
    refine .arms _ ?_
    unfold beginRxPkt
    split_ifs
    · exact { Arms.refl station.h5 with }
    · exact { Arms.refl station.h5 with }
  | finishRx skb => exact .finishes skb
  | outOfOrder => exact .arms _ { Arms.refl station.h5 with }
  | timerExpires => exact .expires
  | thread => exact .runs
  | setDatatransFlag on => exact .arms _ { Arms.refl station.h5 with }
  | syncRetrans => exact .arms _ (h5SyncRetransTimeout_linkWork station.h5).arms
  | confRetrans => exact .arms _ (h5ConfRetransTimeout_linkWork station.h5).arms
  | baudrateReady =>
    refine .arms _ ?_
    unfold h5WaitControllerBaudrateReadyTimeout
    split_ifs
    · exact { Arms.refl station.h5 with }
    · exact { Arms.refl station.h5 with }
  | sendSyncCmd opcode => exact .arms _ (hciH5SendSyncCmd_linkWork station.h5 opcode).arms
  | memory outcomes => exact .arms _ { Arms.refl station.h5 with }

structure NotStuck (station : Station) : Prop where
  running : station.h5.cleanuping = false
  events : station.h5.h5ReadyEvents = 0 ∨ station.h5.h5ReadyEvents = h5EventRx
  watched : station.h5.unack ≠ [] → station.h5.timerDataRetrans = true ∨
    station.h5.h5ReadyEvents = h5EventRx ∨ station.thread.processing = true ∨ station.reports ≠ []

theorem NotStuck.arms {station : Station} (inv : NotStuck station) {next : HciH5Cb}
    (arms : Arms station.h5 next) : NotStuck { station with h5 := next } := by
  refine ⟨arms.cleanuping.trans inv.running, ?_, ?_⟩
  · rw [arms.events]
    exact inv.events
  · intro waiting
    rcases arms.armed with on | ⟨timer, unack⟩
    · exact Or.inl on
    · rw [timer, arms.events]
      rw [unack] at waiting
      exact inv.watched waiting

theorem NotStuck.finishRxPkt {station : Station} (inv : NotStuck station) (skb : RtkBuffer) :
    NotStuck (finishRxPkt station skb) := by
  obtain ⟨acked, _, acks, arms⟩ := h5CompleteRxTail_acks station.h5 skb
  have acknowledged : NotStuck { station with h5 := acked } := by
    refine ⟨acks.cleanuping.trans inv.running, ?_, ?_⟩
    · rw [acks.events]
      exact inv.events
    · intro waiting
      rcases acks.queue with ⟨empty, _⟩ | ⟨_, before, timer, _⟩
      · exact absurd empty waiting
      · rw [timer, acks.events]
        exact inv.watched before
  exact { acknowledged.arms arms with }

theorem NotStuck.timerExpires {station : Station} (inv : NotStuck station) :
    NotStuck (timerExpires station) := by
  unfold H5.timerExpires
  split_ifs with armed
  · have signalled : (h5RetransferTimeoutHandler
        { station.h5 with timerDataRetrans := false }) =
        h5RetransferSignalEvent { station.h5 with timerDataRetrans := false } h5EventRx := by
      rw [h5RetransferTimeoutHandler, if_neg]
      exact Bool.eq_false_iff.mp inv.running
    have pending : station.h5.h5ReadyEvents ||| h5EventRx = h5EventRx := by
      rcases inv.events with none | rx
      · rw [none]
        rfl
      · rw [rx]
        rfl
    rw [signalled]
    exact ⟨inv.running, Or.inr pending, fun _ => Or.inr (Or.inl pending)⟩
  · exact inv

theorem NotStuck.dataRetransferThread {station : Station} (inv : NotStuck station) :
    NotStuck (dataRetransferThread station) := by
  unfold H5.dataRetransferThread
  cases position : station.thread with
  | waiting =>
    dsimp only
    split_ifs with none rx exit
    · exact inv
    · exact ⟨inv.running, Or.inl rfl, fun _ => Or.inr (Or.inr (Or.inl rfl))⟩
    all_goals
      have event := inv.events.resolve_left none
      exact absurd (by rw [event]; decide) rx
  | fetched =>
    dsimp only
    split_ifs with below
    · refine ⟨inv.running, inv.events, fun _ => Or.inr (Or.inr (Or.inl rfl))⟩
    · exact ⟨inv.running, inv.events, fun _ => Or.inr (Or.inr (Or.inr (by simp)))⟩
  | accepted =>
    obtain ⟨seq, requeued, _⟩ := retransferRequeue_eq station.h5
    dsimp only
    rw [requeued]
    exact ⟨inv.running, inv.events, fun waiting => absurd rfl waiting⟩
  | requeued =>
    refine ⟨inv.running, inv.events, ?_⟩
    have watched := inv.watched
    rw [position] at watched
    exact watched
  | counted =>
    have sent := inv.arms (h5WakeUp_arms station.h5)
    refine ⟨sent.running, sent.events, ?_⟩
    have watched := sent.watched
    change _ → _ ∨ _ ∨ station.thread.processing = true ∨ _ at watched
    rw [position] at watched
    exact watched
  | exited => exact inv

theorem NotStuck.act {station : Station} (inv : NotStuck station) (act : StationAct) :
    NotStuck (station.act act) := by
  have steps := station.act_steps act
  generalize station.act act = next at steps ⊢
  cases steps with
  | arms next arms => exact inv.arms arms
  | finishes skb => exact inv.finishRxPkt skb
  | expires => exact inv.timerExpires
  | runs => exact inv.dataRetransferThread

theorem sender_not_stuck (acts : List StationAct) :
    let station : Station := run Station.act {} acts
    station.h5.unack ≠ [] → station.h5.timerDataRetrans = true ∨
      station.h5.h5ReadyEvents &&& h5EventRx ≠ 0 ∨ station.thread.processing = true ∨
      station.reports ≠ [] := by
  have init : NotStuck {} := ⟨rfl, Or.inl rfl, fun waiting => absurd rfl waiting⟩
  have inv := run_always Station.act NotStuck (fun _ act inv => inv.act act) {} init acts
  intro station waiting
  rcases inv.watched waiting with armed | pending | processing | reported
  · exact Or.inl armed
  · refine Or.inr (Or.inl ?_)
    rw [pending]
    decide
  · exact Or.inr (Or.inr (Or.inl processing))
  · exact Or.inr (Or.inr (Or.inr reported))

def unreliablePacket (data : List UInt8) : List StationAct :=
  [.beginRx { data := data }, .finishRx { data := data }]

def ctlActs (payload : List UInt8) : List StationAct :=
  unreliablePacket (h5Hdr 0 0 false false payload.length h5LinkCtlPkt ++ payload)

def ackActs (rxack : UInt8) : List StationAct :=
  unreliablePacket (h5Hdr rxack 0 false false 0 h5AckPkt)

def twoInFlight : List StationAct :=
  ctlActs h5syncresp ++ ctlActs (h5confresp ++ [0x07]) ++ [.setDatatransFlag false,
    .enqueue { data := [], packetType := hciAcldataPkt },
    .enqueue { data := [], packetType := hciAcldataPkt }, .wakeUp]

theorem sender_not_stuck_two_in_flight :
    (run Station.act {} twoInFlight).h5.unack ≠ [] ∧
      ((run Station.act {} twoInFlight).h5.timerDataRetrans = true ∨
        (run Station.act {} twoInFlight).h5.h5ReadyEvents &&& h5EventRx ≠ 0 ∨
        (run Station.act {} twoInFlight).thread.processing = true ∨
        (run Station.act {} twoInFlight).reports ≠ []) := by
  have waiting : (run Station.act {} twoInFlight).h5.unack ≠ [] := by decide
  exact ⟨waiting, sender_not_stuck twoInFlight waiting⟩

def retransRound : List StationAct :=
  [.timerExpires, .thread, .thread, .thread, .thread, .thread]

def rounds (count : Nat) : List StationAct := (List.replicate count retransRound).flatten

-- Every expiry since `unack` was last left empty is counted, being counted or pending; one may have
-- been pending then, and one more if a round was in progress.
structure Counted (station : Station) : Prop where
  events : station.h5.h5ReadyEvents = 0 ∨ station.h5.h5ReadyEvents = h5EventRx
  counted : station.h5.dataRetransCount + station.thread.inRound.toNat +
    station.h5.h5ReadyEvents.toNat ≤ station.sinceEmptied + 1 + station.midRound.toNat
  reports : ∀ report ∈ station.reports,
    report.limit ≤ report.sinceEmptied + report.midRound.toNat

theorem Counted.arms {station : Station} (inv : Counted station) {next : HciH5Cb}
    (arms : Arms station.h5 next) : Counted { station with h5 := next } := by
  refine ⟨?_, ?_, inv.reports⟩
  · rw [arms.events]
    exact inv.events
  · rw [arms.events, arms.count]
    exact inv.counted

theorem Counted.finishRxPkt {station : Station} (inv : Counted station) (skb : RtkBuffer) :
    Counted (finishRxPkt station skb) := by
  obtain ⟨acked, same, acks, arms⟩ := h5CompleteRxTail_acks station.h5 skb
  have pending : station.h5.h5ReadyEvents.toNat ≤ 1 := by
    rcases inv.events with none | rx
    · simp [none]
    · simp [rx, h5EventRx]
  have acknowledged : Counted { station with
      h5 := acked
      sinceEmptied := if acked.unack.length = 0 then 0 else station.sinceEmptied
      midRound := if acked.unack.length = 0 then station.thread.inRound else station.midRound } := by
    refine ⟨?_, ?_, inv.reports⟩
    · rw [acks.events]
      exact inv.events
    · rw [acks.events]
      rcases acks.queue with ⟨empty, count⟩ | ⟨left, _, _, count⟩
      · rw [empty, count]
        simp only [List.length_nil, if_true]
        omega
      · rw [count, if_neg (mt List.length_eq_zero_iff.mp left),
          if_neg (mt List.length_eq_zero_iff.mp left)]
        exact inv.counted
  have sent := acknowledged.arms arms
  subst same
  exact { sent with }

theorem Counted.timerExpires {station : Station} (inv : Counted station) :
    Counted (timerExpires station) := by
  unfold H5.timerExpires h5RetransferTimeoutHandler h5RetransferSignalEvent
  have counted := inv.counted
  split_ifs with armed cleanuping
  · refine ⟨inv.events, ?_, inv.reports⟩
    dsimp only
    omega
  · rcases inv.events with none | rx
    · refine ⟨Or.inr (by rw [none]; rfl), ?_, inv.reports⟩
      change station.h5.dataRetransCount + _ + (station.h5.h5ReadyEvents ||| h5EventRx).toNat ≤ _
      rw [none] at counted ⊢
      simp [h5EventRx] at counted ⊢
      omega
    · refine ⟨Or.inr (by rw [rx]; rfl), ?_, inv.reports⟩
      change station.h5.dataRetransCount + _ + (station.h5.h5ReadyEvents ||| h5EventRx).toNat ≤ _
      rw [rx] at counted ⊢
      simp [h5EventRx] at counted ⊢
      omega
  · exact inv

theorem Counted.dataRetransferThread {station : Station} (inv : Counted station) :
    Counted (dataRetransferThread station) := by
  have counted := inv.counted
  unfold H5.dataRetransferThread
  cases position : station.thread with
  | waiting =>
    rw [position] at counted
    dsimp only
    split_ifs with none rx exit
    · exact inv
    · have event := inv.events.resolve_left none
      rw [event] at counted
      exact ⟨Or.inl rfl, counted, inv.reports⟩
    all_goals
      have event := inv.events.resolve_left none
      exact absurd (by rw [event]; decide) rx
  | fetched =>
    rw [position] at counted
    dsimp only
    split_ifs with below
    · exact ⟨inv.events, counted, inv.reports⟩
    · simp only [RetransferAt.inRound, Bool.toNat_true] at counted
      refine ⟨inv.events, ?_, ?_⟩
      · simp only [rtkbtH5SendHwError, RetransferAt.inRound, Bool.toNat_false]
        omega
      · intro report mem
        rcases List.mem_append.mp mem with early | new
        · exact inv.reports report early
        · rw [List.mem_singleton.mp new]
          dsimp only
          omega
  | accepted =>
    obtain ⟨seq, requeued, _⟩ := retransferRequeue_eq station.h5
    rw [position] at counted
    dsimp only
    rw [requeued]
    exact ⟨inv.events, counted, inv.reports⟩
  | requeued =>
    rw [position] at counted
    refine ⟨inv.events, ?_, inv.reports⟩
    simp only [RetransferAt.inRound, Bool.toNat_true, Bool.toNat_false] at counted ⊢
    omega
  | counted =>
    have sent := inv.arms (h5WakeUp_arms station.h5)
    have kept := sent.counted
    dsimp only at kept
    rw [position] at kept
    exact ⟨sent.events, kept, sent.reports⟩
  | exited => exact inv

theorem Counted.act {station : Station} (inv : Counted station) (act : StationAct) :
    Counted (station.act act) := by
  have steps := station.act_steps act
  generalize station.act act = next at steps ⊢
  cases steps with
  | arms next arms => exact inv.arms arms
  | finishes skb => exact inv.finishRxPkt skb
  | expires => exact inv.timerExpires
  | runs => exact inv.dataRetransferThread

theorem hw_error_expiries (acts : List StationAct) :
    ∀ report ∈ (run Station.act {} acts).reports,
      report.limit ≤ report.sinceEmptied + 1 ∧
      (report.midRound = false → report.limit ≤ report.sinceEmptied) := by
  have init : Counted {} := ⟨Or.inl rfl, by decide, fun report mem => absurd mem List.not_mem_nil⟩
  have inv := run_always Station.act Counted (fun _ act inv => inv.act act) {} init acts
  intro report mem
  have bound := inv.reports report mem
  cases mid : report.midRound with
  | true =>
    rw [mid] at bound
    exact ⟨bound, fun impossible => absurd impossible (by decide)⟩
  | false =>
    rw [mid] at bound
    exact ⟨Nat.le_succ_of_le bound, fun _ => bound⟩

def deadLink : List StationAct := twoInFlight ++ rounds 40 ++ [.timerExpires, .thread, .thread]

theorem hw_error_expiries_dead_link :
    ∃ report ∈ (run Station.act {} deadLink).reports,
      report.limit = 40 ∧ report.limit ≤ report.sinceEmptied := by
  have reported : { limit := 40, sinceRemoved := 41, sinceEmptied := 41, midRound := false } ∈
      (run Station.act {} deadLink).reports := by decide +kernel
  exact ⟨_, reported, rfl, (hw_error_expiries deadLink _ reported).2 rfl⟩

def emptiedMidRound : List StationAct :=
  twoInFlight ++ [.timerExpires, .thread, .enqueue { data := [], packetType := hciAcldataPkt },
    .wakeUp, .timerExpires] ++ ackActs 3 ++ List.replicate 9 .thread ++
    [.enqueue { data := [], packetType := hciAcldataPkt }, .wakeUp] ++ rounds 38

theorem hw_error_after_progress :
    (¬ ∀ acts : List StationAct, ∀ report ∈ (run Station.act {} acts).reports,
      report.limit ≤ report.sinceRemoved) ∧
    ¬ ∀ acts : List StationAct, ∀ report ∈ (run Station.act {} acts).reports,
      report.limit ≤ report.sinceEmptied := by
  constructor
  · intro always
    have report := always
      (twoInFlight ++ rounds 40 ++ ackActs 1 ++ [.timerExpires, .thread, .thread])
    revert report
    decide +kernel
  · intro always
    have report := always (emptiedMidRound ++ [.timerExpires, .thread, .thread])
    revert report
    decide +kernel

end UnionpiTiger.H5
