import Mathlib.Data.BitVec
import Mathlib.Data.List.Nodup
import UnionpiTiger.Lib.RingQueue
import UnionpiTiger.Lib.Run

set_option autoImplicit false

namespace UnionpiTiger.Isp

inductive EventId where
  | WBMatrixReady | acameraResetSensorHw | aeResultReady | aeStatsReady | afRefocus | afStatsReady
  | antiflickerChanged | awbResultReady | awbStatsReady | cmosRefresh | cropChanged | cropUpdated
  | exposureChanged | frameBufReinit | frameBufferDsReady | frameBufferFrReady | frameBufferMetadata
  | frameEnd | gammaLutReady | gammaNewParamReady | gammaStatsReady | metadataReady | metadataUpdate
  | monitorFrameEnd | monitorNotifyOtherFsm | newFrame | sensorNotReady | sensorReady | sensorSwReset
  | sharpLutUpdate | updateIridix | updateSharpLut | dropFrame
  deriving DecidableEq, Repr

def EventId.number (event : EventId) : Nat := event.ctorIdx

abbrev Mask : Type := BitVec 64

def bit (event : Nat) : Mask := ((1#32) <<< (event % 32)).signExtend 64

def hits (mask : Mask) (event : Nat) : Bool := bit event &&& mask ≠ 0

-- What the call that has a queue's lock is still to do to the mask, which no lock guards.
inductive Phase where
  | idle
  | marking (event : Nat)
  | unmarking (event : Nat)
  | dropping (event : Nat) (hit : Bool)
  | storing (value : Option Mask)
  | clearing

-- A queue with the events that it accepted since its last overflow, and those of them popped.
structure Queue where
  size : Nat
  head : Nat := 0
  tail : Nat := 0
  data : Nat → Nat := fun _ => 0
  phase : Phase := .idle
  accepted : List Nat := []
  popped : List Nat := []

structure Queues where
  queue : Nat → Queue
  availEventMask : Mask

namespace Queue

def loopBufferRead (q : Queue) : Nat :=
  let pos := q.tail
  q.data (if pos ≥ q.size then pos - q.size else pos)

def loopBufferWrite (q : Queue) (sample : Nat) : Queue × Nat :=
  let pos := q.head
  let pos := if pos ≥ q.size then pos - q.size else pos
  let next := pos + 1
  ({ q with data := Function.update q.data pos sample }, if next ≥ q.size then next - q.size else next)

def accept (q : Queue) (event : Nat) : Queue :=
  let (q, pos) := q.loopBufferWrite (event % 256)
  if pos ≠ q.tail then { q with head := pos, phase := .marking event, accepted := q.accepted ++ [event] }
  else { q with head := 0, tail := 0, phase := .clearing, accepted := [], popped := [] }

def corrupted (q : Queue) : Bool := q.head ≥ q.size || q.tail ≥ q.size

def pop (q : Queue) : Queue :=
  if q.head = q.tail || q.corrupted then q
  else
    let rc := q.loopBufferRead
    let pos := q.tail + 1
    let pos := if pos ≥ q.size then pos - q.size else pos
    { q with tail := pos, popped := q.popped ++ [rc], phase := if rc < 64 then .unmarking rc else .idle }

end Queue

inductive QueueAct where
  | push (event : EventId)
  | pop
  | goOn

def Queue.next (q : Queue) (mask : Mask) (act : QueueAct) : Queue × Mask :=
  match act, q.phase with
  | .push event, .idle => (if hits mask event.number then q else q.accept event.number, mask)
  | .pop, .idle => (q.pop, mask)
  | .goOn, .marking event => ({ q with phase := .storing (some (mask ||| bit event)) }, mask)
  | .goOn, .unmarking event => ({ q with phase := .dropping event (hits mask event) }, mask)
  | .goOn, .dropping event true => ({ q with phase := .storing (some (mask &&& ~~~bit event)) }, mask)
  -- The mask is read for the log only.
  | .goOn, .dropping _ false => ({ q with phase := .storing none }, mask)
  | .goOn, .storing none => ({ q with phase := .idle }, mask)
  | .goOn, .storing (some value) => ({ q with phase := .idle }, value)
  | .goOn, .clearing => ({ q with phase := .idle }, 0)
  | _, _ => (q, mask)

namespace Queues

def step (s : Queues) (act : Nat × QueueAct) : Queues :=
  let (q, mask) := (s.queue act.1).next s.availEventMask act.2
  { queue := Function.update s.queue act.1 q, availEventMask := mask }

structure Start (s : Queues) : Prop where
  sizes : ∀ i, 2 ≤ (s.queue i).size
  empty : ∀ i, (s.queue i).head = 0 ∧ (s.queue i).tail = 0
  idle : ∀ i, (s.queue i).phase = .idle
  fresh : ∀ i, (s.queue i).accepted = [] ∧ (s.queue i).popped = []
  mask : s.availEventMask = 0

end Queues

theorem number_lt (event : EventId) : event.number < 33 := by
  cases event <;> decide

theorem number_injective {a b : EventId} (same : a.number = b.number) : a = b := by
  revert same
  cases a <;> cases b <;> first | exact fun _ => rfl | exact fun same => absurd same (by decide)

theorem bit_congr {a b : Nat} (same : a % 32 = b % 32) : bit a = bit b := by
  unfold bit
  rw [same]

theorem bit_ne_zero (a : Nat) : bit a ≠ 0 := by
  have all : ∀ k : Fin 32, ((1#32) <<< k.val).signExtend 64 ≠ 0 := by decide +kernel
  exact all ⟨a % 32, Nat.mod_lt a (by decide)⟩

theorem bit_apart {a b : Nat} (other : a % 32 ≠ b % 32) : bit a &&& bit b = 0 := by
  have all : ∀ k l : Fin 32, k.val ≠ l.val →
      ((1#32) <<< k.val).signExtend 64 &&& ((1#32) <<< l.val).signExtend 64 = 0#64 := by decide +kernel
  exact all ⟨a % 32, Nat.mod_lt a (by decide)⟩ ⟨b % 32, Nat.mod_lt b (by decide)⟩ other

theorem hits_iff (mask : Mask) (a : Nat) : hits mask a = true ↔ bit a &&& mask ≠ 0 := decide_eq_true_iff

theorem hits_zero (a : Nat) : ¬ hits 0 a = true := fun hit => (hits_iff 0 a).mp hit BitVec.and_zero

theorem hits_or (mask : Mask) (a b : Nat) :
    hits (mask ||| bit b) a = true ↔ hits mask a = true ∨ b % 32 = a % 32 := by
  rw [hits_iff, hits_iff, BitVec.and_or_distrib_left]
  have either : bit a &&& mask ||| bit a &&& bit b = 0 ↔ bit a &&& mask = 0 ∧ bit a &&& bit b = 0 :=
    BitVec.or_eq_zero_iff
  rw [Ne, either, not_and_or]
  refine or_congr Iff.rfl ⟨fun meets => ?_, fun same apart => ?_⟩
  · by_contra other
    exact meets (bit_apart fun same => other same.symm)
  · rw [bit_congr same, BitVec.and_self] at apart
    exact bit_ne_zero a apart

theorem hits_andNot (mask : Mask) (a b : Nat) :
    hits (mask &&& ~~~bit b) a = true ↔ hits mask a = true ∧ b % 32 ≠ a % 32 := by
  rw [hits_iff, hits_iff]
  by_cases same : b % 32 = a % 32
  · refine iff_of_false (fun hit => hit ?_) fun both => both.2 same
    rw [bit_congr same, ← BitVec.and_assoc, BitVec.and_comm (bit a), BitVec.and_assoc,
      BitVec.and_not_self]
    exact BitVec.and_zero
  · have apart : bit a &&& bit b = 0 := bit_apart fun eq => same eq.symm
    have left : bit a &&& ~~~bit b = bit a := by
      have whole : bit a &&& (bit b ||| ~~~bit b) = bit a := by
        rw [BitVec.or_not_self, BitVec.and_allOnes]
      rw [BitVec.and_or_distrib_left, apart] at whole
      exact (BitVec.zero_or).symm.trans whole
    have swap : bit a &&& (mask &&& ~~~bit b) = bit a &&& mask := by
      rw [BitVec.and_comm mask, ← BitVec.and_assoc, left]
    rw [swap]
    exact (and_iff_left same).symm

namespace Queue

variable {q q' : Queue} {mask : Mask}

def ring (q : Queue) : Lib.Ring Nat := ⟨q.size, q.data, q.tail, q.head⟩

def content (q : Queue) : List Nat := q.ring.content

structure Kept (q : Queue) : Prop where
  ok : q.ring.Ok
  two : 2 ≤ q.size
  inOrder : q.popped ++ q.content = q.accepted
  known : ∀ event ∈ q.content, event < 33

theorem wrap_next {size pos : Nat} (below : pos < size) :
    (if pos + 1 ≥ size then pos + 1 - size else pos + 1) = (pos + 1) % size := by
  rw [Lib.mod_of_lt_twice (by omega)]

theorem Kept.write (kept : q.Kept) (sample : Nat) :
    q.loopBufferWrite sample = ({ q with data := Function.update q.data q.head sample },
      (q.head + 1) % q.size) := by
  have below : q.head < q.size := kept.ok.wp
  unfold loopBufferWrite
  dsimp only
  rw [if_neg (Nat.not_le.mpr below), wrap_next below]

theorem Kept.level_eq (kept : q.Kept) : q.head = q.tail ↔ q.content = [] :=
  kept.ok.empty_iff.trans (q.ring.content_eq_nil).symm

theorem Kept.accept (kept : q.Kept) {event : Nat} (known : event < 33) :
    (q.accept event).Kept ∧
      ((q.accept event).content = q.content ++ [event] ∧ (q.accept event).phase = .marking event ∨
        (q.accept event).content = [] ∧ (q.accept event).phase = .clearing) := by
  unfold Queue.accept
  rw [kept.write, Nat.mod_eq_of_lt (Nat.lt_trans known (by decide))]
  dsimp only
  by_cases full : (q.head + 1) % q.size = q.tail
  · rw [if_neg (not_not.mpr full)]
    have two := kept.two
    have ok : (Lib.Ring.mk q.size (Function.update q.data q.head event) 0 0).Ok :=
      ⟨Nat.lt_of_lt_of_le Nat.zero_lt_two two, Nat.lt_of_lt_of_le Nat.zero_lt_two two⟩
    have none : (Lib.Ring.mk q.size (Function.update q.data q.head event) 0 0).content = [] :=
      (Lib.Ring.content_eq_nil _).mpr (ok.empty_iff.mp rfl)
    refine ⟨⟨ok, two, none, fun event there => ?_⟩, .inr ⟨none, rfl⟩⟩
    change event ∈ (Lib.Ring.mk q.size _ 0 0).content at there
    rw [none] at there
    cases there
  · rw [if_pos full]
    have below := kept.ok.level_lt
    have room : q.ring.level + 1 < q.ring.size := by
      have other : ¬ q.ring.level + 1 = q.ring.size := fun eq => full (kept.ok.full_iff.mpr eq)
      omega
    have list : (q.ring.push event).content = q.content ++ [event] := kept.ok.content_push event room
    refine ⟨⟨kept.ok.push event, kept.two, ?_, fun other there => ?_⟩, .inl ⟨list, rfl⟩⟩
    · change q.popped ++ (q.ring.push event).content = q.accepted ++ [event]
      rw [list, ← List.append_assoc, kept.inOrder]
    · change other ∈ (q.ring.push event).content at there
      rw [list] at there
      rcases List.mem_append.mp there with old | new
      · exact kept.known other old
      · rw [List.mem_singleton.mp new]
        exact known

theorem Kept.pop (kept : q.Kept) :
    (q.pop = q ∧ q.content = []) ∨
      ∃ event, q.content = event :: q.pop.content ∧ q.pop.phase = .unmarking event ∧ q.pop.Kept := by
  have head : q.head < q.size := kept.ok.wp
  have tail : q.tail < q.size := kept.ok.rp
  have fine : q.corrupted = false := by
    unfold corrupted
    rw [decide_eq_false (Nat.not_le.mpr head), decide_eq_false (Nat.not_le.mpr tail)]
    rfl
  unfold Queue.pop
  rw [fine, Bool.or_false]
  by_cases none : q.head = q.tail
  · rw [if_pos (decide_eq_true none)]
    exact .inl ⟨rfl, kept.level_eq.mp none⟩
  · have some : q.ring.level ≠ 0 := fun zero => none (kept.ok.empty_iff.mpr zero)
    have list : q.content = q.data q.tail :: q.ring.drop.content := kept.ok.content_drop some
    have known := kept.known (q.data q.tail) (by
      rw [list]
      exact List.mem_cons_self)
    have read : q.loopBufferRead = q.data q.tail := by
      unfold loopBufferRead
      dsimp only
      rw [if_neg (Nat.not_le.mpr tail)]
    rw [if_neg (by rw [decide_eq_true_iff]; exact none), read]
    dsimp only
    rw [wrap_next tail, if_pos (Nat.lt_trans known (by decide))]
    refine .inr ⟨q.data q.tail, list, rfl, kept.ok.drop, kept.two, ?_, fun event there => ?_⟩
    · change (q.popped ++ [q.data q.tail]) ++ q.ring.drop.content = q.accepted
      rw [← kept.inOrder, list, List.append_assoc]
      rfl
    · exact kept.known event (by
        rw [list]
        exact List.mem_cons_of_mem _ there)

theorem Kept.next (kept : q.Kept) (mask : Mask) (act : QueueAct) : (q.next mask act).1.Kept := by
  unfold Queue.next
  split
  next event _ =>
    dsimp only
    split
    next => exact kept
    next => exact (kept.accept (number_lt event)).1
  next =>
    rcases kept.pop with ⟨same, -⟩ | ⟨event, -, -, popped⟩
    · dsimp only
      rw [same]
      exact kept
    · exact popped
  all_goals exact ⟨kept.ok, kept.two, kept.inOrder, kept.known⟩

theorem Kept.next_content (kept : q.Kept) (mask : Mask) (act : QueueAct) {event : Nat}
    (there : event ∈ (q.next mask act).1.content) :
    event ∈ q.content ∨ ∃ new : EventId, act = .push new ∧ event = new.number := by
  unfold Queue.next at there
  split at there
  next new _ =>
    dsimp only at there
    split at there
    next => exact .inl there
    next =>
      rcases (kept.accept (number_lt new)).2 with ⟨list, -⟩ | ⟨none, -⟩
      · rw [list] at there
        rcases List.mem_append.mp there with old | added
        · exact .inl old
        · exact .inr ⟨new, rfl, List.mem_singleton.mp added⟩
      · rw [none] at there
        cases there
  next =>
    rcases kept.pop with ⟨same, -⟩ | ⟨first, list, -⟩
    · rw [same] at there
      exact .inl there
    · rw [list]
      exact .inl (List.mem_cons_of_mem _ there)
  all_goals exact .inl there

end Queue

def Phase.after (mask : Mask) : Phase → Mask
  | .idle => mask
  | .marking event => mask ||| bit event
  | .unmarking event => mask &&& ~~~bit event
  | .dropping event true => mask &&& ~~~bit event
  | .dropping _ false => mask
  | .storing none => mask
  | .storing (some value) => value
  | .clearing => 0

def Phase.outline : Phase → Phase
  | .dropping event _ => .dropping event false
  | .storing _ => .storing none
  | phase => phase

namespace Queue

variable {q q' : Queue} {mask mask' : Mask}

def outline (q : Queue) : Queue := { q with phase := q.phase.outline }

def Distinct (q : Queue) : Prop := (q.content.map fun event => event % 32).Nodup

def Marked (q : Queue) (mask : Mask) : Prop :=
  ∀ a, hits (q.phase.after mask) a = true ↔ ∃ event ∈ q.content, event % 32 = a % 32

def Fits (q : Queue) (mask : Mask) : QueueAct → Prop
  | .push event => q.phase = .idle → (hits mask event.number = true ↔ event.number ∈ q.content) ∧
      ∀ other ∈ q.content, other % 32 = event.number % 32 → other = event.number
  | _ => True

def SkipsRight (q : Queue) (mask : Mask) : QueueAct → Prop
  | .push event => q.phase = .idle → hits mask event.number = true → event.number ∈ q.content
  | _ => True

theorem Fits.skips {act : QueueAct} (fits : q.Fits mask act) : q.SkipsRight mask act := by
  cases act with
  | push event => exact fun idle => (fits idle).1.mp
  | pop => trivial
  | goOn => trivial

theorem Distinct.nodup (distinct : q.Distinct) : q.content.Nodup := distinct.of_map _

theorem Distinct.accept (distinct : q.Distinct) (kept : q.Kept) {event : Nat} (known : event < 33)
    (apart : ∀ other ∈ q.content, other % 32 ≠ event % 32) : (q.accept event).Distinct := by
  unfold Distinct
  rcases (kept.accept known).2 with ⟨list, -⟩ | ⟨none, -⟩
  · rw [list, List.map_append]
    refine List.Nodup.append distinct (List.nodup_singleton _) fun number there new => ?_
    obtain ⟨other, old, eq⟩ := List.mem_map.mp there
    rw [List.map_cons, List.map_nil, List.mem_singleton] at new
    exact apart other old (eq.trans new)
  · rw [none]
    exact List.nodup_nil

theorem Distinct.pop (distinct : q.Distinct) (kept : q.Kept) : q.pop.Distinct := by
  rcases kept.pop with ⟨same, -⟩ | ⟨event, list, -⟩
  · rw [same]
    exact distinct
  · unfold Distinct at distinct
    rw [list, List.map_cons] at distinct
    exact (List.nodup_cons.mp distinct).2

theorem Marked.accept (marked : q.Marked mask) (kept : q.Kept) (idle : q.phase = .idle)
    {event : Nat} (known : event < 33) :
    (q.accept event).Marked mask := by
  intro a
  have before := marked a
  rw [idle] at before
  rcases (kept.accept known).2 with ⟨list, phase⟩ | ⟨none, phase⟩
  · rw [list, phase]
    refine (hits_or mask a event).trans ?_
    rw [show (hits mask a = true) = (hits (Phase.idle.after mask) a = true) from rfl, before]
    simp only [List.mem_append, List.mem_singleton, or_and_right, exists_or, exists_eq_left]
  · rw [none, phase]
    exact iff_of_false (hits_zero a) (by simp)

theorem Marked.pop (marked : q.Marked mask) (kept : q.Kept) (idle : q.phase = .idle)
    (distinct : q.Distinct) :
    q.pop.Marked mask := by
  intro a
  have before := marked a
  rcases kept.pop with ⟨same, -⟩ | ⟨event, list, phase, -⟩
  · rw [same]
    exact before
  · unfold Distinct at distinct
    rw [list, List.map_cons] at distinct
    obtain ⟨fresh, -⟩ := List.nodup_cons.mp distinct
    rw [idle, list] at before
    rw [phase]
    refine (hits_andNot mask a event).trans ?_
    rw [show (hits mask a = true) = (hits (Phase.idle.after mask) a = true) from rfl, before]
    constructor
    · rintro ⟨⟨other, there, same⟩, apart⟩
      rcases List.mem_cons.mp there with eq | there
      · exact absurd (eq ▸ same) apart
      · exact ⟨other, there, same⟩
    · rintro ⟨other, there, same⟩
      refine ⟨⟨other, List.mem_cons_of_mem _ there, same⟩, fun eq => fresh ?_⟩
      exact List.mem_map.mpr ⟨other, there, same.trans eq.symm⟩

theorem next_idle_push (idle : q.phase = .idle) (mask : Mask) (event : EventId) :
    q.next mask (.push event) = (if hits mask event.number then q
      else q.accept event.number, mask) := by
  unfold Queue.next
  rw [idle]

theorem next_idle_pop (idle : q.phase = .idle) (mask : Mask) : q.next mask .pop = (q.pop, mask) := by
  unfold Queue.next
  rw [idle]

theorem next_busy (busy : q.phase ≠ .idle) (mask : Mask) {act : QueueAct} (call : act ≠ .goOn) :
    q.next mask act = (q, mask) := by
  unfold Queue.next
  split
  next idle => exact absurd idle busy
  next idle => exact absurd idle busy
  all_goals first | exact absurd rfl call | rfl

theorem next_goOn (q : Queue) (mask : Mask) : ∃ phase, (q.next mask .goOn).1 = { q with phase } ∧
    phase.outline = (match q.phase with
      | .marking _ => .storing none
      | .unmarking event => .dropping event false
      | .dropping _ _ => .storing none
      | _ => .idle) ∧
    ∀ a, hits (phase.after (q.next mask .goOn).2) a = hits (q.phase.after mask) a := by
  unfold Queue.next
  cases eq : q.phase with
  | idle =>
    have same : q = { q with phase := .idle } := by rw [← eq]
    exact ⟨.idle, same, rfl, fun _ => rfl⟩
  | marking event => exact ⟨_, rfl, rfl, fun _ => rfl⟩
  | unmarking event =>
    refine ⟨_, rfl, rfl, fun a => ?_⟩
    dsimp only
    cases held : hits mask event with
    | true => rfl
    | false =>
      refine Bool.eq_iff_iff.mpr
        ((hits_andNot mask a event).trans (and_iff_left_of_imp fun hit same => ?_)).symm
      refine Bool.eq_false_iff.mp held ?_
      rw [hits_iff, bit_congr same, ← hits_iff]
      exact hit
  | dropping event hit => cases hit <;> exact ⟨_, rfl, rfl, fun _ => rfl⟩
  | storing value => cases value <;> exact ⟨_, rfl, rfl, fun _ => rfl⟩
  | clearing => exact ⟨_, rfl, rfl, fun _ => rfl⟩

theorem alike_iff : q.outline = q'.outline ↔ q' = { q with phase := q'.phase } ∧
    q.phase.outline = q'.phase.outline := by
  constructor
  · intro alike
    refine ⟨?_, congrArg Queue.phase alike⟩
    have same : { q.outline with phase := q'.phase } =
        { q'.outline with phase := q'.phase } := by rw [alike]
    exact same.symm
  · rintro ⟨same, phases⟩
    unfold outline
    rw [same, phases]

theorem outline_idle {phase : Phase} : phase.outline = .idle ↔ phase = .idle := by
  cases phase <;> simp [Phase.outline]

theorem next_alike (kept : q.Kept) (distinct : q.Distinct) (alike : q.outline = q'.outline)
    (marked : q'.Marked mask') {act : QueueAct} (fits : q.Fits mask act) :
    (q.next mask act).1.outline = (q'.next mask' act).1.outline ∧
      (q'.next mask' act).1.Marked (q'.next mask' act).2 ∧
      (q.next mask act).1.Distinct := by
  obtain ⟨same, phases⟩ := alike_iff.mp alike
  have contents : q'.content = q.content := by rw [same]; rfl
  have idles : q.phase = .idle ↔ q'.phase = .idle := by rw [← outline_idle, phases, outline_idle]
  by_cases call : act = .goOn
  · rw [call]
    obtain ⟨phase, new, outline, -⟩ := q.next_goOn mask
    obtain ⟨phase', new', outline', after⟩ := q'.next_goOn mask'
    refine ⟨?_, fun a => ?_, ?_⟩
    · rw [new, new', same]
      have steps : phase.outline = phase'.outline := by
        rw [outline, outline']
        cases eq : q.phase <;> cases eq' : q'.phase <;> rw [eq, eq'] at phases <;>
          first | rfl | cases phases <;> rfl
      unfold Queue.outline
      rw [steps]
    · rw [new']
      rw [show (Queue.phase { q' with phase := phase' }) = phase' from rfl, after a]
      exact marked a
    · rw [new]
      exact distinct
  · by_cases idle : q.phase = .idle
    · have idle' := idles.mp idle
      have equal : q' = q := by rw [same, idle', ← idle]
      rw [equal] at marked ⊢
      cases act with
      | goOn => exact absurd rfl call
      | pop =>
        rw [next_idle_pop idle, next_idle_pop idle]
        exact ⟨rfl, marked.pop kept idle distinct, distinct.pop kept⟩
      | push event =>
        obtain ⟨there, alone⟩ := fits idle
        have found : hits mask' event.number = true ↔ event.number ∈ q.content := by
          have marks := marked event.number
          rw [idle] at marks
          refine marks.trans ⟨fun ⟨other, held, eq⟩ => ?_, fun held => ⟨_, held, rfl⟩⟩
          rw [← alone other held eq]
          exact held
        rw [next_idle_push idle, next_idle_push idle]
        by_cases held : event.number ∈ q.content
        · rw [if_pos (there.mpr held), if_pos (found.mpr held)]
          exact ⟨rfl, marked, distinct⟩
        · rw [if_neg fun hit => held (there.mp hit), if_neg fun hit => held (found.mp hit)]
          refine ⟨rfl, marked.accept kept idle (number_lt event),
            distinct.accept kept (number_lt event) ?_⟩
          intro other old eq
          rw [alone other old eq] at old
          exact held old
    · rw [next_busy idle mask call, next_busy (fun idle' => idle (idles.mpr idle')) mask' call]
      exact ⟨alike, marked, distinct⟩

end Queue

namespace Queues

variable {s s' : Queues} {i : Nat}

def Fits (s : Queues) (act : Nat × QueueAct) : Prop := (s.queue act.1).Fits s.availEventMask act.2

def SkipsRight (s : Queues) (act : Nat × QueueAct) : Prop :=
  (s.queue act.1).SkipsRight s.availEventMask act.2

theorem step_here (s : Queues) (i : Nat) (act : QueueAct) :
    (s.step (i, act)).queue i = ((s.queue i).next s.availEventMask act).1 := Function.update_self ..

theorem step_other (s : Queues) {act : Nat × QueueAct} (other : i ≠ act.1) :
    (s.step act).queue i = s.queue i :=
  Function.update_of_ne other ..

def Kept (s : Queues) : Prop := ∀ i, (s.queue i).Kept

theorem Kept.step (kept : s.Kept) (act : Nat × QueueAct) : (s.step act).Kept := by
  intro i
  by_cases here : i = act.1
  · rw [here, step_here s act.1 act.2]
    exact (kept act.1).next _ _
  · rw [step_other s here]
    exact kept i

structure Beside (i : Nat) (s s' : Queues) : Prop where
  kept : s.Kept
  alike : (s.queue i).outline = (s'.queue i).outline
  marked : (s'.queue i).Marked s'.availEventMask
  distinct : (s.queue i).Distinct

theorem Beside.here (beside : Beside i s s') {act : QueueAct} (fits : s.Fits (i, act)) :
    Beside i (s.step (i, act)) (s'.step (i, act)) := by
  obtain ⟨alike, marked, distinct⟩ :=
    Queue.next_alike (beside.kept i) beside.distinct beside.alike beside.marked fits
  refine ⟨beside.kept.step _, ?_, ?_, ?_⟩
  · rw [step_here, step_here]
    exact alike
  · rw [step_here]
    exact marked
  · rw [step_here]
    exact distinct

theorem Beside.other (beside : Beside i s s') {act : Nat × QueueAct} (other : i ≠ act.1) :
    Beside i (s.step act) s' := by
  refine ⟨beside.kept.step act, ?_, beside.marked, ?_⟩
  · rw [step_other s other]
    exact beside.alike
  · rw [step_other s other]
    exact beside.distinct

theorem Beside.run (beside : Beside i s s') {acts : List (Nat × QueueAct)}
    (fits : Lib.Along step Fits s acts) :
    Beside i (Lib.run step s acts) (Lib.run step s' (acts.filter fun act => act.1 = i)) := by
  induction acts generalizing s s' with
  | nil => exact beside
  | cons act rest ih =>
    by_cases here : act.1 = i
    · rw [List.filter_cons, if_pos (decide_eq_true here)]
      cases act with
      | mk j act =>
        cases here
        exact ih (beside.here fits.1) fits.2
    · rw [List.filter_cons, if_neg (by rw [decide_eq_true_iff]; exact here)]
      exact ih (beside.other fun eq => here eq.symm) fits.2

theorem Start.kept (start : s.Start) : s.Kept := fun i => by
  obtain ⟨head, tail⟩ := start.empty i
  obtain ⟨accepted, popped⟩ := start.fresh i
  have two := start.sizes i
  have ok : (s.queue i).ring.Ok := ⟨by change (s.queue i).tail < (s.queue i).size; omega, by
    change (s.queue i).head < (s.queue i).size
    omega⟩
  have none : (s.queue i).content = [] :=
    (Lib.Ring.content_eq_nil _).mpr (ok.empty_iff.mp (head.trans tail.symm))
  refine ⟨ok, two, ?_, fun event there => ?_⟩
  · rw [accepted, popped, none]
    rfl
  · rw [none] at there
    cases there

theorem Start.content (start : s.Start) (i : Nat) : (s.queue i).content = [] := by
  obtain ⟨head, tail⟩ := start.empty i
  exact (Lib.Ring.content_eq_nil _).mpr ((start.kept i).ok.empty_iff.mp (head.trans tail.symm))

theorem Start.beside (start : s.Start) (i : Nat) : Beside i s s := by
  refine ⟨start.kept, rfl, fun a => ?_, ?_⟩
  · rw [start.content i, start.idle i]
    change hits s.availEventMask a = true ↔ _
    rw [start.mask]
    exact iff_of_false (hits_zero a) (by simp)
  · unfold Queue.Distinct
    rw [start.content i]
    exact List.nodup_nil

theorem Start.fits_one (start : s.Start) {i : Nat} {left : EventId}
    (clash : left = .WBMatrixReady ∨ left = .dropFrame) {acts : List (Nat × QueueAct)}
    (one : ∀ act ∈ acts, act.1 = i ∧ act.2 ≠ .push left) : Lib.Along step Fits s acts := by
  have number : left.number = 0 ∨ left.number = 32 := by
    rcases clash with rfl | rfl
    · exact .inl rfl
    · exact .inr rfl
  have fits : ∀ s : Queues, ∀ act : Nat × QueueAct,
      (Beside i s s ∧ ∀ event ∈ (s.queue i).content, event ≠ left.number) →
      act.1 = i ∧ act.2 ≠ .push left → s.Fits act := by
    rintro s ⟨j, act⟩ ⟨beside, without⟩ ⟨here, other⟩
    cases here
    cases act with
    | pop => trivial
    | goOn => trivial
    | push event =>
      have apart : event.number ≠ left.number := fun same => other (by rw [number_injective same])
      have known := number_lt event
      have same : ∀ held ∈ (s.queue j).content, held % 32 = event.number % 32 →
          held = event.number := by
        intro held there eq
        have small := (beside.kept j).known held there
        have differs := without held there
        omega
      refine fun idle => ⟨?_, same⟩
      have marks := beside.marked event.number
      rw [idle] at marks
      refine marks.trans ⟨fun ⟨held, there, eq⟩ => ?_, fun there => ⟨_, there, rfl⟩⟩
      rw [← same held there eq]
      exact there
  refine Lib.Along.of_invariant (fun s => Beside i s s ∧ ∀ event ∈ (s.queue i).content,
    event ≠ left.number) ?_ fits ?_
    ((Lib.along_iff_forall step (fun act => act.1 = i ∧ act.2 ≠ .push left) s acts).mpr one)
  · rintro s ⟨j, act⟩ ⟨beside, without⟩ ok
    have fit := fits s (j, act) ⟨beside, without⟩ ok
    cases ok.1
    refine ⟨beside.here fit, fun event there => ?_⟩
    rw [step_here] at there
    rcases (beside.kept j).next_content _ _ there with old | ⟨new, eq, same⟩
    · exact without event old
    · rw [same]
      exact fun number => ok.2 (by rw [eq, number_injective number])
  · refine ⟨start.beside i, fun event there => ?_⟩
    rw [start.content i] at there
    cases there

-- The rings give their events in order whatever the mask is. While it tells every push whether its
-- own queue has the event, only those are skipped, none is in a queue twice and no queue is affected
-- by the others, which is so when one queue alone is used without both events of one bit.
theorem events_kept (start : s.Start) (acts : List (Nat × QueueAct)) :
    (∀ i, ((Lib.run step s acts).queue i).popped ++ ((Lib.run step s acts).queue i).content =
        ((Lib.run step s acts).queue i).accepted) ∧
      (Lib.Along step Fits s acts → Lib.Along step SkipsRight s acts ∧
        ∀ i, ((Lib.run step s acts).queue i).content.Nodup ∧
          ((Lib.run step s acts).queue i).outline =
            ((Lib.run step s (acts.filter fun act => act.1 = i)).queue i).outline) ∧
      ∀ i left, left = .WBMatrixReady ∨ left = .dropFrame →
        (∀ act ∈ acts, act.1 = i ∧ act.2 ≠ .push left) →
        Lib.Along step Fits s acts := by
  have kept : (Lib.run step s acts).Kept :=
    Lib.run_always step Kept (fun _ act kept => kept.step act) s start.kept acts
  refine ⟨fun i => (kept i).inOrder, fun fits => ⟨?_, fun i => ?_⟩,
    fun _ _ clash one => start.fits_one clash one⟩
  · exact Lib.Along.of_invariant (fun _ => True) (fun _ _ _ _ => trivial) (fun _ _ _ fits =>
      fits.skips) trivial fits
  · have beside := (start.beside i).run fits
    exact ⟨beside.distinct.nodup, beside.alike⟩

def small : Queues := { queue := fun _ => { size := 3 }, availEventMask := 0 }

theorem small_start : small.Start where
  sizes _ := Nat.le_succ 2
  empty _ := ⟨rfl, rfl⟩
  idle _ := rfl
  fresh _ := ⟨rfl, rfl⟩
  mask := rfl

-- The second push of the event is skipped, the third one, after the pop, is not.
def pushedAgain : List (Nat × QueueAct) :=
  [(0, .push .newFrame), (0, .goOn), (0, .goOn), (1, .push .frameEnd), (0, .push .newFrame),
    (0, .pop), (1, .goOn),
    (1, .goOn), (0, .goOn), (0, .goOn), (0, .goOn), (0, .push .newFrame)]

theorem events_kept_small : ((Lib.run step small pushedAgain).queue 0).content.Nodup :=
  (((events_kept small_start pushedAgain).2.1 (by
    refine ⟨?_, trivial, trivial, ?_, ?_, trivial, trivial, trivial, trivial, trivial, trivial, ?_, trivial⟩ <;>
      intro _ <;> decide +kernel)).2 0).1

theorem events_lost :
    small.Start ∧
      (¬ Lib.Along step SkipsRight small [(0, .push .newFrame), (0, .goOn), (0, .goOn),
        (1, .push .newFrame)]) ∧
      (¬ Lib.Along step SkipsRight small [(0, .push .WBMatrixReady), (0, .goOn), (0, .goOn),
        (0, .push .dropFrame)]) ∧
      ((Lib.run step small [(0, .push .newFrame), (0, .goOn), (0, .goOn), (1, .push .frameEnd),
        (1, .goOn), (1, .goOn),
        (1, .push .sensorReady), (1, .goOn), (1, .goOn), (1, .push .dropFrame), (1, .goOn),
          (0, .push .newFrame)]).queue 0).content =
          [25, 25] := by
  refine ⟨small_start, fun skips => ?_, fun skips => ?_, by decide +kernel⟩
  · exact absurd (skips.2.2.2.1 rfl (by decide +kernel)) (by decide +kernel)
  · exact absurd (skips.2.2.2.1 rfl (by decide +kernel)) (by decide +kernel)

end Queues

end UnionpiTiger.Isp
