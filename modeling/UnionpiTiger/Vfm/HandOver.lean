import Mathlib.Data.List.Nodup
import Mathlib.Data.List.Perm.Basic
import UnionpiTiger.Lib.RingQueue
import UnionpiTiger.Lib.Run

set_option autoImplicit false

namespace UnionpiTiger.HandOver

abbrev Frame : Type := Nat

def poolSize : Nat := 32

-- A queue, with the frames that were pushed and popped since it was initialised.
structure VfQ where
  rp : Nat
  wp : Nat
  size : Nat
  pool : Nat → Frame
  pushed : List Frame := []
  popped : List Frame := []

namespace VfQ

def init (size : Nat) (pool : Nat → Frame) : VfQ := { rp := 0, wp := 0, size, pool }

def empty (q : VfQ) : Bool := q.rp = q.wp

def push (q : VfQ) (vf : Frame) : VfQ :=
  { q with
    pool := Function.update q.pool q.wp vf, wp := if q.wp = q.size - 1 then 0 else q.wp + 1
    pushed := q.pushed ++ [vf] }

def pop (q : VfQ) : VfQ × Option Frame :=
  if q.empty then (q, none)
  else
    let vf := q.pool q.rp
    ({ q with rp := if q.rp = q.size - 1 then 0 else q.rp + 1, popped := q.popped ++ [vf] }, some vf)

def level (q : VfQ) : Int :=
  let level : Int := q.wp - q.rp
  if level < 0 then level + q.size else level

end VfQ

structure Vfm where
  vfQue : VfQ
  vfQueRecycle : VfQ
  vf : Option Frame := none
  v4lVideo : Bool
  receiver : List Frame
  caller : List Frame
  obtained : List Frame

inductive Event where
  | vframeReady (peeked : Bool) (offer : Option Frame)
  | vfGet
  | vfPut (vf : Frame)
  | getVideoFrame

namespace Vfm

def full (q : VfQ) : Bool := q.level > (poolSize : Int) - 1

-- VFRAME_EVENT_PROVIDER_VFRAME_READY. The decoder may have another frame ready when it is asked
-- for one than when it was only looked at.
def vframeReady (m : Vfm) (peeked : Bool) (offer : Option Frame) : Vfm :=
  let ret := if full m.vfQue then -1 else 0
  let ret := if peeked then ret else -1
  let m := { m with vf := offer, obtained := m.obtained ++ offer.toList }
  match offer with
  | none => m
  | some vf => if ret < 0 then m else { m with vfQue := m.vfQue.push vf }

def vfGet (m : Vfm) : Vfm :=
  { m with vfQue := m.vfQue.pop.1, receiver := m.receiver ++ m.vfQue.pop.2.toList }

def vfPut (m : Vfm) (vf : Frame) : Vfm :=
  let m := { m with receiver := m.receiver.erase vf }
  if full m.vfQueRecycle then m else { m with vfQueRecycle := m.vfQueRecycle.push vf }

def getVideoFrame (m : Vfm) : Vfm :=
  if m.v4lVideo then
    { m with vfQueRecycle := m.vfQueRecycle.pop.1, caller := m.caller ++ m.vfQueRecycle.pop.2.toList }
  else { m with vfQue := m.vfQue.pop.1, caller := m.caller ++ m.vfQue.pop.2.toList }

def step (m : Vfm) : Event → Vfm
  | .vframeReady peeked offer => m.vframeReady peeked offer
  | .vfGet => m.vfGet
  | .vfPut vf => m.vfPut vf
  | .getVideoFrame => m.getVideoFrame

def start (m : Vfm) : Vfm :=
  { m with
    vfQue := .init (poolSize + 1) m.vfQue.pool, vfQueRecycle := .init (poolSize + 1) m.vfQueRecycle.pool
    obtained := m.receiver ++ m.caller }

end Vfm

namespace VfQ

variable {q : VfQ}

def ring (q : VfQ) : Lib.Ring Frame := ⟨q.size, q.pool, q.rp, q.wp⟩

def content (q : VfQ) : List Frame := q.ring.content

structure Ordered (q : VfQ) : Prop where
  ok : q.ring.Ok
  size : q.size = poolSize + 1
  inOrder : q.popped ++ q.content = q.pushed

theorem wrap_eq {size place : Nat} (below : place < size) :
    (if place = size - 1 then 0 else place + 1) = (place + 1) % size := by
  split
  next last => rw [last, Nat.sub_add_cancel (Nat.one_le_of_lt below), Nat.mod_self]
  next => rw [Nat.mod_eq_of_lt (by omega)]

theorem Ordered.level_eq (ordered : q.Ordered) : q.level = q.content.length := by
  have rp : q.rp < q.size := ordered.ok.rp
  rw [show q.content.length = q.ring.level from q.ring.content_length]
  unfold level Lib.Ring.level
  change (if ((q.wp : Int) - q.rp) < 0 then ((q.wp : Int) - q.rp) + q.size else (q.wp : Int) - q.rp) =
    ((if q.rp ≤ q.wp then q.wp - q.rp else q.wp + q.size - q.rp : Nat) : Int)
  split <;> split <;> omega

theorem Ordered.full_iff (ordered : q.Ordered) : Vfm.full q = true ↔ poolSize ≤ q.content.length := by
  unfold Vfm.full
  rw [ordered.level_eq, decide_eq_true_iff]
  omega

theorem Ordered.push (ordered : q.Ordered) (vf : Frame) (room : ¬ Vfm.full q = true) :
    (q.push vf).Ordered ∧ (q.push vf).content = q.content ++ [vf] := by
  have below : q.wp < q.size := ordered.ok.wp
  have ring : (q.push vf).ring = q.ring.push vf := by
    unfold VfQ.ring VfQ.push Lib.Ring.push Lib.Ring.next
    rw [wrap_eq below]
  have content : (q.push vf).content = q.content ++ [vf] := by
    unfold VfQ.content
    rw [ring]
    refine ordered.ok.content_push vf ?_
    rw [ordered.full_iff, show q.content.length = q.ring.level from q.ring.content_length] at room
    change q.ring.level + 1 < q.size
    rw [ordered.size]
    omega
  refine ⟨⟨by rw [ring]; exact ordered.ok.push vf, ordered.size, ?_⟩, content⟩
  rw [content, ← List.append_assoc]
  exact congrArg (· ++ [vf]) ordered.inOrder

theorem Ordered.pop (ordered : q.Ordered) :
    q.pop.1.Ordered ∧ q.content = q.pop.2.toList ++ q.pop.1.content := by
  have below : q.rp < q.size := ordered.ok.rp
  unfold VfQ.pop empty
  by_cases none : q.rp = q.wp
  · rw [if_pos (decide_eq_true none)]
    exact ⟨ordered, rfl⟩
  · rw [if_neg (by rw [decide_eq_true_iff]; exact none)]
    have some : q.ring.level ≠ 0 := fun zero => none (ordered.ok.empty_iff.mpr zero).symm
    have content : q.content = q.pool q.rp :: q.ring.drop.content := ordered.ok.content_drop some
    dsimp only
    rw [wrap_eq below]
    refine ⟨⟨ordered.ok.drop, ordered.size, ?_⟩, content⟩
    change (q.popped ++ [q.pool q.rp]) ++ q.ring.drop.content = q.pushed
    rw [← ordered.inOrder, content, List.append_assoc]
    rfl

theorem init_ordered (pool : Nat → Frame) :
    (init (poolSize + 1) pool).Ordered ∧ (init (poolSize + 1) pool).content = [] := by
  have ok : (init (poolSize + 1) pool).ring.Ok := ⟨Nat.zero_lt_succ _, Nat.zero_lt_succ _⟩
  have none : (init (poolSize + 1) pool).content = [] :=
    (Lib.Ring.content_eq_nil _).mpr (ok.empty_iff.mp rfl)
  exact ⟨⟨ok, rfl, none⟩, none⟩

end VfQ

namespace Vfm

variable {m : Vfm}

def Conserved (m : Vfm) : Prop :=
  m.obtained.Nodup ∧
    (m.vfQue.content ++ m.vfQueRecycle.content ++ m.receiver ++ m.caller).Perm m.obtained

structure Ordered (m : Vfm) : Prop where
  vfQue : m.vfQue.Ordered
  vfQueRecycle : m.vfQueRecycle.Ordered

def Proper (m : Vfm) : Event → Prop
  | .vframeReady _ offer => ∀ vf ∈ offer, vf ∉ m.obtained
  | .vfPut vf => vf ∈ m.receiver
  | _ => True

instance (m : Vfm) (event : Event) : Decidable (m.Proper event) :=
  match event with
  | .vframeReady _ offer => inferInstanceAs (Decidable (∀ vf ∈ offer, vf ∉ m.obtained))
  | .vfGet => inferInstanceAs (Decidable True)
  | .vfPut vf => inferInstanceAs (Decidable (vf ∈ m.receiver))
  | .getVideoFrame => inferInstanceAs (Decidable True)

def Fits (m : Vfm) : Event → Prop
  | .vframeReady peeked offer => offer = none ∨ peeked = true ∧ full m.vfQue = false
  | .vfPut _ => full m.vfQueRecycle = false
  | _ => True

instance (m : Vfm) (event : Event) : Decidable (m.Fits event) :=
  match event with
  | .vframeReady peeked offer =>
      inferInstanceAs (Decidable (offer = none ∨ peeked = true ∧ full m.vfQue = false))
  | .vfGet => inferInstanceAs (Decidable True)
  | .vfPut _ => inferInstanceAs (Decidable (full m.vfQueRecycle = false))
  | .getVideoFrame => inferInstanceAs (Decidable True)

theorem vframeReady_eq (m : Vfm) (peeked : Bool) (offer : Option Frame) :
    m.vframeReady peeked offer =
      if peeked = true ∧ full m.vfQue = false
      then { m with vf := offer, obtained := m.obtained ++ offer.toList, vfQue := offer.elim m.vfQue m.vfQue.push }
      else { m with vf := offer, obtained := m.obtained ++ offer.toList } := by
  unfold vframeReady
  cases offer with
  | none => cases peeked <;> cases full m.vfQue <;> rfl
  | some vf => cases peeked <;> cases full m.vfQue <;> rfl

theorem Ordered.step (ordered : m.Ordered) (event : Event) : (m.step event).Ordered := by
  cases event with
  | vframeReady peeked offer =>
    change (m.vframeReady peeked offer).Ordered
    rw [vframeReady_eq]
    split
    next room =>
      refine ⟨?_, ordered.vfQueRecycle⟩
      cases offer with
      | none => exact ordered.vfQue
      | some vf => exact (ordered.vfQue.push vf (by rw [room.2]; exact Bool.false_ne_true)).1
    next => exact ⟨ordered.vfQue, ordered.vfQueRecycle⟩
  | vfGet => exact ⟨ordered.vfQue.pop.1, ordered.vfQueRecycle⟩
  | vfPut vf =>
    change (m.vfPut vf).Ordered
    unfold vfPut
    dsimp only
    split
    next => exact ⟨ordered.vfQue, ordered.vfQueRecycle⟩
    next room => exact ⟨ordered.vfQue, (ordered.vfQueRecycle.push vf room).1⟩
  | getVideoFrame =>
    change m.getVideoFrame.Ordered
    unfold getVideoFrame
    split
    next => exact ⟨ordered.vfQue, ordered.vfQueRecycle.pop.1⟩
    next => exact ⟨ordered.vfQue.pop.1, ordered.vfQueRecycle⟩

theorem Conserved.count (conserved : m.Conserved) (a : Frame) :
    m.vfQue.content.count a + m.vfQueRecycle.content.count a + m.receiver.count a +
      m.caller.count a = m.obtained.count a := by
  rw [← conserved.2.count_eq a, List.count_append, List.count_append, List.count_append]

theorem Conserved.length (conserved : m.Conserved) :
    m.vfQue.content.length + m.vfQueRecycle.content.length + m.receiver.length + m.caller.length =
      m.obtained.length := by
  rw [← conserved.2.length_eq, List.length_append, List.length_append, List.length_append]

theorem conserved_of_count (nodup : m.obtained.Nodup)
    (count : ∀ a, m.vfQue.content.count a + m.vfQueRecycle.content.count a +
    m.receiver.count a + m.caller.count a = m.obtained.count a) : m.Conserved := by
  refine ⟨nodup, List.perm_iff_count.mpr fun a => ?_⟩
  rw [List.count_append, List.count_append, List.count_append]
  exact count a

theorem nodup_obtained (nodup : m.obtained.Nodup) {offer : Option Frame}
    (fresh : ∀ vf ∈ offer, vf ∉ m.obtained) :
    (m.obtained ++ offer.toList).Nodup := by
  cases offer with
  | none => exact (List.append_nil m.obtained).symm ▸ nodup
  | some vf =>
    refine List.Nodup.append nodup (List.nodup_singleton vf) fun other old new => ?_
    rw [List.mem_singleton.mp new] at old
    exact fresh vf rfl old

theorem Ordered.vframeReady_exact (ordered : m.Ordered) (conserved : m.Conserved) (peeked : Bool)
    {offer : Option Frame} (fresh : ∀ vf ∈ offer, vf ∉ m.obtained) :
    (m.vframeReady peeked offer).Conserved ↔ offer = none ∨ peeked = true ∧ full m.vfQue = false := by
  have nodup := nodup_obtained conserved.1 fresh
  rw [vframeReady_eq]
  cases offer with
  | none =>
    refine iff_of_true ?_ (.inl rfl)
    split <;> exact conserved_of_count nodup fun a => by
      change _ = (m.obtained ++ []).count a
      rw [List.append_nil]
      exact conserved.count a
  | some vf =>
    by_cases room : peeked = true ∧ full m.vfQue = false
    · rw [if_pos room]
      refine iff_of_true (conserved_of_count nodup fun a => ?_) (.inr room)
      have count := conserved.count a
      change (m.vfQue.push vf).content.count a + m.vfQueRecycle.content.count a + m.receiver.count a + m.caller.count a =
        (m.obtained ++ [vf]).count a
      rw [(ordered.vfQue.push vf (by rw [room.2]; exact Bool.false_ne_true)).2, List.count_append,
        List.count_append]
      omega
    · rw [if_neg room]
      refine iff_of_false (fun lost => ?_) fun fits => room (fits.resolve_left nofun)
      have before := conserved.length
      have after : _ = (m.obtained ++ [vf]).length := lost.length
      rw [List.length_append, List.length_singleton] at after
      dsimp only at after
      omega

theorem Ordered.vfGet_conserved (ordered : m.Ordered) (conserved : m.Conserved) :
    m.vfGet.Conserved := by
  refine conserved_of_count conserved.1 fun a => ?_
  have count := conserved.count a
  rw [ordered.vfQue.pop.2, List.count_append] at count
  change m.vfQue.pop.1.content.count a + m.vfQueRecycle.content.count a +
    (m.receiver ++ m.vfQue.pop.2.toList).count a +
    m.caller.count a = m.obtained.count a
  rw [List.count_append]
  omega

theorem Ordered.getVideoFrame_conserved (ordered : m.Ordered) (conserved : m.Conserved) :
    m.getVideoFrame.Conserved := by
  unfold getVideoFrame
  split
  next =>
    refine conserved_of_count conserved.1 fun a => ?_
    have count := conserved.count a
    rw [ordered.vfQueRecycle.pop.2, List.count_append] at count
    change m.vfQue.content.count a + m.vfQueRecycle.pop.1.content.count a + m.receiver.count a +
      (m.caller ++ m.vfQueRecycle.pop.2.toList).count a = m.obtained.count a
    rw [List.count_append]
    omega
  next =>
    refine conserved_of_count conserved.1 fun a => ?_
    have count := conserved.count a
    rw [ordered.vfQue.pop.2, List.count_append] at count
    change m.vfQue.pop.1.content.count a + m.vfQueRecycle.content.count a + m.receiver.count a +
      (m.caller ++ m.vfQue.pop.2.toList).count a = m.obtained.count a
    rw [List.count_append]
    omega

theorem Ordered.vfPut_exact (ordered : m.Ordered) (conserved : m.Conserved) {vf : Frame}
    (held : vf ∈ m.receiver) :
    (m.vfPut vf).Conserved ↔ full m.vfQueRecycle = false := by
  have split := List.perm_cons_erase held
  unfold vfPut
  dsimp only
  cases room : full m.vfQueRecycle with
  | true =>
    rw [if_pos rfl]
    refine iff_of_false (fun lost => ?_) nofun
    have before := conserved.length
    have after := lost.length
    rw [split.length_eq, List.length_cons] at before
    dsimp only at after
    omega
  | false =>
    rw [if_neg Bool.false_ne_true]
    refine iff_of_true (conserved_of_count conserved.1 fun a => ?_) rfl
    have count := conserved.count a
    rw [split.count_eq a, List.count_cons] at count
    change m.vfQue.content.count a + (m.vfQueRecycle.push vf).content.count a +
      (m.receiver.erase vf).count a +
      m.caller.count a = m.obtained.count a
    rw [(ordered.vfQueRecycle.push vf (by rw [room]; exact Bool.false_ne_true)).2,
      List.count_append, List.count_cons, List.count_nil]
    omega

theorem Ordered.exact (ordered : m.Ordered) (conserved : m.Conserved) {event : Event}
    (proper : m.Proper event) :
    (m.step event).Conserved ↔ m.Fits event := by
  cases event with
  | vframeReady peeked offer => exact ordered.vframeReady_exact conserved peeked proper
  | vfGet => exact iff_of_true (ordered.vfGet_conserved conserved) trivial
  | vfPut vf => exact ordered.vfPut_exact conserved proper
  | getVideoFrame => exact iff_of_true (ordered.getVideoFrame_conserved conserved) trivial

theorem start_ordered (m : Vfm) : m.start.Ordered := ⟨(VfQ.init_ordered _).1, (VfQ.init_ordered _).1⟩

theorem start_conserved (nodup : (m.receiver ++ m.caller).Nodup) : m.start.Conserved := by
  refine conserved_of_count nodup fun a => ?_
  change (VfQ.init (poolSize + 1) m.vfQue.pool).content.count a +
    (VfQ.init (poolSize + 1) m.vfQueRecycle.pool).content.count a +
    m.receiver.count a + m.caller.count a = (m.receiver ++ m.caller).count a
  rw [(VfQ.init_ordered _).2, (VfQ.init_ordered _).2, List.count_append, List.count_nil]
  omega

theorem frames_conserved (nodup : (m.receiver ++ m.caller).Nodup) (events : List Event)
    (proper : Lib.Along step Proper m.start events) :
    (∀ first, first <+: events →
      let now := Lib.run step m.start first
      now.vfQue.popped ++ now.vfQue.content = now.vfQue.pushed ∧
        now.vfQueRecycle.popped ++ now.vfQueRecycle.content = now.vfQueRecycle.pushed) ∧
      (Lib.Along step (fun m event => (m.step event).Conserved) m.start events ↔
        Lib.Along step Fits m.start events) := by
  constructor
  · intro first _
    have ordered : (Lib.run step m.start first).Ordered :=
      Lib.run_always step Ordered (fun _ event ordered => ordered.step event) m.start
        (start_ordered m) first
    exact ⟨ordered.vfQue.inOrder, ordered.vfQueRecycle.inOrder⟩
  · exact Lib.along_iff_along step Proper _ Fits (fun m => m.Ordered ∧ m.Conserved)
      (fun _ _ inv proper => inv.1.exact inv.2 proper)
      (fun _ event inv _ conserved => ⟨inv.1.step event, conserved⟩) m.start ⟨start_ordered m,
        start_conserved nodup⟩
      events proper

def bare (v4lVideo : Bool) : Vfm where
  vfQue := .init (poolSize + 1) fun _ => 0
  vfQueRecycle := .init (poolSize + 1) fun _ => 0
  v4lVideo
  receiver := []
  caller := []
  obtained := []

theorem frames_conserved_of_two :
    Lib.Along step (fun m event => (m.step event).Conserved) (bare true).start
      [.vframeReady true (some 7), .vfGet, .vframeReady true (some 8), .vfPut 7, .getVideoFrame] :=
  (frames_conserved (m := bare true) List.nodup_nil _ (by decide +kernel)).2.mpr (by decide +kernel)

theorem frames_lost :
    (Lib.Along step Proper (bare false).start ((List.range 33).map fun k =>
      .vframeReady true (some k)) ∧
      ¬ (Lib.run step (bare false).start ((List.range 33).map fun k =>
        .vframeReady true (some k))).Conserved) ∧
    (Lib.Along step Proper (bare true).start
        ((List.range 33).flatMap fun k => [.vframeReady true (some k), .vfGet, .vfPut k]) ∧
      ¬ (Lib.run step (bare true).start
        ((List.range 33).flatMap fun k => [.vframeReady true (some k), .vfGet,
          .vfPut k])).Conserved) := by
  refine ⟨⟨by decide +kernel, fun conserved => ?_⟩, by decide +kernel, fun conserved => ?_⟩
  · exact absurd conserved.length (by decide +kernel)
  · exact absurd conserved.length (by decide +kernel)

end Vfm

end UnionpiTiger.HandOver
