import Mathlib.Data.List.Basic

set_option autoImplicit false

namespace UnionpiTiger.Lib

structure Flow (α : Type) where
  enqueued : List α := []
  acked : Nat := 0
  sent : Nat := 0
  high : Nat := 0
  data : List (Nat × α) := []
  received : Nat := 0
  accepted : List α := []
  acks : List Nat := []

namespace Flow

variable {α : Type}

def Acknowledges (m : Nat) (f : Flow α) (ack acked : Nat) : Prop :=
  (∃ k ≤ f.sent - f.acked, (f.acked + k) % m = ack % m ∧ acked = f.acked + k) ∨
    ((∀ k ≤ f.sent - f.acked, (f.acked + k) % m ≠ ack % m) ∧ acked = f.acked)

inductive Step (m window : Nat) (f : Flow α) : Flow α → Prop where
  | enqueue (x : α) : Step m window f { f with enqueued := f.enqueued ++ [x] }
  | send (x : α) (queue : f.enqueued[f.sent]? = some x) (room : f.sent < f.acked + window) :
      Step m window f { f with
        sent := f.sent + 1
        high := max f.high (f.sent + 1)
        data := f.data ++ [(f.sent, x)] }
  | rewind : Step m window f { f with sent := f.acked }
  | lose (data : List (Nat × α)) (acks : List Nat) (fewer : data.Sublist f.data)
      (fewerAcks : acks.Sublist f.acks) : Step m window f { f with data := data, acks := acks }
  | accept (n : Nat) (x : α) (data : List (Nat × α)) (next : f.data = (n, x) :: data)
      (expected : n % m = f.received % m) :
      Step m window f { f with
        data := data
        received := f.received + 1
        accepted := f.accepted ++ [x] }
  | emitAck : Step m window f { f with acks := f.acks ++ [f.received] }
  | applyAck (ack acked : Nat) (acks : List Nat) (next : f.acks = ack :: acks)
      (moves : f.Acknowledges m ack acked) :
      Step m window f { f with acks := acks, acked := acked }

inductive Reachable (m window : Nat) : Flow α → Prop where
  | init : Reachable m window {}
  | step {f next : Flow α} (before : Reachable m window f) (step : Step m window f next) :
      Reachable m window next

structure Inv (m window : Nat) (f : Flow α) : Prop where
  acked_le_sent : f.acked ≤ f.sent
  sent_le_high : f.sent ≤ f.high
  high_le_window : f.high ≤ f.acked + window
  high_le_enqueued : f.high ≤ f.enqueued.length
  acked_le_received : f.acked ≤ f.received
  received_le_high : f.received ≤ f.high
  accepted_eq : f.accepted = f.enqueued.take f.received
  data_sent : ∀ p ∈ f.data, p.1 < f.high ∧ f.enqueued[p.1]? = some p.2
  data_recent : ∀ p ∈ f.data, f.received < p.1 + m
  -- A frame that overtook nothing: the receiver may go past `p` before it sees `q`, by less than `m`.
  data_order : f.data.Pairwise (fun p q => p.1 + 1 < q.1 + m)
  acks_between : ∀ a ∈ f.acks, f.acked ≤ a ∧ a ≤ f.received
  acks_order : f.acks.Pairwise (· ≤ ·)

variable {m window : Nat} {f next : Flow α}

theorem eq_of_mod_eq {a b : Nat} (same : a % m = b % m) (below : a < b + m) (above : b < a + m) :
    a = b := by
  have left := Nat.div_add_mod a m
  have right := Nat.div_add_mod b m
  have quotient : a / m = b / m := by
    rcases Nat.lt_trichotomy (a / m) (b / m) with less | equal | more
    · have := Nat.mul_le_mul_left m less
      rw [Nat.mul_succ] at this
      omega
    · exact equal
    · have := Nat.mul_le_mul_left m more
      rw [Nat.mul_succ] at this
      omega
  rw [← left, ← right, quotient, same]

theorem Inv.accept_number (inv : Inv m window f) (small : window < m) {n : Nat} {x : α}
    (member : (n, x) ∈ f.data) (expected : n % m = f.received % m) : n = f.received := by
  have sent := (inv.data_sent _ member).1
  have recent := inv.data_recent _ member
  have high := inv.high_le_window
  have lower := inv.acked_le_received
  simp only at sent recent
  exact eq_of_mod_eq expected (by omega) (by omega)

theorem Inv.acknowledges (inv : Inv m window f) (small : window < m) {ack acked : Nat}
    (member : ack ∈ f.acks) (moves : f.Acknowledges m ack acked) :
    f.acked ≤ acked ∧ acked ≤ ack ∧ acked ≤ f.sent := by
  have between := inv.acks_between ack member
  have order := inv.acked_le_sent
  have high := inv.high_le_window
  have received := inv.received_le_high
  have sent := inv.sent_le_high
  rcases moves with ⟨k, bound, same, rfl⟩ | ⟨-, rfl⟩
  · have number : f.acked + k = ack := eq_of_mod_eq same (by omega) (by omega)
    omega
  · omega

theorem Inv.enqueue (inv : Inv m window f) (x : α) :
    Inv m window { f with enqueued := f.enqueued ++ [x] } := by
  have enqueued := inv.high_le_enqueued
  have received : f.received ≤ f.enqueued.length := Nat.le_trans inv.received_le_high enqueued
  refine { inv with high_le_enqueued := ?_, accepted_eq := ?_, data_sent := ?_ }
  · simp only [List.length_append]
    omega
  · rw [List.take_append_of_le_length received]
    exact inv.accepted_eq
  · intro p member
    have sent := inv.data_sent p member
    refine ⟨sent.1, ?_⟩
    rw [List.getElem?_append_left (by omega)]
    exact sent.2

theorem Inv.send (inv : Inv m window f) (small : window < m) {x : α}
    (queue : f.enqueued[f.sent]? = some x) (room : f.sent < f.acked + window) :
    Inv m window { f with
      sent := f.sent + 1
      high := max f.high (f.sent + 1)
      data := f.data ++ [(f.sent, x)] } := by
  obtain ⟨index, -⟩ := List.getElem?_eq_some_iff.mp queue
  have ackedSent := inv.acked_le_sent
  have sentHigh := inv.sent_le_high
  have highWindow := inv.high_le_window
  have highEnqueued := inv.high_le_enqueued
  have ackedReceived := inv.acked_le_received
  have receivedHigh := inv.received_le_high
  constructor
  case acked_le_sent => simp only; omega
  case sent_le_high => simp only; omega
  case high_le_window => simp only; omega
  case high_le_enqueued => simp only; omega
  case acked_le_received => exact ackedReceived
  case received_le_high => simp only; omega
  case accepted_eq => exact inv.accepted_eq
  case data_sent =>
    intro p member
    rcases List.mem_append.mp member with member | member
    · have sent := inv.data_sent p member
      exact ⟨by simp only; omega, sent.2⟩
    · rw [List.mem_singleton.mp member]
      exact ⟨by simp only; omega, queue⟩
  case data_recent =>
    intro p member
    rcases List.mem_append.mp member with member | member
    · exact inv.data_recent p member
    · rw [List.mem_singleton.mp member]
      simp only
      omega
  case data_order =>
    -- Everything sent before lies below `high`, which is within a window of the new packet.
    refine List.pairwise_append.mpr ⟨inv.data_order, List.pairwise_singleton _ _, ?_⟩
    intro p member q last
    have sent := (inv.data_sent p member).1
    rw [List.mem_singleton.mp last]
    simp only
    omega
  case acks_between => exact inv.acks_between
  case acks_order => exact inv.acks_order

theorem Inv.lose (inv : Inv m window f) {data : List (Nat × α)} {acks : List Nat}
    (fewer : data.Sublist f.data) (fewerAcks : acks.Sublist f.acks) :
    Inv m window { f with data := data, acks := acks } :=
  { inv with
    data_sent := fun p member => inv.data_sent p (fewer.subset member)
    data_recent := fun p member => inv.data_recent p (fewer.subset member)
    data_order := inv.data_order.sublist fewer
    acks_between := fun a member => inv.acks_between a (fewerAcks.subset member)
    acks_order := inv.acks_order.sublist fewerAcks }

theorem Inv.accept (inv : Inv m window f) (small : window < m) {n : Nat} {x : α}
    {data : List (Nat × α)} (next : f.data = (n, x) :: data) (expected : n % m = f.received % m) :
    Inv m window { f with
      data := data
      received := f.received + 1
      accepted := f.accepted ++ [x] } := by
  have member : (n, x) ∈ f.data := by simp [next]
  have number := inv.accept_number small member expected
  obtain ⟨below, entry⟩ := inv.data_sent _ member
  have order := inv.data_order
  rw [next, List.pairwise_cons] at order
  have lower := inv.acked_le_received
  simp only [number] at below entry
  refine { inv with
    acked_le_received := Nat.le_succ_of_le lower, received_le_high := below, accepted_eq := ?_
    data_sent := ?_, data_recent := ?_, data_order := order.2, acks_between := ?_ }
  · simp only [List.take_add_one, entry, Option.toList_some, inv.accepted_eq]
  · intro p member
    exact inv.data_sent p (by simp [next, member])
  · intro p member
    have later := order.1 p member
    simp only at later ⊢
    omega
  · intro a member
    have between := inv.acks_between a member
    exact ⟨between.1, Nat.le_succ_of_le between.2⟩

theorem Inv.emitAck (inv : Inv m window f) :
    Inv m window { f with acks := f.acks ++ [f.received] } := by
  refine { inv with acks_between := ?_, acks_order := ?_ }
  · intro a member
    rcases List.mem_append.mp member with member | member
    · exact inv.acks_between a member
    · rw [List.mem_singleton.mp member]
      exact ⟨inv.acked_le_received, Nat.le_refl _⟩
  · refine List.pairwise_append.mpr ⟨inv.acks_order, List.pairwise_singleton _ _, ?_⟩
    intro a member b last
    rw [List.mem_singleton.mp last]
    exact (inv.acks_between a member).2

theorem Inv.applyAck (inv : Inv m window f) (small : window < m) {ack acked : Nat} {acks : List Nat}
    (next : f.acks = ack :: acks) (moves : f.Acknowledges m ack acked) :
    Inv m window { f with acks := acks, acked := acked } := by
  have member : ack ∈ f.acks := by simp [next]
  obtain ⟨lower, upper, sent⟩ := inv.acknowledges small member moves
  have between := inv.acks_between ack member
  have order := inv.acks_order
  have high := inv.high_le_window
  rw [next, List.pairwise_cons] at order
  refine { inv with
    acked_le_sent := sent, high_le_window := ?_, acked_le_received := Nat.le_trans upper between.2
    acks_between := ?_, acks_order := order.2 }
  · simp only
    omega
  · intro a member
    have bound := inv.acks_between a (by simp [next, member])
    exact ⟨Nat.le_trans upper (order.1 a member), bound.2⟩

theorem Step.inv (step : Step m window f next) (small : window < m) (inv : Inv m window f) :
    Inv m window next := by
  cases step with
  | enqueue x => exact inv.enqueue x
  | send x queue room => exact inv.send small queue room
  | rewind =>
    have sent := Nat.le_trans inv.acked_le_sent inv.sent_le_high
    exact { inv with acked_le_sent := Nat.le_refl _, sent_le_high := sent }
  | lose data acks fewer fewerAcks => exact inv.lose fewer fewerAcks
  | accept n x data next expected => exact inv.accept small next expected
  | emitAck => exact inv.emitAck
  | applyAck ack acked acks next moves => exact inv.applyAck small next moves

theorem Reachable.inv (reachable : Reachable m window f) (small : window < m) : Inv m window f := by
  induction reachable with
  | init => constructor <;> simp
  | step before step ih => exact step.inv small ih

theorem Reachable.emitAcks (reachable : Reachable m window f) (acks : List Nat)
    (values : ∀ ack ∈ acks, ack = f.received) :
    Reachable m window { f with acks := f.acks ++ acks } := by
  induction acks generalizing f with
  | nil => simpa using reachable
  | cons ack acks ih =>
    obtain rfl : ack = f.received := values ack (by simp)
    have rest := ih (reachable.step .emitAck) (fun ack member => values ack (by simp [member]))
    simpa using rest

theorem Reachable.accepted_in_order (reachable : Reachable m window f) (small : window < m) :
    f.accepted <+: f.enqueued := by
  rw [(reachable.inv small).accepted_eq]
  exact List.take_prefix _ _

end Flow

end UnionpiTiger.Lib
