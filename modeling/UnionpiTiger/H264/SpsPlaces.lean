import UnionpiTiger.H264.BitFields
import UnionpiTiger.H264.SpsParser

set_option autoImplicit false

namespace UnionpiTiger.H264.SpsParser

open Lib

abbrev Place : Type := Reader → List Nat → Prop

def EndsInside (n : Nat) (ends : List Nat) : Prop := ∀ e ∈ ends, e / 8 + 4 ≤ n + 64

structure Near (n k : Nat) (r : Reader) (ends : List Nat) : Prop where
  noted : ∀ e ∈ ends, e / 8 + 4 ≤ r.touched
  index : EndsInside n ends → r.index ≤ n * 8 + k
  touched : EndsInside n ends → r.touched ≤ n + 64

structure Dragging (n : Nat) (r : Reader) (ends : List Nat) : Prop where
  noted : ∀ e ∈ ends, e / 8 + 4 ≤ r.touched
  touched : EndsInside n ends → r.touched ≤ max (n + 64) (r.index / 8 + 4)

structure Failed (n : Nat) (e : Stop) (s : Parsing) : Prop where
  failed : e = .failed
  noted : ∀ e ∈ s.ends, e / 8 + 4 ≤ s.reader.touched
  touched : EndsInside n s.ends → s.reader.touched ≤ n + 64

section Places

variable {n k k' : Nat} {r : Reader} {ends : List Nat}

theorem Near.mono (near : Near n k r ends) (most : k ≤ k') : Near n k' r ends :=
  ⟨near.noted, fun inside => le_trans (near.index inside) (by omega), near.touched⟩

theorem Near.dragging (near : Near n k r ends) : Dragging n r ends :=
  ⟨near.noted, fun inside => le_trans (near.touched inside) (le_max_left _ _)⟩

theorem Near.failed {s : Parsing} (near : Near n k s.reader s.ends) : Failed n .failed s :=
  ⟨rfl, near.noted, near.touched⟩

theorem Near.advance {behind len most reach : Nat} (near : Near n k r ends) (room : k + reach ≤ 519)
    (few : len ≤ most) (cache : behind * 8 ≤ r.index + reach) :
    Near n (k + most) (r.advance behind len) ends ∧
      (Near n (most - 1) (r.advance behind len) ends ∨ n * 8 ≤ r.index ∧ behind ≤ n + 64) := by
  have noted : ∀ e ∈ ends, e / 8 + 4 ≤ max r.touched behind :=
    fun e mem => le_trans (near.noted e mem) (le_max_left _ _)
  have touched : EndsInside n ends → max r.touched behind ≤ n + 64 := by
    intro inside
    have before := near.touched inside
    have index := near.index inside
    omega
  refine ⟨⟨noted, fun inside => ?_, touched⟩, ?_⟩
  · exact Nat.add_assoc _ _ _ ▸ Nat.add_le_add (near.index inside) few
  by_cases inside : EndsInside n ends
  · have index := near.index inside
    by_cases padding : n * 8 ≤ r.index
    · exact .inr ⟨padding, by omega⟩
    · refine .inl ⟨noted, fun _ => ?_, touched⟩
      change r.index + len ≤ n * 8 + (most - 1)
      omega
  · exact .inl ⟨noted, fun holds => absurd holds inside, touched⟩

theorem Dragging.advance {behind len : Nat} (dragging : Dragging n r ends)
    (cache : behind ≤ (r.index + len) / 8 + 4) :
    Dragging n (r.advance behind len) ends := by
  refine ⟨fun e mem => le_trans (dragging.noted e mem) (le_max_left _ _), fun inside => ?_⟩
  have before := dragging.touched inside
  change max r.touched behind ≤ max (n + 64) ((r.index + len) / 8 + 4)
  omega

theorem Dragging.fetch {len most : Nat} (dragging : Dragging n r ends) (few : len ≤ most) :
    Near n (487 + most) (r.advance (r.index / 8 + 4) len) (r.index :: ends) ∧
      (Near n (most - 1) (r.advance (r.index / 8 + 4) len) (r.index :: ends) ∨ n * 8 ≤ r.index ∧
        r.index / 8 + 4 ≤ n + 64) := by
  have noted : ∀ e ∈ r.index :: ends, e / 8 + 4 ≤ max r.touched (r.index / 8 + 4) := by
    intro e mem
    rcases List.mem_cons.mp mem with rfl | mem
    · exact le_max_right _ _
    · exact le_trans (dragging.noted e mem) (le_max_left _ _)
  have touched : EndsInside n (r.index :: ends) → max r.touched (r.index / 8 + 4) ≤ n + 64 := by
    intro inside
    have before := dragging.touched fun e mem => inside e (List.mem_cons_of_mem _ mem)
    have now := inside r.index List.mem_cons_self
    omega
  refine ⟨⟨noted, fun inside => ?_, touched⟩, ?_⟩
  · have now := inside r.index List.mem_cons_self
    change r.index + len ≤ n * 8 + (487 + most)
    omega
  by_cases inside : EndsInside n (r.index :: ends)
  · have now := inside r.index List.mem_cons_self
    by_cases padding : n * 8 ≤ r.index
    · exact .inr ⟨padding, now⟩
    · refine .inl ⟨noted, fun _ => ?_, touched⟩
      change r.index + len ≤ n * 8 + (most - 1)
      omega
  · exact .inl ⟨noted, fun holds => absurd holds inside, touched⟩

end Places

structure Parses {π α : Type} (part : Sps → List Nat → π) (n : Nat) (P : Place) (f : Parse α)
    (Q : Place) : Prop where
  triple : Prog.Triple (fun s => P s.reader s.ends) f (fun _ s => Q s.reader s.ends) (Failed n)
  keeps : Prog.Keeps (fun s => part s.sps s.sizeAt) f

section Rules

variable {π α β : Type} {part : Sps → List Nat → π} {n k k' : Nat} {P P' Q Q' : Place} {f : Parse α}
  {g : α → Parse β}
  {V Z : α → Prop} {most reach : Nat} {reading : Reading α} {m : Nat → UInt8}

theorem Parses.conseq (parses : Parses part n P f Q) (before : ∀ r ends, P' r ends → P r ends)
    (after : ∀ r ends, Q r ends → Q' r ends) : Parses part n P' f Q' :=
  ⟨parses.triple.conseq (fun s => before s.reader s.ends) fun _ s =>
    after s.reader s.ends, parses.keeps⟩

theorem Parses.mono (parses : Parses part n P f (Near n k)) (least : k ≤ k') :
    Parses part n P f (Near n k') :=
  parses.conseq (fun _ _ => id) fun _ _ near => near.mono least

theorem Parses.dragging (parses : Parses part n P f (Near n k)) : Parses part n P f (Dragging n) :=
  parses.conseq (fun _ _ => id) fun _ _ => Near.dragging

theorem Parses.through {ρ : Type} (parses : Parses part n P f Q) (view : π → ρ) :
    Parses (fun sps sizeAt => view (part sps sizeAt)) n P f Q :=
  ⟨parses.triple, fun s => congrArg view (parses.keeps s)⟩

theorem Parses.bind (first : Parses part n P f P') (second : ∀ a, Parses part n P' (g a) Q) :
    Parses part n P (f >>= g) Q :=
  ⟨Prog.Triple.bind first.triple fun a => (second a).triple,
    Prog.Keeps.bind first.keeps fun a => (second a).keeps⟩

theorem Parses.pure (a : α) : Parses part n P (pure a : Parse α) P :=
  ⟨Prog.Triple.pure fun _ => id, Prog.Keeps.pure a⟩

theorem Parses.set {change : Sps → Sps}
    (same : ∀ sps sizeAt, part (change sps) sizeAt = part sps sizeAt) :
    Parses part n P (set change) P :=
  ⟨Prog.Triple.modify fun _ => id, Prog.Keeps.modify fun s => same s.sps s.sizeAt⟩

theorem Parses.gets (get : Parsing → α) : Parses part n P (Prog.gets get : Parse α) P :=
  ⟨Prog.Triple.gets.conseq (fun _ => id) fun _ _ => And.left, Prog.Keeps.gets get⟩

theorem Parses.ite {c : Prop} [Decidable c] {f f' : Parse α} (yes : c → Parses part n P f Q)
    (no : ¬c → Parses part n P f' Q) :
    Parses part n P (if c then f else f') Q := by
  by_cases holds : c
  · rw [if_pos holds]
    exact yes holds
  · rw [if_neg holds]
    exact no holds

theorem Parses.when {c : Prop} [Decidable c] {f : Parse Unit} (yes : Parses part n P f P) :
    Parses part n P (Prog.when c f) P := Parses.ite (fun _ => yes) fun _ => Parses.pure ()

theorem Parses.when_true {c : Prop} [Decidable c] {f : Parse Unit} (holds : c)
    (yes : Parses part n P f Q) :
    Parses part n P (Prog.when c f) Q := Parses.ite (fun _ => yes) fun not => absurd holds not

theorem Parses.when_false {c : Prop} [Decidable c] {f : Parse Unit} (not : ¬c) :
    Parses part n P (Prog.when c f) P :=
  Parses.ite (fun holds => absurd holds not) fun _ => Parses.pure ()

theorem Parses.when_near {c : Prop} [Decidable c] {f : Parse Unit}
    (yes : Parses part n (Near n k) f (Near n k')) (least : k ≤ k') :
    Parses part n (Near n k) (Prog.when c f) (Near n k') :=
  Parses.ite (fun _ => yes) fun _ => (Parses.pure ()).mono least

theorem Parses.loop {body : Nat → Parse Unit} (first passes : Nat)
    (each : ∀ i, i < first + passes → Parses part n P (body i) P) :
    Parses part n P (Prog.loop body first passes) P := by
  induction passes generalizing first with
  | zero => exact Parses.pure ()
  | succ passes ih =>
    have rest := ih (first + 1) fun i less => each i (by omega)
    exact Parses.bind (each first (by omega)) fun _ => rest

theorem Parses.failIf {c : Prop} [Decidable c] {g : Unit → Parse β}
    (goes : ¬c → Parses part n (Near n k) (g ()) Q) :
    Parses part n (Near n k) (failIf c >>= g) Q := by
  by_cases holds : c
  · have stops : (SpsParser.failIf c : Parse Unit) = Prog.stop .failed := if_pos holds
    rw [stops]
    exact ⟨Prog.Triple.bind (Q := fun _ _ => False) (Prog.Triple.stop fun _ => Near.failed) fun _
      _ => False.elim, fun _ => rfl⟩
  · have goesOn : (SpsParser.failIf c : Parse Unit) = Pure.pure () := if_neg holds
    rw [goesOn]
    exact goes holds

theorem Parses.check {c : Prop} [Decidable c] :
    Parses part n (Near n k) (SpsParser.failIf c) (Near n k) :=
  ⟨(Prog.Triple.stopIf fun _ _ => Near.failed).conseq (fun _ => id) fun _ _ => And.left,
    Prog.Keeps.stopIf c Stop.failed⟩

theorem Parses.field (reads : Field n reading V Z most reach) (room : k + reach ≤ 519)
    (inside : ∀ v, V v → Parses part n (Near n (most - 1)) (g v) Q)
    (padding : ∀ v, V v → Z v → Parses part n (Near n (k + most)) (g v) Q) :
    Parses part n (Near n k) (read reading >>= g) Q := by
  constructor
  · intro s near
    obtain ⟨v, len, behind, run, value, few, cache, -, zero⟩ := reads.reads s.reader
    have done : read reading s = (.ok v, { s with reader := s.reader.advance behind len }) := by
      rw [read, run]
    rw [Prog.bind_ok done]
    obtain ⟨ahead, short | ⟨beyond, close⟩⟩ := near.advance room few cache
    · exact (inside v value).triple _ short
    · exact (padding v value (zero beyond close)).triple _ ahead
  · intro s
    obtain ⟨v, len, behind, run, value, -⟩ := reads.reads s.reader
    have done : read reading s = (.ok v, { s with reader := s.reader.advance behind len }) := by
      rw [read, run]
    rw [Prog.bind_ok done]
    exact (inside v value).keeps _

theorem Parses.fetch (reads : Fetch n reading V Z most) (inside : ∀ v, V v → Parses part n (Near n (most - 1)) (g v) Q)
    (padding : ∀ v, V v → Z v → Parses part n (Near n (487 + most)) (g v) Q) :
    Parses part n (Dragging n) (behindLoop reading >>= g) Q := by
  constructor
  · intro s dragging
    obtain ⟨v, len, run, value, few, zero⟩ := reads.reads s.reader
    have done : behindLoop reading s =
        (.ok v, { s with reader := s.reader.advance (s.reader.index / 8 + 4) len, ends := s.reader.index :: s.ends }) := by
      change read reading _ = _
      rw [read, run]
    rw [Prog.bind_ok done]
    obtain ⟨ahead, short | ⟨beyond, close⟩⟩ := dragging.fetch few
    · exact (inside v value).triple _ short
    · exact (padding v value (zero beyond close)).triple _ ahead
  · intro s
    obtain ⟨v, len, run, value, -⟩ := reads.reads s.reader
    have done : behindLoop reading s =
        (.ok v, { s with reader := s.reader.advance (s.reader.index / 8 + 4) len, ends := s.reader.index :: s.ends }) := by
      change read reading _ = _
      rw [read, run]
    rw [Prog.bind_ok done]
    exact (inside v value).keeps _

theorem Parses.read (reads : Field n reading V Z most reach) (room : k + reach ≤ 519) :
    Parses part n (Near n k) (read reading) (Near n (k + most)) := by
  constructor
  · intro s near
    obtain ⟨v, len, behind, run, value, few, cache, -⟩ := reads.reads s.reader
    rw [SpsParser.read, run]
    exact (near.advance room few cache).1
  · exact fun _ => rfl

theorem Parses.drag (reads : Field n reading V Z most reach) :
    Parses part n (Dragging n) (SpsParser.read reading) (Dragging n) := by
  constructor
  · intro s dragging
    obtain ⟨v, len, behind, run, value, few, -, cache, -⟩ := reads.reads s.reader
    rw [SpsParser.read, run]
    exact dragging.advance cache
  · exact fun _ => rfl

theorem bits_parses (padded : Padded m n) (size : Nat) (room : k + 32 ≤ 519) :
    Parses part n (Near n k) (bits m size) (Near n (k + size)) :=
  Parses.bind (Parses.read (getBits_fetch padded size).field room) fun _ => Parses.pure _

theorem flag_parses (padded : Padded m n) (room : k + 8 ≤ 519) :
    Parses part n (Near n k) (flag m) (Near n (k + 1)) :=
  Parses.bind (Parses.read (getBits1_field padded) room) fun _ => Parses.pure _

theorem skipFlag_parses (padded : Padded m n) (room : k + 8 ≤ 519) :
    Parses part n (Near n k) (skipFlag m) (Near n (k + 1)) :=
  Parses.bind (flag_parses padded room) fun _ => Parses.pure ()

theorem flag_drag (padded : Padded m n) : Parses part n (Dragging n) (flag m) (Dragging n) :=
  Parses.bind (Parses.drag (getBits1_field padded)) fun _ => Parses.pure _

theorem bits_drag (padded : Padded m n) (size : Nat) :
    Parses part n (Dragging n) (bits m size) (Dragging n) :=
  Parses.bind (Parses.drag (getBits_fetch padded size).field) fun _ => Parses.pure _

theorem Parses.flag {g : Int → Parse β} (padded : Padded m n) (room : k + 8 ≤ 519)
    (one : Parses part n (Near n 0) (g 1) Q) (zero : Parses part n (Near n (k + 1)) (g 0) Q) :
    Parses part n (Near n k) (flag m >>= g) Q := by
  unfold SpsParser.flag
  rw [Prog.bind_pure_bind]
  have bit : ∀ v : Nat, v ≤ 1 → v = 0 ∨ v = 1 := by omega
  refine Parses.field (getBits1_field padded) room (fun v value => ?_) fun v _ none => ?_
  · rcases bit v value with rfl | rfl
    · exact zero.conseq (fun _ _ near => near.mono (Nat.zero_le _)) fun _ _ => id
    · exact one
  · rw [none]
    exact zero

end Rules

end UnionpiTiger.H264.SpsParser
