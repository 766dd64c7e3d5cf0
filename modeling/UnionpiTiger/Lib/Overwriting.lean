import Mathlib.Data.List.Basic
import UnionpiTiger.Lib.Stops

set_option autoImplicit false

namespace UnionpiTiger.Lib

variable {S B P : Type}

structure Handled (S B P : Type) where
  next : S
  buffer : List B
  readLength : Nat
  packet : Option P
deriving DecidableEq, Repr

structure Driven (S B P : Type) where
  next : S
  buffer : List B
  packets : List P
deriving DecidableEq, Repr

-- `do read += handle (buffer + read) (total - read) while (read < total)`, with fuel for its turns.
def drive (handle : S → List B → Result (Handled S B P)) :
    Nat → S → List B → Result (Driven S B P)
  | 0, _, _ => .error .loops
  | fuel + 1, s, buffer =>
    (handle s buffer).bind fun handled =>
      if handled.readLength < buffer.length then
        (drive handle fuel handled.next (handled.buffer.drop handled.readLength)).map fun rest =>
          { next := rest.next
            buffer := handled.buffer.take handled.readLength ++ rest.buffer
            packets := handled.packet.toList ++ rest.packets }
      else
        .ok { next := handled.next, buffer := handled.buffer, packets := handled.packet.toList }

def stream (wire : P → List B) (packets : List P) : List B := packets.flatMap wire

@[simp] theorem stream_nil (wire : P → List B) : stream wire [] = [] := rfl

@[simp] theorem stream_cons (wire : P → List B) (p : P) (packets : List P) :
    stream wire (p :: packets) = wire p ++ stream wire packets := List.flatMap_cons

def Inside (wire : P → List B) : List P → Nat → Prop
  | [], k => k = 0
  | p :: _, k => k < (wire p).length

def stateAt (idle : S) (during : P → Nat → S) : List P → Nat → S
  | [], _ => idle
  | p :: _, k => during p k

theorem stream_drop_cons {wire : P → List B} {p : P} {packets : List P} {k : Nat}
    (inside : k ≤ (wire p).length) :
    (stream wire (p :: packets)).drop k = (wire p).drop k ++ stream wire packets := by
  rw [stream_cons, List.drop_append_of_le_length inside]

theorem Inside.eq_nil_of_drop {wire : P → List B} {packets : List P} {k : Nat}
    (inside : Inside wire packets k) (spent : (stream wire packets).drop k = []) :
    packets = [] ∧ k = 0 := by
  cases packets with
  | nil => exact ⟨rfl, inside⟩
  | cons p rest =>
    have short : k < (wire p).length := inside
    rw [stream_drop_cons (Nat.le_of_lt short), List.append_eq_nil_iff, List.drop_eq_nil_iff] at spent
    omega

structure Advances (wire : P → List B) (rewritten : P → P) (packets : List P) (k : Nat)
    (out more : List B) (done rest : List P) (k' : Nat) : Prop where
  split : packets = done ++ rest
  inside : Inside wire rest k'
  unread : more = (stream wire rest).drop k'
  written : out ++ (stream wire (rest.map rewritten)).drop k' =
    (stream wire (packets.map rewritten)).drop k

-- A reader that has no room for some packets, and that may write past the end of the others:
-- `overwrite` is what it makes of the bytes after a packet in the buffer that completes it.
structure Overwriting (handle : S → List B → Result (Handled S B P)) (wire : P → List B)
    (rewritten : P → P) (overwrite : P → List B → List B) (idle : S) (during : P → Nat → S)
    (ok fits : P → Prop) : Prop where
  wire_pos : ∀ p, ok p → 0 < (wire p).length
  wire_rewritten : ∀ p, ok p → (wire (rewritten p)).length = (wire p).length
  during_zero : ∀ p, ok p → during p 0 = idle
  same_length : ∀ p rest, (overwrite p rest).length = rest.length
  pauses : ∀ p k buffer more, ok p → (wire p).drop k = buffer ++ more → buffer ≠ [] → more ≠ [] →
    handle (during p k) buffer = .ok
      { next := during p (k + buffer.length)
        buffer := ((wire (rewritten p)).drop k).take buffer.length
        readLength := buffer.length
        packet := none } ∨
    ¬ fits p ∧ handle (during p k) buffer = .error .overruns
  finishes : ∀ p k rest, ok p → fits p → k < (wire p).length →
    handle (during p k) ((wire p).drop k ++ rest) = .ok
      { next := idle
        buffer := (wire (rewritten p)).drop k ++ overwrite p rest
        readLength := (wire p).length - k
        packet := some (rewritten p) }
  overruns : ∀ p k rest, ok p → ¬ fits p → k < (wire p).length →
    handle (during p k) ((wire p).drop k ++ rest) = .error .overruns

def restOfRead : List (List B) → Nat → List B
  | [], _ => []
  | chunk :: reads, stop =>
    if stop ≤ chunk.length then chunk.drop stop else restOfRead reads (stop - chunk.length)

def AtEnds (spares : P → List B → Prop) (wire : P → List B) (reads : List (List B)) :
    Nat → List P → Prop
  | _, [] => True
  | start, p :: packets =>
    spares p (restOfRead reads (start + (wire p).length)) ∧
      AtEnds spares wire reads (start + (wire p).length) packets

instance AtEnds.decidable (spares : P → List B → Prop) [∀ p rest, Decidable (spares p rest)]
    (wire : P → List B) (reads : List (List B)) :
    (start : Nat) → (packets : List P) → Decidable (AtEnds spares wire reads start packets)
  | _, [] => isTrue trivial
  | start, p :: packets =>
    have := AtEnds.decidable spares wire reads (start + (wire p).length) packets
    inferInstanceAs (Decidable (_ ∧ _))

def AtEndsAfter (spares : P → List B → Prop) (wire : P → List B) (reads : List (List B)) :
    List P → Nat → Prop
  | [], _ => True
  | p :: packets, k =>
    spares p (restOfRead reads ((wire p).length - k)) ∧
      AtEnds spares wire reads ((wire p).length - k) packets

section AtEnds

variable {spares : P → List B → Prop} {wire : P → List B}

theorem restOfRead_append (front tail : List B) (reads : List (List B)) (stop : Nat) :
    restOfRead ((front ++ tail) :: reads) (front.length + stop) =
      restOfRead (tail :: reads) stop := by
  simp only [restOfRead, List.length_append, Nat.add_le_add_iff_left, Nat.add_sub_add_left]
  split_ifs with short
  · rw [← List.drop_drop, List.drop_left]
  · rfl

theorem restOfRead_nil_cons (reads : List (List B)) {stop : Nat} (positive : 0 < stop) :
    restOfRead ([] :: reads) stop = restOfRead reads stop :=
  if_neg (Nat.not_le.mpr positive)

theorem atEnds_append (front tail : List B) (reads : List (List B)) (start : Nat)
    (packets : List P) :
    AtEnds spares wire ((front ++ tail) :: reads) (front.length + start) packets ↔
      AtEnds spares wire (tail :: reads) start packets := by
  induction packets generalizing start with
  | nil => exact Iff.rfl
  | cons p packets ih =>
    simp only [AtEnds]
    rw [Nat.add_assoc, restOfRead_append, ih]

theorem atEnds_nil_cons (reads : List (List B)) (start : Nat) (packets : List P)
    (positive : ∀ p ∈ packets, 0 < (wire p).length) :
    AtEnds spares wire ([] :: reads) start packets ↔ AtEnds spares wire reads start packets := by
  induction packets generalizing start with
  | nil => exact Iff.rfl
  | cons p packets ih =>
    have first := positive p List.mem_cons_self
    simp only [AtEnds]
    rw [restOfRead_nil_cons reads (by omega),
      ih _ fun q mem => positive q (List.mem_cons_of_mem p mem)]

theorem atEndsAfter_zero (reads : List (List B)) (packets : List P) :
    AtEndsAfter spares wire reads packets 0 ↔ AtEnds spares wire reads 0 packets := by
  cases packets with
  | nil => exact Iff.rfl
  | cons p packets => rw [AtEndsAfter, AtEnds, Nat.sub_zero, Nat.zero_add]

theorem atEndsAfter_pauses {p : P} {packets : List P} {k : Nat} (buffer : List B)
    (reads : List (List B)) (positive : ∀ p ∈ packets, 0 < (wire p).length)
    (waits : k + buffer.length < (wire p).length) :
    AtEndsAfter spares wire (buffer :: reads) (p :: packets) k ↔
      AtEndsAfter spares wire reads (p :: packets) (k + buffer.length) := by
  have left : (wire p).length - k = buffer.length + ((wire p).length - (k + buffer.length)) := by
    omega
  have whole := restOfRead_append buffer [] reads ((wire p).length - (k + buffer.length))
  have others : AtEnds spares wire _ _ packets ↔ _ :=
    atEnds_append buffer [] reads ((wire p).length - (k + buffer.length)) packets
  rw [List.append_nil] at whole others
  rw [restOfRead_nil_cons reads (by omega)] at whole
  rw [atEnds_nil_cons reads _ packets positive] at others
  rw [AtEndsAfter, AtEndsAfter, left, whole, others]

theorem atEndsAfter_finishes {p : P} {packets : List P} {k : Nat} (tail : List B)
    (reads : List (List B)) :
    AtEndsAfter spares wire (((wire p).drop k ++ tail) :: reads) (p :: packets) k ↔
      spares p tail ∧ AtEndsAfter spares wire (tail :: reads) packets 0 := by
  have whole := restOfRead_append ((wire p).drop k) tail reads 0
  have others : AtEnds spares wire _ _ packets ↔ _ :=
    atEnds_append ((wire p).drop k) tail reads 0 packets
  rw [List.length_drop, Nat.add_zero] at whole others
  rw [AtEndsAfter, whole, others, atEndsAfter_zero]
  exact Iff.rfl

end AtEnds

inductive Strays (handle : S → List B → Result (Handled S B P)) (wire : P → List B)
    (overwrite : P → List B → List B) (idle : S) (fits : P → Prop) (packets : List P) (k : Nat)
    (more : List B) : Result (Driven S B P) → Prop where
  | overruns (p : P) (mem : p ∈ packets) (long : ¬ fits p) :
    Strays handle wire overwrite idle fits packets k more (.error .overruns)
  | overwrites (result : Result (Driven S B P)) (done : List P) (p : P) (rest : List P)
      (tail : List B) (split : packets = done ++ p :: rest)
      (follows : tail ++ more = stream wire rest) (changed : overwrite p tail ≠ tail)
      (goesOn : ∀ driven, result = .ok driven → ∃ front fuel last,
        front.length + k = (stream wire (done ++ [p])).length ∧
        drive handle fuel idle (overwrite p tail) = .ok last ∧
        driven.buffer = front ++ last.buffer) :
    Strays handle wire overwrite idle fits packets k more result

section Overwriting

variable {handle : S → List B → Result (Handled S B P)} {wire : P → List B} {rewritten : P → P}
  {overwrite : P → List B → List B} {idle : S} {during : P → Nat → S} {ok fits : P → Prop}

theorem inside_zero {packets : List P} (positive : ∀ p ∈ packets, 0 < (wire p).length) :
    Inside wire packets 0 := by
  cases packets with
  | nil => rfl
  | cons p rest => exact positive p List.mem_cons_self

theorem stateAt_zero {packets : List P} (start : ∀ p ∈ packets, during p 0 = idle) :
    stateAt idle during packets 0 = idle := by
  cases packets with
  | nil => rfl
  | cons p rest => exact start p List.mem_cons_self

theorem drive_fails {fuel : Nat} {s : S} {buffer : List B} {stop : Stop}
    (call : handle s buffer = .error stop) :
    drive handle (fuel + 1) s buffer = .error stop := by
  rw [drive, call, Result.bind_error]

theorem drive_pauses {fuel : Nat} {s next : S} {buffer out : List B}
    (call : handle s buffer = .ok ⟨next, out, buffer.length, none⟩) :
    drive handle (fuel + 1) s buffer = .ok ⟨next, out, []⟩ := by
  simp [drive, call]

theorem drive_finishes {fuel : Nat} {s next : S} {buffer out : List B} {p : P}
    (call : handle s buffer = .ok ⟨next, out, buffer.length, some p⟩) :
    drive handle (fuel + 1) s buffer = .ok ⟨next, out, [p]⟩ := by
  simp [drive, call]

theorem drive_continues (fuel : Nat) {s next : S} {buffer out rest : List B} {p : P}
    (call : handle s buffer = .ok ⟨next, out ++ rest, out.length, some p⟩)
    (more : out.length < buffer.length) :
    drive handle (fuel + 1) s buffer = (drive handle fuel next rest).map fun last =>
      ⟨last.next, out ++ last.buffer, p :: last.packets⟩ := by
  simp [drive, call, more]

theorem buffer_cases {p : P} {packets : List P} {k : Nat} {buffer more : List B}
    (inside : k < (wire p).length) (here : buffer ++ more = (stream wire (p :: packets)).drop k) :
    (∃ left, left ≠ [] ∧ (wire p).drop k = buffer ++ left ∧ more = left ++ stream wire packets) ∨
    (∃ tail, buffer = (wire p).drop k ++ tail ∧ tail ++ more = stream wire packets) := by
  rw [stream_drop_cons (Nat.le_of_lt inside)] at here
  rcases List.append_eq_append_iff.mp here with ⟨left, head, tail⟩ | ⟨tail, long, follows⟩
  · by_cases none_left : left = []
    · subst none_left
      refine .inr ⟨[], ?_, ?_⟩
      · rw [head, List.append_nil, List.append_nil]
      · rw [tail, List.nil_append, List.nil_append]
    · exact .inl ⟨left, none_left, head, tail⟩
  · exact .inr ⟨tail, long, follows.symm⟩

theorem advances_within {p : P} {packets : List P} {k : Nat} {buffer left : List B}
    (same : (wire (rewritten p)).length = (wire p).length)
    (here : (wire p).drop k = buffer ++ left) (inside : k < (wire p).length) (waits : left ≠ []) :
    Advances wire rewritten (p :: packets) k (((wire (rewritten p)).drop k).take buffer.length)
      (left ++ stream wire packets) [] (p :: packets) (k + buffer.length) := by
  have size := congrArg List.length here
  rw [List.length_drop, List.length_append] at size
  have some_left := List.length_pos_iff.mpr waits
  have within : k + buffer.length < (wire p).length := by omega
  refine ⟨rfl, within, ?_, ?_⟩
  · rw [stream_drop_cons (Nat.le_of_lt within), ← List.drop_drop, here, List.drop_left]
  · rw [List.map_cons, stream_drop_cons (by omega), stream_drop_cons (by omega), ← List.drop_drop,
      ← List.append_assoc, List.take_append_drop]

theorem advances_past {p : P} {packets done rest : List P} {k k' : Nat} {out more : List B}
    (same : (wire (rewritten p)).length = (wire p).length) (inside : k < (wire p).length)
    (later : Advances wire rewritten packets 0 out more done rest k') :
    Advances wire rewritten (p :: packets) k ((wire (rewritten p)).drop k ++ out) more
      (p :: done) rest k' := by
  refine ⟨?_, later.inside, later.unread, ?_⟩
  · rw [later.split, List.cons_append]
  · have written := later.written
    rw [List.drop_zero] at written
    rw [List.map_cons, stream_drop_cons (by omega), List.append_assoc, written]

theorem advances_nowhere {packets : List P} (positive : ∀ p ∈ packets, 0 < (wire p).length) :
    Advances wire rewritten packets 0 [] (stream wire packets) [] packets 0 :=
  ⟨rfl, inside_zero positive, rfl, rfl⟩

structure Keeps (handle : S → List B → Result (Handled S B P)) (wire : P → List B)
    (rewritten : P → P) (overwrite : P → List B → List B) (idle : S) (during : P → Nat → S)
    (fits : P → Prop) (fuel : Nat) (packets : List P) (k : Nat) (buffer more out : List B)
    (done rest : List P) (k' : Nat) : Prop where
  loop : drive handle fuel (stateAt idle during packets k) buffer =
    .ok ⟨stateAt idle during rest k', out, done.map rewritten⟩
  size : out.length = buffer.length
  advances : Advances wire rewritten packets k out more done rest k'
  room : ∀ p ∈ done, fits p
  judged : ∀ reads, AtEndsAfter (fun p rest => overwrite p rest = rest) wire (buffer :: reads)
    packets k ↔ AtEndsAfter (fun p rest => overwrite p rest = rest) wire reads rest k'

theorem Strays.past {p : P} {packets : List P} {k : Nat} {more : List B}
    {last : Result (Driven S B P)} {front : List B} {packet : P}
    (inside : k ≤ (wire p).length) (size : front.length = (wire p).length - k)
    (later : Strays handle wire overwrite idle fits packets 0 more last) :
    Strays handle wire overwrite idle fits (p :: packets) k more
      (last.map fun driven => ⟨driven.next, front ++ driven.buffer, packet :: driven.packets⟩) := by
  cases later with
  | overruns q mem long => exact .overruns q (List.mem_cons_of_mem p mem) long
  | overwrites result done q rest cut split follows changed goesOn =>
    refine .overwrites _ (p :: done) q rest cut (by rw [split, List.cons_append]) follows changed ?_
    intro driven found
    obtain ⟨first, loop, rfl⟩ := Result.map_eq_ok.mp found
    obtain ⟨start, fuel', final, length, again, buffer⟩ := goesOn first loop
    refine ⟨front ++ start, fuel', final, ?_, again, ?_⟩
    · rw [List.cons_append, stream_cons, List.length_append, List.length_append, ← length]
      omega
    · rw [buffer, List.append_assoc]

theorem Keeps.past {fuel : Nat} {p : P} {packets done rest : List P} {k k' : Nat}
    {tail more out : List B} (same : (wire (rewritten p)).length = (wire p).length)
    (short : k < (wire p).length) (idles : stateAt idle during packets 0 = idle) (room : fits p)
    (spared : overwrite p tail = tail)
    (continues : drive handle (fuel + 1) (during p k) ((wire p).drop k ++ tail) =
      (drive handle fuel idle tail).map fun last =>
        ⟨last.next, (wire (rewritten p)).drop k ++ last.buffer, rewritten p :: last.packets⟩)
    (later : Keeps handle wire rewritten overwrite idle during fits fuel packets 0 tail more out
      done rest k') :
    Keeps handle wire rewritten overwrite idle during fits (fuel + 1) (p :: packets) k
      ((wire p).drop k ++ tail) more ((wire (rewritten p)).drop k ++ out) (p :: done) rest k' where
  loop := by
    have loop := later.loop
    rw [idles] at loop
    rw [stateAt, continues, loop]
    rfl
  size := by
    rw [List.length_append, List.length_append, List.length_drop, List.length_drop, same,
      later.size]
  advances := advances_past same short later.advances
  room := by
    intro q mem
    rcases List.mem_cons.mp mem with rfl | others
    · exact room
    · exact later.room q others
  judged := by
    intro reads
    rw [atEndsAfter_finishes, later.judged reads]
    exact and_iff_right spared

theorem Overwriting.drive_last
    (overwriting : Overwriting handle wire rewritten overwrite idle during ok fits) (fuel : Nat)
    {p : P} {packets : List P} {k : Nat} (good : ok p) (room : fits p) (short : k < (wire p).length)
    (positive : ∀ q ∈ packets, 0 < (wire q).length)
    (idles : stateAt idle during packets 0 = idle) :
    Keeps handle wire rewritten overwrite idle during fits (fuel + 1) (p :: packets) k
      ((wire p).drop k) (stream wire packets) ((wire (rewritten p)).drop k) [p] packets 0 := by
  have same := overwriting.wire_rewritten p good
  have size : ((wire (rewritten p)).drop k).length = ((wire p).drop k).length := by
    rw [List.length_drop, List.length_drop, same]
  have untouched := List.eq_nil_of_length_eq_zero (overwriting.same_length p [])
  have call := overwriting.finishes p k [] good room short
  rw [untouched, List.append_nil, List.append_nil, ← List.length_drop] at call
  have arrived : Advances wire rewritten (p :: packets) k _ _ _ _ _ :=
    advances_past same short (advances_nowhere positive)
  rw [List.append_nil] at arrived
  refine ⟨?_, size, arrived, ?_, ?_⟩
  · rw [idles]
    exact drive_finishes call
  · intro q mem
    rw [List.mem_singleton.mp mem]
    exact room
  · intro reads
    have judged : AtEndsAfter (fun p rest => overwrite p rest = rest) wire _ (p :: packets) k ↔ _ :=
      atEndsAfter_finishes [] reads
    rw [List.append_nil] at judged
    rw [judged, atEndsAfter_zero, atEndsAfter_zero, atEnds_nil_cons reads 0 packets positive]
    exact and_iff_right untouched

def KeepsOrStrays (handle : S → List B → Result (Handled S B P)) (wire : P → List B)
    (rewritten : P → P) (overwrite : P → List B → List B) (idle : S) (during : P → Nat → S)
    (fits : P → Prop) (fuel : Nat) (packets : List P) (k : Nat) (buffer more : List B) : Prop :=
  (∃ out done rest k', Keeps handle wire rewritten overwrite idle during fits fuel packets k
      buffer more out done rest k') ∨
  (Strays handle wire overwrite idle fits packets k more
      (drive handle fuel (stateAt idle during packets k) buffer) ∧
    ∀ reads, (∀ p ∈ packets, fits p) →
      ¬ AtEndsAfter (fun p rest => overwrite p rest = rest) wire (buffer :: reads) packets k)

theorem keepsOrStrays_overruns {fuel : Nat} {p : P} {packets : List P} {k : Nat}
    {buffer more : List B} (long : ¬ fits p) (call : handle (during p k) buffer = .error .overruns) :
    KeepsOrStrays handle wire rewritten overwrite idle during fits (fuel + 1) (p :: packets) k
      buffer more := by
  refine .inr ⟨?_, fun reads room => absurd (room p List.mem_cons_self) long⟩
  rw [stateAt, drive_fails call]
  exact .overruns p List.mem_cons_self long

theorem Overwriting.drive_within
    (overwriting : Overwriting handle wire rewritten overwrite idle during ok fits) (fuel : Nat)
    {p : P} {packets : List P} {k : Nat} {buffer left : List B} (good : ok p)
    (positive : ∀ q ∈ packets, 0 < (wire q).length) (short : k < (wire p).length)
    (nonempty : buffer ≠ []) (unfinished : left ≠ []) (head : (wire p).drop k = buffer ++ left) :
    KeepsOrStrays handle wire rewritten overwrite idle during fits (fuel + 1) (p :: packets) k
      buffer (left ++ stream wire packets) := by
  have same := overwriting.wire_rewritten p good
  have waits : k + buffer.length < (wire p).length := by
    have size := congrArg List.length head
    have some_left := List.length_pos_iff.mpr unfinished
    rw [List.length_drop, List.length_append] at size
    omega
  rcases overwriting.pauses p k buffer left good head nonempty unfinished with call | ⟨long, call⟩
  · refine .inl ⟨_, [], p :: packets, k + buffer.length, drive_pauses call, ?_,
      advances_within same head short unfinished, ?_, ?_⟩
    · rw [List.length_take, List.length_drop]
      omega
    · intro q mem
      cases mem
    · intro reads
      exact atEndsAfter_pauses buffer reads positive waits
  · exact keepsOrStrays_overruns long call

theorem Overwriting.drive_goesOn
    (overwriting : Overwriting handle wire rewritten overwrite idle during ok fits) (fuel : Nat)
    {p : P} {k : Nat} {tail : List B} (good : ok p) (room : fits p) (short : k < (wire p).length)
    (more : tail ≠ []) :
    drive handle (fuel + 1) (during p k) ((wire p).drop k ++ tail) =
      (drive handle fuel idle (overwrite p tail)).map fun last =>
        ⟨last.next, (wire (rewritten p)).drop k ++ last.buffer, rewritten p :: last.packets⟩ := by
  have same := overwriting.wire_rewritten p good
  have some_tail := List.length_pos_iff.mpr more
  have call := overwriting.finishes p k tail good room short
  rw [← same, ← List.length_drop] at call
  refine drive_continues fuel call ?_
  rw [List.length_append, List.length_drop, List.length_drop, same]
  omega

theorem strays_here {fuel : Nat} {p packet : P} {packets : List P} {k : Nat}
    {front tail more : List B} (inside : k ≤ (wire p).length)
    (size : front.length = (wire p).length - k) (follows : tail ++ more = stream wire packets)
    (changed : overwrite p tail ≠ tail) :
    Strays handle wire overwrite idle fits (p :: packets) k more
      ((drive handle fuel idle (overwrite p tail)).map fun last =>
        ⟨last.next, front ++ last.buffer, packet :: last.packets⟩) := by
  refine .overwrites _ [] p packets tail rfl follows changed ?_
  intro driven found
  obtain ⟨last, loop, rfl⟩ := Result.map_eq_ok.mp found
  refine ⟨front, fuel, last, ?_, loop, rfl⟩
  rw [size, List.nil_append, stream_cons, stream_nil, List.append_nil]
  omega

theorem Overwriting.drive_cases
    (overwriting : Overwriting handle wire rewritten overwrite idle during ok fits)
    (fuel : Nat) (packets : List P) (k : Nat) (buffer more : List B)
    (good : ∀ p ∈ packets, ok p) (inside : Inside wire packets k) (nonempty : buffer ≠ [])
    (here : buffer ++ more = (stream wire packets).drop k) (enough : buffer.length ≤ fuel) :
    KeepsOrStrays handle wire rewritten overwrite idle during fits fuel packets k buffer more := by
  induction fuel generalizing packets k buffer with
  | zero => exact absurd (List.eq_nil_of_length_eq_zero (Nat.le_zero.mp enough)) nonempty
  | succ fuel ih =>
    cases packets with
    | nil =>
      rw [stream_nil, List.drop_nil, List.append_eq_nil_iff] at here
      exact absurd here.1 nonempty
    | cons p packets =>
      have short : k < (wire p).length := inside
      have first : ok p := good p List.mem_cons_self
      have others : ∀ q ∈ packets, ok q := fun q mem => good q (List.mem_cons_of_mem p mem)
      have positive : ∀ q ∈ packets, 0 < (wire q).length :=
        fun q mem => overwriting.wire_pos q (others q mem)
      have idles : stateAt idle during packets 0 = idle :=
        stateAt_zero fun q mem => overwriting.during_zero q (others q mem)
      have same := overwriting.wire_rewritten p first
      have size : ((wire (rewritten p)).drop k).length = (wire p).length - k := by
        rw [List.length_drop, same]
      rcases buffer_cases short here with ⟨left, unfinished, head, rfl⟩ | ⟨tail, rfl, follows⟩
      · exact overwriting.drive_within fuel first positive short nonempty unfinished head
      by_cases room : fits p
      · by_cases last : tail = []
        · subst last
          rw [List.append_nil, ← List.nil_append more, follows]
          exact .inl ⟨_, _, _, _, overwriting.drive_last fuel first room short positive idles⟩
        have continues := overwriting.drive_goesOn fuel first room short last
        by_cases spared : overwrite p tail = tail
        · have fewer : tail.length ≤ fuel := by
            rw [List.length_append, List.length_drop] at enough
            omega
          rw [spared] at continues
          rcases ih packets 0 tail others (inside_zero positive) last
            (by rw [List.drop_zero]; exact follows) fewer with
            ⟨out, done, rest, k', keeps⟩ | ⟨strays, judged⟩
          · exact .inl ⟨_, _, _, _, keeps.past same short idles room spared continues⟩
          · rw [idles] at strays
            refine .inr ⟨?_, ?_⟩
            · rw [stateAt, continues]
              exact strays.past (Nat.le_of_lt short) size
            · intro reads all judgedHere
              exact judged reads (fun q mem => all q (List.mem_cons_of_mem p mem))
                ((atEndsAfter_finishes tail reads).mp judgedHere).2
        · refine .inr ⟨?_, ?_⟩
          · rw [stateAt, continues]
            exact strays_here (Nat.le_of_lt short) size follows spared
          · intro reads _ judged
            exact spared ((atEndsAfter_finishes tail reads).mp judged).1
      · exact keepsOrStrays_overruns room (overwriting.overruns p k tail first room short)

end Overwriting

end UnionpiTiger.Lib

namespace UnionpiTiger.Lib

variable {S B P : Type}

structure Resumable (handle : S → List B → Result (Handled S B P)) (wire : P → List B)
    (rewritten : P → P) (idle : S) (during : P → Nat → S) (ok : P → Prop) : Prop where
  wire_pos : ∀ p, ok p → 0 < (wire p).length
  wire_rewritten : ∀ p, ok p → (wire (rewritten p)).length = (wire p).length
  during_zero : ∀ p, ok p → during p 0 = idle
  pauses : ∀ p k buffer more, ok p → (wire p).drop k = buffer ++ more → buffer ≠ [] → more ≠ [] →
    handle (during p k) buffer = .ok
      { next := during p (k + buffer.length)
        buffer := ((wire (rewritten p)).drop k).take buffer.length
        readLength := buffer.length
        packet := none }
  finishes : ∀ p k rest, ok p → k < (wire p).length →
    handle (during p k) ((wire p).drop k ++ rest) = .ok
      { next := idle
        buffer := (wire (rewritten p)).drop k ++ rest
        readLength := (wire p).length - k
        packet := some (rewritten p) }

section Resumable

variable {handle : S → List B → Result (Handled S B P)} {wire : P → List B} {rewritten : P → P}
  {idle : S} {during : P → Nat → S} {ok : P → Prop}

theorem Overwriting.resumable {overwrite : P → List B → List B} {fits good : P → Prop}
    (overwriting : Overwriting handle wire rewritten overwrite idle during ok fits)
    (framed : ∀ p, good p → ok p) (room : ∀ p, good p → fits p)
    (spares : ∀ p rest, good p → overwrite p rest = rest) :
    Resumable handle wire rewritten idle during good where
  wire_pos := fun p known => overwriting.wire_pos p (framed p known)
  wire_rewritten := fun p known => overwriting.wire_rewritten p (framed p known)
  during_zero := fun p known => overwriting.during_zero p (framed p known)
  pauses := by
    intro p k buffer more known here nonempty waits
    rcases overwriting.pauses p k buffer more (framed p known) here nonempty waits with call |
      ⟨long, _⟩
    · exact call
    · exact absurd (room p known) long
  finishes := by
    intro p k rest known inside
    rw [overwriting.finishes p k rest (framed p known) (room p known) inside, spares p rest known]

theorem Resumable.overwriting (resumable : Resumable handle wire rewritten idle during ok) :
    Overwriting handle wire rewritten (fun _ rest => rest) idle during ok fun _ => True where
  wire_pos := resumable.wire_pos
  wire_rewritten := resumable.wire_rewritten
  during_zero := resumable.during_zero
  same_length := fun _ _ => rfl
  pauses := fun p k buffer more known here nonempty waits =>
    .inl (resumable.pauses p k buffer more known here nonempty waits)
  finishes := fun p k rest known _ inside => resumable.finishes p k rest known inside
  overruns := fun _ _ _ _ long _ => absurd trivial long

theorem Resumable.inside_zero (resumable : Resumable handle wire rewritten idle during ok)
    {packets : List P} (good : ∀ p ∈ packets, ok p) : Inside wire packets 0 :=
  Lib.inside_zero fun p mem => resumable.wire_pos p (good p mem)

theorem Resumable.stateAt_zero (resumable : Resumable handle wire rewritten idle during ok)
    {packets : List P} (good : ∀ p ∈ packets, ok p) : stateAt idle during packets 0 = idle :=
  Lib.stateAt_zero fun p mem => resumable.during_zero p (good p mem)

theorem Resumable.drive_advances (resumable : Resumable handle wire rewritten idle during ok)
    (fuel : Nat) (packets : List P) (k : Nat) (buffer more : List B)
    (good : ∀ p ∈ packets, ok p) (inside : Inside wire packets k) (nonempty : buffer ≠ [])
    (here : buffer ++ more = (stream wire packets).drop k) (enough : buffer.length ≤ fuel) :
    ∃ out done rest k', drive handle fuel (stateAt idle during packets k) buffer =
        .ok ⟨stateAt idle during rest k', out, done.map rewritten⟩ ∧
      out.length = buffer.length ∧ Advances wire rewritten packets k out more done rest k' := by
  rcases resumable.overwriting.drive_cases fuel packets k buffer more good inside nonempty here
    enough with ⟨out, done, rest, k', keeps⟩ | ⟨strays, _⟩
  · exact ⟨out, done, rest, k', keeps.loop, keeps.size, keeps.advances⟩
  · generalize drive handle fuel (stateAt idle during packets k) buffer = result at strays
    cases strays with
    | overruns p mem long => exact absurd trivial long
    | overwrites result done p rest tail split follows changed goesOn => exact absurd rfl changed

inductive ReaderAt (wire : P → List B) (rewritten : P → P) (idle : S) (during : P → Nat → S)
    (packets : List P) : S → List P → List B → List B → Prop where
  | place (done rest : List P) (k : Nat) (split : packets = done ++ rest)
      (inside : Inside wire rest k) :
    ReaderAt wire rewritten idle during packets (stateAt idle during rest k) (done.map rewritten)
      ((stream wire rest).drop k) ((stream wire (rest.map rewritten)).drop k)

theorem Resumable.start (resumable : Resumable handle wire rewritten idle during ok)
    {packets : List P} (good : ∀ p ∈ packets, ok p) :
    ReaderAt wire rewritten idle during packets idle [] (stream wire packets)
      (stream wire (packets.map rewritten)) := by
  have start : ReaderAt wire rewritten idle during packets _ _ _ _ :=
    .place [] packets 0 rfl (resumable.inside_zero good)
  rw [resumable.stateAt_zero good] at start
  exact start

theorem Resumable.drive_buffer (resumable : Resumable handle wire rewritten idle during ok)
    {packets : List P} (good : ∀ p ∈ packets, ok p) {s : S} {emitted : List P}
    {buffer more ahead : List B}
    (reader : ReaderAt wire rewritten idle during packets s emitted (buffer ++ more) ahead)
    (nonempty : buffer ≠ []) (fuel : Nat) (enough : buffer.length ≤ fuel) :
    ∃ driven later, drive handle fuel s buffer = .ok driven ∧ driven.buffer ≠ [] ∧
      ahead = driven.buffer ++ later ∧
      ReaderAt wire rewritten idle during packets driven.next (emitted ++ driven.packets)
        more later := by
  generalize unread : buffer ++ more = here at reader
  cases reader with
  | place done rest k split inside =>
    have remaining : ∀ p ∈ rest, ok p := by
      intro p mem
      apply good
      rw [split]
      exact List.mem_append_right done mem
    obtain ⟨out, past, next, k', loop, size, advances⟩ :=
      resumable.drive_advances fuel rest k buffer more remaining inside nonempty unread enough
    refine ⟨_, _, loop, ?_, advances.written.symm, ?_⟩
    · apply List.ne_nil_of_length_pos
      rw [size]
      exact List.length_pos_iff.mpr nonempty
    · rw [advances.unread, ← List.map_append]
      refine .place (done ++ past) next k' ?_ advances.inside
      rw [split, advances.split, List.append_assoc]

theorem ReaderAt.finished {packets : List P} {s : S} {emitted : List P} {ahead : List B}
    (reader : ReaderAt wire rewritten idle during packets s emitted [] ahead) :
    s = idle ∧ emitted = packets.map rewritten ∧ ahead = [] := by
  generalize spent : ([] : List B) = here at reader
  cases reader with
  | place done rest k split inside =>
    obtain ⟨rfl, rfl⟩ := inside.eq_nil_of_drop spent.symm
    refine ⟨rfl, ?_, rfl⟩
    rw [split, List.append_nil]

end Resumable

end UnionpiTiger.Lib
