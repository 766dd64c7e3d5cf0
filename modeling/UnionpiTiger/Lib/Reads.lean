import UnionpiTiger.Lib.Overwriting

set_option autoImplicit false

namespace UnionpiTiger.Lib

variable {S B P : Type}

def driveReads (handle : S → List B → Result (Handled S B P)) : S → List (List B) → Result (List B)
  | _, [] => .ok []
  | s, chunk :: reads =>
    (drive handle (chunk.length + 1) s chunk).bind fun driven =>
      (driveReads handle driven.next reads).map fun out => driven.buffer ++ out

def driveUpTo (left : Nat) (handle : S → List B → Result (Handled S B P)) :
    Nat → S → List B → Result (Driven S B P)
  | 0, _, _ => .error .loops
  | fuel + 1, s, buffer =>
    (handle s buffer).bind fun handled =>
      if handled.readLength + left < buffer.length then
        (driveUpTo left handle fuel handled.next (handled.buffer.drop handled.readLength)).map
          fun rest =>
            { next := rest.next
              buffer := handled.buffer.take handled.readLength ++ rest.buffer
              packets := handled.packet.toList ++ rest.packets }
      else
        .ok { next := handled.next, buffer := handled.buffer, packets := handled.packet.toList }

theorem driveUpTo_zero (handle : S → List B → Result (Handled S B P)) (fuel : Nat) (s : S)
    (buffer : List B) : driveUpTo 0 handle fuel s buffer = drive handle fuel s buffer := by
  induction fuel generalizing s buffer with
  | zero => rfl
  | succ fuel ih => simp only [driveUpTo, drive, ih, Nat.add_zero]

def AlongDrive (left : Nat) (handle : S → List B → Result (Handled S B P))
    (ok : S → List B → Prop) : Nat → S → List B → Prop
  | 0, _, _ => True
  | fuel + 1, s, buffer =>
    ok s buffer ∧ ∀ handled ∈ (handle s buffer).toOption, handled.readLength + left < buffer.length →
      AlongDrive left handle ok fuel handled.next (handled.buffer.drop handled.readLength)

instance AlongDrive.decidable (left : Nat) (handle : S → List B → Result (Handled S B P))
    (ok : S → List B → Prop) [∀ s buffer, Decidable (ok s buffer)] :
    (fuel : Nat) → (s : S) → (buffer : List B) → Decidable (AlongDrive left handle ok fuel s buffer)
  | 0, _, _ => isTrue trivial
  | fuel + 1, s, buffer =>
    have := AlongDrive.decidable left handle ok fuel
    inferInstanceAs (Decidable (ok s buffer ∧ ∀ handled ∈ (handle s buffer).toOption,
      handled.readLength + left < buffer.length → _))

structure Proceeds (Inv : S → Prop) (buffer : List B) (handled : Handled S B P) : Prop where
  next : Inv handled.next
  progress : 0 < handled.readLength
  length : handled.buffer.length = buffer.length

theorem driveUpTo_invariant {left : Nat} {handle : S → List B → Result (Handled S B P)}
    {Inv : S → Prop} {ok : S → List B → Prop} {stop : Stop}
    (proceeds : ∀ s buffer, Inv s → buffer ≠ [] → ok s buffer → handle s buffer = .error stop ∨
      ∃ handled, handle s buffer = .ok handled ∧ Proceeds Inv buffer handled)
    {fuel : Nat} {s : S} {buffer : List B} (inv : Inv s) (nonempty : buffer ≠ [])
    (enough : buffer.length ≤ fuel) (along : AlongDrive left handle ok fuel s buffer) :
    driveUpTo left handle fuel s buffer = .error stop ∨
      ∃ driven, driveUpTo left handle fuel s buffer = .ok driven ∧ Inv driven.next ∧
        driven.buffer.length = buffer.length := by
  induction fuel generalizing s buffer with
  | zero => exact absurd (List.eq_nil_of_length_eq_zero (Nat.le_zero.mp enough)) nonempty
  | succ fuel ih =>
    rw [driveUpTo]
    rcases proceeds s buffer inv nonempty along.1 with stopped | ⟨handled, call, step⟩
    · exact .inl (by rw [stopped, Result.bind_error])
    have progress := step.progress
    rw [call, Result.bind_ok]
    split_ifs with more
    · have rest_length : (handled.buffer.drop handled.readLength).length =
          buffer.length - handled.readLength := by
        rw [List.length_drop, step.length]
      have some_left : handled.buffer.drop handled.readLength ≠ [] := by
        apply List.ne_nil_of_length_pos
        omega
      have goesOn := along.2 handled (Result.mem_toOption.mpr call) more
      rcases ih step.next some_left (by omega) goesOn with stopped | ⟨driven, loop, kept, size⟩
      · exact .inl (by rw [stopped, Result.map_error])
      refine .inr ⟨⟨driven.next, handled.buffer.take handled.readLength ++ driven.buffer,
        handled.packet.toList ++ driven.packets⟩, by rw [loop]; rfl, kept, ?_⟩
      simp only [List.length_append, List.length_take, size, rest_length, step.length]
      omega
    · exact .inr ⟨_, rfl, step.next, step.length⟩

structure KeepsMarks (mark : B) (before after : List B) : Prop where
  length : after.length = before.length
  marks : ∀ i : Nat, before[i]? = some mark → after[i]? = some mark

section KeepsMarks

variable {mark : B} {handle : S → List B → Result (Handled S B P)}

theorem KeepsMarks.refl (buffer : List B) : KeepsMarks mark buffer buffer :=
  ⟨rfl, fun _ marked => marked⟩

theorem KeepsMarks.trans {first second third : List B} (early : KeepsMarks mark first second)
    (late : KeepsMarks mark second third) : KeepsMarks mark first third :=
  ⟨late.length.trans early.length, fun i marked => late.marks i (early.marks i marked)⟩

theorem KeepsMarks.append_left {before after : List B} (keeps : KeepsMarks mark before after)
    (front : List B) : KeepsMarks mark (front ++ before) (front ++ after) where
  length := by rw [List.length_append, List.length_append, keeps.length]
  marks := by
    intro i marked
    rw [List.getElem?_append] at marked ⊢
    split_ifs at marked ⊢ with early
    · exact marked
    · exact keeps.marks _ marked

theorem KeepsMarks.set (buffer : List B) (n : Nat) :
    KeepsMarks mark buffer (buffer.set n mark) where
  length := List.length_set
  marks := by
    intro i marked
    obtain ⟨within, _⟩ := List.getElem?_eq_some_iff.mp marked
    rw [List.getElem?_set]
    split_ifs with same bound
    · rfl
    · exact absurd (same ▸ within) bound
    · exact marked

theorem drive_keepsMarks
    (keeps : ∀ s buffer handled, handle s buffer = .ok handled →
      KeepsMarks mark buffer handled.buffer)
    {fuel : Nat} {s : S} {buffer : List B} {driven : Driven S B P}
    (loop : drive handle fuel s buffer = .ok driven) : KeepsMarks mark buffer driven.buffer := by
  induction fuel generalizing s buffer driven with
  | zero => cases loop
  | succ fuel ih =>
    rw [drive] at loop
    obtain ⟨handled, call, loop⟩ := Result.bind_eq_ok.mp loop
    have first := keeps s buffer handled call
    split_ifs at loop with more
    · obtain ⟨rest, again, rfl⟩ := Result.map_eq_ok.mp loop
      have later := (ih again).append_left (handled.buffer.take handled.readLength)
      rw [List.take_append_drop] at later
      exact first.trans later
    · cases loop
      exact first

end KeepsMarks

structure Overwritten (wire : P → List B) (overwrite : P → List B → List B) (mark : B)
    (packets : List P) (k : Nat) (out : List B) : Prop where
  place : ∃ done p rest tail, packets = done ++ p :: rest ∧ tail <+: stream wire rest ∧
    overwrite p tail ≠ tail ∧ ∃ front back more, out = front ++ back ++ more ∧
    front.length + k = (stream wire (done ++ [p])).length ∧
    KeepsMarks mark (overwrite p tail) back

section Reads

variable {handle : S → List B → Result (Handled S B P)} {wire : P → List B} {rewritten : P → P}
  {overwrite : P → List B → List B} {idle : S} {during : P → Nat → S} {ok fits : P → Prop}
  {mark : B}

theorem stream_append (first second : List P) :
    stream wire (first ++ second) = stream wire first ++ stream wire second :=
  List.flatMap_append

theorem Inside.le {packets : List P} {k : Nat} (inside : Inside wire packets k) :
    k ≤ (stream wire packets).length := by
  cases packets with
  | nil => exact Nat.le_of_eq inside
  | cons p rest =>
    have within : k < (wire p).length := inside
    rw [stream_cons, List.length_append]
    omega

theorem Advances.length {packets done rest : List P} {k k' : Nat} {out buffer more : List B}
    (advances : Advances wire rewritten packets k out more done rest k')
    (inside : Inside wire packets k) (size : out.length = buffer.length)
    (here : buffer ++ more = (stream wire packets).drop k) :
    out.length + k = (stream wire done).length + k' := by
  have start := inside.le
  have stop := advances.inside.le
  have total := congrArg List.length here
  rw [advances.unread, List.length_append, List.length_drop, List.length_drop] at total
  have whole : (stream wire packets).length =
      (stream wire done).length + (stream wire rest).length := by
    rw [advances.split, stream_append, List.length_append]
  omega

theorem Overwritten.later {packets done rest : List P} {k k' : Nat} {first out : List B}
    (split : packets = done ++ rest) (length : first.length + k = (stream wire done).length + k')
    (later : Overwritten wire overwrite mark rest k' out) :
    Overwritten wire overwrite mark packets k (first ++ out) := by
  obtain ⟨before, p, after, tail, rfl, follows, changed, front, back, more, rfl, size, keeps⟩ :=
    later.place
  refine ⟨done ++ before, p, after, tail, by rw [split, List.append_assoc], follows, changed,
    first ++ front, back, more, by simp only [List.append_assoc], ?_, keeps⟩
  rw [List.append_assoc, stream_append, List.length_append, List.length_append, ← size]
  omega

theorem atEndsAfter_nil_cons {spares : P → List B → Prop} (reads : List (List B))
    {packets : List P} {k : Nat} (positive : ∀ p ∈ packets, 0 < (wire p).length)
    (inside : Inside wire packets k) :
    AtEndsAfter spares wire ([] :: reads) packets k ↔ AtEndsAfter spares wire reads packets k := by
  cases packets with
  | nil => exact Iff.rfl
  | cons p packets =>
    have within : k < (wire p).length := inside
    exact atEndsAfter_pauses [] reads (fun q mem => positive q (List.mem_cons_of_mem p mem)) within

theorem Strays.overwritten
    (keeps : ∀ s buffer handled, handle s buffer = .ok handled →
      KeepsMarks mark buffer handled.buffer)
    {packets : List P} {k : Nat} {more : List B} {driven : Driven S B P}
    (strays : Strays handle wire overwrite idle fits packets k more (.ok driven))
    (later : List B) : Overwritten wire overwrite mark packets k (driven.buffer ++ later) := by
  cases strays with
  | overwrites _ done p rest tail split follows changed goesOn =>
    obtain ⟨front, fuel, last, length, again, buffer⟩ := goesOn driven rfl
    refine ⟨done, p, rest, tail, split, ⟨more, follows⟩, changed, front, last.buffer, later, ?_,
      length, drive_keepsMarks keeps again⟩
    rw [buffer]

theorem atEnds_congr {spares spares' : P → List B → Prop}
    (same : ∀ p rest, spares p rest ↔ spares' p rest) (reads : List (List B)) (start : Nat)
    (packets : List P) :
    AtEnds spares wire reads start packets ↔ AtEnds spares' wire reads start packets := by
  induction packets generalizing start with
  | nil => exact Iff.rfl
  | cons p packets ih => rw [AtEnds, AtEnds, same, ih]

theorem driveReads_nil_cons (empty : ∀ s, drive handle 1 s [] = .ok ⟨s, [], []⟩) (s : S)
    (reads : List (List B)) : driveReads handle s ([] :: reads) = driveReads handle s reads := by
  rw [driveReads, List.length_nil, Nat.zero_add, empty]
  rw [Result.bind_ok]
  exact Result.map_id_fun _

theorem Keeps.driveReads_cons {packets done rest : List P} {k k' : Nat} {chunk more out : List B}
    (kept : Keeps handle wire rewritten overwrite idle during fits (chunk.length + 1) packets k
      chunk more out done rest k') (reads : List (List B)) :
    driveReads handle (stateAt idle during packets k) (chunk :: reads) =
      (driveReads handle (stateAt idle during rest k') reads).map fun later => out ++ later := by
  rw [driveReads, kept.loop, Result.bind_ok]

theorem Keeps.fits_all {fuel : Nat} {packets done rest : List P} {k k' : Nat}
    {chunk more out : List B}
    (kept : Keeps handle wire rewritten overwrite idle during fits fuel packets k chunk more out
      done rest k') (later : ∀ p ∈ rest, fits p) : ∀ p ∈ packets, fits p := by
  intro p mem
  rw [kept.advances.split] at mem
  rcases List.mem_append.mp mem with early | late
  · exact kept.room p early
  · exact later p late

theorem Advances.rest_subset {packets done rest : List P} {k k' : Nat} {out more : List B}
    (advances : Advances wire rewritten packets k out more done rest k') :
    ∀ p ∈ rest, p ∈ packets := by
  intro p mem
  rw [advances.split]
  exact List.mem_append_right done mem

theorem Overwriting.driveReads_cases
    (overwriting : Overwriting handle wire rewritten overwrite idle during ok fits)
    (empty : ∀ s, drive handle 1 s [] = .ok ⟨s, [], []⟩)
    (keeps : ∀ s buffer handled, handle s buffer = .ok handled →
      KeepsMarks mark buffer handled.buffer)
    (reads : List (List B)) (packets : List P) (k : Nat) (good : ∀ p ∈ packets, ok p)
    (inside : Inside wire packets k) (here : reads.flatten = (stream wire packets).drop k) :
    (driveReads handle (stateAt idle during packets k) reads =
        .ok ((stream wire (packets.map rewritten)).drop k) ∧
      (∀ p ∈ packets, fits p) ∧
      AtEndsAfter (fun p rest => overwrite p rest = rest) wire reads packets k) ∨
    ((∀ out, driveReads handle (stateAt idle during packets k) reads = .ok out →
        Overwritten wire overwrite mark packets k out) ∧
      ((∀ p ∈ packets, fits p) →
        ¬ AtEndsAfter (fun p rest => overwrite p rest = rest) wire reads packets k)) := by
  induction reads generalizing packets k with
  | nil =>
    obtain ⟨rfl, rfl⟩ := inside.eq_nil_of_drop here.symm
    refine .inl ⟨rfl, ?_, trivial⟩
    intro p mem
    cases mem
  | cons chunk reads ih =>
    have positive : ∀ p ∈ packets, 0 < (wire p).length :=
      fun p mem => overwriting.wire_pos p (good p mem)
    rw [List.flatten_cons] at here
    by_cases nothing : chunk = []
    · subst nothing
      rw [driveReads_nil_cons empty, atEndsAfter_nil_cons reads positive inside]
      exact ih packets k good inside here
    rcases overwriting.drive_cases (chunk.length + 1) packets k chunk reads.flatten good inside
      nothing here (Nat.le_succ _) with ⟨out, done, rest, k', kept⟩ | ⟨strays, judged⟩
    · have subset := kept.advances.rest_subset
      have length := kept.advances.length inside kept.size here
      rw [kept.driveReads_cons reads, kept.judged reads]
      rcases ih rest k' (fun p mem => good p (subset p mem)) kept.advances.inside
        kept.advances.unread with ⟨run, room, ends⟩ | ⟨run, ends⟩
      · refine .inl ⟨?_, kept.fits_all room, ends⟩
        rw [run, Result.map_ok, kept.advances.written]
      · refine .inr ⟨?_, fun room => ends fun p mem => room p (subset p mem)⟩
        intro total found
        obtain ⟨later, rest_run, rfl⟩ := Result.map_eq_ok.mp found
        exact (run later rest_run).later kept.advances.split length
    · refine .inr ⟨?_, judged reads⟩
      intro total found
      rw [driveReads] at found
      obtain ⟨driven, loop, found⟩ := Result.bind_eq_ok.mp found
      obtain ⟨later, _, rfl⟩ := Result.map_eq_ok.mp found
      rw [loop] at strays
      exact strays.overwritten keeps later

end Reads

end UnionpiTiger.Lib
