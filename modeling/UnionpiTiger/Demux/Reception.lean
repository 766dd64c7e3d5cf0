import UnionpiTiger.Demux.PidTable
import UnionpiTiger.Demux.Section
import UnionpiTiger.Demux.TsParser

set_option autoImplicit false

namespace UnionpiTiger.Demux

structure Section where
  bytes : List UInt8
  length : bytes.length = sectionLength (bytes.getD 1 0) (bytes.getD 2 0)
  table : bytes.getD 0 0 ≠ 0xff

theorem Section.three_le (sec : Section) : 3 ≤ sec.bytes.length := by
  rw [sec.length]
  exact Nat.le_add_left 3 _

def sectionBytes (sections : List Section) : List UInt8 := sections.flatMap Section.bytes

-- Payloads of one PID, each with its payload_unit_start, that carry what is left of the section
-- begun before them and then the sections. A payload in which sections start has a pointer field,
-- and after the last byte of a section it may be filled with stuffing.
inductive Carried : List UInt8 → List Section → List (Bool × List UInt8) → Prop where
  | done : Carried [] [] []
  | empty {pending : List UInt8} {sections : List Section} {rest : List (Bool × List UInt8)}
      (later : Carried pending sections rest) : Carried pending sections ((false, []) :: rest)
  | inside {payload more : List UInt8} {sections : List Section} {rest : List (Bool × List UInt8)}
      (left : more ≠ []) (later : Carried more sections rest) :
      Carried (payload ++ more) sections ((false, payload) :: rest)
  | ends {pending : List UInt8} {sections : List Section} {rest : List (Bool × List UInt8)}
      (stuffing : Nat) (left : pending ≠ []) (later : Carried [] sections rest) :
      Carried pending sections ((false, pending ++ List.replicate stuffing 0xff) :: rest)
  | starts {pending : List UInt8} {sections : List Section} {rest : List (Bool × List UInt8)}
      (pointer : UInt8) (whole : List Section) (stuffing : Nat)
      (points : pointer.toNat = pending.length) (later : Carried [] sections rest) :
      Carried pending (whole ++ sections)
        ((true, pointer :: (pending ++ (sectionBytes whole ++ List.replicate stuffing 0xff))) :: rest)
  | begins {pending first more : List UInt8} {sections : List Section}
      {rest : List (Bool × List UInt8)} (pointer : UInt8) (whole : List Section) (sec : Section)
      (points : pointer.toNat = pending.length) (some_ : first ≠ []) (left : more ≠ [])
      (split : first ++ more = sec.bytes) (later : Carried more sections rest) :
      Carried pending (whole ++ sec :: sections)
        ((true, pointer :: (pending ++ (sectionBytes whole ++ first))) :: rest)

def secPayloads : SecState → List (Bool × List UInt8) → Option (SecState × List SecState)
  | s, [] => some (s, [])
  | s, (payloadStart, payload) :: rest => do
    let (s, completed) ← secPayload s payloadStart payload
    let (s, later) ← secPayloads s rest
    return (s, completed ++ later)

section

variable {s : SecState} {p first more : List UInt8} {sec : Section}

theorem getD_append_left {all rest : List UInt8} {i : Nat} (within : i < all.length) :
    (all ++ rest).getD i 0 = all.getD i 0 := by
  rw [List.getD_eq_getElem?_getD, List.getD_eq_getElem?_getD, List.getElem?_append_left within]

theorem secData_inside (safe : s.Safe) (split : s.bytes ++ (p ++ more) = sec.bytes) (left : more ≠ []) :
    ∃ next, secData s p = some (p.length, next, none) ∧ next.bytes = s.bytes ++ p := by
  by_cases short : (s.bytes ++ p).length < 3
  · exact secData_short rfl short
  · have full := Nat.not_lt.mp short
    rw [← List.append_assoc] at split
    have at_ : ∀ i < 3, (s.bytes ++ p).getD i 0 = sec.bytes.getD i 0 := fun i less => by
      rw [← split]
      exact (getD_append_left (by omega)).symm
    refine secData_part safe rfl full ?_ ?_
    · rw [at_ 0 (by decide)]
      exact sec.table
    · rw [at_ 1 (by decide), at_ 2 (by decide), ← sec.length, ← split]
      simp only [List.length_append]
      exact Nat.lt_add_of_pos_right (List.length_pos_of_ne_nil left)

theorem secData_ends (safe : s.Safe) (split : s.bytes ++ p = sec.bytes) (after : List UInt8) :
    ∃ next, secData s (p ++ after) = some (p.length, { next with recv := 0 }, some next) ∧
      next.bytes = sec.bytes := by
  have bytes : s.bytes ++ (p ++ after) = sec.bytes ++ after := by rw [← List.append_assoc, split]
  have three := sec.three_le
  have at_ : ∀ i < 3, (sec.bytes ++ after).getD i 0 = sec.bytes.getD i 0 :=
    fun i less => getD_append_left (by omega)
  have length : sectionLength ((sec.bytes ++ after).getD 1 0) ((sec.bytes ++ after).getD 2 0) =
      sec.bytes.length := by
    rw [at_ 1 (by decide), at_ 2 (by decide), sec.length]
  obtain ⟨next, done, taken⟩ := secData_whole safe bytes
    (by rw [List.length_append]; omega) (by rw [at_ 0 (by decide)]; exact sec.table)
    (by rw [length, List.length_append]; omega)
  rw [length, List.take_left] at taken
  rw [length] at done
  have count : sec.bytes.length - s.recv = p.length := by
    rw [← split, List.length_append, SecState.length_bytes]
    omega
  rw [count] at done
  exact ⟨next, done, taken⟩

theorem secLoop_step {n : Nat} {next last : SecState} {completed : Option SecState}
    {later : List SecState} (some_ : p ≠ []) (positive : 1 ≤ n) (safe : next.Safe)
    (done : secData s p = some (n, next, completed))
    (rest : secLoop (p.drop n).length next (p.drop n) = some (last, later)) :
    secLoop p.length s p = some (last, completed.toList ++ later) := by
  cases p with
  | nil => exact absurd rfl some_
  | cons b p =>
    have less : ((b :: p).drop n).length ≤ p.length := by
      rw [List.length_drop, List.length_cons]
      omega
    rw [secLoop_fuel safe (Nat.le_refl _) less] at rest
    simp only [List.length_cons, secLoop, done, rest, Option.bind_eq_bind, Option.bind_some,
      Option.pure_def]

theorem secLoop_ends {next last : SecState} {after : List UInt8} {later : List SecState}
    (some_ : p ≠ [])
    (done : secData s (p ++ after) = some (p.length, { next with recv := 0 }, some next))
    (rest : secLoop after.length { next with recv := 0 } after = some (last, later)) :
    secLoop (p ++ after).length s (p ++ after) = some (last, next :: later) := by
  refine secLoop_step (List.append_ne_nil_of_left_ne_nil some_ _) (List.length_pos_of_ne_nil some_)
    (safe_of_short (Nat.zero_lt_succ 2)) done ?_
  rw [List.drop_left]
  exact rest

theorem secLoop_inside {next : SecState} (safe : next.Safe)
    (done : p ≠ [] → secData s p = some (p.length, next, none)) (same : p = [] → next = s) :
    secLoop p.length s p = some (next, []) := by
  by_cases some_ : p = []
  · rw [same some_, some_]
    rfl
  · refine secLoop_step some_ (List.length_pos_of_ne_nil some_) safe (done some_) ?_
    rw [List.drop_length]
    rfl

theorem secLoop_stuffing (idle : s.recv = 0) (count : Nat) :
    ∃ last, secLoop (List.replicate count (0xff : UInt8)).length s (List.replicate count 0xff) =
      some (last, []) ∧ last.Safe := by
  cases count with
  | zero => exact ⟨s, rfl, safe_of_short (by omega)⟩
  | succ count =>
    have none_ : s.bytes = [] := by rw [SecState.bytes, idle]; rfl
    have bytes : s.bytes ++ List.replicate (count + 1) 0xff = List.replicate (count + 1) 0xff := by
      rw [none_, List.nil_append]
    have whole : ∃ last, secData s (List.replicate (count + 1) 0xff) =
        some ((List.replicate (count + 1) (0xff : UInt8)).length, last, none) ∧ last.Safe := by
      by_cases short : (List.replicate (count + 1) (0xff : UInt8)).length < 3
      · obtain ⟨last, done, all⟩ := secData_short bytes short
        exact ⟨last, done, safe_of_short (by rw [recv_of_bytes all]; exact short)⟩
      · obtain ⟨last, done, recv, first⟩ :=
          secData_stuffing bytes (Nat.not_lt.mp short) rfl (by omega)
        exact ⟨last, done, Or.inr (Or.inl ⟨recv, first⟩)⟩
    obtain ⟨last, done, safe⟩ := whole
    have some_ : List.replicate (count + 1) (0xff : UInt8) ≠ [] := List.cons_ne_nil _ _
    exact ⟨last, secLoop_inside safe (fun _ => done) fun none_ => absurd none_ some_, safe⟩

theorem inside_safe (split : s.bytes ++ more = sec.bytes) (left : more ≠ []) : s.Safe := by
  have less : s.recv < sec.bytes.length := by
    rw [← split, List.length_append, SecState.length_bytes]
    exact Nat.lt_add_of_pos_right (List.length_pos_of_ne_nil left)
  rcases Nat.lt_or_ge s.recv 3 with short | header
  · exact safe_of_short short
  · refine Or.inr (Or.inr ⟨header, ?_, ?_⟩)
    · rw [getD_of_bytes split (by omega)]
      exact sec.table
    · rw [getD_of_bytes split (by omega), getD_of_bytes split (by omega), ← sec.length]
      exact less

theorem secLoop_part (safe : s.Safe) (split : s.bytes ++ (p ++ more) = sec.bytes) (left : more ≠ []) :
    ∃ last, secLoop p.length s p = some (last, []) ∧ last.bytes = s.bytes ++ p := by
  obtain ⟨next, done, bytes⟩ := secData_inside safe split left
  by_cases some_ : p = []
  · exact ⟨s, by rw [some_]; rfl, by rw [some_, List.append_nil]⟩
  · refine ⟨next, secLoop_inside ?_ (fun _ => done) fun none_ => absurd none_ some_, bytes⟩
    have still : next.bytes ++ more = sec.bytes := by rw [bytes, List.append_assoc, split]
    exact inside_safe still left

theorem secLoop_sections (Left : SecState → Prop) (after : List UInt8)
    (tail : ∀ t : SecState, t.recv = 0 →
      ∃ last, secLoop after.length t after = some (last, []) ∧ Left last)
    (whole : List Section) (idle : s.recv = 0) :
    ∃ last completed, secLoop (sectionBytes whole ++ after).length s (sectionBytes whole ++ after) =
        some (last, completed) ∧ Left last ∧
      completed.map SecState.bytes = whole.map Section.bytes := by
  induction whole generalizing s with
  | nil =>
    obtain ⟨last, done, ends⟩ := tail s idle
    exact ⟨last, [], done, ends, rfl⟩
  | cons sec whole ih =>
    have split : s.bytes ++ sec.bytes = sec.bytes := by
      rw [SecState.bytes, idle]
      rfl
    have some_ : sec.bytes ≠ [] :=
      List.ne_nil_of_length_pos (Nat.lt_of_lt_of_le (by decide) sec.three_le)
    obtain ⟨next, done, bytes⟩ := secData_ends (safe_of_short (by omega)) split
      (sectionBytes whole ++ after)
    obtain ⟨last, completed, rest, ends, same⟩ := ih (s := { next with recv := 0 }) rfl
    refine ⟨last, next :: completed, ?_, ends, ?_⟩
    · have behind : sectionBytes (sec :: whole) ++ after =
          sec.bytes ++ (sectionBytes whole ++ after) := by
        rw [sectionBytes, List.flatMap_cons, List.append_assoc, sectionBytes]
      rw [behind]
      exact secLoop_ends some_ done rest
    · rw [List.map_cons, List.map_cons, bytes, same]

end

inductive Begun (s : SecState) : List UInt8 → List Section → Prop where
  | none : Begun s [] []
  | part {pending : List UInt8} (sec : Section) (left : pending ≠ []) (some_ : s.recv ≠ 0)
      (split : s.bytes ++ pending = sec.bytes) : Begun s pending [sec]

variable {s : SecState} {pending : List UInt8} {begun sections : List Section}
  {payloads : List (Bool × List UInt8)}

theorem secPayload_starts (safe : s.Safe) (begins : Begun s pending begun) {pointer : UInt8}
    (points : pointer.toNat = pending.length) {after : List UInt8} {Left : SecState → Prop}
    {out : List (List UInt8)}
    (loop : ∀ t : SecState, t.recv = 0 → ∃ last completed,
      secLoop after.length t after = some (last, completed) ∧ Left last ∧
        completed.map SecState.bytes = out) :
    ∃ last completed, secPayload s true (pointer :: (pending ++ after)) = some (last, completed) ∧
      Left last ∧ completed.map SecState.bytes = begun.map Section.bytes ++ out := by
  have legal : ¬pointer.toNat > (pending ++ after).length := by
    rw [List.length_append]
    omega
  have skipped : (pending ++ after).drop pointer.toNat = after := by rw [points, List.drop_left]
  have ended : (pending ++ after).take pointer.toNat = pending := by rw [points, List.take_left]
  unfold secPayload
  simp only [if_true, if_neg legal, skipped, ended]
  cases begins with
  | none =>
    have zero : pointer = 0 := UInt8.toNat.inj points
    obtain ⟨last, completed, done, ends, same⟩ := loop { s with recv := 0 } rfl
    refine ⟨last, completed, ?_, ends, same⟩
    rw [if_neg (fun both => both.1 zero)]
    simp only [done, Option.bind_eq_bind, Option.bind_some, Option.pure_def, List.nil_append]
  | part sec left some_ split =>
    have nonzero : pointer ≠ 0 := fun zero => by
      rw [zero] at points
      exact left (List.eq_nil_of_length_eq_zero points.symm)
    obtain ⟨next, first, bytes⟩ := secData_ends safe split []
    rw [List.append_nil] at first
    obtain ⟨last, completed, done, ends, same⟩ := loop { next with recv := 0 } rfl
    refine ⟨last, next :: completed, ?_, ends, ?_⟩
    · rw [if_pos ⟨nonzero, some_⟩]
      simp only [first, done, Option.map_some, Option.bind_eq_bind, Option.bind_some,
        Option.pure_def]
      rfl
    · rw [List.map_cons, bytes, same]
      rfl

theorem secPayloads_cons {start : Bool} {payload : List UInt8} {rest : List (Bool × List UInt8)}
    {next last : SecState} {completed later : List SecState}
    (first : secPayload s start payload = some (next, completed))
    (behind : secPayloads next rest = some (last, later)) :
    secPayloads s ((start, payload) :: rest) = some (last, completed ++ later) := by
  simp only [secPayloads, first, behind, Option.bind_eq_bind, Option.bind_some, Option.pure_def]

theorem carried_received (carried : Carried pending sections payloads) (safe : s.Safe)
    (begins : Begun s pending begun) :
    ∃ last completed, secPayloads s payloads = some (last, completed) ∧ last.Safe ∧
      completed.map SecState.bytes = (begun ++ sections).map Section.bytes := by
  induction carried generalizing s begun with
  | done =>
    cases begins with
    | none => exact ⟨s, [], rfl, safe, rfl⟩
    | part sec left => exact absurd rfl left
  | empty later ih =>
    obtain ⟨last, completed, done, lastSafe, same⟩ := ih safe begins
    have none_ : secPayload s false [] = some (s, []) := rfl
    exact ⟨last, [] ++ completed, secPayloads_cons none_ done, lastSafe, same⟩
  | @inside payload more sections rest left later ih =>
    generalize cut : payload ++ more = pending at begins
    cases begins with
    | none => exact absurd (List.append_eq_nil_iff.mp cut).2 left
    | part sec nonempty some_ split =>
      subst cut
      obtain ⟨next, first, bytes⟩ := secLoop_part safe split left
      have nextSplit : next.bytes ++ more = sec.bytes := by rw [bytes, List.append_assoc, split]
      have recv : next.recv ≠ 0 := by
        rw [recv_of_bytes bytes, List.length_append, SecState.length_bytes]
        omega
      obtain ⟨last, completed, done, lastSafe, same⟩ :=
        ih (inside_safe nextSplit left) (Begun.part sec left recv nextSplit)
      exact ⟨last, [] ++ completed, secPayloads_cons first done, lastSafe, same⟩
  | @ends pending sections rest stuffing left later ih =>
    cases begins with
    | none => exact absurd rfl left
    | part sec nonempty some_ split =>
      obtain ⟨next, first, bytes⟩ := secData_ends safe split (List.replicate stuffing 0xff)
      obtain ⟨idle, stuffed, idleSafe⟩ :=
        secLoop_stuffing (s := { next with recv := 0 }) rfl stuffing
      obtain ⟨last, completed, done, lastSafe, same⟩ := ih idleSafe Begun.none
      refine ⟨last, [next] ++ completed,
        secPayloads_cons (secLoop_ends left first stuffed) done, lastSafe, ?_⟩
      rw [List.singleton_append, List.map_cons, bytes, same]
      rfl
  | @starts pending sections rest pointer whole stuffing points later ih =>
    obtain ⟨next, out, first, nextSafe, same⟩ := secPayload_starts safe begins points
      fun t idle => secLoop_sections SecState.Safe _ (fun t idle => secLoop_stuffing idle stuffing)
        whole idle
    obtain ⟨last, completed, done, lastSafe, behind⟩ := ih nextSafe Begun.none
    refine ⟨last, out ++ completed, secPayloads_cons first done, lastSafe, ?_⟩
    rw [List.map_append, same, behind]
    simp
  | @begins pending first more sections rest pointer whole sec points some_ left split later ih =>
    have tail : ∀ t : SecState, t.recv = 0 → ∃ last, secLoop first.length t first = some (last, []) ∧
        last.Safe ∧ Begun last more [sec] := by
      intro t idle
      have none_ : t.bytes = [] := by rw [SecState.bytes, idle]; rfl
      have whole : t.bytes ++ (first ++ more) = sec.bytes := by rw [none_, List.nil_append, split]
      obtain ⟨last, done, bytes⟩ := secLoop_part (safe_of_short (by omega)) whole left
      rw [none_, List.nil_append] at bytes
      have recv : last.recv ≠ 0 := by
        rw [recv_of_bytes bytes]
        exact Nat.ne_of_gt (List.length_pos_of_ne_nil some_)
      have lastSplit : last.bytes ++ more = sec.bytes := by rw [bytes, split]
      exact ⟨last, done, inside_safe lastSplit left, Begun.part sec left recv lastSplit⟩
    obtain ⟨next, out, done, ⟨nextSafe, nextBegun⟩, same⟩ := secPayload_starts safe begins points
      fun t idle => secLoop_sections (fun last => last.Safe ∧ Begun last more [sec]) first tail
        whole idle
    obtain ⟨last, completed, rest, lastSafe, behind⟩ := ih nextSafe nextBegun
    refine ⟨last, out ++ completed, secPayloads_cons done rest, lastSafe, ?_⟩
    rw [List.map_append, same, behind]
    simp

end UnionpiTiger.Demux

namespace UnionpiTiger.Demux

open Lib

variable {D : Type}

inductive Delivery (D : Type) where
  | packet (filter : Nat) (cb : D) (pkt : TsPacket)
  | sec (filter : Nat) (cb : D) (bytes : List UInt8)
deriving DecidableEq

def secFilterMatch (data : Nat → UInt8) (f : Filter D) : Bool :=
  let bytes := List.finRange secFilterLen
  let differs := fun (mask : Fin (secFilterLen + 2) → UInt8) (i : Fin secFilterLen) =>
    (data i &&& mask (i.castAdd 2)) ^^^ (f.value (i.castAdd 2) &&& mask (i.castAdd 2))
  let m := bytes.foldl (fun m i => m ||| differs f.mam i) 0
  let n := bytes.foldl (fun n i => n ||| differs f.manm i) 0
  let hasN := bytes.foldl (fun hasN i => hasN ||| f.manm (i.castAdd 2)) 0
  if m ≠ 0 then false else if hasN ≠ 0 ∧ n = 0 then false else true

-- An entry of crc32_table: `j` is shifted eight times until only its lowest bit is left, at the top.
def crc32Entry (i : UInt32) : UInt32 :=
  ((fun (k, j) => ((k <<< 1) ^^^ (if (k ^^^ j) &&& 0x80000000 ≠ 0 then 0x04c11db7 else 0), j <<< 1))^[8]
    ((0, (i <<< 24) ||| 0x800000) : UInt32 × UInt32)).1

def swdmxCrc32 (data : List UInt8) : UInt32 :=
  data.foldl (fun crc b => (crc <<< 8) ^^^ crc32Entry ((crc >>> 24) ^^^ b.toUInt32)) 0xffffffff

def sectionCbs (s : SecState) : Bool → List (Nat × Filter D) → List (Delivery D)
  | _, [] => []
  | crc, (addr, filter) :: rest =>
    if filter.params.crc32 ∧ ¬crc ∧ swdmxCrc32 s.bytes ≠ 0 then []
    else
      (if secFilterMatch s.sec filter then filter.cbList.map fun cb => .sec addr cb s.bytes
        else []) ++ sectionCbs s (crc || filter.params.crc32) rest

namespace SwDemux

def filtersOf (dmx : SwDemux D) (f : PidFilter) (kind : FilterKind) : List (Nat × Filter D) :=
  (f.filterList kind).filterMap fun addr => (dmx.filters addr).map fun filter => (addr, filter)

def putSection (dmx : SwDemux D) (addr : Nat) (s : SecState) : SwDemux D :=
  { dmx with
    pidFilterList := dmx.pidFilterList.map fun f =>
      if f.addr = addr then { f with secData := some s.sec, secRecv := s.recv } else f }

end SwDemux

def secBuffer (dmx : SwDemux D) (f : PidFilter) : Option ((Nat → UInt8) × SwDemux D) :=
  match f.secData with
  | some sec => some (sec, dmx)
  | none => (swdmxMalloc dmx).map fun (addr, dmx) => (dmx.held addr, dmx)

def pidFilterData (dmx : SwDemux D) (f : PidFilter) (pkt : TsPacket) :
    Option (SwDemux D × List (Delivery D)) :=
  let packets := (dmx.filtersOf f .ts).flatMap fun (addr, filter) =>
    filter.cbList.map fun cb => Delivery.packet addr cb pkt
  if (f.filterList .sec).isEmpty then some (dmx, packets)
  else
    match pkt.payloadBytes with
    | none => some (dmx, packets)
    | some payload =>
      if pkt.scramble ≠ 0 then some (dmx, packets)
      else do
        let (sec, dmx) ← secBuffer dmx f
        let (s, completed) ← secPayload { sec, recv := f.secRecv } pkt.payloadStart payload
        return (dmx.putSection f.addr s,
          packets ++ completed.flatMap fun s => sectionCbs s false (dmx.filtersOf f .sec))

def swdmxDemuxTsPacketCb (dmx : SwDemux D) (pkt : TsPacket) :
    Option (SwDemux D × List (Delivery D)) :=
  match dmx.pidFilterList.find? fun f => pkt.pid == f.pid with
  | none => some (dmx, [])
  | some f => pidFilterData dmx f pkt

def receive (dmx : SwDemux D) : List TsPacket → Option (SwDemux D × List (Delivery D))
  | [] => some (dmx, [])
  | pkt :: rest => do
    let (dmx, out) ← swdmxDemuxTsPacketCb dmx pkt
    let (dmx, later) ← receive dmx rest
    return (dmx, out ++ later)

structure Path where
  tsp : TsParser
  decrypt : DescAlgo → UInt8 → List UInt8 → List UInt8
  desc : Descrambler

def Path.packets (path : Path) (found : List (List UInt8)) : List TsPacket :=
  (found.filterMap tsPacket).map (swdmxDescramblerTsPacketCb path.decrypt path.desc)

def Path.run (path : Path) (dmx : SwDemux D) (data : List UInt8) :
    Option (SwDemux D × List (Delivery D) × Nat) :=
  let (pkts, consumed) := swdmxTsParserRun path.tsp data
  (receive dmx (pkts.map (swdmxDescramblerTsPacketCb path.decrypt path.desc))).map fun (dmx, out) =>
    (dmx, out, consumed)

def Path.write (path : Path) (dmx : SwDemux D) (pending : List UInt8) :
    List (List UInt8) → Option (SwDemux D × List (Delivery D))
  | [] => some (dmx, [])
  | chunk :: chunks => do
    let (dmx, out, consumed) ← path.run dmx (pending ++ chunk)
    let (dmx, later) ← path.write dmx ((pending ++ chunk).drop consumed) chunks
    return (dmx, out ++ later)

theorem receive_append (dmx : SwDemux D) (first second : List TsPacket) :
    receive dmx (first ++ second) =
      (receive dmx first).bind fun (dmx, out) =>
        (receive dmx second).map fun (dmx, later) => (dmx, out ++ later) := by
  induction first generalizing dmx with
  | nil =>
    simp only [receive, List.nil_append, Option.bind_some]
    cases receive dmx second <;> rfl
  | cons pkt rest ih =>
    simp only [receive, List.cons_append, Option.bind_eq_bind, Option.bind_assoc, ih]
    congr 1
    funext ⟨next, out⟩
    cases receive next rest with
    | none => rfl
    | some result =>
      obtain ⟨last, later⟩ := result
      simp only [Option.bind_some, Option.pure_def]
      cases receive last second with
      | none => rfl
      | some final => simp

theorem Path.write_eq (path : Path) (dmx : SwDemux D) (pending : List UInt8)
    (short : pending.length < path.tsp.packetSize) (chunks : List (List UInt8)) :
    path.write dmx pending chunks =
      receive dmx (path.packets
        (scan path.tsp.packetSize (· == 0x47) (pending ++ chunks.flatten)).1) := by
  have positive : 0 < path.tsp.packetSize := Nat.lt_of_lt_of_le (by decide) path.tsp.atLeast
  rw [← scanChunks_eq_scan positive pending short]
  induction chunks generalizing dmx pending with
  | nil => rfl
  | cons chunk chunks ih =>
    have left : (scan path.tsp.packetSize (· == 0x47) (pending ++ chunk)).2.length <
        path.tsp.packetSize := blocks_rest_short positive (Nat.le_refl _)
    have both : path.packets (scanChunks path.tsp.packetSize (· == 0x47) pending (chunk :: chunks)).1 =
        path.packets (scan path.tsp.packetSize (· == 0x47) (pending ++ chunk)).1 ++
          path.packets (scanChunks path.tsp.packetSize (· == 0x47)
            (scan path.tsp.packetSize (· == 0x47) (pending ++ chunk)).2 chunks).1 := by
      rw [scanChunks, Path.packets, List.filterMap_append, List.map_append]
      rfl
    rw [both, receive_append, Path.write]
    simp only [Path.run, swdmxTsParserRun]
    unfold Path.packets
    cases receive dmx (((scan path.tsp.packetSize (· == 0x47) (pending ++ chunk)).1.filterMap
      tsPacket).map (swdmxDescramblerTsPacketCb path.decrypt path.desc)) with
    | none => rfl
    | some result =>
      simp only [Option.map_some, Option.bind_eq_bind, Option.bind_some, Option.pure_def]
      rw [drop_consumed, ih _ _ left, Path.packets]
      cases receive result.1 _ <;> rfl

end UnionpiTiger.Demux
