import UnionpiTiger.H264.ParamSets
import UnionpiTiger.H264.ResChange

set_option autoImplicit false

namespace UnionpiTiger.H264

open Lib

-- A unit with its start code: without one inside, and ending in a byte that cannot be of the next
-- one.
structure NalUnit where
  long : Bool
  header : UInt8
  payload : List UInt8
  forbiddenZeroBit : header.toNat / 128 = 0
  free : ¬[0, 0, 1] <:+: header :: payload
  last : (header :: payload).getLast? ≠ some 0

namespace NalUnit

def code (u : NalUnit) : List UInt8 := if u.long then [0, 0, 0, 1] else [0, 0, 1]

def bytes (u : NalUnit) : List UInt8 := u.header :: u.payload

def isSps (u : NalUnit) : Bool := u.header.toNat % 32 = nalH264Sps

end NalUnit

def stream (units : List NalUnit) : List UInt8 := units.flatMap fun u => u.code ++ u.bytes

def wanted (units : List NalUnit) : List (List UInt8) :=
  ((units.find? NalUnit.isSps).map fun u => extracted u.bytes).toList

section Runs

variable {Sps : Type} (memory : Int → Nat → Option (Nat → UInt8))
  (parserSps : List UInt8 → Sps → Int × Sps)

def recording (rbsp : List UInt8) (state : Sps × List (List UInt8)) : Int × Sps × List (List UInt8) :=
  let (ret, sps) := parserSps rbsp state.1
  (ret, sps, state.2 ++ [rbsp])

def parserRuns (m : Nat → Byte) (size : Int) (zeroed : Sps) : List (List UInt8) :=
  (h264DecodeExtradataPs memory (recording parserSps) m size { sps := (zeroed, []), spsParsed := false }).2.sps.2

end Runs

section Reached

variable (memory : Int → Nat → Option (Nat → UInt8))

def Loads (left : Int) (src : List UInt8) : Prop :=
  (memory left (src.length + avInputBufferPaddingSize)).isSome = true ∧
    0 ≤ initGetBits8 (extracted src).length

instance (left : Int) (src : List UInt8) : Decidable (Loads memory left src) :=
  inferInstanceAs (Decidable (_ ∧ _))

-- What `calc_nal_len` takes for the unit: the end is not searched in the last four bytes.
def segment (u : NalUnit) (rest : List NalUnit) : List UInt8 :=
  if (stream rest).length = 4 then u.bytes ++ stream rest else u.bytes

def Reached : List NalUnit → Prop
  | [] => True
  | u :: rest => Loads memory (stream (u :: rest)).length (segment u rest) ∧
      if u.isSps then (stream rest).length ≠ 4 else Reached rest

def parsedUnit : List NalUnit → Option (List UInt8)
  | [] => none
  | u :: rest =>
    if Loads memory (stream (u :: rest)).length (segment u rest) then if u.isSps
      then some (extracted (segment u rest)) else parsedUnit rest
    else none

def SpsReached (units : List NalUnit) : Prop :=
  units.any NalUnit.isSps = true → 5 ≤ (stream units).length ∧ (stream units).length < 2147483648 ∧
    Reached memory units

end Reached

section Stream

theorem stream_cons (u : NalUnit) (rest : List NalUnit) :
    stream (u :: rest) = u.code ++ (u.bytes ++ stream rest) := by
  simp [stream]

theorem code_length (u : NalUnit) : 3 ≤ u.code.length ∧ u.code.length ≤ 4 := by
  unfold NalUnit.code
  split_ifs <;> simp

theorem bytes_pos (u : NalUnit) : 0 < u.bytes.length := Nat.succ_pos _

theorem stream_length (units : List NalUnit) : units = [] ∨ 4 ≤ (stream units).length := by
  match units with
  | [] => exact .inl rfl
  | u :: rest =>
    have code := code_length u
    have positive := bytes_pos u
    refine .inr ?_
    rw [stream_cons, List.length_append, List.length_append]
    omega

theorem extractLoop_filter (l : List UInt8) : (extractLoop l).filter (· ≠ 3) = l.filter (· ≠ 3) := by
  induction l using extractLoop.induct with
  | case1 a b c rest escape ih =>
    rw [extractLoop, if_pos escape]
    simpa [escape.1, escape.2.1, escape.2.2] using ih
  | case2 a b c rest plain ih =>
    rw [extractLoop, if_neg plain, List.filter_cons, List.filter_cons, ih]
  | case3 src short => rw [extractLoop]; exact short

theorem extracted_filter (l : List UInt8) : (extracted l).filter (· ≠ 3) = l.filter (· ≠ 3) := by
  rw [extracted, List.filter_append, extractLoop_filter, ← List.filter_append, List.take_append_drop]

theorem extracted_append_ne {l tail : List UInt8} (zero : 0 ∈ tail) :
    extracted (l ++ tail) ≠ extracted l := by
  intro same
  have filtered := congrArg (List.filter (· ≠ 3)) same
  rw [extracted_filter, extracted_filter, List.filter_append] at filtered
  have empty := List.append_right_eq_self.mp filtered
  have kept : 0 ∈ tail.filter (· ≠ 3) := List.mem_filter.mpr ⟨zero, by decide⟩
  rw [empty] at kept
  exact List.not_mem_nil kept

theorem stream_zero {units : List NalUnit} (more : units ≠ []) : 0 ∈ stream units := by
  obtain ⟨u, rest, rfl⟩ := List.exists_cons_of_ne_nil more
  rw [stream_cons]
  refine List.mem_append_left _ ?_
  unfold NalUnit.code
  split_ifs <;> simp

end Stream

section Memory

variable {m : Nat → Byte} {p : Nat}

def Holds (m : Nat → Byte) (p : Nat) (l : List UInt8) : Prop := bytes m p l.length = l

theorem bytes_add (m : Nat → Byte) (p a b : Nat) :
    bytes m p (a + b) = bytes m p a ++ bytes m (p + a) b := by
  unfold bytes span
  rw [List.range_add]
  simp [Function.comp_def, Nat.add_assoc]

theorem holds_append {l r : List UInt8} :
    Holds m p (l ++ r) ↔ Holds m p l ∧ Holds m (p + l.length) r := by
  unfold Holds
  rw [List.length_append, bytes_add]
  exact ⟨fun both => List.append_inj both (bytes_length _ _ _),
    fun ⟨left, right⟩ => by rw [left, right]⟩

theorem Holds.getElem? {l : List UInt8} (holds : Holds m p l) {i : Nat} (below : i < l.length) :
    l[i]? = some (UInt8.ofBitVec (m (p + i))) := by
  rw [← holds]
  simp [bytes, span, below]

theorem Holds.eq {l : List UInt8} (holds : Holds m p l) {i : Nat} {value : UInt8}
    (is_ : l[i]? = some value) :
    m (p + i) = value.toBitVec := by
  have below : i < l.length := (List.getElem?_eq_some_iff.mp is_).1
  rw [holds.getElem? below] at is_
  rw [← Option.some.inj is_]

theorem three_within {l : List UInt8} {i : Nat} {a b c : UInt8} (first : l[i]? = some a)
    (second : l[i + 1]? = some b) (third : l[i + 2]? = some c) : [a, b, c] <:+: l := by
  obtain ⟨-, rfl⟩ := List.getElem?_eq_some_iff.mp first
  obtain ⟨-, rfl⟩ := List.getElem?_eq_some_iff.mp second
  obtain ⟨-, rfl⟩ := List.getElem?_eq_some_iff.mp third
  refine ⟨l.take i, l.drop (i + 3), ?_⟩
  rw [List.append_assoc, List.cons_append, List.cons_append, List.cons_append, List.nil_append,
    ← List.drop_eq_getElem_cons, ← List.drop_eq_getElem_cons, ← List.drop_eq_getElem_cons,
    List.take_append_drop]

theorem plain_unit (u : NalUnit) (holds : Holds m p u.bytes) {i : Nat}
    (inside : i < u.bytes.length) : ¬CodeAt m (p + i) := by
  have get : ∀ k value, k < u.bytes.length → m (p + k) = value →
      u.bytes[k]? = some (UInt8.ofBitVec value) := by
    rintro k - below rfl
    exact holds.getElem? below
  have ends : ∀ k, m (p + k) = 0 → k + 1 ≠ u.bytes.length := by
    intro k zero length
    refine u.last ?_
    rw [List.getLast?_eq_getElem?, show (u.header :: u.payload).length - 1 =
      k from Nat.sub_eq_of_eq_add length.symm]
    exact get k 0 (by omega) zero
  rintro (⟨first, second, third⟩ | ⟨first, second, third, fourth⟩)
  · have none_ := ends i first
    have none' := ends (i + 1) second
    exact u.free (three_within (get i 0 inside first) (get (i + 1) 0 (by omega) second)
      (get (i + 2) 1 (by omega) third))
  · have none_ := ends i first
    have none' := ends (i + 1) second
    have none'' := ends (i + 2) third
    exact u.free (three_within (get (i + 1) 0 (by omega) second) (get (i + 2) 0 (by omega) third)
      (get (i + 3) 1 (by omega) fourth))

theorem code_bytes (u : NalUnit) (holds : Holds m p u.code) :
    (u.code.length = 3 ∧ m (p + 2) = 1 ∨ u.code.length = 4 ∧ m (p + 2) = 0 ∧ m (p + 3) = 1) ∧
      m p = 0 ∧ m (p + 1) = 0 := by
  unfold NalUnit.code at holds ⊢
  split_ifs at holds ⊢
  · exact ⟨.inr ⟨rfl, holds.eq (i := 2) rfl, holds.eq (i := 3) rfl⟩, holds.eq (i := 0) rfl,
      holds.eq (i := 1) rfl⟩
  · exact ⟨.inl ⟨rfl, holds.eq (i := 2) rfl⟩, holds.eq (i := 0) rfl, holds.eq (i := 1) rfl⟩

theorem code_found (u : NalUnit) (holds : Holds m p u.code) {len : Int} (long : u.code.length < len) :
    findStartCode m p len.toNat = some u.code.length := by
  obtain ⟨pattern, zeros⟩ := code_bytes u holds
  refine find_eq_some_iff.mpr ⟨?_, zeros⟩
  obtain ⟨three, one⟩ | ⟨four, third, one⟩ := pattern
  · exact .inl ⟨three, by omega, one⟩
  · exact .inr ⟨four, by omega, third, one⟩

theorem code_codeAt (u : NalUnit) (holds : Holds m p u.code) : CodeAt m p := by
  obtain ⟨pattern, first, second⟩ := code_bytes u holds
  obtain ⟨-, one⟩ | ⟨-, third, one⟩ := pattern
  · exact .inl ⟨first, second, one⟩
  · exact .inr ⟨first, second, third, one⟩

end Memory

section Search

variable {σ ρ P Sps : Type} {hit : (Nat → Byte) → Nat → Nat → Int → σ → Except ρ σ} {size : Int}
  {m : Nat → Byte} {p : Nat}
  {memory : Int → Nat → Option (Nat → UInt8)} {parserSps : List UInt8 → Sps → Int × Sps}

theorem find_plain (plain : ¬CodeAt m p) (len : Int) : findStartCode m p len.toNat = none := by
  refine Option.eq_none_iff_forall_ne_some.mpr fun j found => plain ?_
  obtain ⟨⟨-, -, one⟩ | ⟨-, -, third, one⟩, first, second⟩ := find_eq_some_iff.mp found
  · exact .inl ⟨first, second, one⟩
  · exact .inr ⟨first, second, third, one⟩

theorem scan_plain {passes : Nat} {len : Int} {s : σ} (k : Nat) (plain : ∀ i < k, ¬CodeAt m (p + i)) :
    scan hit size m passes p len s = scan hit size m (passes - k) (p + k) len s := by
  induction k generalizing passes p with
  | zero => rfl
  | succ k ih =>
    match passes with
    | 0 => rw [Nat.zero_sub, scan, scan]
    | passes + 1 =>
      have now : ¬CodeAt m p := plain 0 (Nat.succ_pos k)
      rw [scan_none (find_plain now len), ih fun i below => ?_]
      · rw [Nat.add_sub_add_right, Nat.add_assoc, Nat.add_comm 1 k]
      · have later := plain (i + 1) (by omega)
        rwa [Nat.add_assoc, Nat.add_comm 1 i]

theorem calcNalLen_none {len : Int} (plain : ∀ i < (len - 4).toNat, ¬CodeAt m (p + i)) :
    calcNalLen m p len = len := by
  have search : ((List.range (len - 4).toNat).find? fun i => CodeAt m (p + i)) = none := by
    refine List.find?_eq_none.mpr fun i below => ?_
    simpa using plain i (List.mem_range.mp below)
  unfold calcNalLen
  rw [search]

theorem calcNalLen_some {len : Int} {i : Nat} (below : i + 4 < len) (code : CodeAt m (p + i))
    (plain : ∀ k < i, ¬CodeAt m (p + k)) :
    calcNalLen m p len = i := by
  have search : ((List.range (len - 4).toNat).find? fun i => CodeAt m (p + i)) = some i := by
    refine List.find?_range_eq_some.mpr ⟨decide_eq_true code, List.mem_range.mpr (by omega),
      fun k before => ?_⟩
    simpa using plain k before
  unfold calcNalLen
  rw [search]

theorem segment_bytes (u : NalUnit) (rest : List NalUnit) (holds : Holds m p (u.bytes ++ stream rest)) :
    bytes m p (calcNalLen m p (u.bytes ++ stream rest).length).toNat = segment u rest := by
  obtain ⟨unit, behind⟩ := holds_append.mp holds
  have plain : ∀ i < u.bytes.length, ¬CodeAt m (p + i) := fun i inside => plain_unit u unit inside
  by_cases few : (stream rest).length ≤ 4
  · have whole : calcNalLen m p (u.bytes ++ stream rest).length = (u.bytes ++ stream rest).length := by
      refine calcNalLen_none fun i below => plain i ?_
      rw [List.length_append] at below
      omega
    rw [whole, Int.toNat_natCast, segment]
    split_ifs with four
    · exact holds
    · rcases stream_length rest with rfl | least
      · simpa [stream, Holds] using holds
      · omega
  · match rest, few with
    | [], few => exact absurd (Nat.zero_le 4) few
    | next :: rest, few =>
      have end_ : calcNalLen m p (u.bytes ++ stream (next :: rest)).length = u.bytes.length := by
        refine calcNalLen_some ?_ ?_ plain
        · rw [List.length_append]
          omega
        · rw [stream_cons] at behind
          exact code_codeAt next (holds_append.mp behind).1
      rw [end_, Int.toNat_natCast, segment, if_neg (by omega)]
      exact unit

theorem decode_unit {unit : List UInt8 → P → Int × P} (u : NalUnit) (rest : List NalUnit)
    (holds : Holds m p (stream (u :: rest))) (small : (stream (u :: rest)).length < 2147483648)
    (ps : P) :
    decodeExtradataPs memory unit m p (stream (u :: rest)).length ps =
      match memory (stream (u :: rest)).length ((segment u rest).length + avInputBufferPaddingSize) with
      | none => (-enomem, ps)
      | some _ =>
        if initGetBits8 (extracted (segment u rest)).length < 0
          then (initGetBits8 (extracted (segment u rest)).length, ps)
        else unit (extracted (segment u rest)) ps := by
  rw [stream_cons] at holds small ⊢
  obtain ⟨code, inside⟩ := holds_append.mp holds
  have positive := bytes_pos u
  have found := (@code_found _ _ u code (u.code ++ (u.bytes ++ stream rest)).length) (by
    simp only [List.length_append]
    omega)
  have left : (((u.code ++ (u.bytes ++ stream rest)).length : Nat) : Int) - (u.code.length : Nat) =
      ((u.bytes ++ stream rest).length : Nat) := by
    simp only [List.length_append]
    omega
  have run : decodeExtradataPs memory unit m p (u.code ++ (u.bytes ++ stream rest)).length ps = _ :=
    decodeExtradataPs_found found (by omega) ps
  rw [left, segment_bytes u rest inside] at run
  exact run

end Search

section Run

variable {Sps : Type} {memory : Int → Nat → Option (Nat → UInt8)}
  {parserSps : List UInt8 → Sps → Int × Sps} {m : Nat → Byte}
  {p : Nat} {u : NalUnit} {rest : List NalUnit} {ps : H264ParamSets (Sps × List (List UInt8))}

theorem hit_unloaded {j : Nat} (holds : Holds m p (stream (u :: rest)))
    (small : (stream (u :: rest)).length < 2147483648)
    (fails : ¬Loads memory (stream (u :: rest)).length (segment u rest)) :
    ∃ ret, searchHit memory (h264Unit (recording parserSps)) H264ParamSets.spsParsed m p j
      (stream (u :: rest)).length ps =
      .error (ret, ps) := by
  unfold searchHit
  rw [decode_unit u rest holds small ps]
  match allocated : memory (stream (u :: rest)).length
    ((segment u rest).length + avInputBufferPaddingSize) with
  | none => exact ⟨-enomem, if_pos (by simp [enomem])⟩
  | some _ =>
    have negative : initGetBits8 (extracted (segment u rest)).length < 0 := by
      by_contra nonneg
      exact fails ⟨by rw [allocated]; rfl, by omega⟩
    dsimp only
    rw [if_pos negative]
    exact ⟨_, if_pos (by dsimp only; omega)⟩

theorem decode_loaded (holds : Holds m p (stream (u :: rest)))
    (small : (stream (u :: rest)).length < 2147483648)
    (loads : Loads memory (stream (u :: rest)).length (segment u rest)) :
    ∃ more, extracted (segment u rest) = u.header :: more ∧
      decodeExtradataPs memory (h264Unit (recording parserSps)) m p (stream (u :: rest)).length ps =
        h264Unit (recording parserSps) (u.header :: more) ps := by
  obtain ⟨more, header⟩ : ∃ more, extracted (segment u rest) = u.header :: more := by
    unfold segment NalUnit.bytes
    split_ifs <;> exact ⟨_, rfl⟩
  obtain ⟨garbage, allocated⟩ := Option.isSome_iff_exists.mp loads.1
  refine ⟨more, header, ?_⟩
  rw [decode_unit u rest holds small ps, allocated]
  dsimp only
  rw [if_neg (by have nonneg := loads.2; omega), header]

theorem hit_other {j : Nat} (holds : Holds m p (stream (u :: rest)))
    (small : (stream (u :: rest)).length < 2147483648)
    (loads : Loads memory (stream (u :: rest)).length (segment u rest)) (other : u.isSps = false)
    (fresh : ps.spsParsed = false) :
    searchHit memory (h264Unit (recording parserSps)) H264ParamSets.spsParsed m p j
      (stream (u :: rest)).length ps = .ok ps := by
  obtain ⟨more, -, decoded⟩ := decode_loaded holds small loads
  have type : ¬u.header.toNat % 32 = nalH264Sps := of_decide_eq_false other
  have done : h264Unit (recording parserSps) (u.header :: more) ps = (0, ps) := by
    simp [h264Unit, u.forbiddenZeroBit, type]
  unfold searchHit
  rw [decoded, done]
  dsimp only
  rw [if_neg (by simp), fresh, if_neg (by simp)]

theorem hit_sps {j : Nat} (holds : Holds m p (stream (u :: rest)))
    (small : (stream (u :: rest)).length < 2147483648)
    (loads : Loads memory (stream (u :: rest)).length (segment u rest)) (sps : u.isSps = true) :
    ∃ r, searchHit memory (h264Unit (recording parserSps)) H264ParamSets.spsParsed m p j
      (stream (u :: rest)).length ps =
        .error r ∧ r.2.sps.2 = ps.sps.2 ++ [extracted (segment u rest)] := by
  obtain ⟨more, header, decoded⟩ := decode_loaded holds small loads
  have type : u.header.toNat % 32 = nalH264Sps := of_decide_eq_true sps
  have done : (h264Unit (recording parserSps) (u.header :: more) ps).2.sps.2 =
      ps.sps.2 ++ [u.header :: more] := by
    simp only [h264Unit, List.headD_cons, u.forbiddenZeroBit, type]
    rw [if_neg (by simp), if_pos trivial]
    split_ifs <;> rfl
  have stops := (@h264Unit_sps _ (recording parserSps)) more type ps
  rw [header]
  unfold searchHit
  rw [decoded]
  dsimp only
  by_cases fails : (h264Unit (recording parserSps) (u.header :: more) ps).1 ≠ 0
  · exact ⟨_, if_pos fails, done⟩
  · exact ⟨_, (if_neg fails).trans (if_pos (stops.resolve_left fails)), done⟩

theorem scan_behind {size : Int} (passes : Nat) (len : Int) (behind : size ≤ p)
    (near : (p : Int) + passes ≤ size + 2147483648) :
    (searchResult (scan (searchHit memory (h264Unit (recording parserSps)) H264ParamSets.spsParsed)
      size m passes p len
      ps)).2.sps.2 = ps.sps.2 := by
  induction passes generalizing p with
  | zero => rfl
  | succ passes ih =>
    match found : findStartCode m p len.toNat with
    | none =>
      rw [scan_none found]
      exact ih (by omega) (by omega)
    | some j =>
      have left : s32 (size - p) = size - p := s32_eq (by omega) (by omega)
      have out : searchHit memory (h264Unit (recording parserSps)) H264ParamSets.spsParsed m p j
          (s32 (size - p)) ps =
          .error (-1, ps) := by
        unfold searchHit
        rw [decodeExtradataPs_short (by omega)]
        exact if_pos (by simp)
      rw [scan_error found out]
      rfl

theorem scan_units (units : List NalUnit) (passes : Nat) (len : Int) (size : Nat)
    (holds : Holds m p (stream units)) (ends : p + (stream units).length = size)
    (small : size < 2147483648) (few : passes ≤ size) (enough : size ≤ passes + p + 4)
    (starts : units ≠ [] → 0 < passes ∧ 4 < len) (fresh : ps.spsParsed = false) :
    (searchResult (scan (searchHit memory (h264Unit (recording parserSps)) H264ParamSets.spsParsed)
      size m passes p len
      ps)).2.sps.2 = ps.sps.2 ++ (parsedUnit memory units).toList := by
  induction units generalizing p passes len with
  | nil =>
    rw [scan_behind passes len (by simp [stream] at ends; omega) (by omega)]
    simp [parsedUnit]
  | cons u rest ih =>
    obtain ⟨positive, long⟩ := starts (List.cons_ne_nil u rest)
    obtain ⟨passes, rfl⟩ := Nat.exists_eq_succ_of_ne_zero (Nat.ne_of_gt positive)
    have code := code_length u
    have unit := bytes_pos u
    have parts : (stream (u :: rest)).length =
        u.code.length + (u.bytes.length + (stream rest).length) := by
      rw [stream_cons, List.length_append, List.length_append]
    have left : s32 ((size : Int) - p) = (stream (u :: rest)).length := by
      rw [s32_eq (by omega) (by omega)]
      omega
    have located := holds
    rw [stream_cons, holds_append, holds_append] at located
    obtain ⟨codeHolds, unitHolds, restHolds⟩ := located
    have found := (@code_found _ _ u codeHolds len) (by omega)
    by_cases loads : Loads memory (stream (u :: rest)).length (segment u rest)
    · by_cases sps : u.isSps = true
      · obtain ⟨r, out, runs⟩ := hit_sps (j := u.code.length) holds (by omega) loads sps
        rw [← left] at out
        rw [Nat.succ_eq_add_one, scan_error found out, parsedUnit, if_pos loads, if_pos sps]
        exact runs
      · have out := (@hit_other _ _ parserSps) (j := u.code.length) holds (by omega) loads
          (Bool.eq_false_iff.mpr sps) fresh
        rw [← left] at out
        rw [Nat.succ_eq_add_one, scan_ok found out, scan_plain u.payload.length, parsedUnit,
          if_pos loads, if_neg sps]
        · have size_ : u.bytes.length = u.payload.length + 1 := rfl
          have next : p + u.code.length + 1 + u.payload.length =
              p + u.code.length + u.bytes.length := by omega
          rw [next]
          have more : rest ≠ [] → 4 ≤ (stream rest).length :=
            fun some_ => (stream_length rest).resolve_left some_
          refine ih _ _ restHolds (by omega) (by omega) (by omega) fun some_ => ?_
          have least := more some_
          omega
        · intro i below
          have later : p + u.code.length + 1 + i = p + u.code.length + (i + 1) := by omega
          rw [later]
          exact plain_unit u unitHolds (Nat.succ_lt_succ below)
    · obtain ⟨ret, out⟩ := hit_unloaded (j := u.code.length) holds (by omega) loads
      rw [← left] at out
      rw [Nat.succ_eq_add_one, scan_error found out, parsedUnit, if_neg loads]
      simp [searchResult]

end Run

section Wanted

variable {Sps : Type} {memory : Int → Nat → Option (Nat → UInt8)}
  {parserSps : List UInt8 → Sps → Int × Sps} {m : Nat → Byte}

theorem parsedUnit_none {units : List NalUnit} (none_ : units.any NalUnit.isSps = false) :
    parsedUnit memory units = none := by
  induction units with
  | nil => rfl
  | cons u rest ih =>
    obtain ⟨other, later⟩ := Bool.or_eq_false_iff.mp (List.any_cons.symm.trans none_)
    simp [parsedUnit, other, ih later]

theorem wanted_none {units : List NalUnit} (none_ : units.any NalUnit.isSps = false) :
    wanted units = [] := by
  have search : units.find? NalUnit.isSps = none := by
    refine List.find?_eq_none.mpr fun u member sps => ?_
    rw [List.any_eq_true.mpr ⟨u, member, sps⟩] at none_
    cases none_
  rw [wanted, search]
  rfl

theorem wanted_ne_nil {units : List NalUnit} (some_ : units.any NalUnit.isSps = true) :
    wanted units ≠ [] := by
  obtain ⟨u, member, sps⟩ := List.any_eq_true.mp some_
  obtain ⟨first, search⟩ := Option.isSome_iff_exists.mp (List.find?_isSome.mpr ⟨u, member, sps⟩)
  rw [wanted, search]
  exact List.cons_ne_nil _ _

theorem extracted_segment_iff (u : NalUnit) (rest : List NalUnit) :
    extracted (segment u rest) = extracted u.bytes ↔ (stream rest).length ≠ 4 := by
  unfold segment
  split_ifs with four
  · have more : rest ≠ [] := by
      rintro rfl
      cases four
    exact iff_of_false (extracted_append_ne (stream_zero more)) (not_not.mpr four)
  · exact iff_of_true rfl four

theorem parsedUnit_wanted_iff {units : List NalUnit} (some_ : units.any NalUnit.isSps = true) :
    (parsedUnit memory units).toList = wanted units ↔ Reached memory units := by
  induction units with
  | nil => cases some_
  | cons u rest ih =>
    by_cases sps : u.isSps = true
    · have first : wanted (u :: rest) = [extracted u.bytes] := by simp [wanted, sps]
      rw [parsedUnit, first, Reached, if_pos sps, if_pos sps, ← extracted_segment_iff u rest]
      by_cases loads : Loads memory (stream (u :: rest)).length (segment u rest) <;> simp [loads]
    · have later : rest.any NalUnit.isSps = true := by simpa [sps] using some_
      have same : wanted (u :: rest) = wanted rest := by simp [wanted, sps]
      rw [parsedUnit, same, Reached, if_neg sps, if_neg sps, ← ih later]
      by_cases loads : Loads memory (stream (u :: rest)).length (segment u rest)
      · simp [loads]
      · simp [loads, (wanted_ne_nil later).symm]

theorem parserRuns_eq (m : Nat → Byte) (size : Int) (zeroed : Sps) : parserRuns memory parserSps m size zeroed =
    (searchResult (scan (searchHit memory (h264Unit (recording parserSps)) H264ParamSets.spsParsed) size m (size - 4).toNat 0 size
      { sps := (zeroed, []), spsParsed := false })).2.sps.2 := rfl

theorem parserRuns_none (n : Nat) (zeroed : Sps) (outside : n < 5 ∨ 2147483648 ≤ n) (word : n < 4294967296) :
    parserRuns memory parserSps m (s32 n) zeroed = [] := by
  have none_ : (s32 n - 4).toNat = 0 := by
    unfold s32
    omega
  rw [parserRuns_eq, none_, scan, searchResult]

theorem parserRuns_units (units : List NalUnit) (holds : Holds m 0 (stream units)) (zeroed : Sps)
    (least : 5 ≤ (stream units).length) (most : (stream units).length < 2147483648) :
    parserRuns memory parserSps m (s32 (stream units).length) zeroed = (parsedUnit memory units).toList := by
  have size : s32 (stream units).length = (stream units).length := s32_eq (by omega) (by omega)
  have run := (@scan_units _ memory parserSps _ _ { sps := (zeroed, []), spsParsed := false }) units
    (((stream units).length : Int) - 4).toNat (stream units).length (stream units).length holds (Nat.zero_add _) most (by omega)
    (by omega) (fun _ => by omega) rfl
  rw [size, parserRuns_eq, run, List.nil_append]

theorem parserRuns_iff (units : List NalUnit) (holds : Holds m 0 (stream units)) (zeroed : Sps)
    (word : (stream units).length < 4294967296) :
    parserRuns memory parserSps m (s32 (stream units).length) zeroed = wanted units ↔ SpsReached memory units := by
  by_cases inside : 5 ≤ (stream units).length ∧ (stream units).length < 2147483648
  · rw [parserRuns_units units holds zeroed inside.1 inside.2]
    match some_ : units.any NalUnit.isSps with
    | false =>
      rw [parsedUnit_none some_, wanted_none some_]
      exact iff_of_true rfl fun sps => by rw [some_] at sps; cases sps
    | true =>
      rw [parsedUnit_wanted_iff some_]
      exact ⟨fun reached _ => ⟨inside.1, inside.2, reached⟩, fun reached => (reached some_).2.2⟩
  · rw [parserRuns_none _ zeroed (by omega) word]
    match some_ : units.any NalUnit.isSps with
    | false =>
      rw [wanted_none some_]
      exact iff_of_true rfl fun sps => by rw [some_] at sps; cases sps
    | true =>
      refine iff_of_false (wanted_ne_nil some_).symm fun reached => inside ?_
      obtain ⟨least, most, -⟩ := reached some_
      exact ⟨least, most⟩

end Wanted

end UnionpiTiger.H264

namespace UnionpiTiger.H264

open Lib

structure Setting (Vps Sps HevcSps : Type) where
  memory : Int → Nat → Option (Nat → UInt8)
  vzalloc : Nat → Bool
  parserSps : List UInt8 → Sps → Int × Sps
  parseVps : List UInt8 → Vps → Int × Vps
  parseSps : List UInt8 → HevcSps → Int × HevcSps
  fillVdecParams : Sps → Parsed → Parsed
  zeroed : Sps
  ps : H264ParamSets Sps
  hevcPs : H265ParamSets Vps HevcSps
  vsi : Parsed
  headOffset : BitVec 32

namespace Setting

variable {Vps Sps HevcSps : Type}

structure Searches (e : Setting Vps Sps HevcSps) (m : Nat → Byte) (size : BitVec 32) : Prop where
  h264 : Confined size.toNat (fun m =>
    h264DecodeExtradataPs e.memory e.parserSps m (s32 size.toNat) e.ps) m
  h265 : Confined size.toNat (fun m =>
    h265DecodeExtradataPs e.memory e.parseVps e.parseSps m (s32 size.toNat) e.hevcPs) m
  combine : Confined size.toNat (fun m pos => checkFrameCombine m size.toNat pos) m
  monitor : Confined size.toNat
    (fun m => monitorResChange e.memory e.parserSps e.vzalloc e.zeroed e.fillVdecParams m
      size.toNat e.vsi) m
  write : Confined size.toNat (writeNaluBranch e.vsi.isCombine e.headOffset) m
  sps : ∀ units, (stream units).length = size.toNat → Holds m 0 (stream units) →
    parserRuns e.memory e.parserSps m (s32 size.toNat) e.zeroed = wanted units

def Settled (e : Setting Vps Sps HevcSps) (m : Nat → Byte) (size : BitVec 32) : Prop :=
  Closed (searchHit e.memory (h264Unit e.parserSps) H264ParamSets.spsParsed) (fun _ _ _ _ =>
    True) size.toNat
    (s32 size.toNat) m (s32 size.toNat - 4).toNat 0 (s32 size.toNat) e.ps ∧
  Closed (searchHit e.memory (h265Unit e.parseVps e.parseSps) H265ParamSets.spsParsed)
    (fun _ _ _ _ => True) size.toNat
    (s32 size.toNat) m (s32 size.toNat - 4).toNat 0 (s32 size.toNat) e.hevcPs ∧
  Closed (firstHit size.toNat) (CombineInside size.toNat) size.toNat size.toNat m
    (size.toNat - 4) 0 7 () ∧
  Closed (monitorHit e.memory e.parserSps e.vzalloc e.zeroed e.fillVdecParams) (fun _ p j _ =>
    p + j < size.toNat)
    size.toNat size.toNat m (size.toNat - 4) 0 (s32 size.toNat) e.vsi ∧
  Closed (branchHit e.vsi.isCombine e.headOffset) (fun _ p j _ => p + j < size.toNat ∨
    e.vsi.isCombine = true)
    size.toNat size.toNat m 12 0 7 () ∧
  ∀ units, (stream units).length = size.toNat → Holds m 0 (stream units) → SpsReached e.memory units

theorem searches_iff (e : Setting Vps Sps HevcSps) (m : Nat → Byte) (size : BitVec 32) :
    e.Searches m size ↔ e.Settled m size := by
  have word : size.toNat < 4294967296 := size.isLt
  have h264 := (@decodeParamSets_confined_iff _ e.memory (h264Unit e.parserSps)
    H264ParamSets.spsParsed) (m := m) word e.ps
  have h265 := (@decodeParamSets_confined_iff _ e.memory (h265Unit e.parseVps e.parseSps)
    H265ParamSets.spsParsed) (m := m) word e.hevcPs
  have combine := checkFrameCombine_confined_iff size.toNat m
  have monitor := (@monitorResChange_confined_iff _ e.memory e.parserSps e.vzalloc e.zeroed
    e.fillVdecParams) word m e.vsi
  have write := writeNaluBranch_confined_iff size.toNat m e.vsi.isCombine e.headOffset
  have sps : ∀ units, (stream units).length = size.toNat → Holds m 0 (stream units) →
      (parserRuns e.memory e.parserSps m (s32 size.toNat) e.zeroed = wanted units ↔ SpsReached e.memory units) := by
    intro units length holds
    rw [← length]
    exact parserRuns_iff units holds e.zeroed (by omega)
  unfold Settled
  refine Iff.trans ⟨fun searches => ?_, fun ⟨h264, h265, combine, monitor, write, sps⟩ => ?_⟩
    (and_congr h264 (and_congr h265
      (and_congr combine (and_congr monitor (and_congr write (forall₃_congr sps))))))
  · exact ⟨searches.h264, searches.h265, searches.combine, searches.monitor,
      searches.write, searches.sps⟩
  · exact ⟨h264, h265, combine, monitor, write, sps⟩

section Overread

def plain : Setting Unit Unit Unit where
  memory := fun _ _ => some fun _ => 0
  vzalloc := fun _ => true
  parserSps := fun _ sps => (0, sps)
  parseVps := fun _ vps => (0, vps)
  parseSps := fun _ sps => (0, sps)
  fillVdecParams := fun _ vsi => vsi
  zeroed := ()
  ps := { sps := (), spsParsed := false }
  hevcPs := { vps := (), sps := (), vpsParsed := false, spsParsed := false }
  vsi := { pic := ⟨0, 0, 0, 0, 0, 0, 0, 0⟩, isCombine := false, naluPos := 0 }
  headOffset := 0

def twoUnits (k : Nat) : Byte := [0, 0, 1, 9, 16, 0, 0, 1, 6, 5].getD k 255

def spsFirst (k : Nat) : Byte := [0, 0, 1, 0x67, 0x42, 0, 0, 1, 9].getD k 255

def sps : NalUnit where
  long := false
  header := 0x67
  payload := [0x42]
  forbiddenZeroBit := by decide
  free := by decide
  last := by decide

def delimiter : NalUnit where
  long := false
  header := 9
  payload := []
  forbiddenZeroBit := by decide
  free := by decide
  last := by decide

theorem s32_ten : s32 (10 : BitVec 32).toNat = 10 := by decide

theorem s32_nine : s32 (9 : BitVec 32).toNat = 9 := by decide

theorem two_units_and_short_unit : ¬plain.Searches twoUnits 10 ∧ ¬plain.Searches spsFirst 9 := by
  constructor
  · intro searches
    have same := searches.h264 (followedBy 10 twoUnits fun k => if k < 12 then 0
      else 1) (sameBelow_followedBy 10 twoUnits _)
    have behind : (h264DecodeExtradataPs plain.memory plain.parserSps
        (followedBy 10 twoUnits fun k => if k < 12 then 0 else 1) 10 plain.ps).1 =
          -1 := by decide +kernel
    have nothing : (h264DecodeExtradataPs plain.memory plain.parserSps twoUnits 10 plain.ps).1 =
        0 := by decide +kernel
    dsimp only at same
    rw [s32_ten] at same
    rw [same, nothing] at behind
    cases behind
  · intro searches
    have runs := searches.sps [sps, delimiter] (by decide) (by unfold Holds; decide +kernel)
    have parsed : parserRuns plain.memory plain.parserSps spsFirst 9 plain.zeroed = [[0x67, 0x42, 0, 0, 1, 9]] := by
      decide +kernel
    rw [s32_nine, parsed] at runs
    revert runs
    decide +kernel

end Overread

end Setting

end UnionpiTiger.H264
