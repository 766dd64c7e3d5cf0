import UnionpiTiger.Demux.Swdmx

set_option autoImplicit false

namespace UnionpiTiger.Demux

def secBufLen : Nat := 4096 + 3

-- `sec_data` and `sec_recv` of a PID filter.
structure SecState where
  sec : Nat → UInt8
  recv : Nat

def memcpy (sec : Nat → UInt8) (place : Nat) (p : List UInt8) (n : Int) : Option (Nat → UInt8) :=
  if 0 ≤ n ∧ place + n ≤ secBufLen ∧ n ≤ p.length then
    some fun i => if place ≤ i ∧ (i : Int) < place + n then p.getD (i - place) 0 else sec i
  else none

def secLen (s : SecState) : Int := (((s.sec 1 &&& 0xf).toNat <<< 8 ||| (s.sec 2).toNat) + 3 : Nat)

def receiveBytes (s : SecState) (p : List UInt8) (n : Int) : Option (SecState × List UInt8) :=
  if n = 0 then some (s, p)
  else (memcpy s.sec s.recv p n).map fun sec =>
    ({ sec, recv := s.recv + n.toNat }, p.drop n.toNat)

def receiveHeader (s : SecState) (p : List UInt8) : Option (SecState × List UInt8) :=
  if s.recv < 3 then receiveBytes s p (min (p.length : Int) (3 - s.recv)) else some (s, p)

def secData (s : SecState) (p : List UInt8) : Option (Nat × SecState × Option SecState) := do
  let len := p.length
  let (s, p) ← receiveHeader s p
  if s.recv < 3 then return (len, s, none)
  if s.sec 0 = 0xff then return (len, s, none)
  let (s, p) ← receiveBytes s p (min (secLen s - s.recv) p.length)
  if (s.recv : Int) = secLen s then return (len - p.length, { s with recv := 0 }, some s)
  return (len - p.length, s, none)

def secLoop : Nat → SecState → List UInt8 → Option (SecState × List SecState)
  | _, s, [] => some (s, [])
  | 0, _, _ :: _ => none
  | fuel + 1, s, b :: p => do
    let (n, s, completed) ← secData s (b :: p)
    let (s, later) ← secLoop fuel s ((b :: p).drop n)
    return (s, completed.toList ++ later)

def secPayload (s : SecState) (payloadStart : Bool) (payload : List UInt8) :
    Option (SecState × List SecState) :=
  if payloadStart then
    match payload with
    | [] => some ({ s with recv := 0 }, [])
    | ptr :: p =>
      if ptr.toNat > p.length then some (s, [])
      else do
        let (s, first) ←
          if ptr ≠ 0 ∧ s.recv ≠ 0 then
            (secData s (p.take ptr.toNat)).map fun (_, s, completed) => (s, completed.toList)
          else some (s, [])
        let p := p.drop ptr.toNat
        let (s, later) ← secLoop p.length { s with recv := 0 } p
        return (s, first ++ later)
  else secLoop payload.length s payload

namespace SecState

def bytes (s : SecState) : List UInt8 := (List.range s.recv).map s.sec

@[simp] theorem length_bytes (s : SecState) : s.bytes.length = s.recv := by simp [bytes]

theorem getD_bytes (s : SecState) {i : Nat} (within : i < s.recv) : s.bytes.getD i 0 = s.sec i := by
  simp [bytes, List.getD, within]

end SecState

def sectionLength (b1 b2 : UInt8) : Nat := b1.toNat % 16 * 256 + b2.toNat + 3

theorem sectionLength_le (b1 b2 : UInt8) : sectionLength b1 b2 ≤ 4098 := by
  have low := b2.toNat_lt
  unfold sectionLength
  omega

theorem secLen_eq (s : SecState) : secLen s = sectionLength (s.sec 1) (s.sec 2) := by
  have low := (s.sec 2).toNat_lt
  have nibble : (s.sec 1 &&& 0xf).toNat = (s.sec 1).toNat % 16 := by
    rw [UInt8.toNat_and]
    exact Nat.and_two_pow_sub_one_eq_mod _ 4
  have parts : ((s.sec 1).toNat % 16) <<< 8 ||| (s.sec 2).toNat =
      (s.sec 1).toNat % 16 * 256 + (s.sec 2).toNat := by
    rw [Nat.shiftLeft_eq, Nat.mul_comm, ← Nat.two_pow_add_eq_or_of_lt low, Nat.mul_comm]
  unfold secLen sectionLength
  rw [nibble, parts]

theorem memcpy_some (sec : Nat → UInt8) (place : Nat) (p : List UInt8) (n : Nat)
    (within : place + n ≤ secBufLen) (enough : n ≤ p.length) :
    memcpy sec place p n =
      some fun i => if place ≤ i ∧ i < place + n then p.getD (i - place) 0 else sec i := by
  unfold memcpy
  rw [if_pos ⟨Int.natCast_nonneg n, by exact_mod_cast within, by exact_mod_cast enough⟩]
  congr 1
  funext i
  congr 2
  rw [← Int.natCast_add, Int.ofNat_lt]

theorem receiveBytes_some (s : SecState) (p : List UInt8) (n : Nat)
    (within : s.recv + n ≤ secBufLen) (enough : n ≤ p.length) :
    ∃ next, receiveBytes s p n = some (next, p.drop n) ∧ next.bytes = s.bytes ++ p.take n ∧
      next.recv = s.recv + n := by
  unfold receiveBytes
  by_cases zero : (n : Int) = 0
  · obtain rfl : n = 0 := by exact_mod_cast zero
    exact ⟨s, by simp, by simp, rfl⟩
  · rw [if_neg zero, memcpy_some _ _ _ _ within enough, Option.map_some, Int.toNat_natCast]
    refine ⟨_, rfl, ?_, rfl⟩
    refine List.ext_getElem (by simp [enough]) fun i inNext inBoth => ?_
    rw [SecState.length_bytes] at inNext
    simp only [SecState.bytes, List.getElem_map, List.getElem_range]
    by_cases early : i < s.recv
    · rw [if_neg (fun both => absurd both.1 (Nat.not_le.mpr early)),
        List.getElem_append_left (by simpa using early)]
      simp
    · have late := Nat.not_lt.mp early
      have there : i - s.recv < p.length := by
        replace inNext : i < s.recv + n := inNext
        omega
      rw [if_pos ⟨late, inNext⟩, List.getElem_append_right (by simpa using late)]
      simp [List.getD, there]

theorem recv_of_bytes {s : SecState} {done : List UInt8} (holds : s.bytes = done) :
    s.recv = done.length := by
  rw [← holds, SecState.length_bytes]

-- What sec_data leaves behind it: less than a header, stuffing, or a section that is not complete.
def SecState.Safe (s : SecState) : Prop :=
  s.recv < 3 ∨ s.recv = 3 ∧ s.sec 0 = 0xff ∨
    3 ≤ s.recv ∧ s.sec 0 ≠ 0xff ∧ s.recv < sectionLength (s.sec 1) (s.sec 2)

theorem safe_of_short {s : SecState} (short : s.recv < 3) : s.Safe := Or.inl short

theorem receiveHeader_some (s : SecState) (p : List UInt8) :
    ∃ next rest, receiveHeader s p = some (next, rest) ∧
      next.bytes ++ rest = s.bytes ++ p ∧ (next.recv < 3 → rest = []) ∧
      (s.recv < 3 → next.recv ≤ 3) ∧ (3 ≤ s.recv → next = s ∧ rest = p) := by
  unfold receiveHeader
  by_cases short : s.recv < 3
  · rw [if_pos short]
    have count : min (p.length : Int) (3 - s.recv) = (min p.length (3 - s.recv) : Nat) := by omega
    obtain ⟨next, received, bytes, recv⟩ := receiveBytes_some s p (min p.length (3 - s.recv))
      (by unfold secBufLen; omega) (by omega)
    rw [count, received]
    refine ⟨next, _, rfl, ?_, ?_, fun _ => by omega, fun full => absurd short (by omega)⟩
    · rw [bytes, List.append_assoc, List.take_append_drop]
    · intro still
      refine List.drop_of_length_le ?_
      omega
  · rw [if_neg short]
    exact ⟨s, p, rfl, rfl, fun still => absurd still short, fun was => absurd was short,
      fun _ => ⟨rfl, rfl⟩⟩

theorem getD_of_bytes {s : SecState} {rest all : List UInt8} (bytes : s.bytes ++ rest = all) {i : Nat}
    (within : i < s.recv) : s.sec i = all.getD i 0 := by
  rw [← bytes, ← s.getD_bytes within, List.getD_eq_getElem?_getD,
    List.getD_eq_getElem?_getD, List.getElem?_append_left (by simpa using within)]

section

variable {s : SecState} {p all : List UInt8}

theorem secData_short (bytes : s.bytes ++ p = all) (short : all.length < 3) :
    ∃ next, secData s p = some (p.length, next, none) ∧ next.bytes = all := by
  obtain ⟨next, rest, received, same, emptied, -, -⟩ := receiveHeader_some s p
  have less : next.recv < 3 := by
    have := congrArg List.length (same.trans bytes)
    rw [List.length_append, SecState.length_bytes] at this
    omega
  refine ⟨next, ?_, ?_⟩
  · unfold secData
    simp only [received, Option.bind_eq_bind, Option.bind_some, if_pos less, Option.pure_def]
  · rw [← bytes, ← same, emptied less, List.append_nil]

theorem secData_stuffing (bytes : s.bytes ++ p = all) (full : 3 ≤ all.length)
    (stuffing : all.getD 0 0 = 0xff) (begun : s.recv ≤ 3) :
    ∃ next, secData s p = some (p.length, next, none) ∧ next.recv = 3 ∧ next.sec 0 = 0xff := by
  obtain ⟨next, rest, received, same, emptied, most, kept⟩ := receiveHeader_some s p
  have total := congrArg List.length (same.trans bytes)
  rw [List.length_append, SecState.length_bytes] at total
  have three : next.recv = 3 := by
    rcases Nat.lt_or_ge next.recv 3 with less | more
    · rw [emptied less] at total
      simp only [List.length_nil] at total
      omega
    · rcases Nat.lt_or_ge s.recv 3 with short | whole
      · have := most short
        omega
      · rw [(kept whole).1] at more ⊢
        omega
  have first : next.sec 0 = 0xff := by
    rw [getD_of_bytes (same.trans bytes) (by omega)]
    exact stuffing
  refine ⟨next, ?_, three, first⟩
  unfold secData
  simp only [received, Option.bind_eq_bind, Option.bind_some,
    if_neg (by omega : ¬next.recv < 3), if_pos first, Option.pure_def]

theorem receiveHeader_section (safe : s.Safe) (bytes : s.bytes ++ p = all) (full : 3 ≤ all.length)
    (table : all.getD 0 0 ≠ 0xff) :
    ∃ next rest, receiveHeader s p = some (next, rest) ∧ next.bytes ++ rest = all ∧
      3 ≤ next.recv ∧ next.sec 0 ≠ 0xff ∧
      secLen next = sectionLength (all.getD 1 0) (all.getD 2 0) ∧
      next.recv ≤ sectionLength (all.getD 1 0) (all.getD 2 0) := by
  obtain ⟨next, rest, received, same, emptied, most, kept⟩ := receiveHeader_some s p
  replace same := same.trans bytes
  have total := congrArg List.length same
  rw [List.length_append, SecState.length_bytes] at total
  have header : 3 ≤ next.recv := by
    by_contra less
    rw [emptied (Nat.not_le.mp less), List.length_nil] at total
    omega
  have at0 := getD_of_bytes same (by omega : 0 < next.recv)
  have at1 := getD_of_bytes same (by omega : 1 < next.recv)
  have at2 := getD_of_bytes same (by omega : 2 < next.recv)
  refine ⟨next, rest, received, same, header, at0 ▸ table, ?_, ?_⟩
  · rw [secLen_eq, at1, at2]
  · rw [← at1, ← at2]
    rcases Nat.lt_or_ge s.recv 3 with short | whole
    · have three := most short
      unfold sectionLength
      omega
    · obtain ⟨rfl, rfl⟩ := kept whole
      rcases safe with less | ⟨-, first⟩ | ⟨-, -, less⟩
      · omega
      · exact absurd first (at0 ▸ table)
      · exact Nat.le_of_lt less

theorem secData_part (safe : s.Safe) (bytes : s.bytes ++ p = all) (full : 3 ≤ all.length)
    (table : all.getD 0 0 ≠ 0xff)
    (part : all.length < sectionLength (all.getD 1 0) (all.getD 2 0)) :
    ∃ next, secData s p = some (p.length, next, none) ∧ next.bytes = all := by
  obtain ⟨next, rest, received, same, header, first, total, -⟩ :=
    receiveHeader_section safe bytes full table
  have size := congrArg List.length same
  rw [List.length_append, SecState.length_bytes] at size
  have most := sectionLength_le (all.getD 1 0) (all.getD 2 0)
  have count : min (secLen next - next.recv) (rest.length : Int) = (rest.length : Nat) := by
    rw [total]
    omega
  obtain ⟨last, copied, lastBytes, recv⟩ := receiveBytes_some next rest rest.length
    (by unfold secBufLen; omega) (Nat.le_refl _)
  rw [List.take_length, same] at lastBytes
  have lastLen : secLen last = sectionLength (all.getD 1 0) (all.getD 2 0) := by
    have whole : last.bytes ++ [] = all := by rw [List.append_nil, lastBytes]
    rw [secLen_eq, getD_of_bytes whole (by omega), getD_of_bytes whole (by omega)]
  have unfinished : ¬(last.recv : Int) = secLen last := by
    rw [lastLen]
    omega
  refine ⟨last, ?_, lastBytes⟩
  unfold secData
  simp only [received, count, copied, Option.bind_eq_bind, Option.bind_some,
    if_neg (Nat.not_lt.mpr header), if_neg first, if_neg unfinished, Option.pure_def,
    List.drop_length, List.length_nil, Nat.sub_zero]

theorem secData_whole (safe : s.Safe) (bytes : s.bytes ++ p = all) (full : 3 ≤ all.length)
    (table : all.getD 0 0 ≠ 0xff)
    (whole : sectionLength (all.getD 1 0) (all.getD 2 0) ≤ all.length) :
    ∃ next, secData s p =
        some (sectionLength (all.getD 1 0) (all.getD 2 0) - s.recv, { next with recv := 0 },
          some next) ∧
      next.bytes = all.take (sectionLength (all.getD 1 0) (all.getD 2 0)) := by
  obtain ⟨next, rest, received, same, header, first, total, most⟩ :=
    receiveHeader_section safe bytes full table
  have size := congrArg List.length same
  rw [List.length_append, SecState.length_bytes] at size
  have before := congrArg List.length bytes
  rw [List.length_append, SecState.length_bytes] at before
  have bound := sectionLength_le (all.getD 1 0) (all.getD 2 0)
  generalize length : sectionLength (all.getD 1 0) (all.getD 2 0) = len at *
  have count : min (secLen next - next.recv) (rest.length : Int) = (len - next.recv : Nat) := by
    rw [total]
    omega
  obtain ⟨last, copied, lastBytes, recv⟩ := receiveBytes_some next rest (len - next.recv)
    (by unfold secBufLen; omega) (by omega)
  have taken : last.bytes = all.take len := by
    have kept : next.bytes.take len = next.bytes :=
      List.take_of_length_le (by rw [SecState.length_bytes]; exact most)
    rw [lastBytes, ← same, List.take_append, SecState.length_bytes, kept]
  have lastLen : secLen last = len := by
    have three : 3 ≤ len := by omega
    have split : last.bytes ++ all.drop len = all := by rw [taken, List.take_append_drop]
    rw [secLen_eq, getD_of_bytes split (by omega), getD_of_bytes split (by omega), length]
  have finished : (last.recv : Int) = secLen last := by
    rw [lastLen]
    omega
  refine ⟨last, ?_, taken⟩
  unfold secData
  simp only [received, count, copied, Option.bind_eq_bind, Option.bind_some,
    if_neg (Nat.not_lt.mpr header), if_neg first, if_pos finished, Option.pure_def,
    List.length_drop]
  congr 2
  omega

-- Whatever the bytes are, sec_data stays within its buffer and consumes some of them.
theorem secData_safe (safe : s.Safe) (some_ : p ≠ []) :
    ∃ n next completed, secData s p = some (n, next, completed) ∧ next.Safe ∧ 1 ≤ n ∧
      n ≤ p.length := by
  have positive := List.length_pos_of_ne_nil some_
  have total : (s.bytes ++ p).length = s.recv + p.length := by
    rw [List.length_append, SecState.length_bytes]
  by_cases short : (s.bytes ++ p).length < 3
  · obtain ⟨next, done, bytes⟩ := secData_short rfl short
    refine ⟨_, next, none, done, safe_of_short ?_, positive, Nat.le_refl _⟩
    rw [recv_of_bytes bytes]
    exact short
  have full := Nat.not_lt.mp short
  by_cases table : (s.bytes ++ p).getD 0 0 = 0xff
  · have begun : s.recv ≤ 3 := by
      rcases safe with less | ⟨three, -⟩ | ⟨three, first, -⟩
      · exact Nat.le_of_lt less
      · exact Nat.le_of_eq three
      · exact absurd ((getD_of_bytes rfl (by omega)).trans table) first
    obtain ⟨next, done, recv, first⟩ := secData_stuffing rfl full table begun
    exact ⟨_, next, none, done, Or.inr (Or.inl ⟨recv, first⟩), positive, Nat.le_refl _⟩
  · rcases Nat.lt_or_ge (s.bytes ++ p).length
      (sectionLength ((s.bytes ++ p).getD 1 0) ((s.bytes ++ p).getD 2 0)) with part | whole
    · obtain ⟨next, done, bytes⟩ := secData_part safe rfl full table part
      have recv := recv_of_bytes bytes
      have all : next.bytes ++ [] = s.bytes ++ p := by rw [List.append_nil, bytes]
      refine ⟨_, next, none, done, Or.inr (Or.inr ⟨by omega, ?_, ?_⟩), positive, Nat.le_refl _⟩
      · rw [getD_of_bytes all (by omega)]
        exact table
      · rw [getD_of_bytes all (by omega), getD_of_bytes all (by omega), recv]
        exact part
    · obtain ⟨next, done, -⟩ := secData_whole safe rfl full table whole
      have less : s.recv < sectionLength ((s.bytes ++ p).getD 1 0) ((s.bytes ++ p).getD 2 0) := by
        rcases safe with less | ⟨three, first⟩ | ⟨three, -, less⟩
        · unfold sectionLength
          omega
        · exact absurd ((getD_of_bytes rfl (by omega)).symm.trans first) table
        · rw [getD_of_bytes (s := s) rfl (by omega : 1 < s.recv),
            getD_of_bytes (s := s) rfl (by omega : 2 < s.recv)] at less
          exact less
      exact ⟨_, _, _, done, safe_of_short (Nat.zero_lt_succ 2), by omega, by omega⟩

theorem secLoop_safe {fuel : Nat} (safe : s.Safe) (enough : p.length ≤ fuel) :
    ∃ next completed, secLoop fuel s p = some (next, completed) ∧ next.Safe := by
  induction fuel generalizing s p with
  | zero =>
    obtain rfl := List.eq_nil_of_length_eq_zero (Nat.le_zero.mp enough)
    exact ⟨s, [], rfl, safe⟩
  | succ fuel ih =>
    cases p with
    | nil => exact ⟨s, [], rfl, safe⟩
    | cons b p =>
      obtain ⟨n, next, completed, done, nextSafe, positive, -⟩ :=
        secData_safe (p := b :: p) safe (List.cons_ne_nil b p)
      have less : ((b :: p).drop n).length ≤ fuel := by
        rw [List.length_drop, List.length_cons]
        rw [List.length_cons] at enough
        omega
      obtain ⟨last, later, rest, lastSafe⟩ := ih nextSafe less
      refine ⟨last, completed.toList ++ later, ?_, lastSafe⟩
      simp only [secLoop, done, rest, Option.bind_eq_bind, Option.bind_some, Option.pure_def]

theorem secLoop_fuel {fuel other : Nat} (safe : s.Safe) (enough : p.length ≤ fuel)
    (more : p.length ≤ other) : secLoop fuel s p = secLoop other s p := by
  induction fuel generalizing other s p with
  | zero =>
    obtain rfl := List.eq_nil_of_length_eq_zero (Nat.le_zero.mp enough)
    cases other <;> rfl
  | succ fuel ih =>
    cases p with
    | nil => cases other <;> rfl
    | cons b p =>
      rw [List.length_cons] at enough more
      obtain ⟨other, rfl⟩ : ∃ less, other = less + 1 := ⟨other - 1, by omega⟩
      obtain ⟨n, next, completed, done, nextSafe, positive, -⟩ :=
        secData_safe (p := b :: p) safe (List.cons_ne_nil b p)
      have dropped : ((b :: p).drop n).length ≤ p.length := by
        rw [List.length_drop, List.length_cons]
        omega
      have rest : secLoop fuel next ((b :: p).drop n) = secLoop other next ((b :: p).drop n) :=
        ih nextSafe (by omega) (by omega)
      simp only [secLoop, done, rest, Option.bind_eq_bind, Option.bind_some]

theorem secPayload_safe (safe : s.Safe) (payloadStart : Bool) (payload : List UInt8) :
    ∃ next completed, secPayload s payloadStart payload = some (next, completed) ∧ next.Safe := by
  unfold secPayload
  cases payloadStart with
  | false => exact secLoop_safe safe (Nat.le_refl _)
  | true =>
    cases payload with
    | nil => exact ⟨_, [], rfl, safe_of_short (Nat.zero_lt_succ 2)⟩
    | cons ptr p =>
      by_cases illegal : ptr.toNat > p.length
      · simp only [if_true, if_pos illegal]
        exact ⟨s, [], rfl, safe⟩
      · simp only [if_true, if_neg illegal]
        have restarts : ∀ t : SecState, ∃ next completed,
            secLoop (p.drop ptr.toNat).length { t with recv := 0 } (p.drop ptr.toNat) =
              some (next, completed) ∧ next.Safe :=
          fun t => secLoop_safe (safe_of_short (Nat.zero_lt_succ 2)) (Nat.le_refl _)
        by_cases pending : ptr ≠ 0 ∧ s.recv ≠ 0
        · have positive : 0 < ptr.toNat := Nat.pos_of_ne_zero fun zero =>
            pending.1 (UInt8.toNat.inj zero)
          have taken : p.take ptr.toNat ≠ [] := by
            apply List.ne_nil_of_length_pos
            rw [List.length_take]
            omega
          obtain ⟨n, t, completed, done, -⟩ := secData_safe safe taken
          obtain ⟨next, later, loop, nextSafe⟩ := restarts t
          refine ⟨next, completed.toList ++ later, ?_, nextSafe⟩
          simp only [if_pos pending, done, loop, Option.map_some, Option.bind_eq_bind,
            Option.bind_some, Option.pure_def]
        · obtain ⟨next, later, loop, nextSafe⟩ := restarts s
          refine ⟨next, later, ?_, nextSafe⟩
          simp only [if_neg pending, loop, Option.bind_eq_bind, Option.bind_some, Option.pure_def,
            List.nil_append]

end

end UnionpiTiger.Demux
