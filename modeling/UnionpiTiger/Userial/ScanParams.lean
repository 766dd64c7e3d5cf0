import UnionpiTiger.Userial.HostDelivery

set_option autoImplicit false

namespace UnionpiTiger.Userial

variable {bytes : List UInt8} {i k : Nat}

theorem getD_set_self (below : i < bytes.length) (value : UInt8) :
    (bytes.set i value).getD i 0 = value := by
  rw [List.getD_eq_getElem?_getD, List.getElem?_set_self below]
  rfl

theorem set_getD (bytes : List UInt8) (i : Nat) : bytes.set i (bytes.getD i 0) = bytes := by
  by_cases below : i < bytes.length
  · rw [← List.getElem_eq_getD (h := below), List.set_getElem_self]
  · exact List.set_eq_of_length_le (Nat.le_of_not_lt below)

@[simp] theorem setUint16_length (bytes : List UInt8) (i value : Nat) :
    (setUint16 bytes i value).length = bytes.length := by
  unfold setUint16
  rw [List.length_set, List.length_set]

theorem uint16At_setUint16 (within : i + 1 < bytes.length) (value : Nat) :
    uint16At (setUint16 bytes i value) i = value % 65536 := by
  unfold uint16At setUint16
  rw [getD_set_of_ne (by omega), getD_set_self (by omega), getD_set_self (by rwa [List.length_set]),
    UInt8.toNat_ofNat', UInt8.toNat_ofNat']
  omega

theorem setUint16_other (value : Nat) (outside : k < i ∨ i + 2 ≤ k) :
    (setUint16 bytes i value).getD k 0 = bytes.getD k 0 := by
  unfold setUint16
  rw [getD_set_of_ne (by omega), getD_set_of_ne (by omega)]

theorem uint16At_setUint16_other (value : Nat) (apart : k + 2 ≤ i ∨ i + 2 ≤ k) :
    uint16At (setUint16 bytes i value) k = uint16At bytes k := by
  unfold uint16At
  rw [setUint16_other _ (by omega), setUint16_other _ (by omega)]

theorem setUint16_uint16At (bytes : List UInt8) (i : Nat) :
    setUint16 bytes i (uint16At bytes i) = bytes := by
  have low := (bytes.getD i 0).toNat_lt
  have high := (bytes.getD (i + 1) 0).toNat_lt
  have byte : UInt8.ofNat (uint16At bytes i) = bytes.getD i 0 := by
    apply UInt8.toNat_inj.mp
    rw [UInt8.toNat_ofNat', uint16At]
    omega
  have next : UInt8.ofNat (uint16At bytes i / 256) = bytes.getD (i + 1) 0 := by
    apply UInt8.toNat_inj.mp
    rw [UInt8.toNat_ofNat', uint16At]
    omega
  unfold setUint16
  rw [byte, next, set_getD, set_getD]

def putPair (bytes : List UInt8) (i : Nat) (pair : Nat × Nat) : List UInt8 :=
  setUint16 (setUint16 bytes i pair.1) (i + 2) pair.2

theorem putPair_interval (within : i + 3 < bytes.length) (pair : Nat × Nat) :
    uint16At (putPair bytes i pair) i = pair.1 % 65536 := by
  unfold putPair
  rw [uint16At_setUint16_other _ (.inl (Nat.le_refl _)), uint16At_setUint16 (by omega)]

theorem putPair_window (within : i + 3 < bytes.length) (pair : Nat × Nat) :
    uint16At (putPair bytes i pair) (i + 2) = pair.2 % 65536 :=
  uint16At_setUint16 (by rwa [setUint16_length]) _

theorem putPair_other (pair : Nat × Nat) (outside : k < i ∨ i + 4 ≤ k) :
    (putPair bytes i pair).getD k 0 = bytes.getD k 0 := by
  unfold putPair
  rw [setUint16_other _ (by omega), setUint16_other _ (by omega)]

theorem putPair_of_window (bytes : List UInt8) (i int : Nat) :
    putPair bytes i (int, uint16At bytes (i + 2)) = setUint16 bytes i int := by
  have kept : uint16At (setUint16 bytes i int) (i + 2) = uint16At bytes (i + 2) :=
    uint16At_setUint16_other _ (.inr (Nat.le_refl _))
  unfold putPair
  rw [← kept, setUint16_uint16At]

theorem putPair_of_interval (bytes : List UInt8) (i win : Nat) :
    putPair bytes i (uint16At bytes i, win) = setUint16 bytes (i + 2) win := by
  unfold putPair
  rw [setUint16_uint16At]

def throttled (last : Nat → Nat → Nat × Nat) (int win : Nat) : Nat × Nat :=
  if 20 < win then (if 2 < int / win then int * 20 / win else 40, 20)
  else if win = int then ((int * 5) &&& 0xFE, win)
  else if int / win ≤ 2 then last int win else (int, win)

def widened (int win : Nat) : Nat × Nat := ((int * 3) &&& 0xFE, win)

def misplaced (int _win : Nat) : Nat × Nat := (int, (int * 3) &&& 0xFE)

def scanDivisors (int win : Nat) : List Nat :=
  if 20 < win then if 2 < int / win then [win, win] else [win] else if win = int then [] else [win]

theorem limitScan_eq (last : Nat → Nat → Nat × Nat) (i lastAt : Nat)
    (stored : setUint16 bytes lastAt ((uint16At bytes i * 3) &&& 0xFE) =
      putPair bytes i (last (uint16At bytes i) (uint16At bytes (i + 2)))) :
    limitScan i (i + 2) lastAt bytes =
      putPair bytes i (throttled last (uint16At bytes i) (uint16At bytes (i + 2))) := by
  unfold limitScan throttled
  dsimp only
  split_ifs with large equal ratio
  · rfl
  · rfl
  · exact (putPair_of_window bytes i _).symm
  · exact stored
  · rw [putPair_of_window, setUint16_uint16At]

theorem limitScan_write (bytes : List UInt8) : limitScan 4 6 4 bytes =
    putPair bytes 4 (throttled widened (uint16At bytes 4) (uint16At bytes 6)) :=
  limitScan_eq widened 4 4 (putPair_of_window bytes 4 _).symm

theorem limitScan_setExtended (bytes : List UInt8) : limitScan 7 9 9 bytes =
    putPair bytes 7 (throttled misplaced (uint16At bytes 7) (uint16At bytes 9)) :=
  limitScan_eq misplaced 7 9 (putPair_of_interval bytes 7 _).symm

def HostSender.recvBuffer (s : HostSender) : List UInt8 := s.h4ReadBuffer.drop 1

structure HostSender.Carries (s : HostSender) (opcode i : Nat) (interval window : UInt16) : Prop where
  size : s.h4ReadBuffer.length = h4ReadBufferSize
  opcode : uint16At s.recvBuffer 0 = opcode
  interval : uint16At s.recvBuffer i = interval.toNat
  window : uint16At s.recvBuffer (i + 2) = window.toNat

variable {s : HostSender} {interval window : UInt16} {opcode : Nat}

theorem HostSender.Carries.length (carries : s.Carries opcode i interval window) :
    s.recvBuffer.length = h4ReadBufferSize - 1 := by
  unfold HostSender.recvBuffer
  rw [List.length_drop, carries.size]

theorem HostSender.rewrite_recvBuffer (carries : s.Carries opcode i interval window)
    (recvBuffer : List UInt8) :
    (s.rewrite recvBuffer).recvBuffer = recvBuffer := by
  have one : (s.h4ReadBuffer.take 1).length = 1 := by
    rw [List.length_take, carries.size]
    rfl
  exact List.drop_left' one

theorem HostSender.Carries.write (carries : s.Carries hciBleWriteScanParams 4 interval window) :
    s.userialHandleCmd.1.recvBuffer =
      putPair s.recvBuffer 4 (throttled widened interval.toNat window.toNat) := by
  have opcode : uint16At (s.h4ReadBuffer.drop 1) 0 = hciBleWriteScanParams := carries.opcode
  unfold HostSender.userialHandleCmd
  dsimp only
  rw [if_pos opcode, HostSender.rewrite_recvBuffer carries, ← carries.interval, ← carries.window]
  exact limitScan_write _

theorem HostSender.Carries.setExtended
    (carries : s.Carries hciLeSetExtendedScanParameters 7 interval window) :
    s.userialHandleCmd.1.recvBuffer =
      putPair s.recvBuffer 7 (throttled misplaced interval.toNat window.toNat) := by
  have opcode : uint16At (s.h4ReadBuffer.drop 1) 0 = hciLeSetExtendedScanParameters := carries.opcode
  unfold HostSender.userialHandleCmd
  dsimp only
  rw [if_neg (by rw [opcode]; decide), if_pos opcode, HostSender.rewrite_recvBuffer carries,
    ← carries.interval, ← carries.window]
  exact limitScan_setExtended _

def carrier (opcode i : Nat) (interval window : UInt16) : HostSender where
  h4ReadBuffer :=
    0 :: putPair (setUint16 (List.replicate (h4ReadBufferSize - 1) 0) 0 opcode) i
    (interval.toNat, window.toNat)

theorem carrier_carries (small : opcode < 65536) (behind : 2 ≤ i)
    (within : i + 3 < h4ReadBufferSize - 1) (interval window : UInt16) :
    (carrier opcode i interval window).Carries opcode i interval window := by
  have length : (setUint16 (List.replicate (h4ReadBufferSize - 1) 0) 0 opcode).length =
      h4ReadBufferSize - 1 := by
    rw [setUint16_length, List.length_replicate]
  have fits : i + 3 < (setUint16 (List.replicate (h4ReadBufferSize - 1) 0) 0 opcode).length :=
    by rwa [length]
  have first : 0 + 1 < (List.replicate (h4ReadBufferSize - 1) (0 : UInt8)).length := by
    rw [List.length_replicate]
    decide
  exact
    { size := by
        change (putPair _ i _).length + 1 = h4ReadBufferSize
        unfold putPair
        rw [setUint16_length, setUint16_length, length]
        rfl
      opcode := by
        change uint16At (putPair _ i _) 0 = opcode
        unfold putPair
        rw [uint16At_setUint16_other _ (.inl (by omega)), uint16At_setUint16_other _ (.inl (by omega)),
          uint16At_setUint16 first, Nat.mod_eq_of_lt small]
      interval := (putPair_interval fits _).trans (Nat.mod_eq_of_lt interval.toNat_lt)
      window := (putPair_window fits _).trans (Nat.mod_eq_of_lt window.toNat_lt) }

structure HalfDuty (interval window : Nat) : Prop where
  lower : 4 ≤ window
  ordered : window ≤ interval
  upper : window ≤ 20
  half : 2 * window ≤ interval

structure Throttles (interval window : UInt16)
    (write write' extended extended' : List UInt8) : Prop where
  divisors : ∀ divisor ∈ scanDivisors interval.toNat window.toNat, divisor ≠ 0
  sameInterval : uint16At write' 4 = uint16At extended' 7
  sameWindow : uint16At write' 6 = uint16At extended' 9
  writeOther : ∀ k, k < 4 ∨ 8 ≤ k → write'.getD k 0 = write.getD k 0
  extendedOther : ∀ k, k < 7 ∨ 11 ≤ k → extended'.getD k 0 = extended.getD k 0
  slow : 4 ≤ window → window ≤ interval → interval ≤ 0x4000 →
    HalfDuty (uint16At write' 4) (uint16At write' 6)

def ThrottledAlike (interval window : UInt16) : Prop :=
  ∀ write extended : HostSender, write.Carries hciBleWriteScanParams 4 interval window →
    extended.Carries hciLeSetExtendedScanParameters 7 interval window →
    Throttles interval window write.recvBuffer write.userialHandleCmd.1.recvBuffer extended.recvBuffer
      extended.userialHandleCmd.1.recvBuffer

def Apart (interval window : UInt16) : Prop :=
  20 < window.toNat ∨ window = interval ∨ 0 < window.toNat ∧ 3 * window.toNat ≤ interval.toNat

instance (interval window : UInt16) : Decidable (Apart interval window) :=
  inferInstanceAs (Decidable (_ ∨ _))

theorem Apart.divisors (apart : Apart interval window) :
    ∀ divisor ∈ scanDivisors interval.toNat window.toNat, divisor ≠ 0 := by
  intro divisor there
  unfold scanDivisors at there
  split_ifs at there with large ratio equal
  · rw [(List.mem_pair.mp there).elim id id]
    exact Nat.ne_of_gt (Nat.lt_trans (by decide) large)
  · rw [List.mem_singleton.mp there]
    exact Nat.ne_of_gt (Nat.lt_trans (by decide) large)
  · cases there
  · rw [List.mem_singleton.mp there]
    have differ : window ≠ interval := fun same => equal (congrArg UInt16.toNat same)
    exact Nat.ne_of_gt ((apart.resolve_left large).resolve_left differ).1

theorem throttled_apart (apart : Apart interval window) (last : Nat → Nat → Nat × Nat) :
    throttled last interval.toNat window.toNat =
      if 20 < window.toNat then
        (if 2 < interval.toNat / window.toNat then interval.toNat * 20 / window.toNat else 40, 20)
      else if window = interval then ((interval.toNat * 5) &&& 0xFE, window.toNat)
      else (interval.toNat, window.toNat) := by
  unfold throttled
  by_cases large : 20 < window.toNat
  · rw [if_pos large, if_pos large]
  rw [if_neg large, if_neg large]
  by_cases equal : window = interval
  · rw [if_pos (congrArg UInt16.toNat equal), if_pos equal]
  rw [if_neg (fun same => equal (UInt16.toNat_inj.mp same)), if_neg equal]
  obtain ⟨positive, third⟩ := (apart.resolve_left large).resolve_left equal
  have ratio : 3 ≤ interval.toNat / window.toNat := (Nat.le_div_iff_mul_le positive).mpr third
  rw [if_neg (by omega)]

theorem and_0xFE {n : Nat} (small : n < 256) : n &&& 0xFE = n - n % 2 := by
  have all : ∀ k : Fin 256, k.val &&& 0xFE = k.val - k.val % 2 := by decide +kernel
  exact all ⟨n, small⟩

theorem throttled_half (apart : Apart interval window) (last : Nat → Nat → Nat × Nat)
    (lower : 4 ≤ window) (ordered : window ≤ interval) (upper : interval ≤ 0x4000) :
    HalfDuty (throttled last interval.toNat window.toNat).1
      (throttled last interval.toNat window.toNat).2 ∧
      (throttled last interval.toNat window.toNat).1 < 65536 := by
  have lower : 4 ≤ window.toNat := lower
  have ordered : window.toNat ≤ interval.toNat := ordered
  have upper : interval.toNat ≤ 0x4000 := upper
  rw [throttled_apart apart]
  by_cases large : 20 < window.toNat
  · rw [if_pos large]
    by_cases ratio : 2 < interval.toNat / window.toNat
    · rw [if_pos ratio]
      have third : 3 * window.toNat ≤ interval.toNat := (Nat.le_div_iff_mul_le (by omega)).mp ratio
      have least : 60 ≤ interval.toNat * 20 / window.toNat :=
        (Nat.le_div_iff_mul_le (by omega)).mpr (by omega)
      have most : interval.toNat * 20 / window.toNat < 65536 :=
        (Nat.div_lt_iff_lt_mul (by omega)).mpr (by omega)
      dsimp only
      exact ⟨⟨by decide, by omega, by decide, by omega⟩, most⟩
    · rw [if_neg ratio]
      exact ⟨⟨by decide, by decide, by decide, by decide⟩, by decide⟩
  rw [if_neg large]
  by_cases equal : window = interval
  · rw [if_pos equal]
    have same : window.toNat = interval.toNat := congrArg UInt16.toNat equal
    dsimp only
    rw [and_0xFE (by omega)]
    exact ⟨⟨lower, by omega, by omega, by omega⟩, by omega⟩
  · rw [if_neg equal]
    have third := ((apart.resolve_left large).resolve_left equal).2
    exact ⟨⟨lower, ordered, by omega, by omega⟩, by omega⟩

theorem ThrottledAlike.of_apart (apart : Apart interval window) : ThrottledAlike interval window := by
  intro write extended carriesWrite carriesExtended
  have room : 4 + 3 < write.recvBuffer.length := by
    rw [carriesWrite.length]
    decide
  have extendedRoom : 7 + 3 < extended.recvBuffer.length := by
    rw [carriesExtended.length]
    decide
  have same : throttled misplaced interval.toNat window.toNat =
      throttled widened interval.toNat window.toNat :=
    (throttled_apart apart misplaced).trans (throttled_apart apart widened).symm
  rw [carriesWrite.write, carriesExtended.setExtended, same]
  exact
    { divisors := apart.divisors
      sameInterval := (putPair_interval room _).trans (putPair_interval extendedRoom _).symm
      sameWindow := (putPair_window room _).trans (putPair_window extendedRoom _).symm
      writeOther := fun _ outside => putPair_other _ outside
      extendedOther := fun _ outside => putPair_other _ outside
      slow := fun lower ordered upper => by
        obtain ⟨half, small⟩ := throttled_half apart widened lower ordered upper
        rw [putPair_interval room, putPair_window room, Nat.mod_eq_of_lt small,
          Nat.mod_eq_of_lt (Nat.lt_of_le_of_lt half.ordered small)]
        exact half }

theorem ThrottledAlike.apart (alike : ThrottledAlike interval window) : Apart interval window := by
  by_contra refused
  obtain ⟨small, refused⟩ := not_or.mp refused
  obtain ⟨differ, refused⟩ := not_or.mp refused
  have unequal : ¬ window.toNat = interval.toNat := fun same => differ (UInt16.toNat_inj.mp same)
  have carriesWrite : (carrier hciBleWriteScanParams 4 interval window).Carries
      hciBleWriteScanParams 4 interval window :=
    carrier_carries (by decide) (by decide) (by decide) interval window
  have carriesExtended : (carrier hciLeSetExtendedScanParameters 7 interval window).Carries
      hciLeSetExtendedScanParameters 7 interval window :=
    carrier_carries (by decide) (by decide) (by decide) interval window
  have kept := alike _ _ carriesWrite carriesExtended
  have positive : 0 < window.toNat := by
    refine Nat.pos_of_ne_zero (kept.divisors _ ?_)
    unfold scanDivisors
    rw [if_neg small, if_neg unequal]
    exact List.mem_singleton_self _
  have ratio : interval.toNat / window.toNat ≤ 2 := by
    have below : ¬ 3 ≤ interval.toNat / window.toNat := fun third =>
      refused ⟨positive, (Nat.le_div_iff_mul_le positive).mp third⟩
    omega
  have last (pair : Nat → Nat → Nat × Nat) : throttled pair interval.toNat window.toNat =
      pair interval.toNat window.toNat := by
    unfold throttled
    rw [if_neg small, if_neg unequal, if_pos ratio]
  -- the first has the product as its interval, the second as its window
  have sameInterval := kept.sameInterval
  have sameWindow := kept.sameWindow
  rw [carriesWrite.write, carriesExtended.setExtended, last, last] at sameInterval sameWindow
  rw [putPair_interval (by rw [carriesWrite.length]; decide),
    putPair_interval (by rw [carriesExtended.length]; decide)]
    at sameInterval
  have sameWindow : window.toNat % 65536 = ((interval.toNat * 3) &&& 0xFE) % 65536 :=
    (putPair_window (i := 4) (by rw [carriesWrite.length]; decide) _).symm.trans
      (sameWindow.trans (putPair_window (i := 7) (by rw [carriesExtended.length]; decide) _))
  have sameInterval : ((interval.toNat * 3) &&& 0xFE) % 65536 = interval.toNat % 65536 := sameInterval
  refine unequal ?_
  rw [← Nat.mod_eq_of_lt window.toNat_lt, ← Nat.mod_eq_of_lt interval.toNat_lt]
  exact sameWindow.trans sameInterval

theorem scanParams_throttled_iff (interval window : UInt16) :
    ThrottledAlike interval window ↔ Apart interval window :=
  ⟨ThrottledAlike.apart, ThrottledAlike.of_apart⟩

theorem scanParams_not_throttled :
    ¬ ThrottledAlike 15 10 ∧ throttled misplaced 15 10 = (15, 44) ∧ ¬ ThrottledAlike 16 0 ∧
      0 ∈ scanDivisors 16 0 :=
  ⟨fun alike => absurd alike.apart (by decide),
    by decide, fun alike => absurd alike.apart (by decide), by decide⟩

end UnionpiTiger.Userial
