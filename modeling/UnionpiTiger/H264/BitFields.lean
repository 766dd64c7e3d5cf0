import Mathlib.Data.Nat.Log
import Mathlib.Tactic.Ring.RingNF
import UnionpiTiger.H264.BitReader

set_option autoImplicit false

namespace UnionpiTiger.H264.SpsParser

open Lib Prog

section Tables

theorem entry_of_all {α : Type} {table : List α} {size : Nat} {p : α → Prop}
    (all : table.length = size ∧ ∀ a ∈ table, p a) :
    ∀ i < size, ∃ a, table[i]? = some a ∧ p a := by
  intro i less
  have inside : i < table.length := all.1 ▸ less
  exact ⟨table[i], List.getElem?_eq_getElem inside, all.2 _ (List.getElem_mem inside)⟩

theorem golombVlcLen_spec : ∀ i < 512, ∃ len, golombVlcLen[i]? = some len ∧ len ≤ 19 :=
  entry_of_all (by decide +kernel)

theorem ueGolombVlcCode_spec : ∀ i < 512, ∃ code, ueGolombVlcCode[i]? = some code ∧ code ≤ 32 :=
  entry_of_all (by decide +kernel)

theorem seGolombVlcCode_length : seGolombVlcCode.length = 512 := by decide +kernel

theorem ffLog2Tab_spec : ∀ v < 256, ffLog2Tab[v]? = some (Nat.log2 v) := by decide +kernel

theorem log2_div {v : Nat} (k : Nat) (large : 2 ^ k ≤ v) : Nat.log2 (v / 2 ^ k) + k = Nat.log2 v := by
  have positive : v ≠ 0 := by
    have pow := Nat.two_pow_pos k
    omega
  have least : k ≤ Nat.log 2 v := (Nat.le_log_iff_pow_le Nat.one_lt_two positive).mpr large
  rw [Nat.log2_eq_log_two, Nat.log2_eq_log_two, Nat.log_div_base_pow, Nat.sub_add_cancel least]

theorem log2_lt_iff {v k : Nat} (positive : 0 < k) : Nat.log2 v < k ↔ v < 2 ^ k := by
  rcases Nat.eq_zero_or_pos v with rfl | nonzero
  · exact iff_of_true positive (Nat.two_pow_pos k)
  · exact Nat.log2_lt (Nat.ne_of_gt nonzero)

-- With the leading zeros and as many bits behind the first one, the code has a value of 13 bits
-- at most.
theorem shifted_code {buf : Nat} (least : 524288 ≤ buf) (most : buf < 134217728) :
    1 ≤ buf >>> (2 * Nat.log2 buf - 31) ∧ buf >>> (2 * Nat.log2 buf - 31) ≤ 8191 := by
  have low : ¬Nat.log2 buf < 19 := fun lt => by
    have small := (log2_lt_iff (by decide)).mp lt
    omega
  have high : Nat.log2 buf < 27 := (log2_lt_iff (by decide)).mpr most
  have self : 2 ^ Nat.log2 buf ≤ buf := Nat.log2_self_le (by omega)
  have next : buf < 2 ^ (Nat.log2 buf + 1) := (log2_lt_iff (Nat.succ_pos _)).mp (Nat.lt_succ_self _)
  rw [Nat.shiftRight_eq_div_pow]
  constructor
  · refine (Nat.one_le_div_iff (Nat.two_pow_pos _)).mpr
      (le_trans (Nat.pow_le_pow_right (by decide) ?_) self)
    omega
  · have bound : buf / 2 ^ (2 * Nat.log2 buf - 31) < 2 ^ 13 := by
      rw [Nat.div_lt_iff_lt_mul (Nat.two_pow_pos _), ← Nat.pow_add]
      refine lt_of_lt_of_le next (Nat.pow_le_pow_right (by decide) ?_)
      omega
    omega

theorem shortLog2?_eq {v : Nat} (n : Nat) (short : v < 65536) :
    shortLog2? v n = some (n + Nat.log2 v) := by
  unfold shortLog2?
  by_cases high : 256 ≤ v
  · have split := log2_div 8 high
    rw [if_pos high, ffLog2Tab_spec (v / 256) (by omega), Option.map_some]
    norm_num at split ⊢
    omega
  · rw [if_neg high, ffLog2Tab_spec v (by omega), Option.map_some]

theorem avLog2?_eq {v : Nat} (word : v < 4294967296) : avLog2? v = some (Nat.log2 v) := by
  unfold avLog2?
  by_cases high : 65536 ≤ v
  · have split := log2_div 16 high
    rw [if_pos high, shortLog2?_eq 16 (by omega)]
    norm_num at split ⊢
    omega
  · rw [if_neg high, shortLog2?_eq 0 (by omega), Nat.zero_add]

end Tables

section Runs

variable {α : Type}

theorem lookup_ok {table : List α} {i : Nat} {a : α} (entry : table[i]? = some a) (r : Reader) :
    lookup table i r = (.ok a, r) := by
  rw [lookup, entry]

theorem avLog2_ok {v : Nat} (word : v < 4294967296) (r : Reader) :
    avLog2 v r = (.ok (Nat.log2 v), r) := by
  rw [avLog2, avLog2?_eq word]

theorem advance_advance (r : Reader) (behind behind' len len' : Nat) :
    (r.advance behind len).advance behind' len' = r.advance (max behind behind') (len + len') := by
  simp [Reader.advance, Nat.add_assoc, Nat.max_assoc]

theorem cacheAt_lt (m : Nat → UInt8) (index : Nat) : cacheAt m index < 4294967296 :=
  Nat.mod_lt _ (by decide)

theorem cacheAt_index (m : Nat → UInt8) (index : Nat) : cacheAt m index >>> 23 < 512 := by
  have word := cacheAt_lt m index
  rw [Nat.shiftRight_eq_div_pow]
  omega

end Runs

section Padding

variable {m : Nat → UInt8} {n : Nat}

def Padded (m : Nat → UInt8) (n : Nat) : Prop := ∀ i, n ≤ i → i < n + 64 → m i = 0

theorem cacheAt_zero (padded : Padded m n) {index : Nat} (behind : n * 8 ≤ index)
    (near : index / 8 + 4 ≤ n + 64) :
    cacheAt m index = 0 := by
  unfold cacheAt
  rw [padded (index / 8) (by omega) (by omega), padded (index / 8 + 1) (by omega) (by omega),
    padded (index / 8 + 2) (by omega) (by omega), padded (index / 8 + 3) (by omega) (by omega)]
  simp

structure Field {α : Type} (n : Nat) (f : Reading α) (V Z : α → Prop) (most reach : Nat) : Prop where
  reads : ∀ r, ∃ v len behind, f r = (.ok v, r.advance behind len) ∧ V v ∧ len ≤ most ∧
    behind * 8 ≤ r.index + reach ∧
    behind ≤ (r.index + len) / 8 + 4 ∧ (n * 8 ≤ r.index → behind ≤ n + 64 → Z v)

structure Fetch {α : Type} (n : Nat) (f : Reading α) (V Z : α → Prop) (most : Nat) : Prop where
  reads : ∀ r, ∃ v len, f r = (.ok v, r.advance (r.index / 8 + 4) len) ∧ V v ∧ len ≤ most ∧
    (n * 8 ≤ r.index → r.index / 8 + 4 ≤ n + 64 → Z v)

theorem Fetch.field {α : Type} {f : Reading α} {V Z : α → Prop} {most : Nat}
    (fetch : Fetch n f V Z most) :
    Field n f V Z most 32 := by
  refine ⟨fun r => ?_⟩
  obtain ⟨v, len, run, value, few, zero⟩ := fetch.reads r
  exact ⟨v, len, _, run, value, few, by omega, by omega, zero⟩

theorem getBits_fetch (padded : Padded m n) (k : Nat) :
    Fetch n (getBits m k) (fun _ => True) (fun v => v = 0) k := by
  refine ⟨fun r => ⟨_, k, rfl, trivial, le_rfl, fun behind near => ?_⟩⟩
  rw [cacheAt_zero padded behind near, Nat.zero_shiftRight]

theorem bitAt_le (m : Nat → UInt8) (index : Nat) : bitAt m index ≤ 1 := by
  unfold bitAt
  omega

theorem getBits1_field (padded : Padded m n) :
    Field n (getBits1 m) (fun v => v ≤ 1) (fun v => v = 0) 1 8 := by
  refine ⟨fun r => ⟨_, 1, _, rfl, bitAt_le m _, le_rfl, by omega, by omega, fun behind near => ?_⟩⟩
  · rw [bitAt, padded (r.index / 8) (by omega) (by omega)]
    simp

theorem showBits_fetch (padded : Padded m n) (k : Nat) :
    Fetch n (showBits m k) (fun _ => True) (fun v => v = 0) 0 := by
  refine ⟨fun r => ⟨_, 0, rfl, trivial, le_rfl, fun behind near => ?_⟩⟩
  rw [cacheAt_zero padded behind near, Nat.zero_shiftRight]

theorem skipBits_field (k : Nat) : Field n (skipBits k) (fun _ => True) (fun _ => True) k 0 :=
  ⟨fun _ => ⟨(), k, 0, rfl, trivial, le_rfl, by omega, by omega, fun _ _ => trivial⟩⟩

theorem getUeGolomb31_fetch (padded : Padded m n) :
    Fetch n (getUeGolomb31 m) (fun v => v ≤ 32) (fun v => v = 32) 19 := by
  refine ⟨fun r => ?_⟩
  obtain ⟨len, lenEntry, few⟩ := golombVlcLen_spec _ (cacheAt_index m r.index)
  obtain ⟨code, codeEntry, small⟩ := ueGolombVlcCode_spec _ (cacheAt_index m r.index)
  refine ⟨code, len, ?_, small, few, fun behind near => ?_⟩
  · unfold getUeGolomb31
    rw [bind_ok (f := fillCache m) rfl, bind_ok (lookup_ok lenEntry _), bind_ok (f := skipBits len) rfl,
      lookup_ok codeEntry, advance_advance]
    simp
  · rw [cacheAt_zero padded behind near] at codeEntry
    exact (Option.some.inj codeEntry).symm

def Readable (m : Nat → UInt8) (index : Nat) : Prop := 524288 ≤ cacheAt m index

theorem getUeGolomb_run (m : Nat → UInt8) (index : Nat) : ∃ v len,
    (∀ r, r.index = index → getUeGolomb m r = (.ok v, r.advance (index / 8 + 4) len)) ∧
    (-1 ≤ v ∧ v ≤ 8190) ∧ len ≤ 63 ∧ (v = -1 ↔ ¬Readable m index) := by
  have word := cacheAt_lt m index
  unfold Readable
  by_cases short : 134217728 ≤ cacheAt m index
  · obtain ⟨len, lenEntry, few⟩ := golombVlcLen_spec _ (cacheAt_index m index)
    obtain ⟨code, codeEntry, small⟩ := ueGolombVlcCode_spec _ (cacheAt_index m index)
    refine ⟨(code : Nat), len, ?_, by omega, by omega, by omega⟩
    rintro r rfl
    unfold getUeGolomb
    rw [bind_ok (f := fillCache m) rfl, if_pos short, bind_ok (lookup_ok lenEntry _),
      bind_ok (lookup_ok codeEntry _), bind_ok (f := skipBits len) rfl, advance_advance]
    simp
    rfl
  · have low : Nat.log2 (cacheAt m index) < 19 ↔ cacheAt m index < 524288 := log2_lt_iff (by decide)
    have shift : (2 * (Nat.log2 (cacheAt m index) : Int) - 31).toNat =
        2 * Nat.log2 (cacheAt m index) - 31 := by omega
    have run : ∀ r : Reader, r.index = index → getUeGolomb m r =
        (if 2 * (Nat.log2 (cacheAt m index) : Int) - 31 < 7 then pure (-1)
          else pure ((cacheAt m index >>> (2 * Nat.log2 (cacheAt m index) - 31) : Nat) -
            1) : Reading Int)
        (r.advance (index / 8 + 4) (32 - (2 * (Nat.log2 (cacheAt m index) : Int) - 31)).toNat) := by
      rintro r rfl
      unfold getUeGolomb
      rw [bind_ok (f := fillCache m) rfl, if_neg short, bind_ok (avLog2_ok word _),
        bind_ok (f := skipBits _) rfl, advance_advance, Nat.max_zero, Nat.zero_add, shift]
    by_cases readable : 524288 ≤ cacheAt m index
    · obtain ⟨least, most⟩ := shifted_code readable (by omega)
      refine ⟨_, _, fun r same => (run r same).trans (congrFun (if_neg ?_) _), ?_, ?_, ?_⟩
      all_goals omega
    · refine ⟨-1, _, fun r same => (run r same).trans (congrFun (if_pos ?_) _), ?_, ?_, ?_⟩
      all_goals omega

-- `get_ue_golomb` returns at most 8190, and -1 when it does not know the code.
theorem getUeGolomb_value (m : Nat → UInt8) (r : Reader) : ∃ len,
    getUeGolomb m r = (.ok (ueAt m r.index), r.advance (r.index / 8 + 4) len) ∧
    (-1 ≤ ueAt m r.index ∧ ueAt m r.index ≤ 8190) ∧ len ≤ 63 ∧
      (ueAt m r.index = -1 ↔ ¬Readable m r.index) := by
  obtain ⟨v, len, run, range, few, invalid⟩ := getUeGolomb_run m r.index
  have value : ueAt m r.index = v :=
    congrArg (fun result : Except Stop Int × Reader => result.1.toOption.getD (-1))
      (run { index := r.index, touched := 0 } rfl)
  rw [value]
  exact ⟨len, run r rfl, range, few, invalid⟩

theorem getUeGolomb_fetch (padded : Padded m n) :
    Fetch n (getUeGolomb m) (fun v => -1 ≤ v ∧ v ≤ 8190) (fun v => v = -1) 63 := by
  refine ⟨fun r => ?_⟩
  obtain ⟨len, run, range, few, invalid⟩ := getUeGolomb_value m r
  refine ⟨_, len, run, range, few, fun behind near => invalid.mpr ?_⟩
  rw [Readable, cacheAt_zero padded behind near]
  decide

theorem getUeGolombLong_field : Field n (getUeGolombLong m) (fun _ => True) (fun _ => True) 63 63 := by
  refine ⟨fun r => ?_⟩
  have word : cacheAt m r.index >>> (32 - 32) < 4294967296 := cacheAt_lt m r.index
  unfold getUeGolombLong
  rw [bind_ok (f := showBits m 32) rfl, bind_ok (avLog2_ok word _), bind_ok (f := skipBits _) rfl,
    bind_ok (f := getBits m _) rfl, advance_advance, advance_advance]
  refine ⟨_, _, _, rfl, trivial, ?_, ?_, ?_, fun _ _ => trivial⟩
  · omega
  · simp only [Reader.advance]
    omega
  · simp only [Reader.advance]
    omega

theorem getSeGolombLong_field : Field n (getSeGolombLong m) (fun _ => True) (fun _ => True) 63 63 := by
  refine ⟨fun r => ?_⟩
  obtain ⟨v, len, behind, run, rest⟩ := (getUeGolombLong_field (m := m) (n := n)).reads r
  unfold getSeGolombLong
  rw [bind_ok run]
  exact ⟨_, len, behind, rfl, rest⟩

theorem getSeGolomb_field : Field n (getSeGolomb m) (fun _ => True) (fun _ => True) 63 63 := by
  refine ⟨fun r => ?_⟩
  have word := cacheAt_lt m r.index
  unfold getSeGolomb
  rw [bind_ok (f := fillCache m) rfl]
  by_cases short : 134217728 ≤ cacheAt m r.index
  · obtain ⟨len, lenEntry, few⟩ := golombVlcLen_spec _ (cacheAt_index m r.index)
    have codeEntry : seGolombVlcCode[cacheAt m r.index >>> 23]? = some _ :=
      List.getElem?_eq_getElem (by rw [seGolombVlcCode_length]; exact cacheAt_index m r.index)
    rw [if_pos short, bind_ok (lookup_ok lenEntry _), bind_ok (lookup_ok codeEntry _),
      bind_ok (f := skipBits len) rfl, advance_advance]
    refine ⟨_, _, _, rfl, trivial, ?_, ?_, ?_, fun _ _ => trivial⟩
    all_goals omega
  · have high : Nat.log2 (cacheAt m r.index) < 27 := (log2_lt_iff (by decide)).mpr (by omega)
    rw [if_neg short, bind_ok (avLog2_ok word _), bind_ok (f := skipBits _) rfl,
      bind_ok (f := fillCache m) rfl, bind_ok (f := skipBits _) rfl, advance_advance,
      advance_advance, advance_advance]
    refine ⟨_, _, _, rfl, trivial, ?_, ?_, ?_, fun _ _ => trivial⟩
    · omega
    · simp only [Reader.advance]
      omega
    · simp only [Reader.advance]
      omega

end Padding

end UnionpiTiger.H264.SpsParser
