import Mathlib.Data.BitVec
import Mathlib.Data.Nat.Bitwise
import UnionpiTiger.Lib.SquaringLog

set_option autoImplicit false

namespace UnionpiTiger.Isp

open Lib

section Words

variable {n : Nat}

-- The last of the shifts is made here too, where the source only counts it.
def narrow (s : Nat × BitVec n) (shift : Nat) : Nat × BitVec n :=
  if 2 ^ shift ≤ s.2.toNat then (s.1 + shift, s.2 >>> shift) else s

def leadingFrom (shifts : List Nat) (val : BitVec n) : Nat := (shifts.foldl narrow (0, val)).1

def log2Step (s : BitVec n × BitVec n) : BitVec n × BitVec n :=
  let b := s.2 * s.2
  if b &&& BitVec.ofNat n (2 ^ 31) ≠ 0 then ((s.1 <<< 1) + 1, b >>> 16) else (s.1 <<< 1, b >>> 15)

def mantissa (pos : Nat) (val : BitVec n) : BitVec n :=
  if pos ≤ 15 then val <<< (15 - pos) else val >>> (pos - 15)

def log2Loop (pos : Nat) (val : BitVec n) (i : Nat) : BitVec n × BitVec n :=
  log2Step^[i] (0, mantissa pos val)

def log2Word (pos : Nat) (val : BitVec n) (precision shiftOut : UInt8) : BitVec n :=
  if val = 0 then 0
  else
    let (result, a) := log2Loop pos val precision.toNat
    (((BitVec.ofNat 32 pos <<< precision.toNat).signExtend n + result) <<< shiftOut.toNat) |||
      ((a &&& 0x7fff) >>> (15 - shiftOut.toNat))

end Words

def leadingOnePosition (val : BitVec 32) : Nat := leadingFrom [16, 8, 4, 2, 1] val

def leadingOnePosition64 (val : BitVec 64) : Nat := leadingFrom [32, 16, 8, 4, 2, 1] val

def acameraLog2IntToFixed (val : BitVec 32) (outPrecision shiftOut : UInt8) : BitVec 32 :=
  log2Word (leadingOnePosition val) val outPrecision shiftOut

def log2IntToFixed64 (val : BitVec 64) (outPrecision shiftOut : UInt8) : BitVec 32 :=
  (log2Word (leadingOnePosition64 val) val outPrecision shiftOut).setWidth 32

def acameraMathLog2 (val : BitVec 32) (outPrecision shiftOut : UInt8) : BitVec 32 :=
  log2Word (leadingOnePosition val) val outPrecision shiftOut

section Leading

variable {n x : Nat}

structure Narrowed (x : Nat) (s : Nat × BitVec n) : Prop where
  some : 0 < s.2.toNat
  least : s.2.toNat * 2 ^ s.1 ≤ x
  most : x < (s.2.toNat + 1) * 2 ^ s.1

theorem Narrowed.narrow {s : Nat × BitVec n} (narrowed : Narrowed x s) (shift : Nat) :
    Narrowed x (narrow s shift) := by
  unfold Isp.narrow
  split_ifs with large
  · have value : (s.2 >>> shift).toNat = s.2.toNat / 2 ^ shift := by simp [Nat.shiftRight_eq_div_pow]
    have positive := Nat.two_pow_pos shift
    constructor
    · simpa [value] using Nat.div_pos large positive
    · simp only [value]
      calc s.2.toNat / 2 ^ shift * 2 ^ (s.1 + shift) =
        s.2.toNat / 2 ^ shift * 2 ^ shift * 2 ^ s.1 := by ring
        _ ≤ s.2.toNat * 2 ^ s.1 := Nat.mul_le_mul_right _ (Nat.div_mul_le_self _ _)
        _ ≤ x := narrowed.least
    · have next : s.2.toNat + 1 ≤ (s.2.toNat / 2 ^ shift + 1) * 2 ^ shift :=
        Nat.lt_mul_of_div_lt (Nat.lt_succ_self _) positive
      simp only [value]
      calc x < (s.2.toNat + 1) * 2 ^ s.1 := narrowed.most
        _ ≤ (s.2.toNat / 2 ^ shift + 1) * 2 ^ shift * 2 ^ s.1 := Nat.mul_le_mul_right _ next
        _ = (s.2.toNat / 2 ^ shift + 1) * 2 ^ (s.1 + shift) := by ring
  · exact narrowed

theorem narrow_lt {s : Nat × BitVec n} {shift : Nat} (within : s.2.toNat < 2 ^ (2 * shift)) :
    (narrow s shift).2.toNat < 2 ^ shift := by
  unfold narrow
  split_ifs with large
  · simp only [BitVec.toNat_ushiftRight, Nat.shiftRight_eq_div_pow]
    refine Nat.div_lt_of_lt_mul ?_
    rwa [← pow_add, ← two_mul]
  · exact not_le.mp large

theorem narrow_small {s : Nat × BitVec n} {shift : Nat} (small : s.2.toNat < 2 ^ shift) :
    narrow s shift = s :=
  if_neg (not_le.mpr small)

theorem leadingFrom_bounds {val : BitVec n} (some : 0 < val.toNat) (fits : val.toNat < 2 ^ 32) :
    2 ^ leadingFrom [16, 8, 4, 2, 1] val ≤ val.toNat ∧
    val.toNat < 2 ^ (leadingFrom [16, 8, 4, 2, 1] val + 1) := by
  have start : Narrowed val.toNat (0, val) := ⟨some, by simp, by simp⟩
  have narrowed := ((((start.narrow 16).narrow 8).narrow 4).narrow 2).narrow 1
  have last : (narrow (narrow (narrow (narrow (narrow (0, val) 16) 8) 4) 2) 1).2.toNat < 2 ^ 1 :=
    narrow_lt (narrow_lt (narrow_lt (narrow_lt (narrow_lt fits))))
  change 2 ^ (narrow (narrow (narrow (narrow (narrow (0, val) 16) 8) 4) 2) 1).1 ≤ _ ∧
    _ < 2 ^ ((narrow (narrow (narrow (narrow (narrow (0, val) 16) 8) 4) 2) 1).1 + 1)
  generalize narrow (narrow (narrow (narrow (narrow (0, val) 16) 8) 4) 2) 1 = s at narrowed last
  obtain ⟨some, least, most⟩ := narrowed
  obtain one : s.2.toNat = 1 := by omega
  rw [one] at least most
  exact ⟨by omega, by rw [pow_succ]; omega⟩

theorem leadingOnePosition_bounds (val : BitVec 32) (some : 0 < val.toNat) :
    2 ^ leadingOnePosition val ≤ val.toNat ∧ val.toNat < 2 ^ (leadingOnePosition val + 1) :=
  leadingFrom_bounds some val.isLt

theorem leadingOnePosition_lt (val : BitVec 32) (some : 0 < val.toNat) :
    leadingOnePosition val < 32 := by
  have least := (leadingOnePosition_bounds val some).1
  exact (Nat.pow_lt_pow_iff_right (by decide : 1 < 2)).mp (least.trans_lt val.isLt)

theorem leadingOnePosition64_setWidth (val : BitVec 32) (some : 0 < val.toNat) :
    leadingOnePosition64 (val.setWidth 64) = leadingOnePosition val := by
  have fits := val.isLt
  have value : (val.setWidth 64).toNat = val.toNat := by simp; omega
  have first : narrow (0, val.setWidth 64) 32 = (0, val.setWidth 64) :=
    narrow_small (by rw [value]; exact fits)
  obtain ⟨least, most⟩ := leadingFrom_bounds some fits
  have wide : leadingOnePosition64 (val.setWidth 64) =
      leadingFrom [16, 8, 4, 2, 1] (val.setWidth 64) := by
    simp only [leadingOnePosition64, leadingFrom, List.foldl_cons, first]
  obtain ⟨least', most'⟩ := (@leadingFrom_bounds _ (val.setWidth 64)) (by omega) (by omega)
  rw [wide]
  rw [value] at least' most'
  have up := (Nat.pow_lt_pow_iff_right (by decide : 1 < 2)).mp (least.trans_lt most')
  have down := (Nat.pow_lt_pow_iff_right (by decide : 1 < 2)).mp (least'.trans_lt most)
  unfold leadingOnePosition
  omega

end Leading

section Loop

variable {n : Nat}

structure Tracks (s : BitVec n × BitVec n) (t : LogState) : Prop where
  result : s.1.toNat = t.digits % 2 ^ n
  a : s.2.toNat = t.mantissa

theorem two_pow_word (wide : 32 ≤ n) : 2 ^ 32 ≤ 2 ^ n := Nat.pow_le_pow_right (by decide) wide

theorem leadingBit_iff {b : BitVec n} (wide : 32 ≤ n) (fits : b.toNat < 2 ^ 32) :
    b &&& BitVec.ofNat n (2 ^ 31) ≠ 0 ↔ 2 ^ 31 ≤ b.toNat := by
  have word := two_pow_word wide
  have value : (b &&& BitVec.ofNat n (2 ^ 31)).toNat = (b.toNat.testBit 31).toNat * 2 ^ 31 := by
    simp only [BitVec.toNat_and, BitVec.toNat_ofNat]
    rw [Nat.mod_eq_of_lt (by omega), Nat.and_comm, Nat.two_pow_and, Nat.mul_comm]
  have top : b.toNat.testBit 31 = decide (2 ^ 31 ≤ b.toNat) := by
    rw [Nat.testBit_eq_decide_div_mod_eq, decide_eq_decide]
    omega
  rw [ne_eq, ← BitVec.toNat_inj, value, top]
  by_cases large : 2 ^ 31 ≤ b.toNat <;> simp

theorem Tracks.step {s : BitVec n × BitVec n} {t : LogState} (tracks : Tracks s t) (wide : 32 ≤ n)
    (normal : t.Normal 15) :
    Tracks (log2Step s) (t.next 15) := by
  have word := two_pow_word wide
  have most := (LogState.square_bounds normal).2
  have square : (s.2 * s.2).toNat = t.mantissa * t.mantissa := by
    rw [BitVec.toNat_mul, tracks.a, Nat.mod_eq_of_lt (by omega)]
  have one : 1 % 2 ^ n = 1 := Nat.mod_eq_of_lt (by omega)
  have carry : s.2 * s.2 &&& BitVec.ofNat n (2 ^ 31) ≠ 0 ↔
      2 ^ (2 * 15 + 1) ≤ t.mantissa * t.mantissa := by
    rw [leadingBit_iff wide (by omega), square]
  unfold log2Step LogState.next
  simp only [carry]
  split_ifs
  · constructor
    · simp [tracks.result, Nat.shiftLeft_eq, one, mul_comm]
    · simp [square, Nat.shiftRight_eq_div_pow]
  · constructor
    · simp [tracks.result, Nat.shiftLeft_eq, mul_comm]
    · simp [square, Nat.shiftRight_eq_div_pow]

theorem mantissa_toNat {pos : Nat} {val : BitVec n} (wide : 32 ≤ n) (most : val.toNat < 2 ^ (pos + 1)) :
    (mantissa pos val).toNat = val.toNat * 2 ^ 15 / 2 ^ pos := by
  have word := two_pow_word wide
  unfold mantissa
  split_ifs with short
  · have exact_ : 2 ^ 15 = 2 ^ (15 - pos) * 2 ^ pos := by rw [← pow_add, Nat.sub_add_cancel short]
    have below : val.toNat * 2 ^ (15 - pos) < 2 ^ (pos + 1) * 2 ^ (15 - pos) :=
      Nat.mul_lt_mul_of_pos_right most (Nat.two_pow_pos _)
    rw [← pow_add, show pos + 1 + (15 - pos) = 16 by omega] at below
    rw [exact_, ← mul_assoc, Nat.mul_div_cancel _ (Nat.two_pow_pos pos), BitVec.toNat_shiftLeft,
      Nat.shiftLeft_eq, Nat.mod_eq_of_lt (by omega)]
  · have split : 2 ^ pos = 2 ^ (pos - 15) * 2 ^ 15 := by rw [← pow_add, Nat.sub_add_cancel (by omega)]
    rw [split, Nat.mul_div_mul_right _ _ (Nat.two_pow_pos 15), BitVec.toNat_ushiftRight,
      Nat.shiftRight_eq_div_pow]

theorem log2Loop_tracks {pos : Nat} {val : BitVec n} (wide : 32 ≤ n) (least : 2 ^ pos ≤ val.toNat)
    (most : val.toNat < 2 ^ (pos + 1)) (i : Nat) :
    Tracks (log2Loop pos val i) ((LogState.next 15)^[i] ⟨0, val.toNat * 2 ^ 15 / 2 ^ pos⟩) ∧
      ((LogState.next 15)^[i] ⟨0, val.toNat * 2 ^ 15 / 2 ^ pos⟩).Normal 15 := by
  induction i with
  | zero => exact ⟨⟨by simp [log2Loop], mantissa_toNat wide most⟩, LogState.ofNat_normal least most⟩
  | succ i ih =>
    simp only [log2Loop, Function.iterate_succ_apply']
    exact ⟨ih.1.step wide ih.2, LogState.next_normal ih.2⟩

theorem integral_toNat {pos precision : Nat} (wide : 32 ≤ n) (small : pos * 2 ^ precision < 2 ^ 31) :
    ((BitVec.ofNat 32 pos <<< precision).signExtend n).toNat = pos * 2 ^ precision := by
  have word := two_pow_word wide
  have less : pos ≤ pos * 2 ^ precision := Nat.le_mul_of_pos_right _ (Nat.two_pow_pos _)
  have value : (BitVec.ofNat 32 pos <<< precision).toNat = pos * 2 ^ precision := by
    rw [BitVec.toNat_shiftLeft, BitVec.toNat_ofNat, Nat.shiftLeft_eq,
      Nat.mod_eq_of_lt (by omega : pos < 2 ^ 32), Nat.mod_eq_of_lt (by omega)]
  have positive : (BitVec.ofNat 32 pos <<< precision).msb = false := by
    rw [BitVec.msb_eq_false_iff_two_mul_lt, value]
    omega
  rw [BitVec.signExtend_eq_setWidth_of_msb_false positive, BitVec.toNat_setWidth, value,
    Nat.mod_eq_of_lt (by omega)]

theorem log2Word_toNat {pos : Nat} {val : BitVec n} {precision shiftOut : UInt8} (wide : 32 ≤ n)
    (least : 2 ^ pos ≤ val.toNat) (most : val.toNat < 2 ^ (pos + 1)) (short : pos < 32)
    (residue : shiftOut ≤ 15) (fits : precision.toNat + shiftOut.toNat ≤ 26) :
    (log2Word pos val precision shiftOut).toNat =
      ((LogState.next 15)^[precision.toNat] (LogState.ofNat 15 pos val.toNat)).fixed 15
        shiftOut.toNat := by
  have word := two_pow_word wide
  have within : shiftOut.toNat ≤ 15 := residue
  have nonzero : val ≠ 0 := by
    rintro rfl
    simp at least
  obtain ⟨tracks, normal⟩ := log2Loop_tracks wide least most precision.toNat
  have digits := LogState.iterate_digits_lt (w := 15) precision.toNat (val.toNat * 2 ^ 15 / 2 ^ pos)
  rw [LogState.ofNat, LogState.iterate_digits]
  unfold log2Word LogState.fixed
  simp only [nonzero, if_false]
  generalize (LogState.next 15)^[precision.toNat] ⟨0, val.toNat * 2 ^ 15 / 2 ^ pos⟩ =
    t at tracks normal digits
  generalize log2Loop pos val precision.toNat = s at tracks
  have bound : pos * 2 ^ precision.toNat + t.digits < 2 ^ (precision.toNat + 5) := by
    have whole : (pos + 1) * 2 ^ precision.toNat ≤ 2 ^ 5 * 2 ^ precision.toNat :=
      Nat.mul_le_mul_right _ (by omega)
    rw [add_mul, one_mul] at whole
    rw [pow_add, mul_comm (2 ^ precision.toNat)]
    omega
  have shifted : (pos * 2 ^ precision.toNat + t.digits) * 2 ^ shiftOut.toNat < 2 ^ 31 := by
    calc _ < 2 ^ (precision.toNat + 5) * 2 ^ shiftOut.toNat :=
      Nat.mul_lt_mul_of_pos_right bound (Nat.two_pow_pos _)
      _ = 2 ^ (precision.toNat + 5 + shiftOut.toNat) := (pow_add _ _ _).symm
      _ ≤ 2 ^ 31 := Nat.pow_le_pow_right (by decide) (by omega)
  have unshifted : pos * 2 ^ precision.toNat + t.digits ≤
      (pos * 2 ^ precision.toNat + t.digits) * 2 ^ shiftOut.toNat :=
    Nat.le_mul_of_pos_right _ (Nat.two_pow_pos _)
  have integral : ((BitVec.ofNat 32 pos <<< precision.toNat).signExtend n).toNat =
      pos * 2 ^ precision.toNat :=
    integral_toNat wide (by omega)
  have front : ((((BitVec.ofNat 32 pos <<< precision.toNat).signExtend n + s.1) <<<
      shiftOut.toNat)).toNat =
      (pos * 2 ^ precision.toNat + t.digits) * 2 ^ shiftOut.toNat := by
    rw [BitVec.toNat_shiftLeft, BitVec.toNat_add, integral, tracks.result,
      Nat.mod_eq_of_lt (by omega : t.digits < 2 ^ n),
      Nat.mod_eq_of_lt (by omega : pos * 2 ^ precision.toNat + t.digits < 2 ^ n), Nat.shiftLeft_eq,
      Nat.mod_eq_of_lt (by omega)]
  have behind : ((s.2 &&& 0x7fff) >>> (15 - shiftOut.toNat)).toNat =
      (t.mantissa - 2 ^ 15) / 2 ^ (15 - shiftOut.toNat) := by
    have mask : (0x7fff : BitVec n).toNat = 2 ^ 15 - 1 := by
      change 0x7fff % 2 ^ n = _
      exact Nat.mod_eq_of_lt (by omega)
    have low : t.mantissa % 2 ^ 15 = t.mantissa - 2 ^ 15 := by
      obtain ⟨least, most⟩ := normal
      omega
    rw [BitVec.toNat_ushiftRight, BitVec.toNat_and, tracks.a, mask, Nat.and_two_pow_sub_one_eq_mod, low,
      Nat.shiftRight_eq_div_pow]
  have less := LogState.residue_lt within normal
  rw [BitVec.toNat_or, front, behind, ← Nat.shiftLeft_eq, Nat.shiftLeft_add_eq_or_of_lt less]

end Loop

section Value

variable {val val' : BitVec 32} {precision shiftOut : UInt8}

theorem acameraLog2IntToFixed_toNat (some : 0 < val.toNat) (residue : shiftOut ≤ 15)
    (fits : precision.toNat + shiftOut.toNat ≤ 26) :
    (acameraLog2IntToFixed val precision shiftOut).toNat =
      ((LogState.next 15)^[precision.toNat]
        (LogState.ofNat 15 (leadingOnePosition val) val.toNat)).fixed 15 shiftOut.toNat := by
  obtain ⟨least, most⟩ := leadingOnePosition_bounds val some
  exact log2Word_toNat (Nat.le_refl 32) least most (leadingOnePosition_lt val some) residue fits

theorem log2IntToFixed64_eq (val : BitVec 32) (residue : shiftOut ≤ 15)
    (fits : precision.toNat + shiftOut.toNat ≤ 26) :
    log2IntToFixed64 (val.setWidth 64) precision shiftOut =
      acameraLog2IntToFixed val precision shiftOut := by
  rcases Nat.eq_zero_or_pos val.toNat with zero | some
  · obtain rfl : val = 0 := BitVec.eq_of_toNat_eq zero
    rfl
  · obtain ⟨least, most⟩ := leadingOnePosition_bounds val some
    have value : (val.setWidth 64).toNat = val.toNat := by
      have fits := val.isLt
      simp
      omega
    have wide := log2Word_toNat (n := 64) (by decide) (by rw [value]; exact least)
      (by rw [value]; exact most) (leadingOnePosition_lt val some) residue fits
    have narrow := acameraLog2IntToFixed_toNat some residue fits
    rw [value] at wide
    apply BitVec.eq_of_toNat_eq
    unfold log2IntToFixed64
    rw [leadingOnePosition64_setWidth val some, BitVec.toNat_setWidth, wide, ← narrow,
      Nat.mod_eq_of_lt (BitVec.isLt _)]

theorem acameraLog2IntToFixed_mono (le : val.toNat ≤ val'.toNat) (residue : shiftOut ≤ 15)
    (fits : precision.toNat + shiftOut.toNat ≤ 26) :
    (acameraLog2IntToFixed val precision shiftOut).toNat ≤
      (acameraLog2IntToFixed val' precision shiftOut).toNat := by
  rcases Nat.eq_zero_or_pos val.toNat with zero | some
  · obtain rfl : val = 0 := BitVec.eq_of_toNat_eq zero
    exact Nat.zero_le _
  · have some' : 0 < val'.toNat := some.trans_le le
    obtain ⟨least, most⟩ := leadingOnePosition_bounds val some
    have most' := (leadingOnePosition_bounds val' some').2
    rw [acameraLog2IntToFixed_toNat some residue fits, acameraLog2IntToFixed_toNat some' residue fits]
    exact ((LogState.ofNat_le least most' le).iterate _).fixed residue
      (LogState.iterate_normal _ (LogState.ofNat_normal least most))

theorem acameraLog2IntToFixed_bounds (some : 0 < val.toNat) (few : precision ≤ 13) :
    2 ^ (acameraLog2IntToFixed val precision 0).toNat ≤ val.toNat ^ 2 ^ precision.toNat ∧
      val.toNat ^ 2 ^ precision.toNat < 2 ^ ((acameraLog2IntToFixed val precision 0).toNat + 2) := by
  have digits : precision.toNat ≤ 13 := few
  obtain ⟨least, most⟩ := leadingOnePosition_bounds val some
  have normal := LogState.iterate_normal precision.toNat (LogState.ofNat_normal (w := 15) least most)
  have near := (LogState.ofNat_near (w := 15) least most).iterate precision.toNat
    (LogState.ofNat_normal least most) rfl
  have errors := LogState.errors_eq precision.toNat
  have power : 2 ^ (precision.toNat + 1) ≤ 2 ^ 14 := Nat.pow_le_pow_right (by decide) (by omega)
  have bounds := near.bounds normal (by omega)
  have residue := LogState.residue_lt (Nat.zero_le 15) normal
  rw [acameraLog2IntToFixed_toNat some (by decide) (by simp; omega), LogState.fixed]
  simp only [UInt8.toNat_zero, pow_zero, mul_one, Nat.sub_zero] at residue ⊢
  rw [Nat.lt_one_iff.mp residue, Nat.add_zero]
  exact bounds

theorem log2Loop_squares (some : 0 < val.toNat) (i : Nat) :
    (log2Loop (leadingOnePosition val) val i).2.toNat *
      (log2Loop (leadingOnePosition val) val i).2.toNat < 2 ^ 32 := by
  obtain ⟨least, most⟩ := leadingOnePosition_bounds val some
  obtain ⟨tracks, normal⟩ := log2Loop_tracks (Nat.le_refl 32) least most i
  rw [tracks.a]
  exact (LogState.square_bounds normal).2

theorem fixed_log2 :
    (∀ (val : BitVec 32) (precision : UInt8), 0 < val.toNat → precision ≤ 13 →
      2 ^ (acameraLog2IntToFixed val precision 0).toNat ≤ val.toNat ^ 2 ^ precision.toNat ∧
        val.toNat ^ 2 ^ precision.toNat < 2 ^ ((acameraLog2IntToFixed val precision 0).toNat + 2)) ∧
    (∀ precision shiftOut : UInt8, shiftOut ≤ 15 → precision.toNat + shiftOut.toNat ≤ 26 →
      (∀ val : BitVec 32,
        acameraLog2IntToFixed val precision shiftOut =
          log2IntToFixed64 (val.setWidth 64) precision shiftOut ∧
          acameraMathLog2 val precision shiftOut =
            log2IntToFixed64 (val.setWidth 64) precision shiftOut) ∧
      ∀ val val' : BitVec 32, val.toNat ≤ val'.toNat →
        (acameraLog2IntToFixed val precision shiftOut).toNat ≤
          (acameraLog2IntToFixed val' precision shiftOut).toNat ∧
          (acameraMathLog2 val precision shiftOut).toNat ≤
            (acameraMathLog2 val' precision shiftOut).toNat) ∧
    ∀ (val : BitVec 32) (i : Nat), 0 < val.toNat →
      (log2Loop (leadingOnePosition val) val i).2.toNat *
        (log2Loop (leadingOnePosition val) val i).2.toNat < 2 ^ 32 := by
  refine ⟨fun val precision some few => acameraLog2IntToFixed_bounds some few,
    fun precision shiftOut residue fits => ⟨?_, ?_⟩,
    fun val i some => log2Loop_squares some i⟩
  · intro val
    have same := (log2IntToFixed64_eq val residue fits).symm
    exact ⟨same, same⟩
  · intro val val' le
    have mono := acameraLog2IntToFixed_mono le residue fits
    exact ⟨mono, mono⟩

end Value

end UnionpiTiger.Isp
