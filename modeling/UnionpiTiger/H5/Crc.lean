import Mathlib.Data.List.GetD
import UnionpiTiger.H5.RoundTrip
import UnionpiTiger.Lib.Crc

set_option autoImplicit false

namespace UnionpiTiger.H5

open Bt Lib

def ccittPoly : BitVec 16 := 0x8408#16

def lsbFirst (byte : UInt8) : List Bool := (List.range 8).map fun i => byte.toBitVec.getLsbD i

def msbFirst (byte : UInt8) : List Bool := (lsbFirst byte).reverse

@[simp] theorem lsbFirst_length (byte : UInt8) : (lsbFirst byte).length = 8 := by simp [lsbFirst]

@[simp] theorem msbFirst_length (byte : UInt8) : (msbFirst byte).length = 8 := by simp [msbFirst]

theorem lsbFirst_getD (byte : UInt8) (i : Nat) :
    (lsbFirst byte).getD i false = byte.toBitVec.getLsbD i := by
  by_cases below : i < 8
  · simp [lsbFirst, below]
  · rw [BitVec.getLsbD_of_ge _ _ (Nat.le_of_not_lt below)]
    simp [lsbFirst, below]

theorem lsbFirst_injective {first second : UInt8} (same : lsbFirst first = lsbFirst second) :
    first = second := by
  apply UInt8.toBitVec_inj.mp
  apply BitVec.eq_of_getLsbD_eq
  intro i below
  rw [← lsbFirst_getD, ← lsbFirst_getD, same]

theorem msbFirst_injective {first second : UInt8} (same : msbFirst first = msbFirst second) :
    first = second :=
  lsbFirst_injective (List.reverse_inj.mp same)

def bitSerialCrc (message : List UInt8) : BitVec 16 :=
  crcFeed ccittPoly 0xffff#16 (message.flatMap lsbFirst)

theorem ccittPoly_top : ccittPoly.msb = true := by decide

section BitSerial

def nibbleStep (x : UInt16) : UInt16 := (x >>> 4) ^^^ crcTable.getD (x &&& 0x000f).toNat 0

theorem crcTable_eq : ∀ nibble : Fin 16,
    (crcTable.getD nibble.val 0).toBitVec = (crcShift ccittPoly)^[4] (BitVec.ofNat 16 nibble.val) :=
      by decide

theorem crcShift_four_shiftLeft (x : BitVec 16) :
    (crcShift ccittPoly)^[4] ((x >>> 4) <<< 4) = x >>> 4 := by
  have split : (x >>> 4) <<< 4 = ((((x >>> 4) <<< 1) <<< 1) <<< 1) <<< 1 := by
    rw [← BitVec.shiftLeft_add, ← BitVec.shiftLeft_add, ← BitVec.shiftLeft_add]
  have top (n : Nat) (few : n < 4) : ((x >>> 4) <<< n).msb = false := by
    rw [BitVec.msb_eq_getLsbD_last, BitVec.getLsbD_shiftLeft, BitVec.getLsbD_ushiftRight,
      BitVec.getLsbD_of_ge x _ (by omega)]
    simp
  have top0 := top 0 (by decide)
  have top2 := top 2 (by decide)
  rw [BitVec.shiftLeft_zero] at top0
  have top3 := top 3 (by decide)
  rw [BitVec.shiftLeft_add _ 1 1] at top2
  rw [BitVec.shiftLeft_add _ 2 1, BitVec.shiftLeft_add _ 1 1] at top3
  rw [split]
  simp only [Function.iterate_succ_apply, Function.iterate_zero_apply]
  rw [crcShift_shiftLeft top3, crcShift_shiftLeft top2, crcShift_shiftLeft (top 1 (by decide)),
    crcShift_shiftLeft top0]

theorem iterate_crcShift_xor {w : Nat} (poly : BitVec w) (n : Nat) (first second : BitVec w) :
    (crcShift poly)^[n] (first ^^^ second) =
      (crcShift poly)^[n] first ^^^ (crcShift poly)^[n] second := by
  induction n generalizing first second with
  | zero => rfl
  | succ n ih => rw [Function.iterate_succ_apply, crcShift_xor, ih, Function.iterate_succ_apply,
      Function.iterate_succ_apply]

theorem split_nibble (x : BitVec 16) : ((x >>> 4) <<< 4) ^^^ (x &&& 0x000f#16) = x := by
  have mask : ∀ i < 16, (0x000f#16).getLsbD i = decide (i < 4) := by decide
  apply BitVec.eq_of_getLsbD_eq
  intro i below
  rw [BitVec.getLsbD_xor, BitVec.getLsbD_shiftLeft, BitVec.getLsbD_ushiftRight,
    BitVec.getLsbD_and, mask i below]
  by_cases low : i < 4
  · simp [low]
  · simp [low, below, Nat.add_sub_cancel' (Nat.le_of_not_lt low)]

theorem nibbleStep_eq (x : UInt16) : (nibbleStep x).toBitVec = (crcShift ccittPoly)^[4] x.toBitVec := by
  have small : (x &&& 0x000f).toNat < 16 := by
    rw [UInt16.toNat_and]
    exact Nat.lt_of_le_of_lt Nat.and_le_right (by decide)
  have low : BitVec.ofNat 16 (x &&& 0x000f).toNat = x.toBitVec &&& 0x000f#16 :=
    (BitVec.ofNat_toNat ..).trans (BitVec.setWidth_eq _)
  have entry := crcTable_eq ⟨(x &&& 0x000f).toNat, small⟩
  conv_rhs => rw [← split_nibble x.toBitVec]
  rw [iterate_crcShift_xor, crcShift_four_shiftLeft, ← low, ← entry]
  rfl

theorem h5CrcUpdate_eq (crc : UInt16) (d : UInt8) :
    h5CrcUpdate crc d = nibbleStep (nibbleStep (crc ^^^ d.toUInt16)) := by
  have shift (x : UInt16) : (x >>> 4).toBitVec = x.toBitVec >>> 4 := rfl
  have xor_shift (x y : UInt16) : (x ^^^ y) >>> 4 = (x >>> 4) ^^^ (y >>> 4) := by
    apply UInt16.toBitVec_inj.mp
    rw [shift, UInt16.toBitVec_xor, BitVec.ushiftRight_xor_distrib, UInt16.toBitVec_xor, shift, shift]
  have high : d.toUInt16 >>> 4 = (d >>> 4).toUInt16 := by
    apply UInt16.toNat_inj.mp
    rw [UInt16.toNat_shiftRight, UInt8.toNat_toUInt16, UInt8.toNat_toUInt16, UInt8.toNat_shiftRight]
    rfl
  have gone : (d >>> 4).toUInt16 >>> 4 = 0 := by
    have small := d.toNat_lt
    apply UInt16.toNat_inj.mp
    rw [UInt16.toNat_shiftRight, UInt8.toNat_toUInt16, UInt8.toNat_shiftRight]
    change d.toNat >>> 4 >>> 4 = 0
    rw [Nat.shiftRight_eq_div_pow, Nat.shiftRight_eq_div_pow]
    omega
  have first : nibbleStep (crc ^^^ d.toUInt16) =
      ((crc >>> 4) ^^^ crcTable.getD ((crc ^^^ d.toUInt16) &&& 0x000f).toNat 0) ^^^
        (d >>> 4).toUInt16 := by
    rw [nibbleStep, xor_shift, high, UInt16.xor_assoc, UInt16.xor_comm (d >>> 4).toUInt16,
      UInt16.xor_assoc]
  rw [first, nibbleStep, xor_shift, gone, UInt16.xor_zero]
  rfl

theorem h5CrcUpdate_feed (crc : UInt16) (d : UInt8) :
    (h5CrcUpdate crc d).toBitVec = crcFeed ccittPoly crc.toBitVec (lsbFirst d) := by
  have word : (wordOf (lsbFirst d) : BitVec 16) = d.toUInt16.toBitVec := by
    apply BitVec.eq_of_getLsbD_eq
    intro i below
    rw [wordOf_getLsbD, UInt8.toBitVec_toUInt16, BitVec.getLsbD_setWidth]
    rw [lsbFirst_getD]
  rw [h5CrcUpdate_eq, nibbleStep_eq, nibbleStep_eq, ← Function.iterate_add_apply,
    crcFeed_eq_iterate _ _ (by simp), lsbFirst_length, word]
  rfl

theorem foldl_h5CrcUpdate_feed (crc : UInt16) (message : List UInt8) :
    (message.foldl h5CrcUpdate crc).toBitVec =
      crcFeed ccittPoly crc.toBitVec (message.flatMap lsbFirst) := by
  induction message generalizing crc with
  | nil => rfl
  | cons d message ih => rw [List.foldl_cons, ih, List.flatMap_cons, crcFeed_append, h5CrcUpdate_feed]

end BitSerial

section Trailer

theorem msbFirst_bitRev8 (byte : UInt8) : msbFirst (bitRev8 byte) = lsbFirst byte := by
  have entries : ∀ entry ∈ byteRevTable.zipIdx, msbFirst entry.1 = lsbFirst (UInt8.ofNat entry.2) :=
    by decide +kernel
  have size : byteRevTable.length = 256 := by decide +kernel
  have small := byte.toNat_lt
  have below : byte.toNat < byteRevTable.length := by omega
  have there : (byteRevTable[byte.toNat], byte.toNat) ∈ byteRevTable.zipIdx := by
    rw [List.mk_mem_zipIdx_iff_getElem?]
    exact List.getElem?_eq_getElem below
  have entry := entries _ there
  rwa [UInt8.ofNat_toNat, List.getElem_eq_getD (h := below) 0] at entry

theorem joined_toNat (high low : UInt8) :
    ((high.toUInt16 <<< 8) ||| low.toUInt16).toNat = high.toNat * 256 + low.toNat := by
  have small := low.toNat_lt
  have small' := high.toNat_lt
  rw [UInt16.toNat_or, UInt16.toNat_shiftLeft, UInt8.toNat_toUInt16, UInt8.toNat_toUInt16]
  change (high.toNat <<< 8 % 2 ^ 16) ||| low.toNat = _
  rw [Nat.shiftLeft_eq, Nat.mod_eq_of_lt (by omega), Nat.mul_comm high.toNat,
    ← Nat.two_pow_add_eq_or_of_lt (by omega)]

theorem joined_bytes (high low : UInt8) :
    (((high.toUInt16 <<< 8) ||| low.toUInt16) >>> 8).toUInt8 = high ∧
      ((high.toUInt16 <<< 8) ||| low.toUInt16).toUInt8 = low := by
  have value := joined_toNat high low
  have small := low.toNat_lt
  have small' := high.toNat_lt
  generalize (high.toUInt16 <<< 8) ||| low.toUInt16 = word at value
  constructor
  · apply UInt8.toNat_inj.mp
    rw [UInt16.toNat_toUInt8, UInt16.toNat_shiftRight]
    change (word.toNat >>> 8) % 256 = _
    rw [Nat.shiftRight_eq_div_pow, value]
    omega
  · apply UInt8.toNat_inj.mp
    rw [UInt16.toNat_toUInt8, value]
    omega

theorem crcTrailer_eq (crc : UInt16) :
    crcTrailer crc = [bitRev8 crc.toUInt8, bitRev8 (crc >>> 8).toUInt8] := by
  obtain ⟨first, second⟩ := joined_bytes (bitRev8 crc.toUInt8) (bitRev8 (crc >>> 8).toUInt8)
  rw [crcTrailer, bitRev16, first, second]

theorem wordOf_crcTrailer (crc : UInt16) :
    (wordOf ((crcTrailer crc).flatMap msbFirst) : BitVec 16) = crc.toBitVec := by
  rw [crcTrailer_eq, List.flatMap_cons, List.flatMap_cons, List.flatMap_nil, List.append_nil,
    msbFirst_bitRev8, msbFirst_bitRev8]
  apply BitVec.eq_of_getLsbD_eq
  intro i below
  rw [wordOf_getLsbD, decide_eq_true below, Bool.true_and]
  by_cases low : i < 8
  · rw [List.getD_append _ _ _ _ (by simpa using low), lsbFirst_getD, UInt16.toBitVec_toUInt8,
      BitVec.getLsbD_setWidth]
    simp [low]
  · rw [List.getD_append_right _ _ _ _ (by simpa using low), lsbFirst_length, lsbFirst_getD,
      UInt16.toBitVec_toUInt8, BitVec.getLsbD_setWidth]
    change (decide (i - 8 < 8) && (crc.toBitVec >>> 8).getLsbD (i - 8)) = _
    rw [BitVec.getLsbD_ushiftRight, Nat.add_sub_cancel' (Nat.le_of_not_lt low),
      decide_eq_true (by omega), Bool.true_and]

theorem crcTrailer_iff (crc : UInt16) {trailer : List UInt8} (two : trailer.length = 2) :
    trailer = crcTrailer crc ↔ crcFeed ccittPoly crc.toBitVec (trailer.flatMap msbFirst) = 0#16 := by
  have sixteen (bytes : List UInt8) (two : bytes.length = 2) :
      (bytes.flatMap msbFirst).length = 16 := by
    simp [List.length_flatMap, two]
  rw [crcFeed_eq_zero_iff ccittPoly_top _ _ (sixteen trailer two)]
  constructor
  · rintro rfl
    exact (wordOf_crcTrailer crc).symm
  · intro same
    rw [← wordOf_crcTrailer crc] at same
    have bits := wordOf_injective (by rw [sixteen _ rfl, sixteen _ two])
      (Nat.le_of_eq (sixteen _ rfl)) same
    obtain ⟨a, b, rfl⟩ := List.length_eq_two.mp two
    rw [crcTrailer, List.flatMap_cons, List.flatMap_cons, List.flatMap_cons, List.flatMap_cons,
      List.flatMap_nil, List.append_nil, List.append_nil] at bits
    obtain ⟨first, second⟩ := List.append_inj bits (by rw [msbFirst_length, msbFirst_length])
    rw [crcTrailer, msbFirst_injective first, msbFirst_injective second]

theorem h5GetCrc_iff (skb : RtkBuffer) (front : List UInt8) (a b : UInt8) (crc : UInt16)
    (bytes : skb.data = front ++ [a, b]) : bitRev16 crc = h5GetCrc skb ↔ [a, b] = crcTrailer crc := by
  have size : skb.data.length - 2 = front.length := by simp [bytes]
  have high : skb.byteAt front.length = a := by simp [RtkBuffer.byteAt, bytes, List.getD]
  have low : skb.byteAt (front.length + 1) = b := by simp [RtkBuffer.byteAt, bytes, List.getD]
  have small := a.toNat_lt
  have small' := b.toNat_lt
  have value : (h5GetCrc skb).toNat = a.toNat * 256 + b.toNat := by
    rw [h5GetCrc, size, high, low, UInt16.toNat_add, UInt16.toNat_shiftLeft, UInt8.toNat_toUInt16,
      UInt8.toNat_toUInt16]
    change (b.toNat + a.toNat <<< 8 % 2 ^ 16) % 2 ^ 16 = _
    rw [Nat.shiftLeft_eq]
    omega
  have joined : h5GetCrc skb = (a.toUInt16 <<< 8) ||| b.toUInt16 := by
    apply UInt16.toNat_inj.mp
    rw [value, joined_toNat]
  constructor
  · intro same
    obtain ⟨first, second⟩ := joined_bytes a b
    rw [crcTrailer, same, joined, first, second]
  · intro same
    rw [same] at bytes
    exact (h5GetCrc_crcTrailer skb front crc bytes).symm

end Trailer

end UnionpiTiger.H5
