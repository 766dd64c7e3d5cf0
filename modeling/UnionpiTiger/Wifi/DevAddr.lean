import UnionpiTiger.Lib.Carry

set_option autoImplicit false

namespace UnionpiTiger.Wifi

open Lib

abbrev MacAddr : Type := Vector UInt8 6

-- The 802.11 interface types that `wal_get_dev_addr_idx` knows, and one for all others.
inductive Iftype where
  | station
  | ap
  | p2pClient
  | p2pGo
  | p2pDevice
  | meshPoint
  | other
deriving DecidableEq, Repr

inductive WalAddrIdx where
  | sta0
  | ap0
  | sta1
  | sta2
  | butt
deriving DecidableEq, Repr

def WalAddrIdx.val : WalAddrIdx → UInt16
  | .sta0 => 0
  | .ap0 => 1
  | .sta1 => 2
  | .sta2 => 3
  | .butt => 4

def walGetDevAddrIdx : Iftype → WalAddrIdx
  | .station => .sta0
  | .ap | .p2pClient | .p2pGo | .meshPoint => .ap0
  | .p2pDevice => .sta2
  | .other => .butt

def carryBit (cell : UInt16) : UInt16 := (cell &&& 0x100) >>> 8

def countUp (devAddr : MacAddr) (addrIdx : UInt16) : MacAddr :=
  let us5 := devAddr[5].toUInt16 + addrIdx
  let us4 := devAddr[4].toUInt16 + carryBit us5
  let us5 := us5 &&& 0xff
  let us3 := devAddr[3].toUInt16 + carryBit us4
  let us4 := us4 &&& 0xff
  let us2 := devAddr[2].toUInt16 + carryBit us3
  let us3 := us3 &&& 0xff
  let us1 := devAddr[1].toUInt16 + carryBit us2
  let us2 := us2 &&& 0xff
  let us0 := devAddr[0].toUInt16 + carryBit us1
  let us1 := us1 &&& 0xff
  let us0 := if us0 > 0xff then 0 else us0
  let us0 := us0 &&& 0xfe
  #v[us0.toUInt8, us1.toUInt8, us2.toUInt8, us3.toUInt8, us4.toUInt8, us5.toUInt8]

def walGetDevAddr (devAddr : MacAddr) (type : Iftype) : Option MacAddr :=
  let addrIdx := walGetDevAddrIdx type
  if addrIdx.val ≥ WalAddrIdx.butt.val then none else some (countUp devAddr addrIdx.val)

def macAddrIsZero (macAddr : MacAddr) : Bool := macAddr == #v[0, 0, 0, 0, 0, 0]

def rtlMacaddrCheck (macAddr : MacAddr) : Bool := !(macAddrIsZero macAddr || macAddr[0] &&& 1 == 1)

def lowBytes (macAddr : MacAddr) : List Nat :=
  [macAddr[5].toNat, macAddr[4].toNat, macAddr[3].toNat, macAddr[2].toNat, macAddr[1].toNat]

def low40 (macAddr : MacAddr) : Nat := Nat.ofDigits 256 (lowBytes macAddr)

section Cells

theorem carryBit_toNat {cell : UInt16} (small : cell.toNat < 512) :
    (carryBit cell).toNat = cell.toNat / 256 := by
  have shifted : (carryBit cell).toNat = (cell.toNat &&& 256) >>> 8 := by simp [carryBit]
  have bit : (256 : Nat) >>> 8 = 1 := rfl
  rw [shifted, Nat.shiftRight_and_distrib, bit, Nat.and_one_is_mod, Nat.shiftRight_eq_div_pow]
  omega

theorem low_toNat (cell : UInt16) : (cell &&& 0xff).toUInt8.toNat = cell.toNat % 256 := by
  have masked : (cell &&& 0xff).toNat = cell.toNat % 2 ^ 8 := by
    simpa using Nat.and_two_pow_sub_one_eq_mod cell.toNat 8
  rw [UInt16.toNat_toUInt8, masked]
  omega

theorem above_toNat (byte : UInt8) {cell : UInt16} (small : cell.toNat < 512) :
    (byte.toUInt16 + carryBit cell).toNat = byte.toNat + cell.toNat / 256 := by
  have byteSmall := byte.toNat_lt
  rw [UInt16.toNat_add, carryBit_toNat small, UInt8.toNat_toUInt16]
  omega

theorem first_toNat {byte : UInt8} (even : byte.toNat % 2 = 0) {cell : UInt16}
    (small : cell.toNat < 512) :
    ((if byte.toUInt16 + carryBit cell > 0xff then 0
      else byte.toUInt16 + carryBit cell) &&& 0xfe).toUInt8 = byte := by
  have byteSmall := byte.toNat_lt
  have sum := above_toNat byte small
  have fits : ¬byte.toUInt16 + carryBit cell > 0xff := by
    rw [gt_iff_lt, UInt16.lt_iff_toNat_lt, sum]
    simp
    omega
  have cleared : ∀ n < 256, n &&& 0xfe = n / 2 * 2 := by decide +kernel
  apply UInt8.toNat_inj.mp
  rw [if_neg fits, UInt16.toNat_toUInt8, UInt16.toNat_and, sum]
  have kept := cleared (byte.toNat + cell.toNat / 256) (by omega)
  simp only [UInt16.toNat_ofNat, kept]
  omega

end Cells

theorem check_iff (macAddr : MacAddr) :
    rtlMacaddrCheck macAddr = true ↔ (macAddr[0].toNat ≠ 0 ∨ low40 macAddr ≠ 0) ∧
      macAddr[0].toNat % 2 = 0 := by
  have zero : macAddr = #v[0, 0, 0, 0, 0, 0] ↔ macAddr[0].toNat = 0 ∧ low40 macAddr = 0 := by
    constructor
    · rintro rfl
      exact ⟨rfl, rfl⟩
    · rintro ⟨first, rest⟩
      simp only [low40, lowBytes, Nat.ofDigits_cons, Nat.ofDigits_nil] at rest
      apply Vector.ext
      intro i below
      apply UInt8.toNat_inj.mp
      have cases_ : i = 0 ∨ i = 1 ∨ i = 2 ∨ i = 3 ∨ i = 4 ∨ i = 5 := by omega
      rcases cases_ with rfl | rfl | rfl | rfl | rfl | rfl <;> simp <;> omega
  have group : macAddr[0] &&& 1 = 1 ↔ ¬macAddr[0].toNat % 2 = 0 := by
    rw [← UInt8.toNat_inj, UInt8.toNat_and]
    simp [Nat.and_one_is_mod]
  simp only [rtlMacaddrCheck, macAddrIsZero, Bool.not_eq_true', Bool.or_eq_false_iff,
    beq_eq_false_iff_ne, ne_eq, zero, group, not_and_or, not_not]

structure CountedUp (devAddr : MacAddr) (index : Nat) (derived : MacAddr) : Prop where
  first : derived[0] = devAddr[0]
  counted : low40 derived = (low40 devAddr + index) % 2 ^ 40

theorem index_lt {idx : WalAddrIdx} (supported : idx ≠ .butt) : idx.val.toNat < 4 := by
  cases idx <;> first | decide | exact absurd rfl supported

theorem countUp_counted {devAddr : MacAddr} (even : devAddr[0].toNat % 2 = 0) {idx : UInt16}
    (small : idx.toNat < 4) :
    CountedUp devAddr idx.toNat (countUp devAddr idx) := by
  have step (byte : UInt8) {cell : UInt16} (less : cell.toNat < 512) :
      (byte.toUInt16 + carryBit cell).toNat = byte.toNat + cell.toNat / 256 ∧
        (byte.toUInt16 + carryBit cell).toNat < 512 := by
    have byteSmall := byte.toNat_lt
    have above := above_toNat byte less
    omega
  have us5 : (devAddr[5].toUInt16 + idx).toNat = devAddr[5].toNat + idx.toNat ∧
      (devAddr[5].toUInt16 + idx).toNat < 512 := by
    have byteSmall := devAddr[5].toNat_lt
    rw [UInt16.toNat_add, UInt8.toNat_toUInt16]
    omega
  have us4 := step devAddr[4] us5.2
  have us3 := step devAddr[3] us4.2
  have us2 := step devAddr[2] us3.2
  have us1 := step devAddr[1] us2.2
  constructor
  · exact first_toNat even us1.2
  · have digits : lowBytes (countUp devAddr idx) = (addCarry 256 (lowBytes devAddr) idx.toNat).1 := by
      simp only [lowBytes, countUp, addCarry_cons, addCarry_nil, ← us5.1, ← us4.1, ← us3.1, ← us2.1,
        ← us1.1, ← low_toNat]
      rfl
    have width : 256 ^ (lowBytes devAddr).length = 2 ^ 40 := by norm_num [lowBytes]
    rw [low40, digits, ofDigits_addCarry_mod (by decide), width, low40]

theorem walGetDevAddr_some (devAddr : MacAddr) {type : Iftype}
    (supported : walGetDevAddrIdx type ≠ .butt) :
    walGetDevAddr devAddr type = some (countUp devAddr (walGetDevAddrIdx type).val) := by
  have known : ¬(walGetDevAddrIdx type).val ≥ WalAddrIdx.butt.val := by
    rw [ge_iff_le, UInt16.le_iff_toNat_le]
    simpa [WalAddrIdx.val] using index_lt supported
  simp [walGetDevAddr, known]

structure OwnAddresses (devAddr : MacAddr) (type second : Iftype) : Prop where
  derived : ∃ addr secondAddr, walGetDevAddr devAddr type = some addr ∧
    walGetDevAddr devAddr second = some secondAddr ∧
    addr ≠ secondAddr ∧ rtlMacaddrCheck addr = true ∧ rtlMacaddrCheck secondAddr = true ∧
    low40 addr = (low40 devAddr + (walGetDevAddrIdx type).val.toNat) % 2 ^ 40 ∧
    low40 secondAddr = (low40 devAddr + (walGetDevAddrIdx second).val.toNat) % 2 ^ 40

def WrapsToZero (devAddr : MacAddr) (type : Iftype) : Prop :=
  devAddr[0] = 0 ∧ low40 devAddr + (walGetDevAddrIdx type).val.toNat = 2 ^ 40

theorem low40_lt (macAddr : MacAddr) : low40 macAddr < 2 ^ 40 := by
  have below := Nat.ofDigits_lt_base_pow_length (b := 256) (by decide) (l := lowBytes macAddr)
    fun digit mem => by
    simp only [lowBytes, List.mem_cons, List.not_mem_nil, or_false] at mem
    rcases mem with rfl | rfl | rfl | rfl | rfl <;> exact UInt8.toNat_lt _
  simpa [low40, lowBytes] using below

theorem check_counted {devAddr derived : MacAddr} {index : Nat}
    (valid : rtlMacaddrCheck devAddr = true) (small : index < 4)
    (counted : CountedUp devAddr index derived) :
    rtlMacaddrCheck derived = true ↔ ¬(devAddr[0] = 0 ∧ low40 devAddr + index = 2 ^ 40) := by
  have below := low40_lt devAddr
  rw [check_iff] at valid
  rw [check_iff, counted.first, counted.counted, ← UInt8.toNat_inj, UInt8.toNat_zero]
  omega

theorem own_addresses_iff (devAddr : MacAddr) (valid : rtlMacaddrCheck devAddr = true)
    (type second : Iftype) (supported : walGetDevAddrIdx type ≠ .butt)
    (secondSupported : walGetDevAddrIdx second ≠ .butt)
    (apart : walGetDevAddrIdx type ≠ walGetDevAddrIdx second) :
    OwnAddresses devAddr type second ↔ ¬WrapsToZero devAddr type ∧ ¬WrapsToZero devAddr second := by
  have even := ((check_iff devAddr).mp valid).2
  have small := index_lt supported
  have secondSmall := index_lt secondSupported
  have counted := countUp_counted even small
  have secondCounted := countUp_counted even secondSmall
  constructor
  · rintro ⟨addr, secondAddr, done, secondDone, -, check, secondCheck, -⟩
    cases (walGetDevAddr_some devAddr supported).symm.trans done
    cases (walGetDevAddr_some devAddr secondSupported).symm.trans secondDone
    exact ⟨(check_counted valid small counted).mp check,
      (check_counted valid secondSmall secondCounted).mp secondCheck⟩
  · rintro ⟨check, secondCheck⟩
    refine ⟨_, _, walGetDevAddr_some devAddr supported, walGetDevAddr_some devAddr secondSupported, ?_,
      (check_counted valid small counted).mpr check,
        (check_counted valid secondSmall secondCounted).mpr secondCheck,
      counted.counted, secondCounted.counted⟩
    intro same
    have indices : (walGetDevAddrIdx type).val.toNat ≠ (walGetDevAddrIdx second).val.toNat := by
      revert apart
      cases walGetDevAddrIdx type <;> cases walGetDevAddrIdx second <;> decide
    have counts := congrArg low40 same
    have below := low40_lt devAddr
    rw [counted.counted, secondCounted.counted] at counts
    omega

theorem own_addresses_of_device : OwnAddresses #v[0x20, 0, 0xff, 0xff, 0xff, 0xff] .station .ap :=
  (own_addresses_iff _ (by decide) .station .ap (by decide) (by decide) (by decide)).mpr
    ⟨fun wraps => absurd wraps.1 (by decide), fun wraps => absurd wraps.1 (by decide)⟩

theorem zero_address_derived :
    rtlMacaddrCheck #v[0, 0xff, 0xff, 0xff, 0xff, 0xff] = true ∧
      walGetDevAddrIdx .station ≠ walGetDevAddrIdx .ap ∧
      walGetDevAddr #v[0, 0xff, 0xff, 0xff, 0xff, 0xff] .ap = some #v[0, 0, 0, 0, 0, 0] ∧
      ¬OwnAddresses #v[0, 0xff, 0xff, 0xff, 0xff, 0xff] .station .ap := by
  refine ⟨by decide, by decide, by decide, ?_⟩
  rintro ⟨addr, secondAddr, -, done, -, -, check, -⟩
  obtain rfl : #v[0, 0, 0, 0, 0, 0] = secondAddr := Option.some.inj (Eq.trans (by decide) done)
  exact absurd check (by decide)

end UnionpiTiger.Wifi
