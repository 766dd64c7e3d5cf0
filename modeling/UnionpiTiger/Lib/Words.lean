import Mathlib.Algebra.Order.Ring.Int

set_option autoImplicit false

namespace UnionpiTiger.Lib

def u32 (n : Int) : Nat := (n % 4294967296).toNat

def u64 (n : Int) : Nat := (n % 18446744073709551616).toNat

def s32 (n : Int) : Int := (n + 2147483648) % 4294967296 - 2147483648

theorem u32_eq {n : Int} (lower : 0 ≤ n) (upper : n < 4294967296) : (u32 n : Int) = n := by
  unfold u32
  omega

theorem u32_natCast {n : Nat} (upper : n < 4294967296) : u32 n = n := by
  unfold u32
  omega

theorem u64_natCast {n : Nat} (upper : n < 18446744073709551616) : u64 n = n := by
  unfold u64
  omega

theorem s32_eq {n : Int} (lower : -2147483648 ≤ n) (upper : n < 2147483648) : s32 n = n := by
  unfold s32
  omega

theorem s32_lt (n : Int) : s32 n < 2147483648 := by
  unfold s32
  omega

def alignUp (n unit : Nat) : Nat := (n + (unit - 1)) / unit * unit

theorem le_alignUp (n unit : Nat) (positive : 0 < unit) : n ≤ alignUp n unit := by
  have split := Nat.div_add_mod (n + (unit - 1)) unit
  have small := Nat.mod_lt (n + (unit - 1)) positive
  have swap := Nat.mul_comm unit ((n + (unit - 1)) / unit)
  unfold alignUp
  omega

theorem alignUp_lt (n unit : Nat) (positive : 0 < unit) : alignUp n unit < n + unit := by
  have split := Nat.div_add_mod (n + (unit - 1)) unit
  have swap := Nat.mul_comm unit ((n + (unit - 1)) / unit)
  unfold alignUp
  omega

theorem dvd_alignUp (n unit : Nat) : unit ∣ alignUp n unit := Dvd.intro_left _ rfl

end UnionpiTiger.Lib
