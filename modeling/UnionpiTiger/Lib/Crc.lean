import Mathlib.Data.List.Basic
import Mathlib.Logic.Function.Iterate

set_option autoImplicit false

namespace UnionpiTiger.Lib

-- A cyclic redundancy check taken bit by bit, in the reflected form: the register shifts down, and
-- the bit that leaves
-- it brings the polynomial in.
section Crc

variable {w : Nat}

def crcShift (poly register : BitVec w) : BitVec w :=
  (register >>> 1) ^^^ (if register.getLsbD 0 then poly else 0#w)

def bitWord (b : Bool) : BitVec w := if b then 1#w else 0#w

def crcStep (poly register : BitVec w) (b : Bool) : BitVec w := crcShift poly (register ^^^ bitWord b)

def crcFeed (poly register : BitVec w) (bits : List Bool) : BitVec w :=
  bits.foldl (crcStep poly) register

def wordOf : List Bool → BitVec w
  | [] => 0#w
  | b :: bits => (wordOf bits <<< 1) ^^^ bitWord b

variable {poly : BitVec w}

@[simp] theorem crcFeed_nil (register : BitVec w) : crcFeed poly register [] = register := rfl

@[simp] theorem crcFeed_cons (register : BitVec w) (b : Bool) (bits : List Bool) :
    crcFeed poly register (b :: bits) = crcFeed poly (crcStep poly register b) bits := rfl

theorem crcFeed_append (register : BitVec w) (first second : List Bool) :
    crcFeed poly register (first ++ second) = crcFeed poly (crcFeed poly register first) second :=
  List.foldl_append

theorem crcShift_xor (first second : BitVec w) :
    crcShift poly (first ^^^ second) = crcShift poly first ^^^ crcShift poly second := by
  unfold crcShift
  rw [BitVec.getLsbD_xor, BitVec.ushiftRight_xor_distrib]
  cases first.getLsbD 0 <;> cases second.getLsbD 0 <;> ext i <;>
    simp [Bool.xor_comm, Bool.xor_left_comm]

theorem crcShift_shiftLeft {word : BitVec w} (top : word.msb = false) :
    crcShift poly (word <<< 1) = word := by
  have low : (word <<< 1).getLsbD 0 = false := by simp
  unfold crcShift
  rw [low, if_neg Bool.false_ne_true, BitVec.xor_zero]
  apply BitVec.eq_of_getLsbD_eq
  intro i below
  rw [BitVec.getLsbD_ushiftRight, BitVec.getLsbD_shiftLeft]
  rcases Nat.lt_or_ge (1 + i) w with inside | last
  · simp [inside]
  · have same : i = w - 1 := by omega
    rw [BitVec.msb_eq_getLsbD_last, ← same] at top
    simp [top]

theorem xor_cancel_right {first second word : BitVec w} (same : first ^^^ word = second ^^^ word) :
    first = second := by
  have both := congrArg (fun value => value ^^^ word) same
  simpa [BitVec.xor_assoc] using both

theorem crcShift_injective (top : poly.msb = true) {first second : BitVec w}
    (same : crcShift poly first = crcShift poly second) : first = second := by
  have positive : 0 < w := by
    rcases Nat.eq_zero_or_pos w with rfl | positive
    · simp [BitVec.msb, BitVec.getMsbD] at top
    · exact positive
  have leaving (word : BitVec w) : (crcShift poly word).getLsbD (w - 1) = word.getLsbD 0 := by
    rw [BitVec.msb_eq_getLsbD_last] at top
    unfold crcShift
    rw [BitVec.getLsbD_xor, BitVec.getLsbD_ushiftRight]
    cases word.getLsbD 0 <;>
      simp [top, BitVec.getLsbD_of_ge, Nat.add_comm 1, Nat.sub_add_cancel positive]
  have low : first.getLsbD 0 = second.getLsbD 0 := by rw [← leaving first, ← leaving second, same]
  have rest : first >>> 1 = second >>> 1 := by
    unfold crcShift at same
    rw [low] at same
    exact xor_cancel_right same
  apply BitVec.eq_of_getLsbD_eq
  intro i below
  cases i with
  | zero => exact low
  | succ i =>
    have bit := congrArg (fun word => word.getLsbD i) rest
    simpa [Nat.add_comm] using bit

theorem crcStep_injective (top : poly.msb = true) {first second : BitVec w} {b : Bool}
    (same : crcStep poly first b = crcStep poly second b) : first = second :=
  xor_cancel_right (crcShift_injective top same)

theorem crcFeed_injective (top : poly.msb = true) (bits : List Bool) {first second : BitVec w}
    (same : crcFeed poly first bits = crcFeed poly second bits) : first = second := by
  induction bits generalizing first second with
  | nil => exact same
  | cons b bits ih => exact crcStep_injective top (ih same)

theorem wordOf_getLsbD (bits : List Bool) (i : Nat) :
    (wordOf bits : BitVec w).getLsbD i = (decide (i < w) && bits.getD i false) := by
  induction bits generalizing i with
  | nil => simp [wordOf]
  | cons b bits ih =>
    rw [wordOf, BitVec.getLsbD_xor, BitVec.getLsbD_shiftLeft]
    cases i with
    | zero => cases b <;> simp [bitWord]
    | succ i =>
      have none : (bitWord b : BitVec w).getLsbD (i + 1) = false := by cases b <;> simp [bitWord]
      rw [none, Nat.add_sub_cancel, ih]
      by_cases below : i + 1 < w
      · simp [below, Nat.lt_of_succ_lt below]
      · simp [below]

theorem wordOf_injective {first second : List Bool} (lengths : first.length = second.length)
    (short : first.length ≤ w) (same : (wordOf first : BitVec w) = wordOf second) : first = second := by
  apply List.ext_getElem lengths
  intro i inFirst inSecond
  have below : i < w := by omega
  have bit : (wordOf first : BitVec w).getLsbD i = (wordOf second : BitVec w).getLsbD i := by rw [same]
  rw [wordOf_getLsbD, wordOf_getLsbD] at bit
  simpa [below, inFirst, inSecond] using bit

theorem crcStep_wordOf (register : BitVec w) (b : Bool) {bits : List Bool}
    (short : bits.length + 1 ≤ w) :
    crcStep poly register b ^^^ wordOf bits = crcShift poly (register ^^^ wordOf (b :: bits)) := by
  have top : (wordOf bits : BitVec w).msb = false := by
    rw [BitVec.msb_eq_getLsbD_last, wordOf_getLsbD]
    simp [List.getElem?_eq_none (by omega : bits.length ≤ w - 1)]
  have shifted : crcShift poly (wordOf bits <<< 1) = wordOf bits := crcShift_shiftLeft top
  rw [wordOf, crcStep, ← shifted, ← crcShift_xor, BitVec.xor_assoc,
    crcShift_shiftLeft top, BitVec.xor_comm (bitWord b)]

theorem crcFeed_eq_iterate (register : BitVec w) (bits : List Bool) (short : bits.length ≤ w) :
    crcFeed poly register bits = (crcShift poly)^[bits.length] (register ^^^ wordOf bits) := by
  induction bits generalizing register with
  | nil => exact BitVec.xor_zero.symm
  | cons b bits ih =>
    rw [List.length_cons] at short
    rw [crcFeed_cons, ih _ (by omega), crcStep_wordOf _ _ short, List.length_cons,
      Function.iterate_succ_apply]

theorem crcFeed_eq_iff (top : poly.msb = true) (first second : List Bool) (left right : BitVec w)
    (lengths : first.length = second.length) (short : first.length ≤ w) :
    crcFeed poly left first = crcFeed poly right second ↔
      left ^^^ wordOf first = right ^^^ wordOf second := by
  rw [crcFeed_eq_iterate _ _ short, crcFeed_eq_iterate _ _ (by omega), lengths]
  have injective : Function.Injective (crcShift poly) := fun _ _ => crcShift_injective top
  exact (injective.iterate _).eq_iff

theorem crcFeed_eq_zero_iff (top : poly.msb = true) (register : BitVec w) (bits : List Bool)
    (whole : bits.length = w) :
    crcFeed poly register bits = 0#w ↔ register = wordOf bits := by
  have zeros (n : Nat) : crcFeed poly 0#w (List.replicate n false) = 0#w ∧
      (wordOf (List.replicate n false) : BitVec w) = 0#w := by
    induction n with
    | zero => exact ⟨rfl, rfl⟩
    | succ n ih =>
      have still : crcStep poly 0#w false = 0#w := by simp [crcStep, crcShift, bitWord]
      refine ⟨?_, ?_⟩
      · rw [List.replicate_succ, crcFeed_cons, still, ih.1]
      · rw [List.replicate_succ, wordOf, ih.2]
        simp [bitWord]
  have fed := crcFeed_eq_iff top bits (List.replicate w false) register 0#w
    (by rw [whole, List.length_replicate])
    (Nat.le_of_eq whole)
  rw [(zeros w).1, (zeros w).2] at fed
  rw [fed, BitVec.xor_zero]
  constructor
  · intro same
    exact xor_cancel_right (same.trans (BitVec.xor_self (x := wordOf bits)).symm)
  · rintro rfl
    exact BitVec.xor_self

theorem crcFeed_ne_of_burst (top : poly.msb = true) (register : BitVec w)
    {before first second after : List Bool} (lengths : first.length = second.length)
    (short : first.length ≤ w) (differ : first ≠ second) :
    crcFeed poly register (before ++ first ++ after) ≠
      crcFeed poly register (before ++ second ++ after) := by
  intro same
  rw [crcFeed_append, crcFeed_append, crcFeed_append, crcFeed_append] at same
  have fed := (crcFeed_eq_iff top first second _ _ lengths short).mp (crcFeed_injective top after same)
  rw [BitVec.xor_comm, BitVec.xor_comm _ (wordOf second)] at fed
  exact differ (wordOf_injective lengths short (xor_cancel_right fed))

end Crc

section MsbCrc

variable {w n : Nat}

def msbStep (poly register : BitVec w) (b : Bool) : BitVec w :=
  (register <<< 1) ^^^ (if register.msb ^^ b then poly else 0#w)

def msbFeed (poly register : BitVec w) (bits : List Bool) : BitVec w :=
  bits.foldl (msbStep poly) register

def msbBits (word : BitVec w) : List Bool := (List.range w).map word.getMsbD

variable {poly : BitVec w}

@[simp] theorem msbFeed_nil (register : BitVec w) : msbFeed poly register [] = register := rfl

@[simp] theorem msbFeed_cons (register : BitVec w) (b : Bool) (bits : List Bool) :
    msbFeed poly register (b :: bits) = msbFeed poly (msbStep poly register b) bits := rfl

@[simp] theorem length_msbBits (word : BitVec w) : (msbBits word).length = w := by simp [msbBits]

theorem msbBits_append (high : BitVec w) (low : BitVec n) :
    msbBits (high ++ low) = msbBits high ++ msbBits low := by
  apply List.ext_getElem
  · simp
  · intro i inBoth _
    by_cases first : i < w
    · simp [msbBits, BitVec.getMsbD_append, first, Nat.not_le.mpr first]
    · simp [msbBits, BitVec.getMsbD_append, Nat.not_lt.mp first]

theorem msbFeed_append (register : BitVec w) (first second : List Bool) :
    msbFeed poly register (first ++ second) = msbFeed poly (msbFeed poly register first) second :=
  List.foldl_append

section Reversed

theorem reverse_msbStep (register : BitVec w) (b : Bool) :
    (msbStep poly register b).reverse = crcStep poly.reverse register.reverse b := by
  have low : (register.reverse ^^^ bitWord b).getLsbD 0 = if 0 < w then register.msb ^^ b
      else false := by
    by_cases positive : 0 < w
    · rw [BitVec.getLsbD_xor, BitVec.getLsbD_reverse]
      cases b <;> simp [bitWord, positive, BitVec.msb]
    · obtain rfl : w = 0 := by omega
      simp
  have dropped : (bitWord b : BitVec w) >>> 1 = 0#w := by
    apply BitVec.eq_of_getLsbD_eq
    intro i _
    cases b <;> simp [bitWord]
  rw [crcStep, crcShift, low, BitVec.ushiftRight_xor_distrib, dropped, BitVec.xor_zero]
  apply BitVec.eq_of_getLsbD_eq
  intro i below
  have positive : 0 < w := by omega
  simp only [msbStep, BitVec.getLsbD_reverse, BitVec.getMsbD_xor, BitVec.getLsbD_xor,
    BitVec.getLsbD_ushiftRight, BitVec.getMsbD_shiftLeft, if_pos positive, Nat.add_comm i]
  cases register.msb ^^ b <;> simp [BitVec.getLsbD_reverse]

theorem reverse_msbFeed (register : BitVec w) (bits : List Bool) :
    (msbFeed poly register bits).reverse = crcFeed poly.reverse register.reverse bits := by
  induction bits generalizing register with
  | nil => rfl
  | cons b bits ih => simp [ih, reverse_msbStep]

theorem msbFeed_ne_of_burst (low : poly.getLsbD 0 = true) (register : BitVec w)
    {before first second after : List Bool} (lengths : first.length = second.length)
    (short : first.length ≤ w) (differ : first ≠ second) :
    msbFeed poly register (before ++ first ++ after) ≠
      msbFeed poly register (before ++ second ++ after) := by
  intro same
  have top : poly.reverse.msb = true := by rw [BitVec.msb_reverse, low]
  have reversed := congrArg BitVec.reverse same
  rw [reverse_msbFeed, reverse_msbFeed] at reversed
  exact crcFeed_ne_of_burst top _ lengths short differ reversed

end Reversed

section Linear

theorem msbStep_xor (first second : BitVec w) (b c : Bool) :
    msbStep poly (first ^^^ second) (b ^^ c) = msbStep poly first b ^^^ msbStep poly second c := by
  have gate (b c : Bool) : (if b ^^ c then poly else 0#w) =
      (if b then poly else 0#w) ^^^ (if c then poly else 0#w) := by
    cases b <;> cases c <;> simp
  have leaving : (first.msb ^^ second.msb ^^ (b ^^ c)) = (first.msb ^^ b ^^ (second.msb ^^ c)) := by
    cases first.msb <;> cases second.msb <;> cases b <;> cases c <;> rfl
  simp only [msbStep, BitVec.shiftLeft_xor_distrib, BitVec.msb_xor, leaving, gate (first.msb ^^ b)]
  ac_rfl

theorem msbFeed_xor (register other : BitVec w) (bits flips : List Bool)
    (lengths : bits.length = flips.length) :
    msbFeed poly (register ^^^ other) (List.zipWith (· ^^ ·) bits flips) =
      msbFeed poly register bits ^^^ msbFeed poly other flips := by
  induction bits generalizing register other flips with
  | nil =>
    cases flips with
    | nil => rfl
    | cons c flips => cases lengths
  | cons b bits ih =>
    cases flips with
    | nil => cases lengths
    | cons c flips =>
      simp only [List.zipWith_cons_cons, msbFeed_cons, msbStep_xor]
      exact ih _ _ _ (Nat.succ.inj lengths)

theorem msbFeed_take (register : BitVec w) (count : Nat) (few : count ≤ w) :
    msbFeed poly register ((msbBits register).take count) = register <<< count := by
  induction count with
  | zero => simp
  | succ count ih =>
    have inside : count < (msbBits register).length := by
      rw [length_msbBits]
      omega
    have top : (register <<< count).msb = register.getMsbD count := by
      simp [BitVec.msb, BitVec.getMsbD_shiftLeft]
    have last : (msbBits register)[count] = register.getMsbD count := by simp [msbBits]
    rw [List.take_succ_eq_append_getElem inside, msbFeed_append, ih (by omega), last]
    simp [msbStep, top, BitVec.shiftLeft_add]

theorem msbFeed_msbBits (register : BitVec w) : msbFeed poly register (msbBits register) = 0#w := by
  have fed : msbFeed poly register ((msbBits register).take w) = register <<< w :=
    msbFeed_take register w (Nat.le_refl w)
  rw [List.take_of_length_le (by simp)] at fed
  rw [fed, BitVec.shiftLeft_eq_zero (Nat.le_refl w)]

theorem msbFeed_word (register : BitVec w) (word index : BitVec n) (narrow : n ≤ w)
    (leaves : ∀ i < n, index.getMsbD i = (register.getMsbD i ^^ word.getMsbD i)) :
    msbFeed poly register (msbBits word) = (register <<< n) ^^^ msbFeed poly 0#w (msbBits index) := by
  have split : msbBits word = List.zipWith (· ^^ ·) ((msbBits register).take n) (msbBits index) := by
    apply List.ext_getElem
    · simp [narrow]
    · intro i inWord inBoth
      have below : i < n := by simpa using inWord
      simp [msbBits, leaves i below]
  have fed : msbFeed poly (register ^^^ 0#w)
      (List.zipWith (· ^^ ·) ((msbBits register).take n) (msbBits index)) =
      msbFeed poly register ((msbBits register).take n) ^^^ msbFeed poly 0#w (msbBits index) :=
    msbFeed_xor register 0#w _ _ (by simp [narrow])
  rwa [BitVec.xor_zero, ← split, msbFeed_take register n narrow] at fed

end Linear

end MsbCrc

end UnionpiTiger.Lib
