import Mathlib.Algebra.Order.Ring.Nat
import UnionpiTiger.Audio.Fifo

set_option autoImplicit false

namespace UnionpiTiger.Audio

def nauFrefMax : UInt32 := 13500000
def nauFvcoMax : UInt64 := 100000000
def nauFvcoMin : UInt64 := 90000000

structure FllAttr where
  param : UInt32
  val : UInt32
deriving DecidableEq

def mclkSrcScaling : List FllAttr :=
  [⟨1, 0x0⟩, ⟨2, 0x2⟩, ⟨4, 0x3⟩, ⟨8, 0x4⟩, ⟨16, 0x5⟩, ⟨32, 0x6⟩, ⟨3, 0x7⟩, ⟨6, 0xa⟩,
    ⟨12, 0xb⟩, ⟨24, 0xc⟩]

def fllRatio : List FllAttr :=
  [⟨512000, 0x01⟩, ⟨256000, 0x02⟩, ⟨128000, 0x04⟩, ⟨64000, 0x08⟩, ⟨32000, 0x10⟩,
    ⟨8000, 0x20⟩, ⟨4000, 0x40⟩]

def fllPreScalar : List FllAttr := [⟨1, 0x0⟩, ⟨2, 0x1⟩, ⟨4, 0x2⟩, ⟨8, 0x3⟩]

structure Nau8540Fll where
  mclkSrc : UInt32 := 0
  ratio : UInt32 := 0
  fllFrac : UInt32 := 0
  fllInt : UInt32 := 0
  clkRefDiv : UInt32 := 0
deriving DecidableEq

def fvcoOf (fs : UInt32) (attr : FllAttr) : UInt64 := 256 * fs.toUInt64 * 2 * attr.param.toUInt64

def FvcoOk (fvco : UInt64) : Prop := fvco > nauFvcoMin ∧ fvco < nauFvcoMax

instance (fvco : UInt64) : Decidable (FvcoOk fvco) := inferInstanceAs (Decidable (_ ∧ _))

def chooseFvco (fs : UInt32) (scaling : List FllAttr) : UInt64 × Option FllAttr :=
  scaling.foldl (fun chosen attr =>
    if FvcoOk (fvcoOf fs attr) ∧ chosen.1 < fvcoOf fs attr then (fvcoOf fs attr, some attr)
      else chosen) (0, none)

def nau8540CalcFllParam (fllIn fs : UInt32) (fllParam : Nau8540Fll) : Int32 × Nau8540Fll :=
  match fllPreScalar.find? fun attr => fllIn / attr.param ≤ nauFrefMax with
  | none => (-einval, fllParam)
  | some preScalar =>
    let fref := fllIn / preScalar.param
    let fllParam := { fllParam with clkRefDiv := preScalar.val }
    match fllRatio.find? fun attr => fref ≥ attr.param with
    | none => (-einval, fllParam)
    | some ratio =>
      let fllParam := { fllParam with ratio := ratio.val }
      match chooseFvco fs mclkSrcScaling with
      | (_, none) => (-einval, fllParam)
      | (fvcoMax, some mclk) =>
        let fvco := (fvcoMax <<< 16) / (fref * fllParam.ratio).toUInt64
        (0, { fllParam with
          mclkSrc := mclk.val
          fllInt := ((fvco >>> 16) &&& 0x3FF).toUInt32
          fllFrac := (fvco &&& 0xFFFF).toUInt32 })

section Chosen

variable {fs : UInt32}

theorem fvcoOf_toNat (fs : UInt32) {attr : FllAttr} (known : attr ∈ mclkSrcScaling) :
    (fvcoOf fs attr).toNat = 512 * fs.toNat * attr.param.toNat ∧
      512 * fs.toNat * attr.param.toNat < 2 ^ 46 := by
  have small : ∀ attr ∈ mclkSrcScaling, attr.param.toNat ≤ 32 := by decide
  have scale := small attr known
  have rate := fs.toNat_lt
  have product : 512 * fs.toNat * attr.param.toNat ≤ 512 * fs.toNat * 32 := Nat.mul_le_mul_left _ scale
  have below : 512 * fs.toNat * attr.param.toNat < 2 ^ 46 := by omega
  refine ⟨?_, below⟩
  unfold fvcoOf
  rw [UInt64.toNat_mul, UInt64.toNat_mul, UInt64.toNat_mul, UInt32.toNat_toUInt64,
    UInt32.toNat_toUInt64]
  change (256 * fs.toNat % 2 ^ 64 * 2 % 2 ^ 64) * attr.param.toNat % 2 ^ 64 = _
  have twice : 256 * fs.toNat * 2 = 512 * fs.toNat := by omega
  rw [Nat.mod_eq_of_lt (by omega : 256 * fs.toNat < 2 ^ 64), twice,
    Nat.mod_eq_of_lt (by omega : 512 * fs.toNat < 2 ^ 64), Nat.mod_eq_of_lt (by omega)]

structure Largest (fs : UInt32) (seen : List FllAttr) (chosen : UInt64 × Option FllAttr) : Prop where
  empty : chosen.2 = none → chosen.1 = 0 ∧ ∀ attr ∈ seen, ¬ FvcoOk (fvcoOf fs attr)
  best : ∀ attr, chosen.2 = some attr → attr ∈ seen ∧ FvcoOk (fvcoOf fs attr) ∧
    chosen.1 = fvcoOf fs attr ∧
    ∀ other ∈ seen, FvcoOk (fvcoOf fs other) → fvcoOf fs other ≤ chosen.1

theorem Largest.step {seen : List FllAttr} {chosen : UInt64 × Option FllAttr} (largest : Largest fs seen chosen)
    (attr : FllAttr) : Largest fs (seen ++ [attr])
      (if FvcoOk (fvcoOf fs attr) ∧ chosen.1 < fvcoOf fs attr then (fvcoOf fs attr, some attr) else chosen) := by
  by_cases taken : FvcoOk (fvcoOf fs attr) ∧ chosen.1 < fvcoOf fs attr
  · rw [if_pos taken]
    refine ⟨nofun, fun _ same => ?_⟩
    cases same
    refine ⟨List.mem_append_right _ (List.mem_singleton_self attr), taken.1, rfl, fun other there ok => ?_⟩
    rcases List.mem_append.mp there with before | now
    · cases sel : chosen.2 with
      | none => exact absurd ok ((largest.empty sel).2 other before)
      | some attr' => exact UInt64.le_of_lt (UInt64.lt_of_le_of_lt ((largest.best attr' sel).2.2.2 other before ok) taken.2)
    · rw [List.mem_singleton.mp now]
      exact UInt64.le_refl _
  · rw [if_neg taken]
    constructor
    · intro sel
      obtain ⟨zero, before⟩ := largest.empty sel
      refine ⟨zero, fun other there => ?_⟩
      rcases List.mem_append.mp there with earlier | now
      · exact before other earlier
      · rw [List.mem_singleton.mp now]
        intro ok
        refine taken ⟨ok, ?_⟩
        rw [zero]
        exact UInt64.lt_trans (by decide : (0 : UInt64) < nauFvcoMin) ok.1
    · intro attr' sel
      obtain ⟨there, ok, same, before⟩ := largest.best attr' sel
      refine ⟨List.mem_append_left _ there, ok, same, fun other there ok => ?_⟩
      rcases List.mem_append.mp there with earlier | now
      · exact before other earlier ok
      · rw [List.mem_singleton.mp now] at ok ⊢
        exact UInt64.not_lt.mp fun more => taken ⟨ok, more⟩

theorem chooseFvco_largest (fs : UInt32) (scaling : List FllAttr) :
    Largest fs scaling (chooseFvco fs scaling) := by
  have start : Largest fs [] (0, none) := ⟨fun _ => ⟨rfl, nofun⟩, nofun⟩
  have walk (seen rest : List FllAttr) (chosen : UInt64 × Option FllAttr)
      (largest : Largest fs seen chosen) :
      Largest fs (seen ++ rest) (rest.foldl (fun chosen attr =>
        if FvcoOk (fvcoOf fs attr) ∧ chosen.1 < fvcoOf fs attr then (fvcoOf fs attr, some attr)
          else chosen) chosen) := by
    induction rest generalizing seen chosen with
    | nil => rwa [List.append_nil]
    | cons attr rest ih =>
      rw [List.append_cons]
      exact ih _ _ (largest.step attr)
  exact walk [] scaling _ start

end Chosen

structure SmallestScaler (fllIn : UInt32) (attr : FllAttr) : Prop where
  known : attr ∈ fllPreScalar
  reference : fllIn.toNat / attr.param.toNat ≤ 13500000
  smallest : ∀ other ∈ fllPreScalar, fllIn.toNat / other.param.toNat ≤ 13500000 →
    attr.param ≤ other.param

def InRange (fs : UInt32) (attr : FllAttr) : Prop :=
  90000000 < 512 * fs.toNat * attr.param.toNat ∧ 512 * fs.toNat * attr.param.toNat < 100000000

-- What the parameters stand for, with the products of the calculation as they are without a bound.
structure FllParams (fllIn fs : UInt32) (fll : Nau8540Fll) (preScalar ratio mclk : FllAttr)
    (fref fvco : Nat) :
    Prop where
  scaler : SmallestScaler fllIn preScalar
  clkRefDiv : fll.clkRefDiv = preScalar.val
  reference : fref = fllIn.toNat / preScalar.param.toNat
  ratioKnown : ratio ∈ fllRatio ∧ ratio.param.toNat ≤ fref
  ratioSel : fll.ratio = ratio.val
  mclkKnown : mclk ∈ mclkSrcScaling ∧ InRange fs mclk
  mclkSrc : fll.mclkSrc = mclk.val
  dco : fvco = 512 * fs.toNat * mclk.param.toNat
  largest : ∀ other ∈ mclkSrcScaling, InRange fs other → 512 * fs.toNat * other.param.toNat ≤ fvco
  products : ∀ attr ∈ mclkSrcScaling, 512 * fs.toNat * attr.param.toNat < 2 ^ 64
  product : fref * ratio.val.toNat < 2 ^ 32
  shifted : fvco * 2 ^ 16 < 2 ^ 64
  divisors : (∀ attr ∈ fllPreScalar, attr.param.toNat ≠ 0) ∧ fref * ratio.val.toNat ≠ 0
  masked : fvco * 2 ^ 16 / (fref * ratio.val.toNat) / 2 ^ 16 < 2 ^ 10
  lower : (fll.fllInt.toNat * 2 ^ 16 + fll.fllFrac.toNat) * (fref * ratio.val.toNat) ≤ fvco * 2 ^ 16
  upper : fvco * 2 ^ 16 < (fll.fllInt.toNat * 2 ^ 16 + fll.fllFrac.toNat + 1) * (fref * ratio.val.toNat)

theorem inRange_iff (fs : UInt32) {attr : FllAttr} (known : attr ∈ mclkSrcScaling) :
    FvcoOk (fvcoOf fs attr) ↔ InRange fs attr := by
  have value := (fvcoOf_toNat fs known).1
  unfold FvcoOk InRange
  rw [← value]
  exact Iff.rfl

theorem reference_iff (fllIn : UInt32) (attr : FllAttr) :
    fllIn / attr.param ≤ nauFrefMax ↔ fllIn.toNat / attr.param.toNat ≤ 13500000 := by
  rw [← UInt32.toNat_div]
  exact Iff.rfl

theorem preScalar_sorted :
    fllPreScalar.Pairwise fun first second => first.param ≤ second.param := by decide

theorem preScalar_found {fllIn : UInt32} {attr : FllAttr}
    (found : (fllPreScalar.find? fun attr => fllIn / attr.param ≤ nauFrefMax) = some attr) :
    SmallestScaler fllIn attr := by
  obtain ⟨ok, before, after, split, refused⟩ := List.find?_eq_some_iff_append.mp found
  refine ⟨List.mem_of_find?_eq_some found, (reference_iff fllIn attr).mp (of_decide_eq_true ok),
    fun other there down => ?_⟩
  rw [split] at there
  rcases List.mem_append.mp there with early | late
  · have no := refused other early
    rw [decide_eq_true ((reference_iff fllIn other).mpr down)] at no
    cases no
  · rcases List.mem_cons.mp late with same | later
    · rw [same]
      exact UInt32.le_refl _
    · have sorted := preScalar_sorted
      rw [split] at sorted
      exact (List.pairwise_cons.mp (List.pairwise_append.mp sorted).2.1).1 other later

theorem preScalar_missing {fllIn : UInt32}
    (missing : (fllPreScalar.find? fun attr => fllIn / attr.param ≤ nauFrefMax) = none)
    (attr : FllAttr) :
    ¬ SmallestScaler fllIn attr := by
  intro scaler
  have no := List.find?_eq_none.mp missing attr scaler.known
  exact no (decide_eq_true ((reference_iff fllIn attr).mpr scaler.reference))

theorem SmallestScaler.unique {fllIn : UInt32} {first second : FllAttr}
    (one : SmallestScaler fllIn first) (other : SmallestScaler fllIn second) : first = second := by
  have same : first.param = second.param :=
    UInt32.le_antisymm (one.smallest second other.known other.reference)
      (other.smallest first one.known one.reference)
  have distinct : ∀ a ∈ fllPreScalar, ∀ b ∈ fllPreScalar, a.param = b.param → a = b := by decide
  exact distinct first one.known second other.known same

theorem ratio_missing {fref : UInt32}
    (missing : (fllRatio.find? fun attr => fref ≥ attr.param) = none) :
    fref.toNat < 4000 := by
  have no := List.find?_eq_none.mp missing ⟨4000, 0x40⟩ (by decide)
  exact Nat.lt_of_not_le fun more => no (decide_eq_true more)

theorem ratio_bounds {attr : FllAttr} (known : attr ∈ fllRatio) :
    4000 ≤ attr.param.toNat ∧ attr.val.toNat ≤ 64 ∧ 256000 ≤ attr.param.toNat * attr.val.toNat := by
  have all : ∀ attr ∈ fllRatio,
      4000 ≤ attr.param.toNat ∧ attr.val.toNat ≤ 64 ∧
      256000 ≤ attr.param.toNat * attr.val.toNat := by decide
  exact all attr known

theorem scaled_bounds {fref ratio fvco : Nat} (least : 256000 ≤ fref * ratio)
    (below : fvco < 100000000) :
    fvco * 2 ^ 16 / (fref * ratio) < 1024 * 2 ^ 16 := by
  have smaller : fvco * 2 ^ 16 / (fref * ratio) ≤ fvco * 2 ^ 16 / 256000 :=
    Nat.div_le_div_left least (by decide)
  omega

theorem fields_join (value : UInt64) (fits : value.toNat < 1024 * 2 ^ 16) :
    ((value >>> 16) &&& 0x3FF).toUInt32.toNat * 2 ^ 16 + (value &&& 0xFFFF).toUInt32.toNat =
      value.toNat := by
  have upper : ((value >>> 16) &&& 0x3FF).toUInt32.toNat = value.toNat / 2 ^ 16 := by
    rw [UInt64.toNat_toUInt32, UInt64.toNat_and, UInt64.toNat_shiftRight]
    change (value.toNat >>> 16 &&& 2 ^ 10 - 1) % 2 ^ 32 = _
    rw [Nat.and_two_pow_sub_one_eq_mod, Nat.shiftRight_eq_div_pow]
    omega
  have lower : (value &&& 0xFFFF).toUInt32.toNat = value.toNat % 2 ^ 16 := by
    rw [UInt64.toNat_toUInt32, UInt64.toNat_and]
    change (value.toNat &&& 2 ^ 16 - 1) % 2 ^ 32 = _
    rw [Nat.and_two_pow_sub_one_eq_mod]
    omega
  rw [upper, lower]
  omega

section Accepted

variable {fllIn fs : UInt32} {preScalar ratio mclk : FllAttr}

theorem divisor_value (scaler : SmallestScaler fllIn preScalar) (known : ratio ∈ fllRatio)
    (enough : ratio.param.toNat ≤ fllIn.toNat / preScalar.param.toNat) :
    256000 ≤ fllIn.toNat / preScalar.param.toNat * ratio.val.toNat ∧
      fllIn.toNat / preScalar.param.toNat * ratio.val.toNat < 2 ^ 32 ∧
      (fllIn / preScalar.param * ratio.val).toUInt64.toNat =
        fllIn.toNat / preScalar.param.toNat * ratio.val.toNat := by
  obtain ⟨-, narrow, least⟩ := ratio_bounds known
  have most : fllIn.toNat / preScalar.param.toNat * ratio.val.toNat ≤ 13500000 * 64 :=
    Nat.mul_le_mul scaler.reference narrow
  have fits : fllIn.toNat / preScalar.param.toNat * ratio.val.toNat < 2 ^ 32 := by omega
  refine ⟨Nat.le_trans least (Nat.mul_le_mul_right _ enough), fits, ?_⟩
  rw [UInt32.toNat_toUInt64, UInt32.toNat_mul, UInt32.toNat_div, Nat.mod_eq_of_lt fits]

theorem shifted_value {fvco : UInt64} (below : fvco.toNat < 100000000) :
    (fvco <<< 16).toNat = fvco.toNat * 2 ^ 16 := by
  rw [UInt64.toNat_shiftLeft]
  change fvco.toNat <<< 16 % 2 ^ 64 = _
  rw [Nat.shiftLeft_eq]
  omega

theorem fllParams_of_found {fvcoMax : UInt64} {fll : Nau8540Fll}
    (scaler : SmallestScaler fllIn preScalar)
    (known : ratio ∈ fllRatio) (enough : ratio.param.toNat ≤ fllIn.toNat / preScalar.param.toNat)
    (chosen : chooseFvco fs mclkSrcScaling = (fvcoMax, some mclk)) (clkRefDiv : fll.clkRefDiv =
      preScalar.val)
    (ratioSel : fll.ratio = ratio.val) (mclkSrc : fll.mclkSrc = mclk.val)
    (fllInt : fll.fllInt =
      ((((fvcoMax <<< 16) / (fllIn / preScalar.param * ratio.val).toUInt64) >>> 16) &&& 0x3FF).toUInt32)
    (fllFrac : fll.fllFrac =
      (((fvcoMax <<< 16) / (fllIn / preScalar.param * ratio.val).toUInt64) &&& 0xFFFF).toUInt32) :
    FllParams fllIn fs fll preScalar ratio mclk (fllIn.toNat / preScalar.param.toNat)
      (512 * fs.toNat * mclk.param.toNat) := by
  have largest := chooseFvco_largest fs mclkSrcScaling
  rw [chosen] at largest
  obtain ⟨there, ok, same, most⟩ := largest.best mclk rfl
  dsimp only at same most
  have range := (inRange_iff fs there).mp ok
  have value : fvcoMax.toNat = 512 * fs.toNat * mclk.param.toNat := by
    rw [same]
    exact (fvcoOf_toNat fs there).1
  obtain ⟨least, fits, divisor⟩ := divisor_value scaler known enough
  have quotient : ((fvcoMax <<< 16) / (fllIn / preScalar.param * ratio.val).toUInt64).toNat =
      512 * fs.toNat * mclk.param.toNat * 2 ^ 16 /
      (fllIn.toNat / preScalar.param.toNat * ratio.val.toNat) := by
    rw [UInt64.toNat_div, shifted_value (by rw [value]; exact range.2), divisor, value]
  have bounded := scaled_bounds least range.2
  have joined : fll.fllInt.toNat * 2 ^ 16 + fll.fllFrac.toNat =
      512 * fs.toNat * mclk.param.toNat * 2 ^ 16 /
      (fllIn.toNat / preScalar.param.toNat * ratio.val.toNat) := by
    rw [fllInt, fllFrac, fields_join _ (by rw [quotient]; exact bounded), quotient]
  refine ⟨scaler, clkRefDiv, rfl, ⟨known, enough⟩, ratioSel, ⟨there, range⟩, mclkSrc, rfl, ?_, ?_,
    fits, ?_, ⟨by decide, ?_⟩,
    ?_, ?_, ?_⟩
  · intro other known' inRange
    have less := UInt64.le_iff_toNat_le.mp (most other known' ((inRange_iff fs known').mpr inRange))
    rwa [(fvcoOf_toNat fs known').1, value] at less
  · intro attr known'
    have small := (fvcoOf_toNat fs known').2
    omega
  · have below := range.2
    omega
  · omega
  · exact Nat.div_lt_of_lt_mul (by omega)
  · rw [joined]
    exact Nat.div_mul_le_self _ _
  · have next := Nat.lt_mul_div_succ (512 * fs.toNat * mclk.param.toNat * 2 ^ 16)
      (Nat.lt_of_lt_of_le (by decide : 0 < 256000) least)
    rwa [joined, Nat.mul_comm _ (fllIn.toNat / preScalar.param.toNat * ratio.val.toNat)]

end Accepted

theorem fll_params (fllIn fs : UInt32) (before : Nau8540Fll) :
    ((nau8540CalcFllParam fllIn fs before).1 = 0 ∨ (nau8540CalcFllParam fllIn fs before).1 = -einval) ∧
      ((nau8540CalcFllParam fllIn fs before).1 = 0 ↔
        (∃ preScalar, SmallestScaler fllIn preScalar ∧ 4000 ≤ fllIn.toNat / preScalar.param.toNat) ∧
          ∃ mclk ∈ mclkSrcScaling, InRange fs mclk) ∧
      ((nau8540CalcFllParam fllIn fs before).1 = 0 → ∃ preScalar ratio mclk fref fvco,
        FllParams fllIn fs (nau8540CalcFllParam fllIn fs before).2 preScalar ratio mclk fref fvco) := by
  have refused : -einval ≠ 0 := by decide
  unfold nau8540CalcFllParam
  cases found : fllPreScalar.find? fun attr => fllIn / attr.param ≤ nauFrefMax with
  | none =>
    refine ⟨.inr rfl, ⟨fun zero => absurd zero refused, ?_⟩, fun zero => absurd zero refused⟩
    rintro ⟨⟨attr, scaler, -⟩, -⟩
    exact absurd scaler (preScalar_missing found attr)
  | some preScalar =>
    have scaler := preScalar_found found
    dsimp only
    cases ratioFound : fllRatio.find? fun attr => fllIn / preScalar.param ≥ attr.param with
    | none =>
      refine ⟨.inr rfl, ⟨fun zero => absurd zero refused, ?_⟩, fun zero => absurd zero refused⟩
      rintro ⟨⟨attr, other, enough⟩, -⟩
      have low := ratio_missing ratioFound
      rw [UInt32.toNat_div, scaler.unique other] at low
      omega
    | some ratio =>
      have known := List.mem_of_find?_eq_some ratioFound
      have enough : ratio.param.toNat ≤ fllIn.toNat / preScalar.param.toNat := by
        have at_least := List.find?_some ratioFound
        rw [← UInt32.toNat_div]
        exact UInt32.le_iff_toNat_le.mp (of_decide_eq_true at_least)
      have low := (ratio_bounds known).1
      have largest := chooseFvco_largest fs mclkSrcScaling
      dsimp only
      rcases chosen : chooseFvco fs mclkSrcScaling with ⟨fvcoMax, sel⟩
      rw [chosen] at largest
      cases sel with
      | none =>
        refine ⟨.inr rfl, ⟨fun zero => absurd zero refused, ?_⟩, fun zero => absurd zero refused⟩
        rintro ⟨-, mclk, there, range⟩
        exact absurd ((inRange_iff fs there).mpr range) ((largest.empty rfl).2 mclk there)
      | some mclk =>
        obtain ⟨there, ok, -, -⟩ := largest.best mclk rfl
        refine ⟨.inl rfl, ⟨fun _ => ⟨⟨preScalar, scaler, by omega⟩, mclk, there,
          (inRange_iff fs there).mp ok⟩,
          fun _ => rfl⟩, fun _ => ?_⟩
        exact ⟨preScalar, ratio, mclk, _, _,
          fllParams_of_found scaler known enough chosen rfl rfl rfl rfl rfl⟩

end UnionpiTiger.Audio
