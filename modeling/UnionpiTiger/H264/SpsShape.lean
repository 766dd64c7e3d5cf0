import UnionpiTiger.H264.SpsSafety

set_option autoImplicit false

namespace UnionpiTiger.H264.SpsParser

open Lib Prog

def picWidthInMbs (m : Nat → UInt8) (widthAt : Nat) : Int := ueAt m widthAt + 1

def frameHeightInMbs (m : Nat → UInt8) (heightAt flagAt : Nat) : Int :=
  (ueAt m heightAt + 1) * (2 - bitAt m flagAt)

section Sizes

variable (m : Nat → UInt8)

def Chroma (format : Int) : Prop := 0 ≤ format ∧ format ≤ 3

def Core.Sized (c : Core) : Prop := ∃ widthAt heightAt flagAt, c.sizeAt = [flagAt, heightAt, widthAt] ∧
  c.mbWidth = picWidthInMbs m widthAt ∧ c.mbHeight = frameHeightInMbs m heightAt flagAt

def Core.Cropped (c : Core) :
    Prop := (0 < c.mbWidth → (c.cropLeft + c.cropRight : Int) < 16 * c.mbWidth) ∧
  (0 < c.mbHeight → (c.cropTop + c.cropBottom : Int) < 16 * c.mbHeight)

def Core.Shaped (c : Core) : Prop := c.Sized m ∧ Chroma c.chromaFormatIdc ∧ c.Cropped

end Sizes

section Values

variable {m : Nat → UInt8} {n sizeInBits : Nat} {α : Type}

theorem picWidthInMbs_range (m : Nat → UInt8) (widthAt : Nat) :
    (0 ≤ picWidthInMbs m widthAt ∧ picWidthInMbs m widthAt ≤ 8191) ∧
      (1 ≤ picWidthInMbs m widthAt ↔ Readable m widthAt) := by
  obtain ⟨len, -, range, -, invalid⟩ := getUeGolomb_value m { index := widthAt, touched := 0 }
  have valid : ueAt m widthAt ≠ -1 ↔ Readable m widthAt := by rw [ne_eq, invalid, not_not]
  rw [← valid]
  unfold picWidthInMbs
  dsimp only at range ⊢
  omega

theorem frameHeightInMbs_range (m : Nat → UInt8) (heightAt flagAt : Nat) :
    (0 ≤ frameHeightInMbs m heightAt flagAt ∧ frameHeightInMbs m heightAt flagAt ≤ 16382) ∧
      (1 ≤ frameHeightInMbs m heightAt flagAt ↔ Readable m heightAt) := by
  obtain ⟨range, readable⟩ := picWidthInMbs_range m heightAt
  have bit := bitAt_le m flagAt
  have either : bitAt m flagAt = 0 ∨ bitAt m flagAt = 1 := by omega
  rw [← readable]
  unfold frameHeightInMbs
  unfold picWidthInMbs at range ⊢
  rcases either with zero | one
  · rw [zero]
    omega
  · rw [one]
    omega

theorem crop_fits {l r step : Nat} {size : Int} (few : 0 < step ∧ step ≤ 4)
    (left : ¬l > intMax4 / step) (right : ¬r > intMax4 / step)
    (range : 0 ≤ size ∧ size < 4294967296) (sum : ¬u32 (u32 (l + r) * step) ≥ u32 size) :
    (u32 (l * step) + u32 (r * step) : Int) < size := by
  have product : ∀ v, ¬v > intMax4 / step → v * step ≤ 536870911 := fun v less =>
    (Nat.le_div_iff_mul_le few.1).mp (Nat.le_of_not_lt less)
  have first := product l left
  have second := product r right
  have leftSmall : l ≤ l * step := Nat.le_mul_of_pos_right l few.1
  have rightSmall : r ≤ r * step := Nat.le_mul_of_pos_right r few.1
  have both : u32 ((l : Int) + r) = l + r := by
    rw [← Nat.cast_add]
    exact u32_natCast (by omega)
  have distribute : (l + r) * step = l * step + r * step := Nat.add_mul l r step
  have same := u32_eq range.1 range.2
  rw [both, ← Nat.cast_mul, u32_natCast (by omega)] at sum
  rw [← Nat.cast_mul, ← Nat.cast_mul, u32_natCast (by omega), u32_natCast (by omega)]
  omega

end Values

-- What a part of the parser makes of the sequence parameters and of the noted places, wherever
-- the reader is.
structure Shapes {α : Type} (P : Sps → List Nat → Prop) (f : Parse α)
    (Q : α → Sps → List Nat → Prop) : Prop where
  triple : Triple (fun s => P s.sps s.sizeAt) f (fun a s => Q a s.sps s.sizeAt) (fun _ _ => True)

section Rules

variable {α β : Type} {P P' : Sps → List Nat → Prop} {Q : α → Sps → List Nat → Prop}
  {T : β → Sps → List Nat → Prop} {f : Parse α}
  {g : α → Parse β}

theorem Shapes.bind (first : Shapes P f Q) (second : ∀ a, Shapes (Q a) (g a) T) :
    Shapes P (f >>= g) T :=
  ⟨Triple.bind first.triple fun a => (second a).triple⟩

theorem Shapes.pure {a : α} (after : ∀ sps sizeAt, P sps sizeAt → Q a sps sizeAt) :
    Shapes P (pure a) Q :=
  ⟨Triple.pure fun s => after s.sps s.sizeAt⟩

theorem Shapes.conseq {Q' : α → Sps → List Nat → Prop} (shapes : Shapes P f Q)
    (before : ∀ sps sizeAt, P' sps sizeAt → P sps sizeAt)
    (after : ∀ a sps sizeAt, Q a sps sizeAt → Q' a sps sizeAt) : Shapes P' f Q' :=
  ⟨shapes.triple.conseq (fun s => before s.sps s.sizeAt) fun a s => after a s.sps s.sizeAt⟩

theorem Shapes.read (reading : Reading α) : Shapes P (read reading) fun _ => P :=
  ⟨(show Keeps (fun s : Parsing => (s.sps, s.sizeAt)) (SpsParser.read reading) from fun _ =>
    rfl).triple fun kept => P kept.1 kept.2⟩

theorem Shapes.behindLoop (reading : Reading α) : Shapes P (behindLoop reading) fun _ => P :=
  Shapes.bind ⟨Triple.modify fun _ => id⟩ fun _ => Shapes.read reading

theorem Shapes.flag (m : Nat → UInt8) : Shapes P (flag m) fun _ => P :=
  Shapes.bind (Shapes.read _) fun _ => Shapes.pure fun _ _ => id

theorem Shapes.set (after : Sps → List Nat → Prop) {change : Sps → Sps}
    (holds : ∀ sps sizeAt, P sps sizeAt → after (change sps) sizeAt) :
    Shapes P (set change) fun _ => after :=
  ⟨Triple.modify fun s => holds s.sps s.sizeAt⟩

theorem Shapes.sps : Shapes P sps fun now sps sizeAt => P sps sizeAt ∧ now = sps := ⟨Triple.gets⟩

theorem Shapes.failIf {c : Prop} [Decidable c] :
    Shapes P (failIf c) fun _ sps sizeAt => P sps sizeAt ∧ ¬c :=
  ⟨Triple.stopIf fun _ _ _ => trivial⟩

theorem Shapes.check {c : Prop} [Decidable c] : Shapes P (SpsParser.failIf c) fun _ => P :=
  Shapes.failIf.conseq (fun _ _ => id) fun _ _ _ => And.left

theorem Shapes.ite {c : Prop} [Decidable c] {f f' : Parse α} (yes : c → Shapes P f Q)
    (no : ¬c → Shapes P f' Q) :
    Shapes P (if c then f else f') Q :=
      ⟨Triple.ite (fun holds => (yes holds).triple) fun not => (no not).triple⟩

theorem Shapes.when {c : Prop} [Decidable c] {f : Parse Unit} (yes : Shapes P f fun _ => P) :
    Shapes P (when c f) fun _ => P :=
  Shapes.ite (fun _ => yes) fun _ => Shapes.pure fun _ _ => id

theorem Shapes.keep {n : Nat} {before after : Place} (parses : Parses core n before f after)
    (holds : Core → Prop) :
    Shapes (fun sps sizeAt => holds (core sps sizeAt)) f fun _ sps sizeAt => holds (core sps sizeAt) :=
  ⟨parses.keeps.triple holds⟩

theorem Shapes.sizeCode {reading : Reading α} {value : Nat → α}
    (returns : ∀ r, (reading r).1 = .ok (value r.index)) :
    Shapes P (sizeCode reading) fun v sps sizeAt => ∃ at_ rest, sizeAt = at_ :: rest ∧ P sps rest ∧
      v = value at_ := by
  refine ⟨fun s before => ?_⟩
  have run : SpsParser.sizeCode reading s = (.ok (value s.reader.index),
      { s with reader := (reading s.reader).2, sizeAt := s.reader.index :: s.sizeAt }) := by
    change ((reading s.reader).1, _) = _
    rw [returns]
  rw [run]
  exact ⟨s.reader.index, s.sizeAt, rfl, before, rfl⟩

end Rules

section Fields

variable {m : Nat → UInt8} {n sizeInBits : Nat}

theorem chromaFormat_shape (padded : Padded m n) : Shapes (fun _ sizeAt => sizeAt = []) (chromaFormat m)
    fun _ sps sizeAt => sizeAt = [] ∧ Chroma sps.chromaFormatIdc := by
  have known : (0 : Int) ≤ 1 ∧ (1 : Int) ≤ 3 := by decide
  refine Shapes.bind Shapes.sps fun now => Shapes.ite (fun _ => ?_) fun _ =>
    Shapes.set _ fun _ _ before => ⟨before.1, known⟩
  refine Shapes.bind (Shapes.read _) fun format => ?_
  refine Shapes.bind (Shapes.set (fun sps sizeAt => sizeAt = [] ∧
    sps.chromaFormatIdc = (format : Nat)) fun _ _ before =>
    ⟨before.1, rfl⟩) fun _ => ?_
  refine Shapes.bind Shapes.failIf fun _ => ?_
  have transform := Shapes.keep (colorTransform_near (k := 37) padded (by decide)) fun c =>
    c.sizeAt = [] ∧ Chroma c.chromaFormatIdc
  refine Shapes.bind (Shapes.conseq (Shapes.when transform) (fun sps sizeAt before =>
    ⟨before.1.1, ?_⟩) fun _ _ _ => id)
    fun _ => Shapes.keep (bitDepths_drag (k := 38) padded (by decide)) fun c => c.sizeAt = [] ∧
      Chroma c.chromaFormatIdc
  have small := before.2
  have value : (core sps sizeAt).chromaFormatIdc = (format : Nat) := before.1.2
  unfold Chroma
  omega

def Sizing (m : Nat → UInt8) (sps : Sps) (sizeAt : List Nat) : Prop :=
  (core sps sizeAt).Sized m ∧ Chroma sps.chromaFormatIdc ∧
    (sps.frameMbsOnlyFlag = 0 ∨ sps.frameMbsOnlyFlag = 1)

theorem getUeGolomb_returns (m : Nat → UInt8) (r : Reader) :
    (getUeGolomb m r).1 = .ok (ueAt m r.index) := by
  obtain ⟨len, run, -⟩ := getUeGolomb_value m r
  exact congrArg Prod.fst run

theorem getBits1_returns (m : Nat → UInt8) (r : Reader) :
    (getBits1 m r).1 = .ok (bitAt m r.index) := rfl

theorem mbSize_shape (m : Nat → UInt8) :
    Shapes (fun sps sizeAt => sizeAt = [] ∧ Chroma sps.chromaFormatIdc) (mbSize m) fun _ =>
      Sizing m := by
  refine Shapes.bind (Shapes.sizeCode (getUeGolomb_returns m)) fun width => ?_
  refine Shapes.bind (Shapes.sizeCode (getUeGolomb_returns m)) fun height => ?_
  refine Shapes.bind (Shapes.sizeCode (getBits1_returns m)) fun frameMbsOnly => ?_
  refine Shapes.bind (Shapes.set (fun sps sizeAt => Chroma sps.chromaFormatIdc ∧
    ∃ widthAt heightAt flagAt,
    sizeAt = [flagAt, heightAt, widthAt] ∧ sps.mbWidth = picWidthInMbs m widthAt ∧
      sps.mbHeight = ueAt m heightAt + 1 ∧
      sps.frameMbsOnlyFlag = bitAt m flagAt) ?_) fun _ => Shapes.bind Shapes.check fun _ => ?_
  · rintro sps sizeAt ⟨flagAt, _, rfl,
      ⟨heightAt, _, rfl, ⟨widthAt, _, rfl, ⟨rfl, chroma⟩, rfl⟩, rfl⟩, rfl⟩
    have width : ueAt m widthAt + 1 = picWidthInMbs m widthAt := by rw [picWidthInMbs]
    exact ⟨chroma, widthAt, heightAt, flagAt, rfl, width, rfl, rfl⟩
  refine Shapes.bind (Shapes.set (Sizing m) ?_) fun _ => ?_
  · rintro sps sizeAt ⟨chroma, widthAt, heightAt, flagAt, places, width, height, flag⟩
    have bit := bitAt_le m flagAt
    refine ⟨⟨widthAt, heightAt, flagAt, places, width, ?_⟩, chroma, ?_⟩
    · change sps.mbHeight * (2 - sps.frameMbsOnlyFlag) = frameHeightInMbs m heightAt flagAt
      rw [height, flag, frameHeightInMbs]
    · change sps.frameMbsOnlyFlag = 0 ∨ sps.frameMbsOnlyFlag = 1
      omega
  have mbAff : Shapes (Sizing m) (mbAffFlag m) fun _ => Sizing m :=
    Shapes.bind (Shapes.flag m) fun _ => Shapes.set _ fun _ _ => id
  refine Shapes.bind (Shapes.when mbAff) fun _ => Shapes.bind Shapes.sps fun now => ?_
  exact Shapes.conseq Shapes.check (fun _ _ => And.left) fun _ _ _ => id

theorem frameSize_shape (m : Nat → UInt8) :
    Shapes (fun sps sizeAt => sizeAt = [] ∧ Chroma sps.chromaFormatIdc) (frameSize m) fun _ =>
      Sizing m := by
  refine Shapes.bind (Shapes.behindLoop _) fun refs => ?_
  refine Shapes.bind (Shapes.set (fun sps sizeAt => sizeAt = [] ∧
    Chroma sps.chromaFormatIdc) fun _ _ => id) fun _ => ?_
  refine Shapes.bind Shapes.check fun _ => Shapes.bind (Shapes.flag m) fun gaps => ?_
  refine Shapes.bind (Shapes.set (fun sps sizeAt => sizeAt = [] ∧
    Chroma sps.chromaFormatIdc) fun _ _ => id) fun _ => ?_
  refine Shapes.bind (mbSize_shape m) fun _ => Shapes.bind (Shapes.flag m) fun direct => ?_
  exact Shapes.set _ fun _ _ => id

theorem stepX_range {c : Prop} [Decidable c] : 0 < (if c then 2 else 1) ∧ (if c then 2 else 1) ≤ 4 := by
  split <;> decide

theorem stepY_range {frameMbsOnly chroma : Int} (flag : frameMbsOnly = 0 ∨ frameMbsOnly = 1) :
    0 < (2 - frameMbsOnly).toNat * (if chroma = 1 then 2 else 1) ∧
    (2 - frameMbsOnly).toNat * (if chroma = 1 then 2 else 1) ≤ 4 := by
  rcases flag with rfl | rfl
  · split <;> decide
  · split <;> decide

theorem mb_range {mbs most : Int} (range : 0 ≤ mbs ∧ mbs ≤ most) (small : most ≤ 100000) :
    0 ≤ 16 * mbs ∧ 16 * mbs < 4294967296 := by
  omega

theorem cropping_shape (m : Nat → UInt8) :
    Shapes (Sizing m) (cropping m) fun _ sps sizeAt => (core sps sizeAt).Shaped m := by
  refine Shapes.bind (Shapes.flag m) fun crop => ?_
  refine Shapes.bind (Shapes.set (Sizing m) fun _ _ => id) fun _ => Shapes.ite (fun _ => ?_) fun _ => ?_
  · refine Shapes.bind (Shapes.read _) fun left => Shapes.bind (Shapes.read _) fun right => ?_
    refine Shapes.bind (Shapes.read _) fun top => Shapes.bind (Shapes.read _) fun bottom => ?_
    refine Shapes.bind Shapes.sps fun now => Shapes.bind Shapes.failIf fun _ => ?_
    refine Shapes.set _ ?_
    rintro sps sizeAt ⟨⟨⟨sized, chroma, flag⟩, rfl⟩, fits⟩
    simp only [not_or] at fits
    obtain ⟨left, right, top, bottom, across, down⟩ := fits
    obtain ⟨widthAt, heightAt, flagAt, places, width, height⟩ := sized
    have widthRange := (picWidthInMbs_range m widthAt).1
    have heightRange := (frameHeightInMbs_range m heightAt flagAt).1
    rw [← width] at widthRange
    rw [← height] at heightRange
    refine ⟨⟨widthAt, heightAt, flagAt, places, width, height⟩, chroma, fun _ => ?_, fun _ => ?_⟩
    · exact crop_fits stepX_range left right (mb_range widthRange (by decide)) across
    · exact crop_fits (stepY_range flag) top bottom (mb_range heightRange (by decide)) down
  · refine Shapes.set _ ?_
    rintro sps sizeAt ⟨sized, chroma, -⟩
    refine ⟨sized, chroma, ?_⟩
    constructor
    · intro positive
      change (0 : Int) + 0 < 16 * sps.mbWidth
      change 0 < sps.mbWidth at positive
      omega
    · intro positive
      change (0 : Int) + 0 < 16 * sps.mbHeight
      change 0 < sps.mbHeight at positive
      omega

theorem fields_shape (padded : Padded m n) :
    Shapes (fun _ sizeAt => sizeAt = []) (fields m sizeInBits) fun _ sps sizeAt =>
      (core sps sizeAt).Shaped m := by
  refine Shapes.bind (Shapes.keep (identification_near padded) fun c => c.sizeAt = []) fun _ => ?_
  refine Shapes.bind (chromaFormat_shape padded) fun _ => ?_
  refine Shapes.bind (Shapes.keep (picOrder_drag padded) fun c => c.sizeAt = [] ∧
    Chroma c.chromaFormatIdc) fun _ => ?_
  refine Shapes.bind (frameSize_shape m) fun _ => Shapes.bind (cropping_shape m) fun _ => ?_
  exact Shapes.keep (vui_near padded) (Core.Shaped m)

end Fields

end UnionpiTiger.H264.SpsParser
