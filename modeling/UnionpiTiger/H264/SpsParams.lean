import UnionpiTiger.H264.ResChange
import UnionpiTiger.H264.SpsShape

set_option autoImplicit false

namespace UnionpiTiger.H264.SpsParser

open Lib Prog

section Params

def vdecConfigDwMode (pic : PicInfo) (dwMode : Int) : PicInfo :=
  if dwMode = 1 then
    let codedWidth := u32 (pic.codedWidth + pic.codedWidth / 2 : Nat)
    let yLenSz := u32 (codedWidth * pic.codedHeight : Nat)
    { pic with codedWidth, yLenSz, cLenSz := yLenSz / 2 }
  else if dwMode = 2 then
    let codedWidth := u32 (pic.codedWidth + pic.codedWidth / 2 : Nat)
    let codedHeight := u32 (pic.codedHeight + pic.codedHeight / 2 : Nat)
    let yLenSz := u32 (codedWidth * codedHeight : Nat)
    { pic with codedWidth, codedHeight, yLenSz, cLenSz := yLenSz / 2 }
  else pic

-- The sizes that `fill_vdec_params` writes, with the double write mode of the configuration.
def fillVdecParams (dw : Int) (sps : Sps) : PicInfo :=
  let mbW := u32 sps.mbWidth
  let mbH := u32 sps.mbHeight
  let width := u32 (mbW * 16 : Nat)
  let height := u32 (mbH * 16 : Nat)
  let width := u32 (width - u32 (sps.cropLeft + sps.cropRight : Nat))
  let height := u32 (height - u32 (sps.cropTop + sps.cropBottom : Nat))
  let codedWidth := u32 (u32 (mbW + 3 : Nat) / 4 * 4 * 16 : Nat)
  let codedHeight := u32 (u32 (mbH + 3 : Nat) / 4 * 4 * 16 : Nat)
  let yLenSz := u32 (codedWidth * codedHeight : Nat)
  vdecConfigDwMode
    { visibleWidth := width
      visibleHeight := height
      codedWidth
      codedHeight
      yLenSz
      cLenSz := yLenSz / 2
      profileIdc := sps.profileIdc
      refFrameCount := sps.refFrameCount } dw

def withDouble (dw : Int) (width height : Nat) : Nat × Nat :=
  if dw = 1 then (width + width / 2, height) else if dw = 2
    then (width + width / 2, height + height / 2) else (width, height)

def canvasSize (dw : Int) (mbWidth mbHeight : Nat) : Nat × Nat :=
  withDouble dw ((mbWidth + 3) / 4 * 64) ((mbHeight + 3) / 4 * 64)

def SizesRight (sps : Sps) (pic : PicInfo) : Prop :=
  (1 ≤ sps.mbWidth ∧ 1 ≤ sps.mbHeight) ∧
  (1 ≤ pic.visibleWidth ∧ (pic.visibleWidth : Int) ≤ 16 * sps.mbWidth ∧
    16 * sps.mbWidth ≤ pic.codedWidth) ∧
  (1 ≤ pic.visibleHeight ∧ (pic.visibleHeight : Int) ≤ 16 * sps.mbHeight ∧
    16 * sps.mbHeight ≤ pic.codedHeight) ∧
  pic.yLenSz = pic.codedWidth * pic.codedHeight

theorem withDouble_range (dw : Int) (width height : Nat) :
    (width ≤ (withDouble dw width height).1 ∧ (withDouble dw width height).1 ≤ 2 * width) ∧
      height ≤ (withDouble dw width height).2 ∧ (withDouble dw width height).2 ≤ 2 * height := by
  unfold withDouble
  split
  · dsimp only
    omega
  · split
    · dsimp only
      omega
    · dsimp only
      omega

theorem vdecConfigDwMode_sizes (dw : Int) {pic : PicInfo} {width height : Nat}
    (widthMost : width ≤ 1048576) (heightMost : height ≤ 1048576) (across : pic.codedWidth = width)
    (down : pic.codedHeight = height) (area : pic.yLenSz = u32 (width * height : Nat)) :
    (vdecConfigDwMode pic dw).codedWidth = (withDouble dw width height).1 ∧
      (vdecConfigDwMode pic dw).codedHeight = (withDouble dw width height).2 ∧
      (vdecConfigDwMode pic dw).yLenSz =
        u32 ((withDouble dw width height).1 * (withDouble dw width height).2 : Nat) := by
  have wide : u32 (width + width / 2 : Nat) = width + width / 2 := u32_natCast (by omega)
  have high : u32 (height + height / 2 : Nat) = height + height / 2 := u32_natCast (by omega)
  unfold vdecConfigDwMode withDouble
  simp only [across, down, wide, high]
  split
  · exact ⟨rfl, rfl, rfl⟩
  · split
    · exact ⟨rfl, rfl, rfl⟩
    · exact ⟨across, down, area⟩

theorem vdecConfigDwMode_visible (pic : PicInfo) (dw : Int) :
    (vdecConfigDwMode pic dw).visibleWidth = pic.visibleWidth ∧
    (vdecConfigDwMode pic dw).visibleHeight = pic.visibleHeight := by
  unfold vdecConfigDwMode
  split
  · exact ⟨rfl, rfl⟩
  · split
    · exact ⟨rfl, rfl⟩
    · exact ⟨rfl, rfl⟩

theorem visible_eq {mbs crop : Nat} (small : mbs ≤ 16382) (cropped : crop < 16 * mbs) :
    u32 ((u32 (mbs * 16 : Nat) : Int) - u32 (crop : Nat)) = 16 * mbs - crop := by
  rw [u32_natCast (by omega), u32_natCast (by omega)]
  unfold u32
  omega

theorem coded_eq {mbs : Nat} (small : mbs ≤ 16382) :
    u32 (u32 (mbs + 3 : Nat) / 4 * 4 * 16 : Nat) = (mbs + 3) / 4 * 64 := by
  rw [u32_natCast (n := mbs + 3) (by omega), u32_natCast (by omega)]
  omega

section Filled

variable {sps : Sps} {mbWidth mbHeight : Nat} (dw : Int) (width : sps.mbWidth = mbWidth)
  (height : sps.mbHeight = mbHeight)
  (widthMost : mbWidth ≤ 8191) (heightMost : mbHeight ≤ 16382)

include width height widthMost heightMost

theorem fillVdecParams_canvas :
    (fillVdecParams dw sps).codedWidth = (canvasSize dw mbWidth mbHeight).1 ∧
    (fillVdecParams dw sps).codedHeight = (canvasSize dw mbWidth mbHeight).2 ∧
    (fillVdecParams dw sps).yLenSz =
      u32 ((canvasSize dw mbWidth mbHeight).1 * (canvasSize dw mbWidth mbHeight).2 : Nat) := by
  have across := (@coded_eq mbWidth) (by omega)
  have down := coded_eq heightMost
  unfold fillVdecParams canvasSize
  simp only [width, height, u32_natCast (show mbWidth < 4294967296 by omega),
    u32_natCast (show mbHeight < 4294967296 by omega), across, down]
  exact vdecConfigDwMode_sizes dw (by omega) (by omega) rfl rfl rfl

theorem fillVdecParams_visible (across : sps.cropLeft + sps.cropRight < 16 * mbWidth)
    (down : sps.cropTop + sps.cropBottom < 16 * mbHeight) :
    (fillVdecParams dw sps).visibleWidth = 16 * mbWidth - (sps.cropLeft + sps.cropRight) ∧
      (fillVdecParams dw sps).visibleHeight = 16 * mbHeight - (sps.cropTop + sps.cropBottom) := by
  have left := visible_eq (by omega) across
  have top := visible_eq heightMost down
  unfold fillVdecParams
  simp only [width, height, u32_natCast (show mbWidth < 4294967296 by omega),
    u32_natCast (show mbHeight < 4294967296 by omega)]
  obtain ⟨first, second⟩ := vdecConfigDwMode_visible _ dw
  exact ⟨first.trans left, second.trans top⟩

theorem fillVdecParams_right (across : 0 < mbWidth → sps.cropLeft + sps.cropRight < 16 * mbWidth)
    (down : 0 < mbHeight → sps.cropTop + sps.cropBottom < 16 * mbHeight) :
    SizesRight sps (fillVdecParams dw sps) ↔
      (1 ≤ mbWidth ∧ 1 ≤ mbHeight) ∧ (canvasSize dw mbWidth mbHeight).1 *
        (canvasSize dw mbWidth mbHeight).2 < 4294967296 := by
  obtain ⟨wide, high, area⟩ := fillVdecParams_canvas dw width height widthMost heightMost
  have range := withDouble_range dw ((mbWidth + 3) / 4 * 64) ((mbHeight + 3) / 4 * 64)
  have word : ∀ v : Nat, u32 v < 4294967296 := fun v => by
    unfold u32
    omega
  unfold SizesRight
  rw [wide, high, area, width, height]
  constructor
  · rintro ⟨some, -, -, fits⟩
    have less := word ((canvasSize dw mbWidth mbHeight).1 * (canvasSize dw mbWidth mbHeight).2)
    exact ⟨by omega, fits ▸ less⟩
  · rintro ⟨⟨one, two⟩, fits⟩
    obtain ⟨first, second⟩ :=
      fillVdecParams_visible dw width height widthMost heightMost (across one) (down two)
    have acrossFits := across one
    have downFits := down two
    rw [first, second, u32_natCast fits]
    unfold canvasSize
    refine ⟨by omega, by omega, by omega, rfl⟩

end Filled

end Params

section Runs

variable (rbsp : List UInt8) (behind : Nat → UInt8)

def rbspMemory (i : Nat) :
    UInt8 := if i < rbsp.length then rbsp.getD i 0 else if i < rbsp.length + 64 then 0 else behind i

def opened (sps : Sps) :
    Parsing := { reader := { index := 8, touched := 4 }, sps, ends := [], sizeAt := [] }

def fieldsRun (sps : Sps) : Except Stop Unit × Parsing :=
  fields (rbspMemory rbsp behind) (8 * rbsp.length) (opened sps)

def spsRun (sps : Sps) : Except Stop Unit × Parsing :=
  amlH264ParserSps (rbspMemory rbsp behind) (8 * rbsp.length) (opened sps)

def Safe (run : Except Stop Unit × Parsing) : Prop :=
  run.1 ≠ .error .divided ∧ run.1 ≠ .error .outside ∧ run.2.reader.touched ≤ rbsp.length + 64

def Meets (dw : Int) (sps : Sps) : Prop := Safe rbsp (spsRun rbsp behind sps) ∧
  ((spsRun rbsp behind sps).1 = .ok () →
    SizesRight (spsRun rbsp behind sps).2.sps (fillVdecParams dw (spsRun rbsp behind sps).2.sps))

def SizeFits (dw : Int) (sizeAt : List Nat) : Prop :=
  ∃ widthAt heightAt flagAt, sizeAt = [flagAt, heightAt, widthAt] ∧
  (Readable (rbspMemory rbsp behind) widthAt ∧ Readable (rbspMemory rbsp behind) heightAt) ∧
  let canvas := canvasSize dw (picWidthInMbs (rbspMemory rbsp behind) widthAt).toNat
    (frameHeightInMbs (rbspMemory rbsp behind) heightAt flagAt).toNat
  canvas.1 * canvas.2 < 4294967296

def Sound (dw : Int) (sps : Sps) : Prop := EndsInside rbsp.length (fieldsRun rbsp behind sps).2.ends ∧
  ((fieldsRun rbsp behind sps).1 = .ok () →
    SizeFits rbsp behind dw (fieldsRun rbsp behind sps).2.sizeAt)

theorem rbspMemory_padded : Padded (rbspMemory rbsp behind) rbsp.length := by
  intro i least most
  rw [rbspMemory, if_neg (by omega), if_pos most]

def kept (s : Parsing) : Reader × Core := (s.reader, core s.sps s.sizeAt)

theorem finish_keeps : Keeps kept finish := by
  have levels : Keeps kept levelFrames := by
    refine Keeps.bind (Keeps.gets _) fun now => ?_
    split
    · exact Keeps.modify fun _ => rfl
    · exact Keeps.bind (Keeps.stopIf _ _) fun _ => Keeps.modify fun _ => rfl
  refine Keeps.bind levels fun _ => ?_
  refine Keeps.bind (Keeps.modify fun s => ?_) fun _ => ?_
  · dsimp only
    split
    · rfl
    · rfl
  refine Keeps.bind (Keeps.modify fun s => ?_) fun _ => ?_
  · dsimp only
    split
    · rfl
    · rfl
  exact Keeps.bind (Keeps.gets _) fun now => Keeps.stopIf _ _

theorem finish_stops (mbs : Int) :
    Triple (fun s => Chroma s.sps.chromaFormatIdc ∧ s.sps.mbWidth * s.sps.mbHeight = mbs) finish
    (fun _ _ => True) fun e _ => e = .divided ∧ mbs = 0 := by
  have levels : Triple (fun s => Chroma s.sps.chromaFormatIdc ∧
      s.sps.mbWidth * s.sps.mbHeight = mbs) levelFrames
      (fun _ s => Chroma s.sps.chromaFormatIdc) fun e _ => e = .divided ∧ mbs = 0 := by
    refine Triple.bind Triple.gets fun now => ?_
    split
    · exact Triple.modify fun _ before => before.1.1
    · refine Triple.bind (Triple.stopIf fun none s before => ⟨rfl, ?_⟩) fun _ =>
        Triple.modify fun _ before => before.1.1.1
      rw [← before.1.2, ← before.2, none]
  refine Triple.bind levels fun _ => ?_
  refine Triple.bind (Q := fun _ s => Chroma s.sps.chromaFormatIdc) (Triple.modify fun s chroma =>
    ?_) fun _ => ?_
  · dsimp only
    split
    · exact chroma
    · exact chroma
  refine Triple.bind (Q := fun _ s => Chroma s.sps.chromaFormatIdc) (Triple.modify fun s chroma =>
    ?_) fun _ => ?_
  · dsimp only
    split
    · exact chroma
    · exact chroma
  refine Triple.bind Triple.gets fun now =>
    Triple.conseq (Triple.stopIf fun outside s before => absurd outside ?_) (fun _ => id)
    fun _ _ _ => trivial
  obtain ⟨⟨least, most⟩, rfl⟩ := before
  omega

theorem opened_near (sps : Sps) : Near rbsp.length 8 (opened sps).reader (opened sps).ends :=
  ⟨fun _ mem => absurd mem List.not_mem_nil, fun _ => Nat.le_add_left 8 _,
    fun _ => Nat.le_add_left_of_le (show 4 ≤ 64 by decide)⟩

variable {rbsp behind} {sps : Sps} {s : Parsing} {e : Stop}

theorem fieldsRun_ok (done : fieldsRun rbsp behind sps = (.ok (), s)) :
    Near rbsp.length 496 s.reader s.ends ∧ (core s.sps s.sizeAt).Shaped (rbspMemory rbsp behind) :=
  ⟨(fields_near (rbspMemory_padded rbsp behind)).triple.ok (opened_near rbsp sps) done,
    (fields_shape (rbspMemory_padded rbsp behind)).triple.ok rfl done⟩

theorem fieldsRun_error (failed : fieldsRun rbsp behind sps = (.error e, s)) : Failed rbsp.length e s :=
  (fields_near (rbspMemory_padded rbsp behind)).triple.error (opened_near rbsp sps) failed

theorem spsRun_of_error (failed : fieldsRun rbsp behind sps = (.error e, s)) :
    spsRun rbsp behind sps = (.error e, s) :=
  Prog.bind_error failed

theorem spsRun_of_ok (done : fieldsRun rbsp behind sps = (.ok (), s)) :
    spsRun rbsp behind sps = finish s :=
  Prog.bind_ok done

theorem toNat_mbs {mbs : Int} (least : 0 ≤ mbs) : mbs = mbs.toNat := (Int.toNat_of_nonneg least).symm

theorem right_iff_fits {dw : Int} (shaped : (core s.sps s.sizeAt).Shaped (rbspMemory rbsp behind)) :
    SizesRight s.sps (fillVdecParams dw s.sps) ↔ SizeFits rbsp behind dw s.sizeAt := by
  obtain ⟨⟨widthAt, heightAt, flagAt, places, width, height⟩, -, across, down⟩ := shaped
  obtain ⟨widthRange, widthReadable⟩ := picWidthInMbs_range (rbspMemory rbsp behind) widthAt
  obtain ⟨heightRange, heightReadable⟩ :=
    frameHeightInMbs_range (rbspMemory rbsp behind) heightAt flagAt
  have first : s.sps.mbWidth = (picWidthInMbs (rbspMemory rbsp behind) widthAt).toNat :=
    width.trans (toNat_mbs widthRange.1)
  have second : s.sps.mbHeight = (frameHeightInMbs (rbspMemory rbsp behind) heightAt flagAt).toNat :=
    height.trans (toNat_mbs heightRange.1)
  change 0 < s.sps.mbWidth → (s.sps.cropLeft + s.sps.cropRight : Int) < 16 * s.sps.mbWidth at across
  change 0 < s.sps.mbHeight → (s.sps.cropTop + s.sps.cropBottom : Int) < 16 * s.sps.mbHeight at down
  change s.sizeAt = [flagAt, heightAt, widthAt] at places
  rw [fillVdecParams_right dw first second (by omega) (by omega) (fun some => by omega) fun some =>
    by omega]
  unfold SizeFits
  constructor
  · rintro ⟨⟨one, two⟩, fits⟩
    exact ⟨widthAt, heightAt, flagAt, places,
      ⟨widthReadable.mp (by omega), heightReadable.mp (by omega)⟩, fits⟩
  · rintro ⟨widthAt', heightAt', flagAt', places', ⟨one, two⟩, fits⟩
    rw [places] at places'
    obtain ⟨rfl, rfl, rfl⟩ : flagAt = flagAt' ∧ heightAt = heightAt' ∧ widthAt = widthAt' := by
      simpa using places'
    have some := widthReadable.mpr one
    have more := heightReadable.mpr two
    exact ⟨⟨by omega, by omega⟩, fits⟩

theorem finish_result (chroma : Chroma s.sps.chromaFormatIdc) :
    (finish s).1 = .ok () ∨ (finish s).1 = .error .divided ∧ s.sps.mbWidth * s.sps.mbHeight = 0 := by
  have stops := finish_stops (s.sps.mbWidth * s.sps.mbHeight) s ⟨chroma, rfl⟩
  match finish s, stops with
  | (.ok (), _), _ => exact .inl rfl
  | (.error e, _), stops => exact .inr ⟨congrArg _ stops.1, stops.2⟩

theorem sps_params_iff (rbsp : List UInt8) (behind : Nat → UInt8) (dw : Int) (sps : Sps) :
    Meets rbsp behind dw sps ↔ Sound rbsp behind dw sps := by
  unfold Meets Sound
  match run : fieldsRun rbsp behind sps with
  | (.error e, s) =>
    obtain ⟨failed, noted, touched⟩ := fieldsRun_error run
    rw [spsRun_of_error run]
    constructor
    · rintro ⟨⟨-, -, inside⟩, -⟩
      exact ⟨fun e mem => le_trans (noted e mem) inside, nofun⟩
    · rintro ⟨inside, -⟩
      refine ⟨⟨?_, ?_, touched inside⟩, nofun⟩
      · rw [failed]
        exact nofun
      · rw [failed]
        exact nofun
  | (.ok (), s) =>
    obtain ⟨near, shaped⟩ := fieldsRun_ok run
    have same := finish_keeps s
    have reader : (finish s).2.reader = s.reader := congrArg Prod.fst same
    have cores : core (finish s).2.sps (finish s).2.sizeAt = core s.sps s.sizeAt :=
      congrArg Prod.snd same
    have places : (finish s).2.sizeAt = s.sizeAt := congrArg Core.sizeAt cores
    have right := (@right_iff_fits _ _ (finish s).2 dw) (cores.symm ▸ shaped)
    rw [places] at right
    rw [spsRun_of_ok run, right, Safe, reader]
    rcases finish_result shaped.2.1 with done | ⟨divided, none⟩
    · rw [done]
      constructor
      · rintro ⟨⟨-, -, inside⟩, fits⟩
        exact ⟨fun e mem => le_trans (near.noted e mem) inside, fits⟩
      · rintro ⟨inside, fits⟩
        exact ⟨⟨nofun, nofun, near.touched inside⟩, fits⟩
    · constructor
      · rintro ⟨⟨not, -⟩, -⟩
        exact absurd divided not
      · rintro ⟨-, fits⟩
        obtain ⟨⟨one, two⟩, -⟩ := (right_iff_fits shaped).mpr (fits rfl)
        have positive : 0 < s.sps.mbWidth * s.sps.mbHeight := Int.mul_pos (by omega) (by omega)
        omega

def zeroedSps : Sps where
  spsId := 0
  profileIdc := 0
  levelIdc := 0
  chromaFormatIdc := 0
  transformBypass := 0
  log2MaxFrameNum := 0
  pocType := 0
  log2MaxPocLsb := 0
  deltaPicOrderAlwaysZeroFlag := 0
  offsetForNonRefPic := 0
  offsetForTopToBottomField := 0
  pocCycleLength := 0
  refFrameCount := 0
  gapsInFrameNumAllowedFlag := 0
  mbWidth := 0
  mbHeight := 0
  frameMbsOnlyFlag := 0
  mbAff := 0
  direct8x8InferenceFlag := 0
  crop := 0
  cropLeft := 0
  cropRight := 0
  cropTop := 0
  cropBottom := 0
  vuiParametersPresentFlag := 0
  sar := (0, 0)
  videoSignalTypePresentFlag := 0
  fullRange := 0
  colourDescriptionPresentFlag := 0
  colorPrimaries := 0
  colorTrc := 0
  colorspace := 0
  timingInfoPresentFlag := 0
  numUnitsInTick := 0
  timeScale := 0
  fixedFrameRateFlag := 0
  offsetForRefFrame := List.replicate 256 0
  bitstreamRestrictionFlag := 0
  numReorderFrames := 0
  maxDecFrameBuffering := 0
  scalingMatrixPresent := 0
  scalingMatrix4 := List.replicate 6 (List.replicate 16 0)
  scalingMatrix8 := List.replicate 6 (List.replicate 64 0)
  nalHrdParametersPresentFlag := 0
  vclHrdParametersPresentFlag := 0
  picStructPresentFlag := 0
  timeOffsetLength := 0
  cpbCnt := 0
  initialCpbRemovalDelayLength := 0
  cpbRemovalDelayLength := 0
  dpbOutputDelayLength := 0
  bitDepthLuma := 0
  bitDepthChroma := 0
  residualColorTransformFlag := 0
  constraintSetFlags := 0

def filled (rbsp : List UInt8) : PicInfo := fillVdecParams 0 (spsRun rbsp (fun _ => 0) zeroedSps).2.sps

theorem Meets.area {rbsp : List UInt8} (meets : Meets rbsp (fun _ => 0) 0 zeroedSps)
    (done : (spsRun rbsp (fun _ => 0) zeroedSps).1 = .ok ()) :
    (filled rbsp).yLenSz = (filled rbsp).codedWidth * (filled rbsp).codedHeight := (meets.2 done).2.2.2

theorem truncated_or_large : ¬Meets [0x67, 0x42, 0, 0x1E, 0xF8] (fun _ => 0) 0 zeroedSps ∧
    ¬Meets [0x67, 0x64, 0, 0x1E, 0xAD, 0x80] (fun _ => 0) 0 zeroedSps ∧
    ¬Meets [0x67, 0x42, 0, 0x1E, 0xF8, 0, 0x3F, 0xFE, 0, 0x1F, 0xFF,
      0x24] (fun _ => 0) 0 zeroedSps := by
  refine ⟨fun meets => ?_, fun meets => ?_, fun meets => ?_⟩
  · exact meets.1.1 (by decide +kernel)
  · have far : ¬(spsRun [0x67, 0x64, 0, 0x1E, 0xAD, 0x80] (fun _ => 0) zeroedSps).2.reader.touched ≤
      6 + 64 := by decide +kernel
    exact far meets.1.2.2
  · have wraps : ¬(filled [0x67, 0x42, 0, 0x1E, 0xF8, 0, 0x3F, 0xFE, 0, 0x1F, 0xFF, 0x24]).yLenSz =
        (filled [0x67, 0x42, 0, 0x1E, 0xF8, 0, 0x3F, 0xFE, 0, 0x1F, 0xFF, 0x24]).codedWidth *
          (filled [0x67, 0x42, 0, 0x1E, 0xF8, 0, 0x3F, 0xFE, 0, 0x1F, 0xFF, 0x24]).codedHeight := by
            decide +kernel
    exact wraps (meets.area (by decide +kernel))

end Runs

end UnionpiTiger.H264.SpsParser
