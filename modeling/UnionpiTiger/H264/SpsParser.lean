import UnionpiTiger.H264.BitReader

set_option autoImplicit false

namespace UnionpiTiger.H264.SpsParser

open Lib Prog

section Tables

def h264PixelAspect : List (Int × Int) :=
  [(0, 1), (1, 1), (12, 11), (10, 11), (16, 11), (40, 33), (24, 11), (20, 11), (32, 11), (80, 33),
    (18, 11), (15, 11),
    (64, 33), (160, 99), (4, 3), (3, 2), (2, 1)]

def levelMaxDpbMbs : List (Int × Int) :=
  [(10, 396), (11, 900), (12, 2376), (13, 2376), (20, 2376), (21, 4752), (22, 8100), (30, 8100),
    (31, 18000), (32, 20480),
    (40, 32768), (41, 32768), (42, 34816), (50, 110400), (51, 184320), (52, 184320)]

def defaultScaling4 : List (List Nat) :=
  [[6, 13, 20, 28, 13, 20, 28, 32, 20, 28, 32, 37, 28, 32, 37, 42],
    [10, 14, 20, 24, 14, 20, 24, 27, 20, 24, 27, 30, 24, 27, 30, 34]]

def defaultScaling8 : List (List Nat) :=
  [[6, 10, 13, 16, 18, 23, 25, 27, 10, 11, 16, 18, 23, 25, 27, 29, 13, 16, 18, 23, 25, 27, 29, 31,
    16, 18, 23, 25, 27, 29, 31, 33,
    18, 23, 25, 27, 29, 31, 33, 36, 23, 25, 27, 29, 31, 33, 36, 38, 25, 27, 29, 31, 33, 36, 38, 40,
    27, 29, 31, 33, 36, 38, 40, 42],
    [9, 13, 15, 17, 19, 21, 22, 24, 13, 13, 17, 19, 21, 22, 24, 25, 15, 17, 19, 21, 22, 24, 25, 27,
      17, 19, 21, 22, 24, 25, 27, 28,
    19, 21, 22, 24, 25, 27, 28, 30, 21, 22, 24, 25, 27, 28, 30, 32, 22, 24, 25, 27, 28, 30, 32, 33,
    24, 25, 27, 28, 30, 32, 33, 35]]

def ffZigzagScan : List Nat := [0, 1, 4, 8, 5, 2, 3, 6, 9, 12, 13, 10, 7, 11, 14, 15]

def ffZigzagDirect : List Nat :=
  [0, 1, 8, 16, 9, 2, 3, 10, 17, 24, 32, 25, 18, 11, 4, 5, 12, 19, 26, 33, 40, 48, 41, 34, 27, 20,
    13, 6, 7, 14, 21, 28,
    35, 42, 49, 56, 57, 50, 43, 36, 29, 22, 15, 23, 30, 37, 44, 51, 58, 59, 52, 45, 38, 31, 39, 46,
    53, 60, 61, 54, 47, 55, 62, 63]

def colorPrimariesNamed : List Bool := List.replicate 13 true ++ List.replicate 9 false ++ [true]

def colorTransferNamed : List Bool := List.replicate 19 true

def colorSpaceNamed : List Bool := List.replicate 15 true

def highProfiles : List Int := [100, 110, 122, 244, 44, 83, 86, 118, 128, 138, 144]

end Tables

structure Sps where
  spsId : Nat
  profileIdc : Int
  levelIdc : Int
  chromaFormatIdc : Int
  transformBypass : Int
  log2MaxFrameNum : Int
  pocType : Int
  log2MaxPocLsb : Int
  deltaPicOrderAlwaysZeroFlag : Int
  offsetForNonRefPic : Int
  offsetForTopToBottomField : Int
  pocCycleLength : Int
  refFrameCount : Int
  gapsInFrameNumAllowedFlag : Int
  mbWidth : Int
  mbHeight : Int
  frameMbsOnlyFlag : Int
  mbAff : Int
  direct8x8InferenceFlag : Int
  crop : Int
  cropLeft : Nat
  cropRight : Nat
  cropTop : Nat
  cropBottom : Nat
  vuiParametersPresentFlag : Int
  sar : Int × Int
  videoSignalTypePresentFlag : Int
  fullRange : Int
  colourDescriptionPresentFlag : Int
  colorPrimaries : Nat
  colorTrc : Nat
  colorspace : Nat
  timingInfoPresentFlag : Int
  numUnitsInTick : Nat
  timeScale : Nat
  fixedFrameRateFlag : Int
  offsetForRefFrame : List Int
  bitstreamRestrictionFlag : Int
  numReorderFrames : Int
  maxDecFrameBuffering : Int
  scalingMatrixPresent : Int
  scalingMatrix4 : List (List Nat)
  scalingMatrix8 : List (List Nat)
  nalHrdParametersPresentFlag : Int
  vclHrdParametersPresentFlag : Int
  picStructPresentFlag : Int
  timeOffsetLength : Int
  cpbCnt : Int
  initialCpbRemovalDelayLength : Int
  cpbRemovalDelayLength : Int
  dpbOutputDelayLength : Int
  bitDepthLuma : Int
  bitDepthChroma : Int
  residualColorTransformFlag : Int
  constraintSetFlags : Int

-- The parser's state; it does not look at the places that are noted: where the fields begin that
-- it reads behind its loops, and the codes of the size, and the flag that doubles the height.
structure Parsing where
  reader : Reader
  sps : Sps
  ends : List Nat
  sizeAt : List Nat

abbrev Parse (α : Type) : Type := Prog Parsing Stop α

section Steps

def read {α : Type} (f : Reading α) : Parse α :=
  fun s => ((f s.reader).1, { s with reader := (f s.reader).2 })

def set (change : Sps → Sps) : Parse Unit := modify fun s => { s with sps := change s.sps }

def sps : Parse Sps := gets Parsing.sps

def failIf (c : Prop) [Decidable c] : Parse Unit := stopIf c .failed

def behindLoop {α : Type} (f : Reading α) : Parse α := do
  modify fun s => { s with ends := s.reader.index :: s.ends }
  read f

def sizeCode {α : Type} (f : Reading α) : Parse α := do
  modify fun s => { s with sizeAt := s.reader.index :: s.sizeAt }
  read f

end Steps

section Parser

variable (m : Nat → UInt8) (sizeInBits : Nat)

def bits (n : Nat) : Parse Int := do
  let v ← read (getBits m n)
  pure (v : Int)

def flag : Parse Int := do
  let v ← read (getBits1 m)
  pure (v : Int)

def skipFlag : Parse Unit := do
  let _ ← flag m
  pure ()

def getBitsLeft : Parse Int := gets fun s => (sizeInBits : Int) - s.reader.index

def scalingCodes (size : Nat) (scan jvtList : List Nat) : Nat → Int → Int → List Nat → Parse (List Nat)
  | 0, _, _, factors => pure factors
  | k + 1, last, next, factors => do
    let v ← if next ≠ 0 then read (getSeGolomb m) else pure 0
    let next := if next ≠ 0 then (last + v) % 256 else next
    if k + 1 = size ∧ next = 0 then pure jvtList
    else do
      let at_ ← read (lookup scan (size - (k + 1)))
      stopIf (size ≤ at_) .outside
      let last := if next ≠ 0 then next else last
      scalingCodes size scan jvtList k last next (factors.set at_ last.toNat)

def decodeScalingList (size : Nat) (jvtList fallbackList factors : List Nat) : Parse (List Nat) := do
  let written ← flag m
  if written = 0 then pure fallbackList
  else scalingCodes m size (if size = 16 then ffZigzagScan else ffZigzagDirect) jvtList size 8 8 factors

def scalingList4 (j : Nat) (jvtList : List Nat) (fallback : Sps → List Nat) : Parse Unit := do
  let old ← sps
  let factors ← decodeScalingList m 16 jvtList (fallback old) (old.scalingMatrix4.getD j [])
  set fun sps => { sps with scalingMatrix4 := sps.scalingMatrix4.set j factors }

def scalingList8 (j : Nat) (jvtList : List Nat) (fallback : Sps → List Nat) : Parse Unit := do
  let old ← sps
  let factors ← decodeScalingList m 64 jvtList (fallback old) (old.scalingMatrix8.getD j [])
  set fun sps => { sps with scalingMatrix8 := sps.scalingMatrix8.set j factors }

def decodeScalingMatrices : Parse Int := do
  let present ← flag m
  if present = 0 then pure 0
  else do
    let intra4 := defaultScaling4.getD 0 []
    let inter4 := defaultScaling4.getD 1 []
    let intra8 := defaultScaling8.getD 0 []
    let inter8 := defaultScaling8.getD 1 []
    scalingList4 m 0 intra4 fun _ => intra4
    scalingList4 m 1 intra4 fun sps => sps.scalingMatrix4.getD 0 []
    scalingList4 m 2 intra4 fun sps => sps.scalingMatrix4.getD 1 []
    scalingList4 m 3 inter4 fun _ => inter4
    scalingList4 m 4 inter4 fun sps => sps.scalingMatrix4.getD 3 []
    scalingList4 m 5 inter4 fun sps => sps.scalingMatrix4.getD 4 []
    scalingList8 m 0 intra8 fun _ => intra8
    scalingList8 m 3 inter8 fun _ => inter8
    let now ← sps
    when (now.chromaFormatIdc = 3) do
      scalingList8 m 1 intra8 fun sps => sps.scalingMatrix8.getD 0 []
      scalingList8 m 4 inter8 fun sps => sps.scalingMatrix8.getD 3 []
      scalingList8 m 2 intra8 fun sps => sps.scalingMatrix8.getD 1 []
      scalingList8 m 5 inter8 fun sps => sps.scalingMatrix8.getD 4 []
    pure 1

def cpbEntry : Parse Unit := do
  let _ ← read (getUeGolombLong m)
  let _ ← read (getUeGolombLong m)
  let _ ← flag m
  pure ()

def decodeHrdParameters : Parse Unit := do
  let count ← read (getUeGolomb31 m)
  let cpbCount := count + 1
  failIf (cpbCount > 32)
  let _ ← bits m 4
  let _ ← bits m 4
  loop (fun _ => cpbEntry m) 0 cpbCount
  let initial ← bits m 5
  set fun sps => { sps with initialCpbRemovalDelayLength := initial + 1 }
  let cpb ← bits m 5
  set fun sps => { sps with cpbRemovalDelayLength := cpb + 1 }
  let dpb ← bits m 5
  set fun sps => { sps with dpbOutputDelayLength := dpb + 1 }
  let time ← behindLoop (getBits m 5)
  set fun sps => { sps with timeOffsetLength := (time : Nat), cpbCnt := (cpbCount : Nat) }

-- The tables of the names: a value outside of one, or without a name, is taken as 2,
-- "unspecified".
def named (names : List Bool) (value : Nat) : Parse Nat :=
  if value < names.length then do
    let name ← read (lookup names value)
    pure (if name then value else 2)
  else pure 2

def aspectRatio : Parse Unit := do
  let present ← flag m
  if present = 0 then set fun sps => { sps with sar := (0, 0) }
  else do
    let idc ← read (getBits m 8)
    if idc = 255 then do
      let num ← bits m 16
      let den ← bits m 16
      set fun sps => { sps with sar := (num, den) }
    else do
      failIf (h264PixelAspect.length ≤ idc)
      let sar ← read (lookup h264PixelAspect idc)
      set fun sps => { sps with sar }

def videoSignalType : Parse Unit := do
  let present ← flag m
  set fun sps => { sps with videoSignalTypePresentFlag := present }
  when (present ≠ 0) do
    let _ ← bits m 3
    let full ← flag m
    let described ← flag m
    set fun sps => { sps with fullRange := full, colourDescriptionPresentFlag := described }
    when (described ≠ 0) do
      let primaries ← read (getBits m 8)
      let trc ← read (getBits m 8)
      let space ← read (getBits m 8)
      let primaries ← named colorPrimariesNamed primaries
      let trc ← named colorTransferNamed trc
      let space ← named colorSpaceNamed space
      set fun sps => { sps with colorPrimaries := primaries, colorTrc := trc, colorspace := space }

def timingInfo : Parse Unit := do
  let present ← flag m
  set fun sps => { sps with timingInfoPresentFlag := present }
  when (present ≠ 0) do
    let units ← read (getBits m 32)
    let scale ← read (getBits m 32)
    set fun sps =>
      if units = 0 ∨ scale = 0 then { sps with timingInfoPresentFlag := 0 }
      else { sps with numUnitsInTick := units, timeScale := scale }
    let fixed ← flag m
    set fun sps => { sps with fixedFrameRateFlag := fixed }

def bitstreamRestriction : Parse Unit := do
  let present ← flag m
  set fun sps => { sps with bitstreamRestrictionFlag := present }
  when (present ≠ 0) do
    let _ ← flag m
    let _ ← read (getUeGolomb m)
    let _ ← read (getUeGolomb m)
    let _ ← read (getUeGolomb m)
    let _ ← read (getUeGolomb m)
    let reorder ← read (getUeGolomb m)
    let buffering ← read (getUeGolomb m)
    set fun sps => { sps with numReorderFrames := reorder, maxDecFrameBuffering := buffering }
    let left ← getBitsLeft sizeInBits
    when (left < 0) (set fun sps => { sps with numReorderFrames := 0, bitstreamRestrictionFlag := 0 })
    let now ← sps
    when (u32 now.numReorderFrames > 16) do
      set fun sps => { sps with numReorderFrames := 16 }
      stop .failed

def hrdParameters : Parse Unit := do
  let nal ← flag m
  set fun sps => { sps with nalHrdParametersPresentFlag := nal }
  when (nal ≠ 0) (decodeHrdParameters m)
  let vcl ← flag m
  set fun sps => { sps with vclHrdParametersPresentFlag := vcl }
  when (vcl ≠ 0) (decodeHrdParameters m)
  when (nal ≠ 0 ∨ vcl ≠ 0) (skipFlag m)

def decodeVuiParameters : Parse Unit := do
  aspectRatio m
  let overscan ← flag m
  when (overscan ≠ 0) (skipFlag m)
  videoSignalType m
  let chromaLocation ← flag m
  when (chromaLocation ≠ 0) do
    let _ ← read (getUeGolomb m)
    pure ()
  let next ← read (showBits m 1)
  let left ← getBitsLeft sizeInBits
  when (¬(next ≠ 0 ∧ left < 10)) do
    timingInfo m
    hrdParameters m
    let picStruct ← flag m
    set fun sps => { sps with picStructPresentFlag := picStruct }
    let left ← getBitsLeft sizeInBits
    when (left ≠ 0) (bitstreamRestriction m sizeInBits)

def identification : Parse Unit := do
  let profile ← bits m 8
  let set0 ← flag m
  let set1 ← flag m
  let set2 ← flag m
  let set3 ← flag m
  let set4 ← flag m
  let set5 ← flag m
  read (skipBits 2)
  let level ← bits m 8
  let id ← read (getUeGolomb31 m)
  failIf (id ≥ 32)
  set fun sps =>
    { sps with
      spsId := id
      timeOffsetLength := 24
      profileIdc := profile
      constraintSetFlags := set0 + 2 * set1 + 4 * set2 + 8 * set3 + 16 * set4 + 32 * set5
      levelIdc := level
      fullRange := -1
      scalingMatrix4 := List.replicate 6 (List.replicate 16 16)
      scalingMatrix8 := List.replicate 6 (List.replicate 64 16)
      scalingMatrixPresent := 0
      colorspace := 2 }

def colorTransform : Parse Unit := do
  let transform ← flag m
  set fun sps => { sps with residualColorTransformFlag := transform }
  failIf (transform ≠ 0)

def bitDepths : Parse Unit := do
  let luma ← read (getUeGolomb m)
  let chroma ← read (getUeGolomb m)
  set fun sps => { sps with bitDepthLuma := luma + 8, bitDepthChroma := chroma + 8 }
  failIf (chroma + 8 ≠ luma + 8)
  failIf (luma + 8 < 8 ∨ luma + 8 > 14 ∨ chroma + 8 < 8 ∨ chroma + 8 > 14)
  let bypass ← flag m
  set fun sps => { sps with transformBypass := bypass }
  let present ← decodeScalingMatrices m
  set fun sps => { sps with scalingMatrixPresent := present }

def chromaFormat : Parse Unit := do
  let now ← sps
  if now.profileIdc ∈ highProfiles then do
    let format ← read (getUeGolomb31 m)
    set fun sps => { sps with chromaFormatIdc := (format : Nat) }
    failIf (format > 3)
    when (format = 3) (colorTransform m)
    bitDepths m
  else set fun sps => { sps with chromaFormatIdc := 1, bitDepthLuma := 8, bitDepthChroma := 8 }

def offsetForRefFrame (i : Nat) : Parse Unit := do
  let offset ← read (getSeGolombLong m)
  stopIf (256 ≤ i) .outside
  set fun sps => { sps with offsetForRefFrame := sps.offsetForRefFrame.set i offset }

def picOrderCycle : Parse Unit := do
  let zero ← flag m
  let nonRef ← read (getSeGolombLong m)
  let topToBottom ← read (getSeGolombLong m)
  let length ← read (getUeGolomb m)
  set fun sps =>
    { sps with
      deltaPicOrderAlwaysZeroFlag := zero
      offsetForNonRefPic := nonRef
      offsetForTopToBottomField := topToBottom
      pocCycleLength := length }
  failIf (u32 length ≥ 256)
  loop (offsetForRefFrame m) 0 length.toNat

def picOrder : Parse Unit := do
  let frameNum ← behindLoop (getUeGolomb m)
  failIf (frameNum < 0 ∨ frameNum > 12)
  let type ← read (getUeGolomb31 m)
  set fun sps => { sps with log2MaxFrameNum := frameNum + 4, pocType := (type : Nat) }
  if type = 0 then do
    let t ← read (getUeGolomb m)
    failIf (u32 t > 12)
    set fun sps => { sps with log2MaxPocLsb := t + 4 }
  else if type = 1 then picOrderCycle m
  else failIf (type ≠ 2)

def mbAffFlag : Parse Unit := do
  let mbAff ← flag m
  set fun sps => { sps with mbAff }

def mbSize : Parse Unit := do
  let width ← sizeCode (getUeGolomb m)
  let height ← sizeCode (getUeGolomb m)
  let frameMbsOnly ← sizeCode (getBits1 m)
  set fun sps => { sps with mbWidth := width + 1, mbHeight := height + 1, frameMbsOnlyFlag := (frameMbsOnly : Nat) }
  failIf (u32 (height + 1) ≥ 1073741823)
  set fun sps => { sps with mbHeight := sps.mbHeight * (2 - sps.frameMbsOnlyFlag), mbAff := 0 }
  when (frameMbsOnly = 0) (mbAffFlag m)
  let now ← sps
  failIf (u32 now.mbWidth ≥ 134217727 ∨ u32 now.mbHeight ≥ 134217727)

def frameSize : Parse Unit := do
  let refs ← behindLoop (getUeGolomb31 m)
  set fun sps => { sps with refFrameCount := (refs : Nat) }
  failIf (refs > 16)
  let gaps ← flag m
  set fun sps => { sps with gapsInFrameNumAllowedFlag := gaps }
  mbSize m
  let direct ← flag m
  set fun sps => { sps with direct8x8InferenceFlag := direct }

def intMax4 : Nat := 2147483647 / 4

def cropping : Parse Unit := do
  let crop ← flag m
  set fun sps => { sps with crop }
  if crop ≠ 0 then do
    let left ← read (getUeGolomb m)
    let right ← read (getUeGolomb m)
    let top ← read (getUeGolomb m)
    let bottom ← read (getUeGolomb m)
    let now ← sps
    let width := 16 * now.mbWidth
    let height := 16 * now.mbHeight
    let stepX : Nat := if now.chromaFormatIdc = 1 ∨ now.chromaFormatIdc = 2 then 2 else 1
    let stepY : Nat := (2 - now.frameMbsOnlyFlag).toNat * if now.chromaFormatIdc = 1 then 2 else 1
    failIf (u32 left > intMax4 / stepX ∨ u32 right > intMax4 / stepX ∨ u32 top > intMax4 / stepY ∨
      u32 bottom > intMax4 / stepY ∨
      u32 (u32 (u32 left + u32 right) * stepX) ≥ u32 width ∨
        u32 (u32 (u32 top + u32 bottom) * stepY) ≥ u32 height)
    set fun sps =>
      { sps with
        cropLeft := u32 (u32 left * stepX)
        cropRight := u32 (u32 right * stepX)
        cropTop := u32 (u32 top * stepY)
        cropBottom := u32 (u32 bottom * stepY) }
  else set fun sps => { sps with cropLeft := 0, cropRight := 0, cropTop := 0, cropBottom := 0, crop := 0 }

def vui : Parse Unit := do
  let present ← flag m
  set fun sps => { sps with vuiParametersPresentFlag := present }
  when (present ≠ 0) (decodeVuiParameters m sizeInBits)

def levelFrames : Parse Unit := do
  let now ← sps
  match levelMaxDpbMbs.find? fun level => level.1 = now.levelIdc with
  | none => set fun sps => { sps with numReorderFrames := 15 }
  | some level => do
    stopIf (now.mbWidth * now.mbHeight = 0) .divided
    let frames := min (level.2 / (now.mbWidth * now.mbHeight)) 15 + 1
    set fun sps => { sps with numReorderFrames := max frames sps.maxDecFrameBuffering }

def finish : Parse Unit := do
  levelFrames
  set fun sps =>
    if sps.bitstreamRestrictionFlag ≠ 0 ∧ sps.maxDecFrameBuffering < sps.numReorderFrames then
      { sps with numReorderFrames := sps.maxDecFrameBuffering }
    else sps
  set fun sps => if sps.sar.2 = 0 then { sps with sar := (sps.sar.1, 1) } else sps
  let now ← sps
  stopIf (now.chromaFormatIdc < 0 ∨ now.chromaFormatIdc ≥ 4) .outside

def fields : Parse Unit := do
  identification m
  chromaFormat m
  picOrder m
  frameSize m
  cropping m
  vui m sizeInBits

def amlH264ParserSps : Parse Unit := do
  fields m sizeInBits
  finish

end Parser

end UnionpiTiger.H264.SpsParser
