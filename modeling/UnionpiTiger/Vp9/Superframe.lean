import Mathlib.Algebra.BigOperators.Group.List.Basic
import Mathlib.Algebra.Order.Ring.Int

set_option autoImplicit false

namespace UnionpiTiger.Vp9

def einval : Int32 := 22

-- vp9_superframe_split. `beyond` is what lies in memory behind the data, and `reads` the places
-- that have been read.
structure Vp9SuperframeSplit where
  data : List UInt8
  beyond : Nat → UInt8 := fun _ => 0
  nbFrames : Nat := 0
  size : Int := 0
  nextFrameOffset : UInt32 := 0
  prefixSize : UInt32 := 0
  sizes : List Int32 := []
  reads : List Nat := []

def amlPrefix : List UInt8 := [0x41, 0x4d, 0x4c, 0x56]

def isMarker (marker : UInt8) : Bool := marker &&& 0xe0 == 0xc0

def lengthSize (marker : UInt8) : Nat := 1 + ((marker >>> 3) &&& 0x3).toNat

def markedFrames (marker : UInt8) : Nat := 1 + (marker &&& 0x7).toNat

def idxSize (marker : UInt8) : Nat := 2 + markedFrames marker * lengthSize marker

namespace Vp9SuperframeSplit

def byteAt (s : Vp9SuperframeSplit) (i : Nat) : UInt8 := s.data.getD i (s.beyond i)

def read (s : Vp9SuperframeSplit) (places : List Nat) : Vp9SuperframeSplit :=
  { s with reads := s.reads ++ places }

def frameSize (s : Vp9SuperframeSplit) (idx length : Nat) : UInt32 :=
  (List.range length).foldl (fun size j =>
    size ||| ((s.byteAt (idx + j)).toUInt32 <<< UInt32.ofNat (j * 8))) 0

def frameSizes (length limit : Nat) :
    Nat → Nat → Int → Vp9SuperframeSplit → Int32 × Int × Vp9SuperframeSplit
  | 0, _, total, s => (0, total, s)
  | frames + 1, idx, total, s =>
    let frameSize := (s.frameSize idx length).toInt32
    let s := s.read (List.range' idx length)
    let total := total + frameSize.toInt
    if frameSize.toInt < 0 ∨ total > limit then (-einval, total, s)
    else frameSizes length limit frames (idx + length) total { s with sizes := s.sizes ++ [frameSize] }

def readPrefix (s : Vp9SuperframeSplit) : Vp9SuperframeSplit :=
  let s := s.read (List.range' 12 4)
  if (List.range' 12 4).map s.byteAt = amlPrefix then { s with prefixSize := 16 } else s

def readIndex (s : Vp9SuperframeSplit) (marker : UInt8) : Int32 × Vp9SuperframeSplit :=
  if s.data.length ≥ idxSize marker then
    let s := s.read [s.data.length - idxSize marker]
    if s.byteAt (s.data.length - idxSize marker) = marker then
      let (ret, total, s) :=
        frameSizes (lengthSize marker) (s.data.length - idxSize marker) (markedFrames marker)
        (s.data.length + 1 - idxSize marker) 0 s
      if ret ≠ 0 then (ret, s)
      else (0, { s with nbFrames := markedFrames marker, size := total, nextFrameOffset := 0 })
    else (0, s)
  else (0, s)

def vp9SuperframeSplitFilter (s : Vp9SuperframeSplit) : Int32 × Vp9SuperframeSplit :=
  let s := s.readPrefix
  let marker := s.byteAt (s.data.length - 1)
  let s := s.read [s.data.length - 1]
  if isMarker marker then s.readIndex marker
  else
    (0, { s with
      nbFrames := 1
      sizes := [Int32.ofNat s.data.length]
      size := (Int32.ofNat s.data.length).toInt })

end Vp9SuperframeSplit

-- What `vp9DecodeExtradataPs` returns, what it sets ps->head_parsed to, and the places and
-- lengths it hands to decode_frame_header.
structure Extradata where
  ret : Int32
  headParsed : Option Bool := none
  handed : List (Nat × UInt32) := []

-- The loop over the frames. `header` is what decode_frame_header returns for each, and the
-- reference it leaves.
def decodeFrames (header : Nat → Int32 × Int32) (s : Vp9SuperframeSplit) :
    Nat → Nat → UInt32 → Int32 → Extradata
  | 0, _, _, ret => { ret }
  | left + 1, i, nextFrameOffset, _ =>
    let len := (s.sizes.getD i 0).toUInt32 - s.prefixSize
    let buf := nextFrameOffset.toNat + s.prefixSize.toNat
    let (ret, ref) := header i
    if ret = 0 then { ret := 0, headParsed := some (ref < 0), handed := [(buf, len)] }
    else
      let rest := decodeFrames header s left (i + 1) (len + s.prefixSize) ret
      { rest with handed := (buf, len) :: rest.handed }

def vp9DecodeExtradataPs (header : Nat → Int32 × Int32) (data : List UInt8)
    (beyond : Nat → UInt8) : Extradata :=
  let (ret, s) := ({ data, beyond } : Vp9SuperframeSplit).vp9SuperframeSplitFilter
  if ret ≠ 0 then { ret } else decodeFrames header s s.nbFrames 0 s.nextFrameOffset ret

namespace Vp9SuperframeSplit

variable {s t : Vp9SuperframeSplit}

def framesSize (sizes : List Int32) : Int := (sizes.map Int32.toInt).sum

@[simp] theorem framesSize_nil : framesSize [] = 0 := rfl

@[simp] theorem framesSize_append (first second : List Int32) :
    framesSize (first ++ second) = framesSize first + framesSize second := by simp [framesSize]

@[simp] theorem framesSize_single (size : Int32) : framesSize [size] = size.toInt := by
  simp [framesSize]

@[simp] theorem read_data (s : Vp9SuperframeSplit) (places : List Nat) :
    (s.read places).data = s.data := rfl

structure Sized (length limit frames idx : Nat) (total : Int) (s : Vp9SuperframeSplit) (last : Int)
    (t : Vp9SuperframeSplit) : Prop where
  sizes : ∃ new, t.sizes = s.sizes ++ new ∧ new.length = frames ∧ (∀ size ∈ new, 0 ≤ size.toInt) ∧
    last = total + framesSize new
  limit : frames ≠ 0 → last ≤ limit
  reads : ∀ i ∈ t.reads, i ∈ s.reads ∨ idx ≤ i ∧ i < idx + frames * length
  prefixSize : t.prefixSize = s.prefixSize

theorem frameSizes_sized {length limit frames idx : Nat} {total last : Int}
    (done : frameSizes length limit frames idx total s = (0, last, t)) :
    Sized length limit frames idx total s last t := by
  induction frames generalizing s idx total with
  | zero =>
    cases done
    exact ⟨⟨[], by simp⟩, fun none_ => absurd rfl none_, fun i mem => .inl mem, rfl⟩
  | succ frames ih =>
    rw [frameSizes] at done
    split_ifs at done with wrong
    · simp [einval] at done
    · have rest := ih done
      obtain ⟨nonnegative, inside⟩ := not_or.mp wrong
      replace nonnegative := Int.not_lt.mp nonnegative
      replace inside := Int.not_lt.mp inside
      obtain ⟨new, sizes, count, nonneg, sum⟩ := rest.sizes
      refine ⟨⟨(s.frameSize idx length).toInt32 :: new, ?_, by simp [count], ?_, ?_⟩, fun _ => ?_,
        fun i mem => ?_,
        rest.prefixSize⟩
      · simp [sizes, read]
      · simpa using ⟨nonnegative, nonneg⟩
      · rw [sum]
        simp [framesSize, add_assoc]
      · by_cases none_ : frames = 0
        · subst none_
          obtain rfl := List.eq_nil_of_length_eq_zero count
          simp only [framesSize_nil, add_zero] at sum
          omega
        · exact rest.limit none_
      · rw [Nat.succ_mul]
        rcases rest.reads i mem with before | later
        · refine (List.mem_append.mp before).imp_right fun here => ?_
          have range := List.mem_range'_1.mp here
          omega
        · omega

def Marked (data : List UInt8) : Prop := ∃ marker ∈ data.getLast?, isMarker marker = true

def Indexed (data : List UInt8) (marker : UInt8) : Prop :=
  data.getLast? = some marker ∧ isMarker marker = true ∧ idxSize marker ≤ data.length ∧
    data[data.length - idxSize marker]? = some marker

theorem markedFrames_bounds (marker : UInt8) : 1 ≤ markedFrames marker ∧ markedFrames marker ≤ 8 := by
  have masked : (marker &&& 0x7).toNat ≤ 7 := by
    rw [UInt8.toNat_and]
    exact Nat.and_le_right
  unfold markedFrames
  omega

structure WellSplit (data : List UInt8) (t : Vp9SuperframeSplit) : Prop where
  frames : 1 ≤ t.nbFrames ∧ t.nbFrames ≤ 8 ∧ t.sizes.length = t.nbFrames
  nonneg : ∀ size ∈ t.sizes, 0 ≤ size.toInt
  sum : t.size = framesSize t.sizes
  indexed : ∀ marker, Indexed data marker → t.size ≤ data.length - idxSize marker
  plain : (∀ marker, ¬Indexed data marker) → t.size = data.length ∧ t.nbFrames = 1
  reads : ∀ i ∈ t.reads, i < data.length

def headerSize (data : List UInt8) : UInt32 := if (data.drop 12).take 4 = amlPrefix then 16 else 0

variable {data : List UInt8} {beyond : Nat → UInt8}

theorem byteAt_inside (same : s.data = data) {i : Nat} (inside : i < data.length) :
    data[i]? = some (s.byteAt i) := by
  simp [byteAt, same, inside]

theorem readPrefix_spec (atLeast : 16 ≤ s.data.length) :
    s.readPrefix = { s with prefixSize := if headerSize s.data = 16 then 16 else s.prefixSize, reads := s.reads ++ [12, 13, 14, 15] } := by
  have header : (List.range' 12 4).map (s.read (List.range' 12 4)).byteAt = (s.data.drop 12).take 4 := by
    apply List.ext_getElem?
    intro i
    by_cases inside : i < 4
    · rw [List.getElem?_take_of_lt inside, List.getElem?_drop, byteAt_inside rfl (by omega)]
      simp [inside, read, byteAt]
    · have outside : 4 ≤ i := Nat.not_lt.mp inside
      rw [List.getElem?_eq_none (by rwa [List.length_map, List.length_range']),
        List.getElem?_eq_none (Nat.le_trans (List.length_take_le 4 _) outside)]
  unfold readPrefix headerSize
  dsimp only
  rw [header]
  by_cases prefixed : (s.data.drop 12).take 4 = amlPrefix
  · simp [prefixed, read, List.range']
  · simp [prefixed, read, List.range']

theorem readIndex_spec {marker : UInt8} (indexed : Indexed s.data marker) (fresh : s.sizes = [])
    (done : s.readIndex marker = (0, t)) :
    t.nbFrames = markedFrames marker ∧ t.sizes.length = t.nbFrames ∧
      (∀ size ∈ t.sizes, 0 ≤ size.toInt) ∧
      t.size = framesSize t.sizes ∧ t.size ≤ s.data.length - idxSize marker ∧
        t.prefixSize = s.prefixSize ∧
      t.nextFrameOffset = 0 ∧
      ∀ i ∈ t.reads, i ∈ s.reads ∨ s.data.length - idxSize marker ≤ i ∧ i < s.data.length := by
  obtain ⟨-, -, inside, starts⟩ := indexed
  have room : 2 ≤ idxSize marker := by simp [idxSize]
  have first : (s.read [s.data.length - idxSize marker]).byteAt (s.data.length - idxSize marker) =
      marker := by
    rw [byteAt_inside rfl (by omega)] at starts
    exact Option.some.inj starts
  rw [readIndex, if_pos inside] at done
  rcases sizes : frameSizes (lengthSize marker) (s.data.length - idxSize marker) (markedFrames marker)
    (s.data.length + 1 - idxSize marker) 0 (s.read [s.data.length - idxSize marker]) with ⟨ret,
      total, u⟩
  simp only [read_data, first, if_true, sizes] at done
  by_cases fails : ret = 0
  · subst fails
    simp only [ne_eq, not_true, if_false, Prod.mk.injEq, true_and] at done
    subst done
    have sized := frameSizes_sized sizes
    obtain ⟨new, list, count, nonneg, sum⟩ := sized.sizes
    simp only [read, fresh, List.nil_append] at list
    have bounds := markedFrames_bounds marker
    have limit := sized.limit (by omega)
    refine ⟨rfl, by rw [list,
      count], list ▸ nonneg, by simpa [list] using sum, ?_, sized.prefixSize, rfl, fun i mem => ?_⟩
    · dsimp only
      omega
    · rcases sized.reads i mem with before | later
      · refine (List.mem_append.mp before).imp_right fun here => ?_
        have place := List.mem_singleton.mp here
        omega
      · right
        unfold idxSize at *
        omega
  · simp [fails] at done

theorem filter_wellSplit (atLeast : 16 ≤ data.length) (fits : data.length < 2 ^ 31)
    (index : Marked data → ∃ marker, Indexed data marker)
    (done : ({ data, beyond } : Vp9SuperframeSplit).vp9SuperframeSplitFilter = (0, t)) :
    WellSplit data t ∧ t.prefixSize = headerSize data ∧ t.nextFrameOffset = 0 := by
  have header : (if headerSize data = 16 then (16 : UInt32) else 0) = headerSize data := by
    unfold headerSize
    split_ifs <;> first | rfl | contradiction
  have prefixed := readPrefix_spec (s := { data, beyond }) atLeast
  dsimp only at prefixed
  rw [header] at prefixed
  rw [vp9SuperframeSplitFilter, prefixed] at done
  dsimp only at done
  set s : Vp9SuperframeSplit :=
    { data, beyond, prefixSize := headerSize data, reads := [] ++ [12, 13, 14, 15] } with hs
  have last : data.getLast? = some (s.byteAt (data.length - 1)) := by
    rw [List.getLast?_eq_getElem?]
    exact byteAt_inside (s := s) rfl (by show data.length - 1 < data.length; omega)
  by_cases marked : isMarker (s.byteAt (data.length - 1)) = true
  · obtain ⟨marker, indexed⟩ := index ⟨_, last, marked⟩
    obtain rfl : s.byteAt (data.length - 1) = marker := Option.some.inj (last.symm.trans indexed.1)
    rw [if_pos marked] at done
    obtain ⟨frames, count, nonneg, sum, limit, same, offset, reads⟩ :=
      readIndex_spec (s := s.read [data.length - 1]) indexed rfl done
    have bounds := markedFrames_bounds (s.byteAt (data.length - 1))
    refine ⟨⟨⟨by omega, by omega, count⟩, nonneg, sum, fun marker other => ?_,
      fun none_ => absurd indexed (none_ _),
      fun i mem => ?_⟩, same, offset⟩
    · obtain rfl := Option.some.inj (last.symm.trans other.1)
      exact limit
    · rcases reads i mem with before | ⟨-, below⟩
      · simp [read, hs] at before
        omega
      · exact below
  · rw [if_neg marked] at done
    cases done
    have size : (Int32.ofNat data.length).toInt = data.length := Int32.toInt_ofNat_of_lt fits
    refine ⟨⟨⟨by simp, by simp, rfl⟩, ?_, ?_, fun marker indexed => ?_, fun _ => ⟨size, rfl⟩,
      fun i mem => ?_⟩, rfl, rfl⟩
    · simp [size]
    · simp
    · obtain rfl := Option.some.inj (last.symm.trans indexed.1)
      exact absurd indexed.2.1 marked
    · simp [read] at mem
      omega

end Vp9SuperframeSplit

open Vp9SuperframeSplit

section Handed

variable {header : Nat → Int32 × Int32} {s : Vp9SuperframeSplit}

theorem decodeFrames_handed (left i j : Nat) (next : UInt32) (ret : Int32) (inside : j < left)
    (undecoded : ∀ k < j, (header (i + k)).1 ≠ 0) :
    (decodeFrames header s left i next ret).handed[j]? =
      some ((if j = 0 then next else (s.sizes.getD (i + j - 1) 0).toUInt32).toNat + s.prefixSize.toNat,
        (s.sizes.getD (i + j) 0).toUInt32 - s.prefixSize) := by
  induction left generalizing i j next ret with
  | zero => omega
  | succ left ih =>
    cases j with
    | zero =>
      by_cases decoded : (header i).1 = 0 <;> simp [decodeFrames, decoded]
    | succ j =>
      have first : (header i).1 ≠ 0 := undecoded 0 (Nat.succ_pos j)
      have later := ih (i + 1) j ((s.sizes.getD i 0).toUInt32 - s.prefixSize +
        s.prefixSize) (header i).1
        (Nat.lt_of_succ_lt_succ inside) fun k before => by
          have here := undecoded (k + 1) (Nat.succ_lt_succ before)
          rwa [show i + 1 + k = i + (k + 1) by omega]
      have before : (if j = 0 then (s.sizes.getD i 0).toUInt32 - s.prefixSize + s.prefixSize
          else (s.sizes.getD (i + 1 + j - 1) 0).toUInt32) = (s.sizes.getD (i + j) 0).toUInt32 := by
        cases j with
        | zero => simp
        | succ j => rw [if_neg (Nat.succ_ne_zero j), show i + 1 + (j + 1) - 1 = i + (j + 1) by omega]
      rw [before, show i + 1 + j = i + (j + 1) by omega] at later
      simpa [decodeFrames, first] using later

def IsSlice (header : UInt32) (t : Vp9SuperframeSplit) (j : Nat) (slice : Nat × UInt32) : Prop :=
  (slice.1 : Int) = framesSize (t.sizes.take j) + header.toNat ∧
    (slice.2.toNat : Int) + header.toNat = (t.sizes.getD j 0).toInt

theorem toNat_of_nonneg {size : Int32} (nonneg : 0 ≤ size.toInt) :
    (size.toUInt32.toNat : Int) = size.toInt := by
  have le : 0 ≤ size := by rwa [Int32.le_iff_toInt_le, Int32.toInt_zero]
  rw [Int32.toNat_toUInt32_of_le le, Int32.toInt_eq_toNatClampNeg le]

theorem nonneg_getD {t : Vp9SuperframeSplit} (nonneg : ∀ size ∈ t.sizes, 0 ≤ size.toInt) (j : Nat) :
    0 ≤ (t.sizes.getD j 0).toInt := by
  by_cases inside : j < t.sizes.length
  · simpa [inside] using nonneg _ (List.getElem_mem inside)
  · simp [inside]

theorem handed_slice {t : Vp9SuperframeSplit} {slice : Nat × UInt32}
    (nonneg : ∀ size ∈ t.sizes, 0 ≤ size.toInt) {j : Nat}
    (inside : j < t.sizes.length) (before : framesSize (t.sizes.take (j - 1)) = 0)
    (longer : (t.prefixSize.toNat : Int) ≤ (t.sizes.getD j 0).toInt)
    (handed : slice = ((if j = 0 then (0 : UInt32) else (t.sizes.getD (j - 1) 0).toUInt32).toNat +
      t.prefixSize.toNat,
      (t.sizes.getD j 0).toUInt32 - t.prefixSize)) : IsSlice t.prefixSize t j slice := by
  subst handed
  constructor
  · cases j with
    | zero => simp
    | succ j =>
      have size := toNat_of_nonneg (nonneg_getD nonneg j)
      have taken : t.sizes.take (j + 1) = t.sizes.take j ++ [t.sizes.getD j 0] := by
        rw [List.take_add_one]
        simp [show j < t.sizes.length by omega]
      rw [Nat.add_sub_cancel] at before
      rw [taken, framesSize_append, before, framesSize_single]
      simp only [Nat.succ_ne_zero, if_false, Nat.add_sub_cancel, zero_add]
      omega
  · have size := toNat_of_nonneg (nonneg_getD nonneg j)
    have le : t.prefixSize ≤ (t.sizes.getD j 0).toUInt32 := by
      rw [UInt32.le_iff_toNat_le]
      omega
    dsimp only
    rw [UInt32.toNat_sub_of_le _ _ le]
    rw [UInt32.le_iff_toNat_le] at le
    omega

theorem superframe_split (data : List UInt8) (beyond : Nat → UInt8) (header : Nat → Int32 × Int32)
    (atLeast : 16 ≤ data.length) (fits : data.length < 2 ^ 31)
    (index : Marked data → ∃ marker, Indexed data marker) (t : Vp9SuperframeSplit)
    (done : ({ data, beyond } : Vp9SuperframeSplit).vp9SuperframeSplitFilter = (0, t)) :
    WellSplit data t ∧ ∀ j < t.nbFrames, (∀ k < j, (header k).1 ≠ 0) →
      framesSize (t.sizes.take (j - 1)) = 0 →
      ((headerSize data).toNat : Int) ≤ (t.sizes.getD j 0).toInt →
        ∃ slice, (vp9DecodeExtradataPs header data beyond).handed[j]? = some slice ∧
          IsSlice (headerSize data) t j slice := by
  obtain ⟨well, same, offset⟩ := filter_wellSplit atLeast fits index done
  refine ⟨well, fun j inside undecoded before longer => ?_⟩
  have first : ∀ k < j, (header (0 + k)).1 ≠ 0 := by simpa using undecoded
  have handed := decodeFrames_handed (s := t) t.nbFrames 0 j t.nextFrameOffset 0 inside first
  have decoded : vp9DecodeExtradataPs header data beyond =
      decodeFrames header t t.nbFrames 0 t.nextFrameOffset 0 := by
    simp [vp9DecodeExtradataPs, done]
  rw [decoded, handed]
  simp only [Nat.zero_add, offset]
  refine ⟨_, rfl, ?_⟩
  rw [← same] at longer ⊢
  exact handed_slice well.nonneg (by rw [well.frames.2.2]; exact inside) before longer rfl

end Handed

def twoFrames : List UInt8 := List.replicate 18 0 ++ [0xc1, 9, 9, 0xc1]

theorem two_frames_split :
    ∃ t, ({ data := twoFrames } : Vp9SuperframeSplit).vp9SuperframeSplitFilter = (0, t) ∧
      WellSplit twoFrames t ∧
      ∃ slice, (vp9DecodeExtradataPs (fun _ => (-1, -1)) twoFrames fun _ => 0).handed[1]? = some slice ∧
        IsSlice (headerSize twoFrames) t 1 slice := by
  obtain ⟨well, handed⟩ :=
    superframe_split twoFrames (fun _ => 0) (fun _ => (-1, -1)) (by decide) (by decide)
    (fun _ => ⟨0xc1, by decide, by decide, by decide, by decide⟩) _ (Prod.ext (by decide) rfl)
  exact ⟨_, Prod.ext (by decide) rfl, well, handed 1 (by decide) (by decide) (by decide) (by decide)⟩

def headedFrame : List UInt8 := List.replicate 12 0 ++ amlPrefix ++ [0, 0, 0, 0]

theorem frame_not_handed_whole :
    ∃ t, ({ data := headedFrame } : Vp9SuperframeSplit).vp9SuperframeSplitFilter = (0, t) ∧
      t.sizes = [20] ∧
      (vp9DecodeExtradataPs (fun _ => (0, -1)) headedFrame fun _ => 0).handed = [(16, 4)] ∧
      ¬∀ j < t.nbFrames,
        ∀ slice ∈ (vp9DecodeExtradataPs (fun _ => (0, -1)) headedFrame fun _ => 0).handed[j]?,
        slice = ((framesSize (t.sizes.take j)).toNat, (t.sizes.getD j 0).toUInt32) := by
  refine ⟨_, Prod.ext (by decide) rfl, by decide, by decide, fun whole => ?_⟩
  exact absurd (whole 0 (by decide) (16, 4) (by decide)) (by decide)

end UnionpiTiger.Vp9
