import Mathlib.Data.Fintype.Card
import UnionpiTiger.Lib.Tables
import UnionpiTiger.Lib.Words

set_option autoImplicit false

namespace UnionpiTiger.Boxes

open Lib

structure Box (A : Type) (n : Nat) where
  list : Fin n → Option A := fun _ => none
  boxRefCnt : Int := 0
  live : Bool := true

variable {A : Type} {n : Nat}

def index (n : Nat) (idx : Int) : Option (Fin n) :=
  if within : 0 ≤ idx ∧ idx < n then some ⟨idx.toNat, by omega⟩ else none

namespace Box

def put (box : Box A n) (i : Fin n) (entry : Option A) : Box A n :=
  { box with list := Function.update box.list i entry }

def fill (box : Box A n) (i : Fin n) (a : A) : Box A n :=
  { box.put i (some a) with boxRefCnt := box.boxRefCnt + 1 }

def free (box : Box A n) (i : Fin n) : Box A n :=
  { box.put i none with boxRefCnt := box.boxRefCnt - 1 }

def occupied (box : Box A n) : Finset (Fin n) := entries box.list fun entry => entry.isSome = true

def tryToRelease (box : Box A n) : Box A n :=
  if box.boxRefCnt ≠ 0 then box else if box.occupied = ∅ then { box with live := false } else box

def Counted (box : Box A n) : Prop := box.boxRefCnt = box.occupied.card

end Box

structure Mm where
  pageCount : Nat
  bufferSize : Nat
  phyAddr : Nat

structure BmmuBox (n : Nat) extends Box Mm n where
  totalSize : Int := 0
  changeSizeOnNeedSmaller : Bool := false
  align2n : Int := 0

-- `keeped` is what the keeper says of the buffer, and `got` what codec_mm_alloc gives.
inductive BmmuAct where
  | allocIdx (idx size aligned2n : Int) (keeped : Bool) (got : Option Mm)
  | freeIdx (idx : Int)
  | tryToRelease

namespace BmmuBox

def unfit (box : BmmuBox n) (mm : Mm) (size aligned2n : Int) (keeped : Bool) : Bool :=
  let align := if aligned2n = -1 then box.align2n else aligned2n
  keeped || decide (mm.pageCount * 4096 < u64 size) ||
    (box.changeSizeOnNeedSmaller && decide (mm.bufferSize > s32 (2 * size))) ||
    decide (mm.phyAddr % 2 ^ align.toNat ≠ 0)

def drop (box : BmmuBox n) (i : Fin n) (mm : Mm) : BmmuBox n :=
  { box with toBox := box.put i none, totalSize := s32 (box.totalSize - mm.bufferSize) }

def take (box : BmmuBox n) (i : Fin n) (mm : Mm) : BmmuBox n :=
  { box with toBox := box.fill i mm, totalSize := s32 (box.totalSize + mm.bufferSize) }

def clear (box : BmmuBox n) (i : Fin n) (size aligned2n : Int) (keeped : Bool) : BmmuBox n :=
  match box.list i with
  | some mm => if box.unfit mm size aligned2n keeped then box.drop i mm else box
  | none => box

def allocIdx (box : BmmuBox n) (i : Fin n) (size aligned2n : Int) (keeped : Bool)
    (got : Option Mm) : BmmuBox n :=
  let box := box.clear i size aligned2n keeped
  match box.list i, got with
  | none, some mm => box.take i mm
  | _, _ => box

def freeIdx (box : BmmuBox n) (i : Fin n) : BmmuBox n :=
  match box.list i with
  | some mm => { box with toBox := box.free i, totalSize := s32 (box.totalSize - mm.bufferSize) }
  | none => box

def step (box : BmmuBox n) (act : BmmuAct) : BmmuBox n :=
  if box.live then
    match act with
    | .allocIdx idx size aligned2n keeped got =>
      (index n idx).elim box fun i => box.allocIdx i size aligned2n keeped got
    | .freeIdx idx => (index n idx).elim box box.freeIdx
    | .tryToRelease => { box with toBox := box.tryToRelease }
  else box

def sizes (box : BmmuBox n) : Nat := ∑ i, (box.list i).elim 0 Mm.bufferSize

end BmmuBox

structure Sc where
  pageMaxCnt : Int
  pageCnt : Int

abbrev MmuBox (n : Nat) : Type := Box Sc n

inductive MmuAct where
  | allocIdx (idx numPages cnt : Int) (got : Option Sc)
  | freeIdxTail (idx startReleaseIndex cnt : Int)
  | freeIdx (idx : Int)
  | pages (idx cnt : Int)
  | tryToRelease

namespace MmuBox

def setCnt (box : MmuBox n) (i : Fin n) (cnt : Int) : MmuBox n :=
  box.put i ((box.list i).map fun sc => { sc with pageCnt := cnt })

def reuse (box : MmuBox n) (i : Fin n) (numPages cnt : Int) : MmuBox n :=
  match box.list i with
  | some sc => if sc.pageMaxCnt ≥ numPages then setCnt box i cnt else box.put i none
  | none => box

def allocIdx (box : MmuBox n) (i : Fin n) (numPages cnt : Int) (got : Option Sc) : MmuBox n :=
  let box := reuse box i numPages cnt
  match box.list i, got with
  | none, some sc => box.fill i sc
  | _, _ => box

def freeIdxTail (box : MmuBox n) (i : Fin n) (startReleaseIndex cnt : Int) : MmuBox n :=
  match box.list i with
  | some sc => if startReleaseIndex < sc.pageCnt then setCnt box i cnt else box
  | none => box

def freeIdx (box : MmuBox n) (i : Fin n) : MmuBox n :=
  match box.list i with
  | some sc => if sc.pageCnt > 0 then box.free i else box
  | none => box

def step (box : MmuBox n) (act : MmuAct) : MmuBox n :=
  if box.live then
    match act with
    | .allocIdx idx numPages cnt got => (index n idx).elim box fun i => allocIdx box i numPages cnt got
    | .freeIdxTail idx start cnt => (index n idx).elim box fun i => freeIdxTail box i start cnt
    | .freeIdx idx => (index n idx).elim box (freeIdx box)
    | .pages idx cnt => (index n idx).elim box fun i => setCnt box i cnt
    | .tryToRelease => box.tryToRelease
  else box

end MmuBox

end UnionpiTiger.Boxes

namespace UnionpiTiger.Boxes

open Lib

variable {n : Nat}

-- A buffer as codec_mm makes it: the size is that of the pages, or more where the pool rounds it
-- up.
structure CodecMm extends Mm where
  whole : pageCount * 4096 ≤ bufferSize

-- A box all of whose buffers come from codec_mm
structure DecoderBmmuBox (n : Nat) extends BmmuBox n where
  memFlags : Int
  whole : ∀ i mm, list i = some mm → mm.pageCount * 4096 ≤ mm.bufferSize

-- What a call meets: the buffers that a keeper holds, what codec_mm gives, and whether it has
-- space for a size.
structure World where
  isCodecMmKeeped : Mm → Bool
  codecMmAlloc : Int → Int → Int → Option CodecMm
  -- Its try_free_keep_video only logs.
  checkAndWaitSize : Int → Int → Bool

-- codec_mm_alloc honours the size and the alignment, and what it gives is new.
structure World.Honours (world : World) : Prop where
  size : ∀ {size align2n memFlags mm}, world.codecMmAlloc size align2n memFlags = some mm →
    size ≤ mm.bufferSize
  aligned : ∀ {size align2n memFlags mm},
    world.codecMmAlloc size align2n memFlags = some mm → mm.phyAddr % 2 ^ align2n.toNat = 0
  fresh : ∀ {size align2n memFlags mm},
    world.codecMmAlloc size align2n memFlags = some mm → world.isCodecMmKeeped mm.toMm = false

theorem BmmuBox.clear_list (box : BmmuBox n) (i : Fin n) (size aligned2n : Int) (keeped : Bool) :
    (box.clear i size aligned2n keeped).list i =
      (box.list i).bind fun mm => if box.unfit mm size aligned2n keeped then none else some mm := by
  unfold BmmuBox.clear
  cases held : box.list i with
  | none => simp [held]
  | some mm =>
    by_cases unfit : box.unfit mm size aligned2n keeped = true
    · simp [unfit, BmmuBox.drop, Box.put]
    · simp [unfit, held]

theorem BmmuBox.allocIdx_list (box : BmmuBox n) (i : Fin n) (size aligned2n : Int) (keeped : Bool)
    (got : Option Mm) :
    (box.allocIdx i size aligned2n keeped got).list i =
      ((box.clear i size aligned2n keeped).list i).or got := by
  unfold BmmuBox.allocIdx
  cases held : (box.clear i size aligned2n keeped).list i <;> cases got <;>
    simp [held, BmmuBox.take, Box.fill, Box.put]

theorem BmmuBox.allocIdx_other (box : BmmuBox n) {i j : Fin n} (other : j ≠ i)
    (size aligned2n : Int) (keeped : Bool) (got : Option Mm) :
    (box.allocIdx i size aligned2n keeped got).list j = box.list j := by
  have cleared : (box.clear i size aligned2n keeped).list j = box.list j := by
    unfold BmmuBox.clear
    split
    · split_ifs <;> simp [BmmuBox.drop, Box.put, other]
    · rfl
  unfold BmmuBox.allocIdx
  dsimp only
  split <;> simp [BmmuBox.take, Box.fill, Box.put, other, cleared]

theorem BmmuBox.allocIdx_align2n (box : BmmuBox n) (i : Fin n) (size aligned2n : Int)
    (keeped : Bool) (got : Option Mm) :
    (box.allocIdx i size aligned2n keeped got).align2n = box.align2n := by
  have cleared : (box.clear i size aligned2n keeped).align2n = box.align2n := by
    unfold BmmuBox.clear
    split
    · split_ifs <;> rfl
    · rfl
  unfold BmmuBox.allocIdx
  dsimp only
  split
  · exact cleared
  · exact cleared

namespace DecoderBmmuBox

variable {box : DecoderBmmuBox n} {world : World} {idx aligned2n memFlags waitFlags : Int}
  {size : Int32}

def decoderBmmuBoxAllocBox (aligned memFlags : Int) : DecoderBmmuBox n where
  align2n := aligned
  memFlags
  whole _ _ held := by cases held

def alignOf (box : DecoderBmmuBox n) (aligned2n : Int) : Int :=
  if aligned2n = -1 then box.align2n else aligned2n

def flagsOf (box : DecoderBmmuBox n) (memFlags : Int) : Int :=
  if memFlags = -1 then box.memFlags else memFlags

-- The entry after `decoder_bmmu_box_alloc_idx`, where codec_mm is asked only if it is empty.
def place (box : DecoderBmmuBox n) (i : Fin n) (size aligned2n : Int) (keeped : Bool)
    (got : Option CodecMm) : DecoderBmmuBox n where
  toBmmuBox := box.toBmmuBox.allocIdx i size aligned2n keeped (got.map CodecMm.toMm)
  memFlags := box.memFlags
  whole j mm held := by
    by_cases other : j = i
    · subst other
      rw [BmmuBox.allocIdx_list, BmmuBox.clear_list, Option.or_eq_some_iff] at held
      rcases held with kept | ⟨-, new⟩
      · obtain ⟨present, before, same⟩ := Option.bind_eq_some_iff.mp kept
        split_ifs at same
        cases same
        exact box.whole j mm before
      · obtain ⟨mm, -, rfl⟩ := Option.map_eq_some_iff.mp new
        exact mm.whole
    · rw [BmmuBox.allocIdx_other _ other] at held
      exact box.whole j mm held

def keepedAt (box : DecoderBmmuBox n) (world : World) (i : Fin n) : Bool :=
  (box.list i).elim false world.isCodecMmKeeped

def allocIdx (box : DecoderBmmuBox n) (world : World) (idx : Int) (size : Int32)
    (aligned2n memFlags : Int) :
    DecoderBmmuBox n × Int :=
  match index n idx with
  | none => (box, -1)
  | some i =>
    let got := world.codecMmAlloc size.toInt (box.alignOf aligned2n) (box.flagsOf memFlags)
    let box := box.place i size.toInt aligned2n (box.keepedAt world i) got
    (box, if (box.list i).isSome then 0 else -12)

def getMemSize (box : DecoderBmmuBox n) (idx : Int) : Int :=
  (index n idx).elim 0 fun i => (box.list i).elim 0 fun mm => mm.bufferSize

def allocIdxWait (box : DecoderBmmuBox n) (world : World) (idx : Int) (size : Int32)
    (aligned2n memFlags waitFlags : Int) :
    DecoderBmmuBox n × Int :=
  if box.getMemSize idx ≥ size.toInt ∧ (index n idx).all (fun i => !box.keepedAt world i) then (box, 0)
  else if world.checkAndWaitSize size.toInt waitFlags
    then box.allocIdx world idx size aligned2n memFlags
  else (box, -12)

def Serves (box : DecoderBmmuBox n) (world : World) (idx : Int) (size : Int32)
    (aligned2n : Int) : Prop :=
  ∃ i mm, index n idx = some i ∧ box.list i = some mm ∧ size.toInt ≤ mm.bufferSize ∧
    mm.phyAddr % 2 ^ (box.alignOf aligned2n).toNat = 0 ∧ world.isCodecMmKeeped mm = false

def Aligned (box : DecoderBmmuBox n) (world : World) (idx : Int) (size : Int32)
    (aligned2n : Int) : Prop :=
  ∀ i mm, index n idx = some i → box.list i = some mm → size.toInt ≤ mm.bufferSize →
    world.isCodecMmKeeped mm = false →
    mm.phyAddr % 2 ^ (box.alignOf aligned2n).toNat = 0

theorem fit_serves {i : Fin n} {mm : Mm} (held : box.list i = some mm) (positive : 0 < size.toInt)
    (fit : box.unfit mm size.toInt aligned2n (world.isCodecMmKeeped mm) = false) :
    size.toInt ≤ mm.bufferSize ∧ mm.phyAddr % 2 ^ (box.alignOf aligned2n).toNat = 0 ∧
      world.isCodecMmKeeped mm = false := by
  have whole := box.whole i mm held
  have upper := size.toInt_lt
  simp only [BmmuBox.unfit, Bool.or_eq_false_iff, decide_eq_false_iff_not, not_not] at fit
  obtain ⟨⟨⟨loose, large⟩, -⟩, aligned⟩ := fit
  refine ⟨?_, aligned, loose⟩
  have exact_ : (u64 size.toInt : Int) = size.toInt := by
    unfold u64
    omega
  omega

theorem place_alignOf (i : Fin n) (keeped : Bool) (got : Option CodecMm) :
    (box.place i size.toInt aligned2n keeped got).alignOf aligned2n = box.alignOf aligned2n := by
  unfold alignOf place
  rw [BmmuBox.allocIdx_align2n]

-- What `decoder_bmmu_box_alloc_idx` returns with success is a buffer to use.
theorem allocIdx_serves (honours : world.Honours) (positive : 0 < size.toInt)
    (success : (box.allocIdx world idx size aligned2n memFlags).2 = 0) :
    (box.allocIdx world idx size aligned2n memFlags).1.Serves world idx size aligned2n := by
  unfold allocIdx at success ⊢
  cases place : index n idx with
  | none => simp [place] at success
  | some i =>
    simp only [place] at success ⊢
    generalize got : world.codecMmAlloc size.toInt (box.alignOf aligned2n) (box.flagsOf memFlags) =
      new at success ⊢
    obtain ⟨mm, held⟩ := Option.isSome_iff_exists.mp (by by_contra empty; simp [empty] at success :
      ((box.place i size.toInt aligned2n (box.keepedAt world i) new).list i).isSome = true)
    refine ⟨i, mm, place, held, ?_⟩
    rw [place_alignOf]
    have entry := held
    simp only [DecoderBmmuBox.place, BmmuBox.allocIdx_list, BmmuBox.clear_list,
      Option.or_eq_some_iff] at entry
    rcases entry with kept | ⟨-, fresh⟩
    · obtain ⟨present, before, same⟩ := Option.bind_eq_some_iff.mp kept
      split_ifs at same with unfit
      cases same
      refine fit_serves before positive ?_
      simpa [keepedAt, before] using unfit
    · obtain ⟨mm, given, rfl⟩ := Option.map_eq_some_iff.mp fresh
      rw [given] at got
      exact ⟨honours.size got, honours.aligned got, honours.fresh got⟩

theorem getMemSize_pos (positive : 0 < box.getMemSize idx) :
    ∃ i mm, index n idx = some i ∧ box.list i = some mm ∧ box.getMemSize idx = mm.bufferSize := by
  unfold getMemSize at positive ⊢
  cases place : index n idx with
  | none => simp [place] at positive
  | some i =>
    cases held : box.list i with
    | none => simp [place, held] at positive
    | some mm => exact ⟨i, mm, rfl, held, by simp [held]⟩

theorem reuse_agrees_iff (box : DecoderBmmuBox n) {world : World} (honours : world.Honours)
    (idx : Int) {size : Int32} (positive : 0 < size.toInt) (aligned2n memFlags waitFlags : Int) :
    ((box.allocIdxWait world idx size aligned2n memFlags waitFlags).2 = 0 →
      (box.allocIdxWait world idx size aligned2n memFlags waitFlags).1.Serves world idx
        size aligned2n) ↔
      box.Aligned world idx size aligned2n := by
  unfold allocIdxWait
  by_cases reused : box.getMemSize idx ≥ size.toInt ∧ (index n idx).all (fun i => !box.keepedAt world i)
  · rw [if_pos reused]
    obtain ⟨large, loose⟩ := reused
    obtain ⟨i, mm, place, held, same⟩ := getMemSize_pos (Int.lt_of_lt_of_le positive large)
    rw [same] at large
    simp only [place, keepedAt, held, Option.all_some, Option.elim_some, Bool.not_eq_true'] at loose
    constructor
    · intro serves j other at_ there _ _
      obtain ⟨j', mm', at', there', -, aligned, -⟩ := serves rfl
      cases at_.symm.trans at'
      cases there.symm.trans there'
      exact aligned
    · intro aligned _
      exact ⟨i, mm, place, held, large, aligned i mm place held large loose, loose⟩
  · rw [if_neg reused]
    have aligned : box.Aligned world idx size aligned2n := by
      intro i mm place held large loose
      refine absurd ⟨?_, ?_⟩ reused
      · simpa [getMemSize, place, held] using large
      · simp [place, keepedAt, held, loose]
    refine iff_of_true ?_ aligned
    split_ifs
    · exact allocIdx_serves honours positive
    · intro failed
      cases failed

def pieceAt (address : Nat) : World where
  isCodecMmKeeped _ := false
  codecMmAlloc size align2n _ :=
    if size ≤ 65536 ∧ address % 2 ^ align2n.toNat = 0 then
      some { pageCount := 16, bufferSize := 65536, phyAddr := address, whole := Nat.le_refl _ }
    else none
  checkAndWaitSize _ _ := true

theorem pieceAt_honours (address : Nat) : (pieceAt address).Honours where
  size given := by
    unfold pieceAt at given
    dsimp only at given
    split_ifs at given with fits
    cases given
    exact fits.1
  aligned given := by
    unfold pieceAt at given
    dsimp only at given
    split_ifs at given with fits
    cases given
    exact fits.2
  fresh _ := rfl

def firstFrame : DecoderBmmuBox 4 :=
  ((decoderBmmuBoxAllocBox 12 0).allocIdxWait (pieceAt 0x1001000) 0 65536 (-1) (-1) 0).1

theorem firstFrame_held {i : Fin 4} {mm : Mm} (place : index 4 0 = some i)
    (held : firstFrame.list i = some mm) :
    mm.phyAddr = 0x1001000 := by
  cases place
  cases held
  rfl

theorem first_frame_again :
    (firstFrame.allocIdxWait (pieceAt 0x1001000) 0 4096 (-1) (-1) 0).2 = 0 ∧
      (firstFrame.allocIdxWait (pieceAt 0x1001000) 0 4096 (-1) (-1) 0).1.Serves (pieceAt 0x1001000)
        0 4096 (-1) := by
  have aligned : firstFrame.Aligned (pieceAt 0x1001000) 0 4096 (-1) := by
    intro i mm place held _ _
    rw [firstFrame_held place held]
    rfl
  exact ⟨rfl, (reuse_agrees_iff firstFrame (pieceAt_honours 0x1001000) 0 (by decide) (-1) (-1)
    0).mpr aligned rfl⟩

theorem reused_misaligned : ¬∀ (n : Nat) (box : DecoderBmmuBox n) (world : World), world.Honours →
    ∀ (idx : Int) (size : Int32), 0 < size.toInt → ∀ aligned2n memFlags waitFlags : Int,
      (box.allocIdxWait world idx size aligned2n memFlags waitFlags).2 = 0 →
        (box.allocIdxWait world idx size aligned2n memFlags waitFlags).1.Serves world idx size
          aligned2n := by
  intro all
  obtain ⟨i, mm, place, held, -, aligned, -⟩ :=
    all 4 firstFrame (pieceAt 0x1001000) (pieceAt_honours 0x1001000) 0 65536 (by decide) 16
      (-1) 0 (by decide)
  rw [firstFrame_held place held] at aligned
  exact absurd aligned (by decide)

end DecoderBmmuBox

end UnionpiTiger.Boxes
