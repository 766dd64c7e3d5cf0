import UnionpiTiger.Dpb.Qsort

set_option autoImplicit false

namespace UnionpiTiger.Dpb

def maxListSize : Nat := 33

def dpbSizeMax : Nat := 32

inductive PictureStructure where
  | frame
  | topField
  | bottomField
deriving DecidableEq

structure StorablePicture where
  poc : Int := 0
  picNum : Int := 0
  longTermPicNum : Int := 0
  isLongTerm : Bool := false
  usedForReference : Bool := false

structure FrameStore where
  isUsed : Nat := 0
  isReference : Nat := 0
  frameNumWrap : Int := 0
  longTermFrameIdx : Int := 0
  poc : Int := 0
  frame : Option Nat := none
  topField : Option Nat := none
  bottomField : Option Nat := none
  -- Without its frame a store that is used as a whole makes the code read a NULL pointer.
  whole : isUsed = 3 → frame ≠ none := by simp

-- Of each array of frame stores the entries that are in use: the first `used_size`,
-- `ref_frames_in_buffer` and `ltref_frames_in_buffer`.
structure DecodedPictureBuffer where
  pics : Nat → StorablePicture
  stores : Nat → FrameStore
  fs : List Nat
  fsRef : List Nat
  fsLtref : List Nat
  noReferencePicture : Nat

structure Slice where
  structure_ : PictureStructure
  framepoc : Int
  thisPoc : Int
  numRefIdxActive0 : Nat
  numRefIdxActive1 : Nat

def compareAsc (key : Nat → Int) (a b : Nat) : Int :=
  if key a < key b then -1 else if key a > key b then 1 else 0

def compareDesc (key : Nat → Int) (a b : Nat) : Int :=
  if key a < key b then 1 else if key a > key b then -1 else 0

def sortList (comp : Nat → Nat → Int) (xs : List Nat) : Option (List Nat) :=
  (qsort comp (fun k => xs.getD k 0) xs.length).map fun cells => (List.range xs.length).map cells

namespace DecodedPictureBuffer

variable (dpb : DecodedPictureBuffer)

def comparePicByPicNumDesc : Nat → Nat → Int := compareDesc fun p => (dpb.pics p).picNum

def comparePicByLtPicNumAsc : Nat → Nat → Int := compareAsc fun p => (dpb.pics p).longTermPicNum

def comparePicByPocAsc : Nat → Nat → Int := compareAsc fun p => (dpb.pics p).poc

def comparePicByPocDesc : Nat → Nat → Int := compareDesc fun p => (dpb.pics p).poc

def compareFsByFrameNumDesc : Nat → Nat → Int := compareDesc fun f => (dpb.stores f).frameNumWrap

def compareFsByLtPicIdxAsc : Nat → Nat → Int := compareAsc fun f => (dpb.stores f).longTermFrameIdx

def compareFsByPocAsc : Nat → Nat → Int := compareAsc fun f => (dpb.stores f).poc

def compareFsByPocDesc : Nat → Nat → Int := compareDesc fun f => (dpb.stores f).poc

def isShortRef (p : Nat) : Bool := (dpb.pics p).usedForReference && !(dpb.pics p).isLongTerm

def isLongRef (p : Nat) : Bool := (dpb.pics p).usedForReference && (dpb.pics p).isLongTerm

def holdsReference (isRef : Nat → Bool) (f : FrameStore) : Bool :=
  (f.isUsed = 3 && f.frame.any isRef) || (f.isUsed &&& 1 ≠ 0 && f.topField.any isRef) ||
    (f.isUsed &&& 2 ≠ 0 && f.bottomField.any isRef)

def isShortTermReference (f : Nat) : Bool := holdsReference dpb.isShortRef (dpb.stores f)

def isLongTermReference (f : Nat) : Bool := holdsReference dpb.isLongRef (dpb.stores f)

def updateRefList : DecodedPictureBuffer := { dpb with fsRef := dpb.fs.filter dpb.isShortTermReference }

def updateLtrefList : DecodedPictureBuffer :=
  { dpb with fsLtref := dpb.fs.filter dpb.isLongTermReference }

end DecodedPictureBuffer

-- One of the inner loops of gen_pic_list_from_frame_list: the next field of one parity, and the
-- frame stores
-- behind it.
def nextField (field : Nat → Option Nat) : List Nat → Option Nat × List Nat
  | [] => (none, [])
  | f :: rest =>
    match field f with
    | some p => (some p, rest)
    | none => nextField field rest

def turns (first second : Nat → Option Nat) : Nat → List Nat → List Nat → List Nat
  | 0, _, _ => []
  | fuel + 1, ahead, behind =>
    if ahead = [] ∧ behind = [] then []
    else
      let (p, ahead) := nextField first ahead
      let (q, behind) := nextField second behind
      p.toList ++ q.toList ++ turns first second fuel ahead behind

namespace DecodedPictureBuffer

variable (dpb : DecodedPictureBuffer)

def fieldOf (parity : Nat) (field : FrameStore → Option Nat) (longTerm : Bool) (f : Nat) : Option Nat :=
  if (dpb.stores f).isUsed &&& parity ≠ 0 then
    (field (dpb.stores f)).filter (if longTerm then dpb.isLongRef else dpb.isShortRef)
  else none

def topOf : Bool → Nat → Option Nat := dpb.fieldOf 1 FrameStore.topField

def bottomOf : Bool → Nat → Option Nat := dpb.fieldOf 2 FrameStore.bottomField

def genPicListFromFrameList (currStructure : PictureStructure) (fsList : List Nat)
    (longTerm : Bool) : List Nat :=
  match currStructure with
  | .frame => []
  | .topField => turns (dpb.topOf longTerm) (dpb.bottomOf longTerm) (fsList.length + 1) fsList fsList
  | .bottomField => turns (dpb.bottomOf longTerm) (dpb.topOf longTerm) (fsList.length + 1) fsList fsList

def checkValid (listSize : Nat) : Nat := if listSize > maxListSize then 0 else listSize

def sortFrom (comp : Nat → Nat → Int) (place : Nat) (xs : List Nat) : Option (List Nat) :=
  (sortList comp (xs.drop place)).map (xs.take place ++ ·)

-- The first entries of `listX` of the slice, up to MAX_LIST_SIZE, and how many of them are valid.
structure RefPicList where
  entries : List Nat
  size : Nat

def cut (list : List Nat) (size numRefIdxActive : Nat) : RefPicList :=
  let size := checkValid (min size numRefIdxActive)
  { entries := list.take size ++ List.replicate (maxListSize - size) dpb.noReferencePicture, size }

def frameOf (keep : Nat → Bool) (f : Nat) : Option Nat :=
  if (dpb.stores f).isUsed = 3 then (dpb.stores f).frame.filter keep else none

def shortTermFrames : List Nat := dpb.fsRef.filterMap (dpb.frameOf dpb.isShortRef)

def longTermFrames : List Nat := dpb.fsLtref.filterMap (dpb.frameOf fun p => (dpb.pics p).isLongTerm)

def initFramesPSlice : Option (List Nat × Nat) := do
  let short ← sortList dpb.comparePicByPicNumDesc dpb.shortTermFrames
  let list0 ← sortFrom dpb.comparePicByLtPicNumAsc (checkValid short.length)
    (short ++ dpb.longTermFrames)
  return (list0, checkValid list0.length)

def initFieldsPSlice (currStructure : PictureStructure) : Option (List Nat × Nat) := do
  let fsList0 ← sortList dpb.compareFsByFrameNumDesc (dpb.fsRef.filter fun f =>
    (dpb.stores f).isReference ≠ 0)
  let fsListlt ← sortList dpb.compareFsByLtPicIdxAsc dpb.fsLtref
  let list0 := dpb.genPicListFromFrameList currStructure fsList0 false ++
    dpb.genPicListFromFrameList currStructure fsListlt true
  return (list0, list0.length)

def initPSlice (slice : Slice) : Option (List Nat × Nat) :=
  if slice.structure_ = .frame then dpb.initFramesPSlice else dpb.initFieldsPSlice slice.structure_

def initListsPSlice (slice : Slice) : Option (RefPicList × RefPicList) := do
  let (list0, size0) ← dpb.initPSlice slice
  return (dpb.cut list0 size0 slice.numRefIdxActive0, dpb.cut [] 0 slice.numRefIdxActive1)

-- Both branches of init_lists_b_slice sort what is up to the current picture and what is after it,
-- and have the two
-- parts the other way round in the second list.
def sortAround (desc asc : Nat → Nat → Int) (poc : Nat → Int) (current : Int) (xs : List Nat) :
    Option (List Nat × List Nat) := do
  let before ← sortList desc (xs.filter fun x => current ≥ poc x)
  let list0 ← sortFrom asc before.length (before ++ xs.filter fun x => current < poc x)
  return (list0, list0.drop before.length ++ list0.take before.length)

def initFramesBSlice (framepoc : Int) : Option (List Nat × Nat × List Nat × Nat) := do
  let (list0, list1) ← sortAround dpb.comparePicByPocDesc dpb.comparePicByPocAsc (fun p =>
    (dpb.pics p).poc) framepoc
    dpb.shortTermFrames
  let size := checkValid list0.length
  let list0 ← sortFrom dpb.comparePicByLtPicNumAsc size (list0 ++ dpb.longTermFrames)
  let list1 ← sortFrom dpb.comparePicByLtPicNumAsc size (list1 ++ dpb.longTermFrames)
  return (list0, checkValid list0.length, list1, checkValid list0.length)

def initFieldsBSlice (currStructure : PictureStructure) (thisPoc : Int) :
    Option (List Nat × Nat × List Nat × Nat) := do
  let (fsList0, fsList1) ← sortAround dpb.compareFsByPocDesc dpb.compareFsByPocAsc (fun f =>
    (dpb.stores f).poc) thisPoc
    (dpb.fsRef.filter fun f => (dpb.stores f).isUsed ≠ 0)
  let fsListlt ← sortList dpb.compareFsByLtPicIdxAsc dpb.fsLtref
  let long := dpb.genPicListFromFrameList currStructure fsListlt true
  let list0 := dpb.genPicListFromFrameList currStructure fsList0 false ++ long
  let list1 := dpb.genPicListFromFrameList currStructure fsList1 false ++ long
  return (list0, list0.length, list1, list1.length)

def initBSlice (slice : Slice) : Option (List Nat × Nat × List Nat × Nat) :=
  if slice.structure_ = .frame then dpb.initFramesBSlice slice.framepoc
  else dpb.initFieldsBSlice slice.structure_ slice.thisPoc

def swapFirst : List Nat → List Nat
  | a :: b :: rest => b :: a :: rest
  | list => list

def initListsBSlice (slice : Slice) : Option (RefPicList × RefPicList) := do
  let (list0, size0, list1, size1) ← dpb.initBSlice slice
  let list1 :=
    if size0 = size1 ∧ size0 > 1 ∧ list0.take size0 = list1.take size0 then swapFirst list1 else list1
  return (dpb.cut list0 size0 slice.numRefIdxActive0, dpb.cut list1 size1 slice.numRefIdxActive1)

end DecodedPictureBuffer

end UnionpiTiger.Dpb
