import UnionpiTiger.Dpb.QsortRuns
import UnionpiTiger.Dpb.RefLists
import UnionpiTiger.Lib.ListOrder

set_option autoImplicit false

namespace UnionpiTiger.Dpb

open Lib

structure Ordered (key : Nat → Int) (before after : List Nat) : Prop where
  perm : after.Perm before
  sorted : after.Pairwise fun a b => key a ≤ key b

def ascending (key : Nat → Int) : Comparator Nat where
  comp := compareAsc key
  flip a b := by
    unfold compareAsc
    split_ifs <;> omega
  trans a b c := by
    unfold compareAsc
    split_ifs <;> omega

theorem ascending_le {key : Nat → Int} {a b : Nat} (le : (ascending key).Le a b) : key a ≤ key b := by
  simp only [Comparator.Le, ascending, compareAsc] at le
  split_ifs at le <;> omega

theorem compareDesc_eq (key : Nat → Int) : compareDesc key = compareAsc fun a => -key a := by
  funext a b
  unfold compareDesc compareAsc
  dsimp only
  split_ifs <;> omega

theorem map_getD_range (xs : List Nat) : (List.range xs.length).map (fun k => xs.getD k 0) = xs := by
  refine List.ext_getElem (by simp) fun i _ within => ?_
  simp [within]

theorem sortList_asc (key : Nat → Int) {xs : List Nat} (fits : xs.length < 2 ^ 64) :
    ∃ ys, sortList (compareAsc key) xs = some ys ∧ Ordered key xs ys := by
  obtain ⟨sorted, ran, inOrder, perm, -⟩ :=
    qsort_sorts (ascending key) (fun k => xs.getD k 0) (UInt64.ofNat xs.length)
  rw [UInt64.toNat_ofNat_of_lt' fits] at ran inOrder perm
  rw [map_getD_range] at perm
  change qsort (compareAsc key) _ _ = some sorted at ran
  exact ⟨_, by rw [sortList, ran]; rfl, perm, inOrder.imp ascending_le⟩

theorem sortList_desc (key : Nat → Int) {xs : List Nat} (fits : xs.length < 2 ^ 64) :
    ∃ ys, sortList (compareDesc key) xs = some ys ∧ Ordered (fun a => -key a) xs ys := by
  rw [compareDesc_eq]
  exact sortList_asc _ fits

structure Around (key : Nat → Int) (current : Int) (xs before after : List Nat) : Prop where
  before : Ordered (fun x => -key x) (xs.filter fun x => current ≥ key x) before
  after : Ordered key (xs.filter fun x => current < key x) after

theorem Around.perm {key : Nat → Int} {current : Int} {xs before after : List Nat}
    (around : Around key current xs before after) : (before ++ after).Perm xs := by
  have split := split_perm (fun x => decide (current ≥ key x)) (fun x => decide (current < key x))
    (fun x => by rw [← decide_not, decide_eq_decide]; exact Int.not_le.symm) xs
  exact (around.before.perm.append around.after.perm).trans split

theorem sortFrom_append {comp : Nat → Nat → Int} {xs ys zs : List Nat}
    (ran : sortList comp ys = some zs) :
    DecodedPictureBuffer.sortFrom comp xs.length (xs ++ ys) = some (xs ++ zs) := by
  unfold DecodedPictureBuffer.sortFrom
  rw [List.drop_left, List.take_left, ran]
  rfl

theorem sortAround_spec (key : Nat → Int) (current : Int) {xs : List Nat} (fits : xs.length < 2 ^ 64) :
    ∃ before after, Around key current xs before after ∧
      DecodedPictureBuffer.sortAround (compareDesc key) (compareAsc key) key current xs =
        some (before ++ after, after ++ before) := by
  have within : ∀ keep : Nat → Bool, (xs.filter keep).length < 2 ^ 64 := fun keep =>
    Nat.lt_of_le_of_lt (List.length_filter_le keep xs) fits
  obtain ⟨before, ranBefore, inOrder⟩ := sortList_desc key (within fun x => current ≥ key x)
  obtain ⟨after, ranAfter, inOrder'⟩ := sortList_asc key (within fun x => current < key x)
  refine ⟨before, after, ⟨inOrder, inOrder'⟩, ?_⟩
  unfold DecodedPictureBuffer.sortAround
  rw [ranBefore, Option.bind_eq_bind, Option.bind_some, sortFrom_append ranAfter, Option.bind_some,
    List.drop_left, List.take_left]
  rfl

section

variable {field first second : Nat → Option Nat} {fsList : List Nat}

theorem nextField_spec (field : Nat → Option Nat) (fsList : List Nat) :
    fsList.filterMap field = (nextField field fsList).1.toList ++
      (nextField field fsList).2.filterMap field ∧
      ((nextField field fsList).1 = none → (nextField field fsList).2 = []) ∧
      (nextField field fsList).2.length ≤ fsList.length - 1 := by
  induction fsList with
  | nil => exact ⟨rfl, fun _ => rfl, Nat.le_refl _⟩
  | cons f rest ih =>
    unfold nextField
    cases found : field f with
    | some p =>
      exact ⟨by rw [List.filterMap_cons_some found]; rfl,
        fun taken => absurd taken (Option.some_ne_none p), Nat.le_refl _⟩
    | none =>
      have shorter := ih.2.2
      exact ⟨by rw [List.filterMap_cons_none found, ih.1], ih.2.1,
        Nat.le_trans shorter (Nat.sub_le _ _)⟩

theorem turns_eq {fuel : Nat} {ahead behind : List Nat} (left : ahead.length < fuel)
    (right : behind.length < fuel) :
    turns first second fuel ahead behind =
      alternated (ahead.filterMap first) (behind.filterMap second) := by
  induction fuel generalizing ahead behind with
  | zero => exact absurd left (Nat.not_lt_zero _)
  | succ fuel ih =>
    obtain ⟨one, stop, shorter⟩ := nextField_spec first ahead
    obtain ⟨two, stop', shorter'⟩ := nextField_spec second behind
    unfold turns
    by_cases done : ahead = [] ∧ behind = []
    · rw [if_pos done, done.1, done.2]
      rfl
    rw [if_neg done]
    have some_ : ahead ≠ [] ∨ behind ≠ [] := not_and_or.mp done
    dsimp only
    rw [one, two]
    have more : 0 < fuel := by
      rcases some_ with some_ | some_ <;> have := List.length_pos_iff.mpr some_ <;> omega
    rw [ih (by omega) (by omega)]
    cases foundOne : (nextField first ahead).1 with
    | none => rw [stop foundOne]; rfl
    | some p =>
      cases foundTwo : (nextField second behind).1 with
      | none => rw [stop' foundTwo, List.filterMap_nil, alternated_nil]; exact (alternated_nil _).symm
      | some q => rfl

end

namespace DecodedPictureBuffer

variable {dpb : DecodedPictureBuffer}

structure Listed (dpb : DecodedPictureBuffer) : Prop where
  fits : dpb.fs.length ≤ dpbSizeMax
  short : dpb.fsRef.Sublist dpb.fs
  long : dpb.fsLtref.Sublist dpb.fs

theorem updated_listed (fits : dpb.fs.length ≤ dpbSizeMax) :
    dpb.updateRefList.updateLtrefList.Listed where
  fits := fits
  short := List.filter_sublist
  long := List.filter_sublist

theorem frameOf_apart (f : Nat) :
    dpb.frameOf dpb.isShortRef f = none ∨ dpb.frameOf (fun p => (dpb.pics p).isLongTerm) f = none := by
  unfold frameOf
  by_cases whole : (dpb.stores f).isUsed = 3
  · rw [if_pos whole, if_pos whole]
    cases (dpb.stores f).frame with
    | none => exact Or.inl rfl
    | some p => cases longTerm : (dpb.pics p).isLongTerm <;> simp [Option.filter, isShortRef, longTerm]
  · exact Or.inl (if_neg whole)

theorem frames_le (listed : dpb.Listed) :
    dpb.shortTermFrames.length + dpb.longTermFrames.length ≤ dpb.fs.length := by
  have first := (listed.short.filterMap (dpb.frameOf dpb.isShortRef)).length_le
  have second := (listed.long.filterMap (dpb.frameOf fun p => (dpb.pics p).isLongTerm)).length_le
  exact Nat.le_trans (Nat.add_le_add first second) (filterMap_lengths frameOf_apart dpb.fs)

theorem small_of_le (listed : dpb.Listed) {n : Nat} (fewer : n ≤ dpb.fs.length) : n < 2 ^ 64 := by
  have fits := listed.fits
  unfold dpbSizeMax at fits
  omega

theorem checkValid_eq {n : Nat} (fits : n ≤ dpbSizeMax) : checkValid n = n :=
  if_neg (by simp only [maxListSize, dpbSizeMax] at *; omega)

theorem longTerm_sorted (listed : dpb.Listed) :
    ∃ long, Ordered (fun p => (dpb.pics p).longTermPicNum) dpb.longTermFrames long ∧
      ∀ {front : List Nat}, front.length = dpb.shortTermFrames.length →
        (front ++ long).length ≤ dpb.fs.length ∧
          checkValid (front ++ long).length = (front ++ long).length ∧
          sortFrom dpb.comparePicByLtPicNumAsc (checkValid front.length) (front ++ dpb.longTermFrames) =
            some (front ++ long) := by
  have bound := frames_le listed
  have fits := listed.fits
  obtain ⟨long, ran, inOrder⟩ := sortList_asc (fun p => (dpb.pics p).longTermPicNum)
    (small_of_le listed (by omega : dpb.longTermFrames.length ≤ dpb.fs.length))
  have length := inOrder.perm.length_eq
  refine ⟨long, inOrder, fun {front} same => ?_⟩
  have all : (front ++ long).length ≤ dpb.fs.length := by
    rw [List.length_append]
    omega
  refine ⟨all, checkValid_eq (by omega), ?_⟩
  rw [checkValid_eq (by omega : front.length ≤ dpbSizeMax)]
  exact sortFrom_append ran

def FramesForP (dpb : DecodedPictureBuffer) (list : List Nat) : Prop :=
  ∃ short long, Ordered (fun p => -(dpb.pics p).picNum) dpb.shortTermFrames short ∧
    Ordered (fun p => (dpb.pics p).longTermPicNum) dpb.longTermFrames long ∧ list = short ++ long

theorem initFramesPSlice_spec (listed : dpb.Listed) :
    ∃ list, dpb.FramesForP list ∧ list.length ≤ 2 * dpb.fs.length ∧
      dpb.initFramesPSlice = some (list, list.length) := by
  have bound := frames_le listed
  obtain ⟨short, ran, inOrder⟩ := sortList_desc (fun p => (dpb.pics p).picNum)
    (small_of_le listed (by omega : dpb.shortTermFrames.length ≤ dpb.fs.length))
  obtain ⟨long, inOrder', behind⟩ := longTerm_sorted listed
  obtain ⟨within, valid, ran'⟩ := behind inOrder.perm.length_eq
  refine ⟨short ++ long, ⟨short, long, inOrder, inOrder', rfl⟩, by omega, ?_⟩
  unfold initFramesPSlice comparePicByPicNumDesc
  rw [ran, Option.bind_eq_bind, Option.bind_some, ran', Option.bind_some, valid]
  rfl

def sameParity (dpb : DecodedPictureBuffer) (currStructure : PictureStructure) :
    Bool → Nat → Option Nat :=
  if currStructure = .topField then dpb.topOf else dpb.bottomOf

def otherParity (dpb : DecodedPictureBuffer) (currStructure : PictureStructure) :
    Bool → Nat → Option Nat :=
  if currStructure = .topField then dpb.bottomOf else dpb.topOf

def inTurns (dpb : DecodedPictureBuffer) (currStructure : PictureStructure) (fsList : List Nat)
    (longTerm : Bool) :
    List Nat :=
  alternated (fsList.filterMap (dpb.sameParity currStructure longTerm))
    (fsList.filterMap (dpb.otherParity currStructure longTerm))

theorem genPicList_eq {currStructure : PictureStructure} (field : currStructure ≠ .frame)
    (fsList : List Nat) (longTerm : Bool) :
    dpb.genPicListFromFrameList currStructure fsList longTerm =
      dpb.inTurns currStructure fsList longTerm := by
  cases currStructure with
  | frame => exact absurd rfl field
  | topField => exact turns_eq (Nat.lt_succ_self _) (Nat.lt_succ_self _)
  | bottomField => exact turns_eq (Nat.lt_succ_self _) (Nat.lt_succ_self _)

theorem fieldOf_apart (parity : Nat) (field : FrameStore → Option Nat) (f : Nat) :
    dpb.fieldOf parity field false f = none ∨ dpb.fieldOf parity field true f = none := by
  unfold fieldOf
  by_cases there : (dpb.stores f).isUsed &&& parity ≠ 0
  · rw [if_pos there, if_pos there]
    cases field (dpb.stores f) with
    | none => exact Or.inl rfl
    | some p => cases longTerm : (dpb.pics p).isLongTerm <;>
        simp [Option.filter, isShortRef, isLongRef, longTerm]
  · exact Or.inl (if_neg there)

theorem inTurns_le {short long before after : List Nat} (currStructure : PictureStructure)
    (shortPerm : short.Perm before) (shortIn : before.Sublist dpb.fs) (longPerm : long.Perm after)
    (longIn : after.Sublist dpb.fs) :
    (dpb.inTurns currStructure short false ++ dpb.inTurns currStructure long true).length ≤
      2 * dpb.fs.length := by
  have each : ∀ parity : Bool → Nat → Option Nat, (∀ f, parity false f = none ∨ parity true f = none) →
      (short.filterMap (parity false)).length + (long.filterMap (parity true)).length ≤
        dpb.fs.length := by
    intro parity apart
    have first := (shortIn.filterMap (parity false)).length_le
    have second := (longIn.filterMap (parity true)).length_le
    rw [(shortPerm.filterMap _).length_eq, (longPerm.filterMap _).length_eq]
    exact Nat.le_trans (Nat.add_le_add first second) (filterMap_lengths apart dpb.fs)
  have same := each (dpb.sameParity currStructure) (by
    unfold sameParity
    split_ifs <;> exact fieldOf_apart _ _)
  have other := each (dpb.otherParity currStructure) (by
    unfold otherParity
    split_ifs <;> exact fieldOf_apart _ _)
  unfold inTurns
  rw [List.length_append, alternated_length, alternated_length]
  omega

def fieldsOf (dpb : DecodedPictureBuffer) (currStructure : PictureStructure)
    (short long : List Nat) : List Nat :=
  dpb.inTurns currStructure short false ++ dpb.inTurns currStructure long true

theorem fieldsOf_perm {short other : List Nat} (perm : short.Perm other)
    (currStructure : PictureStructure) (long : List Nat) :
    (dpb.fieldsOf currStructure short long).length =
      (dpb.fieldsOf currStructure other long).length := by
  unfold fieldsOf inTurns
  simp only [List.length_append, alternated_length, (perm.filterMap _).length_eq]

def FieldsForP (dpb : DecodedPictureBuffer) (currStructure : PictureStructure)
    (list : List Nat) : Prop :=
  ∃ short long, Ordered (fun f => -(dpb.stores f).frameNumWrap)
      (dpb.fsRef.filter fun f => (dpb.stores f).isReference ≠ 0) short ∧
    Ordered (fun f => (dpb.stores f).longTermFrameIdx) dpb.fsLtref long ∧
      list = dpb.fieldsOf currStructure short long

theorem initFieldsPSlice_spec (listed : dpb.Listed) {currStructure : PictureStructure}
    (field : currStructure ≠ .frame) :
    ∃ list, dpb.FieldsForP currStructure list ∧ list.length ≤ 2 * dpb.fs.length ∧
      dpb.initFieldsPSlice currStructure = some (list, list.length) := by
  have shortIn : (dpb.fsRef.filter fun f => (dpb.stores f).isReference ≠ 0).Sublist dpb.fs :=
    List.filter_sublist.trans listed.short
  have longIn := listed.long
  obtain ⟨short, ran, inOrder⟩ := sortList_desc (fun f => (dpb.stores f).frameNumWrap)
    (small_of_le listed shortIn.length_le)
  obtain ⟨long, ran', inOrder'⟩ := sortList_asc (fun f => (dpb.stores f).longTermFrameIdx)
    (small_of_le listed longIn.length_le)
  refine ⟨_, ⟨short, long, inOrder, inOrder', rfl⟩,
    inTurns_le _ inOrder.perm shortIn inOrder'.perm longIn, ?_⟩
  unfold initFieldsPSlice compareFsByFrameNumDesc compareFsByLtPicIdxAsc
  rw [ran, Option.bind_eq_bind, Option.bind_some, ran', Option.bind_some, genPicList_eq field,
    genPicList_eq field]
  rfl

def secondList (list0 list1 : List Nat) : List Nat :=
  if 1 < list0.length ∧ list0 = list1 then swapFirst list1 else list1

def FramesForB (dpb : DecodedPictureBuffer) (framepoc : Int) (list0 list1 : List Nat) : Prop :=
  ∃ before after long, Around (fun p => (dpb.pics p).poc) framepoc dpb.shortTermFrames before after ∧
    Ordered (fun p => (dpb.pics p).longTermPicNum) dpb.longTermFrames long ∧
    list0 = before ++ after ++ long ∧ list1 = after ++ before ++ long

theorem initFramesBSlice_spec (listed : dpb.Listed) (framepoc : Int) :
    ∃ list0 list1, dpb.FramesForB framepoc list0 list1 ∧ list0.length ≤ 2 * dpb.fs.length ∧
      list1.length = list0.length ∧ dpb.initFramesBSlice framepoc =
        some (list0, list0.length, list1, list1.length) := by
  have bound := frames_le listed
  obtain ⟨before, after, around, ran⟩ := sortAround_spec (fun p => (dpb.pics p).poc) framepoc
    (small_of_le listed (by omega : dpb.shortTermFrames.length ≤ dpb.fs.length))
  obtain ⟨long, inOrder, behind⟩ := longTerm_sorted listed
  have turned : (after ++ before).length = (before ++ after).length := List.perm_append_comm.length_eq
  obtain ⟨within, valid, ran0⟩ := behind around.perm.length_eq
  obtain ⟨-, -, ran1⟩ := behind (turned.trans around.perm.length_eq)
  have same : (after ++ before ++ long).length = (before ++ after ++ long).length :=
    (List.perm_append_comm.append_right long).length_eq
  refine ⟨_, _, ⟨before, after, long, around, inOrder, rfl, rfl⟩, by omega, same, ?_⟩
  rw [turned] at ran1
  unfold initFramesBSlice comparePicByPocDesc comparePicByPocAsc
  rw [ran, Option.bind_eq_bind, Option.bind_some]
  dsimp only
  rw [ran0, Option.bind_eq_bind, Option.bind_some, ran1, Option.bind_some, valid, same]
  rfl

def FieldsForB (dpb : DecodedPictureBuffer) (currStructure : PictureStructure) (thisPoc : Int)
    (list0 list1 : List Nat) : Prop :=
  ∃ before after long, Around (fun f => (dpb.stores f).poc) thisPoc
      (dpb.fsRef.filter fun f => (dpb.stores f).isUsed ≠ 0) before after ∧
    Ordered (fun f => (dpb.stores f).longTermFrameIdx) dpb.fsLtref long ∧
    list0 = dpb.fieldsOf currStructure (before ++ after) long ∧
      list1 = dpb.fieldsOf currStructure (after ++ before) long

theorem initFieldsBSlice_spec (listed : dpb.Listed) {currStructure : PictureStructure}
    (field : currStructure ≠ .frame) (thisPoc : Int) :
    ∃ list0 list1, dpb.FieldsForB currStructure thisPoc list0 list1 ∧ list0.length ≤ 2 * dpb.fs.length ∧
      list1.length = list0.length ∧
      dpb.initFieldsBSlice currStructure thisPoc = some (list0, list0.length, list1, list1.length) := by
  have usedIn : (dpb.fsRef.filter fun f => (dpb.stores f).isUsed ≠ 0).Sublist dpb.fs :=
    List.filter_sublist.trans listed.short
  have longIn := listed.long
  obtain ⟨before, after, around, ran⟩ := sortAround_spec (fun f => (dpb.stores f).poc) thisPoc
    (small_of_le listed usedIn.length_le)
  obtain ⟨long, ran', inOrder⟩ := sortList_asc (fun f => (dpb.stores f).longTermFrameIdx)
    (small_of_le listed longIn.length_le)
  refine ⟨_, _, ⟨before, after, long, around, inOrder, rfl, rfl⟩,
    inTurns_le _ around.perm usedIn inOrder.perm longIn, fieldsOf_perm List.perm_append_comm _ _, ?_⟩
  unfold initFieldsBSlice compareFsByPocDesc compareFsByPocAsc compareFsByLtPicIdxAsc
  rw [ran, Option.bind_eq_bind, Option.bind_some, ran']
  dsimp only
  rw [Option.bind_eq_bind, Option.bind_some, genPicList_eq field, genPicList_eq field,
    genPicList_eq field]
  rfl

def ForP (dpb : DecodedPictureBuffer) (slice : Slice) (list : List Nat) : Prop :=
  if slice.structure_ = .frame then dpb.FramesForP list else dpb.FieldsForP slice.structure_ list

def ForB (dpb : DecodedPictureBuffer) (slice : Slice) (list0 list1 : List Nat) : Prop :=
  if slice.structure_ = .frame then dpb.FramesForB slice.framepoc list0 list1
  else dpb.FieldsForB slice.structure_ slice.thisPoc list0 list1

theorem initListsPSlice_spec (listed : dpb.Listed) (slice : Slice) :
    ∃ list, dpb.ForP slice list ∧ list.length ≤ 2 * dpb.fs.length ∧ dpb.initListsPSlice slice =
      some (dpb.cut list list.length slice.numRefIdxActive0, dpb.cut [] 0 slice.numRefIdxActive1) := by
  unfold ForP initListsPSlice initPSlice
  by_cases frame : slice.structure_ = .frame
  · obtain ⟨list, inOrder, bound, ran⟩ := initFramesPSlice_spec listed
    simp only [if_pos frame, ran]
    exact ⟨list, inOrder, bound, rfl⟩
  · obtain ⟨list, inOrder, bound, ran⟩ := initFieldsPSlice_spec listed frame
    simp only [if_neg frame, ran]
    exact ⟨list, inOrder, bound, rfl⟩

def threeFrames : DecodedPictureBuffer :=
  ({ pics p := { poc := p, picNum := p, isLongTerm := p = 2, usedForReference := true }
     stores f := { isUsed := 3, isReference := 3, frame := some f }
     fs := [0, 1, 2]
     fsRef := []
     fsLtref := []
     noReferencePicture := 9 } : DecodedPictureBuffer).updateRefList.updateLtrefList

theorem initListsPSlice_threeFrames :
    ∃ list, threeFrames.ForP ⟨.frame, 0, 0, 3, 0⟩ list ∧ list.length ≤ 2 * 3 ∧
      threeFrames.initListsPSlice
      ⟨.frame, 0, 0, 3, 0⟩ = some (threeFrames.cut list list.length 3, threeFrames.cut [] 0 0) :=
  initListsPSlice_spec (updated_listed (by decide)) _

theorem swap_eq {list0 list1 : List Nat} (same : list1.length = list0.length) :
    (if list0.length = list1.length ∧ list0.length > 1 ∧
      list0.take list0.length = list1.take list0.length then
      swapFirst list1 else list1) = secondList list0 list1 := by
  rw [List.take_length, ← same, List.take_length]
  unfold secondList
  rw [same]
  simp

theorem initListsBSlice_spec (listed : dpb.Listed) (slice : Slice) :
    ∃ list0 list1, dpb.ForB slice list0 list1 ∧ list0.length ≤ 2 * dpb.fs.length ∧
      list1.length = list0.length ∧
      dpb.initListsBSlice slice = some (dpb.cut list0 list0.length slice.numRefIdxActive0,
        dpb.cut (secondList list0 list1) list1.length slice.numRefIdxActive1) := by
  unfold ForB initListsBSlice initBSlice
  by_cases frame : slice.structure_ = .frame
  · obtain ⟨list0, list1, inOrder, bound, same, ran⟩ := initFramesBSlice_spec listed slice.framepoc
    simp only [if_pos frame, ran]
    exact ⟨list0, list1, inOrder, bound, same, by rw [← swap_eq same]; rfl⟩
  · obtain ⟨list0, list1, inOrder, bound, same, ran⟩ := initFieldsBSlice_spec listed frame slice.thisPoc
    simp only [if_neg frame, ran]
    exact ⟨list0, list1, inOrder, bound, same, by rw [← swap_eq same]; rfl⟩

theorem initListsBSlice_threeFrames :
    ∃ list0 list1, threeFrames.ForB ⟨.frame, 0, 0, 3, 3⟩ list0 list1 ∧ list0.length ≤ 2 * 3 ∧
      list1.length = list0.length ∧ threeFrames.initListsBSlice ⟨.frame, 0, 0, 3, 3⟩ =
        some (threeFrames.cut list0 list0.length 3,
          threeFrames.cut (secondList list0 list1) list1.length 3) :=
  initListsBSlice_spec (updated_listed (by decide)) _

end DecodedPictureBuffer

end UnionpiTiger.Dpb
