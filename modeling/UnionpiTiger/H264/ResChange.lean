import UnionpiTiger.H264.ParamSets

set_option autoImplicit false

namespace UnionpiTiger.H264

open Lib

section Combine

def secondHit (_ : Nat → Byte) (_ _ : Nat) (_ : Int) (_ : Unit) : Except Unit Unit := .error ()

def left {σ ρ : Type} : Except ρ σ → Bool
  | .error _ => true
  | .ok _ => false

-- The first start code of `check_frame_combine`; the counter of its loop goes on behind it, in a
-- word.
def firstHit (size : Nat) (m : Nat → Byte) (p j : Nat) (_ : Int) (_ : Unit) :
    Except (Bool × Int) Unit :=
  .error (left (scan secondHit size m (size - u32 (p + j + 5)) (p + j + 1) 7 ()), s32 (p + j))

def combineResult (pos : Int) : Except (Bool × Int) Unit → Bool × Int
  | .error result => result
  | .ok _ => (false, pos)

-- `check_frame_combine`: whether there are two start codes, and what is stored in pos.
def checkFrameCombine (m : Nat → Byte) (size : Nat) (pos : Int) : Bool × Int :=
  combineResult pos (scan (firstHit size) size m (size - 4) 0 7 ())

end Combine

section WriteNalu

inductive Branch where
  | noStartCode
  | parked (type : Nat)
  | direct
  | joined
deriving DecidableEq

def branch (isCombine : Bool) (headOffset : BitVec 32) : Option Nat → Branch
  | none => .noStartCode
  | some type =>
    if type = nalH264Sps ∧ isCombine = false then .parked nalH264Sps
    else if type = nalH264Pps ∧ isCombine = false then .parked nalH264Pps
    else if type = nalH264Sei ∧ isCombine = false then .parked nalH264Sei
    else if headOffset = 0 then .direct
    else .joined

def writeNaluBranch (isCombine : Bool) (headOffset : BitVec 32) (buf : Nat → Byte) : Branch :=
  branch isCombine headOffset (nalType buf)

def branchHit (isCombine : Bool) (headOffset : BitVec 32) (m : Nat → Byte) (p j : Nat) (_ : Int)
    (_ : Unit) : Except Branch Unit :=
  .error (branch isCombine headOffset (some ((m (p + j)).toNat % 32)))

def branchResult : Except Branch Unit → Branch
  | .error branch => branch
  | .ok _ => .noStartCode

end WriteNalu

section Monitor

-- `struct vdec_pic_info`, less the sizes that no parser sets
structure PicInfo where
  visibleWidth : Nat
  visibleHeight : Nat
  codedWidth : Nat
  codedHeight : Nat
  yLenSz : Nat
  cLenSz : Nat
  profileIdc : Int
  refFrameCount : Int

-- What the parser writes into `struct vdec_h264_vsi`
structure Parsed where
  pic : PicInfo
  isCombine : Bool
  naluPos : Int

def nalH264Aud : Nat := 9

variable {Sps : Type} (memory : Int → Nat → Option (Nat → UInt8))
  (parserSps : List UInt8 → Sps → Int × Sps) (vzalloc : Nat → Bool)
  (zeroed : Sps) (fillVdecParams : Sps → Parsed → Parsed)

def parseStreamCpu (m : Nat → Byte) (size : Nat) (vsi : Parsed) : Int × Parsed :=
  let (isCombine, nalIdx) := checkFrameCombine m size 0
  if nalIdx < 0 then (-1, vsi)
  else
    let vsi := { vsi with isCombine, naluPos := nalIdx }
    if vzalloc size = false then (-enomem, vsi)
    else
      let (ret, ps) := h264DecodeExtradataPs memory parserSps m (s32 size) { sps := zeroed, spsParsed := false }
      if ret ≠ 0 then (ret, vsi) else if ps.spsParsed then (0, fillVdecParams ps.sps vsi) else (-1, vsi)

def monitorHit (m : Nat → Byte) (p j : Nat) (len : Int) (vsi : Parsed) : Except (Int × Parsed) Parsed :=
  let type := (m (p + j)).toNat % 32
  if type ≠ nalH264Aud ∧ (type > nalH264Pps ∨ type < nalH264Sei) then .error (0, vsi)
  else if type = nalH264Sps then
    let (ret, vsi) := parseStreamCpu memory parserSps vzalloc zeroed fillVdecParams (fun k => m (p + k)) (u32 len) vsi
    if ret ≠ 0 then .error (ret, vsi) else .ok vsi
  else .ok vsi

def PicInfo.Differs (pic cur : PicInfo) : Prop :=
  cur.codedWidth ≠ pic.codedWidth ∨ cur.codedHeight ≠ pic.codedHeight ∨
    pic.profileIdc ≠ cur.profileIdc ∨
    pic.refFrameCount ≠ cur.refFrameCount

instance (pic cur : PicInfo) : Decidable (pic.Differs cur) := inferInstanceAs (Decidable (_ ∨ _))

def compared (loop : Except (Int × Parsed) Parsed) (curPic : PicInfo) : Bool × PicInfo × Parsed :=
  let (ret, vsi) := searchResult loop
  if ret = 0 ∧ vsi.pic.Differs curPic then (true, vsi.pic, vsi) else (false, curPic, vsi)

-- `monitor_res_change`: the result, with cur_pic and the other fields behind the call.
def monitorResChange (m : Nat → Byte) (size : Nat) (vsi : Parsed) (curPic : PicInfo) : Bool × PicInfo × Parsed :=
  compared (scan (monitorHit memory parserSps vzalloc zeroed fillVdecParams) size m (size - 4) 0 (s32 size) vsi) curPic

end Monitor

section Confinement

variable {n : Nat} {m : Nat → Byte}

theorem combineResult_tells (r : Bool × Int) (s : Unit) :
    (fun pos => combineResult pos (.error r)) ≠ fun pos => combineResult pos (.ok s) := by
  intro same
  have at_ := congrArg Prod.snd (congrFun same (r.2 + 1))
  simp only [combineResult] at at_
  omega

-- Where the second loop of `check_frame_combine` does not come to an open end.
def CombineInside (n : Nat) (m : Nat → Byte) (p j : Nat) (_ : Unit) : Prop :=
  Closed secondHit (fun _ _ _ _ => True) n n m (n - u32 (p + j + 5)) (p + j + 1) 7 ()

theorem secondHit_settles : Settles secondHit (fun _ _ _ _ => True) n n m :=
  fun _ _ _ _ _ _ _ => Confined.const _

theorem secondHit_tells : Tells left secondHit (fun _ _ _ _ => True) n n m where
  completed _ _ _ _ _ _ _ _ _ := ⟨(), rfl, Bool.noConfusion⟩
  outside _ _ _ _ _ _ outside := absurd trivial outside

theorem checkFrameCombine_confined_iff (n : Nat) (m : Nat → Byte) :
    Confined n (fun m pos => checkFrameCombine m n pos) m ↔
      Closed (firstHit n) (CombineInside n) n n m (n - 4) 0 7 () := by
  refine scan_confined_iff (g := fun loop pos => combineResult pos loop) ?_ ?_ _ _ _ _
    (.inl (Nat.zero_le _))
  · intro p j _ _ _ within closed m' same
    have second := scan_confined secondHit_settles _ _ _ _ closed m' same
    dsimp only at second
    simp only [firstHit, second]
  · refine ⟨fun _ _ _ _ _ _ _ _ _ => ⟨_, rfl, combineResult_tells _ _⟩,
      fun p j _ within _ _ open_ => ?_⟩
    obtain ⟨m₁, m₂, same₁, same₂, differ⟩ :=
      scan_apart secondHit_settles secondHit_tells _ _ _ _ (.inl (by omega)) open_
    refine ⟨m₁, m₂, _, _, same₁, same₂, rfl, rfl, fun same => differ ?_⟩
    exact congrArg Prod.fst (congrFun same 0)

theorem checkFrameCombine_closed (small : n + 4 < 4294967296) (m : Nat → Byte) :
    Closed (firstHit n) (CombineInside n) n n m (n - 4) 0 7 () := by
  refine closed_ahead (fun _ _ _ _ => ⟨_, rfl⟩) (fun p j _ within found => ?_) _ _ _ (by omega)
  have code := (find_eq_some_iff.mp found).1
  have counter : u32 (p + j + 5) = p + j + 5 := by exact_mod_cast u32_natCast (by omega)
  refine closed_ahead (fun _ _ _ _ => ⟨_, rfl⟩) (fun _ _ _ _ _ => trivial) _ _ _ ?_
  rw [counter]
  omega

theorem branch_findSome? (isCombine : Bool) (headOffset : BitVec 32) (m : Nat → Byte) (passes p : Nat) :
    branch isCombine headOffset
      (((List.range' p passes).findSome? fun p => (findStartCode m p 7).map fun j => p + j).map
      fun pos => (m pos).toNat % 32) =
        branchResult (scan (branchHit isCombine headOffset) n m passes p 7 ()) := by
  induction passes generalizing p with
  | zero => rfl
  | succ passes ih =>
    rw [List.range'_succ, List.findSome?_cons]
    match found : findStartCode m p 7 with
    | none =>
      rw [scan_none found]
      exact ih (p + 1)
    | some j =>
      rw [scan_error found rfl]
      rfl

theorem writeNaluBranch_eq_scan (n : Nat) (isCombine : Bool) (headOffset : BitVec 32) (m : Nat → Byte) :
    writeNaluBranch isCombine headOffset m =
      branchResult (scan (branchHit isCombine headOffset) n m 12 0 7 ()) := by
  rw [← branch_findSome?, ← List.range_eq_range']
  rfl

theorem branch_found (isCombine : Bool) (headOffset : BitVec 32) (type : Nat) :
    branch isCombine headOffset (some type) ≠ .noStartCode := by
  simp only [branch]
  split_ifs <;> simp

theorem branch_combined (headOffset : BitVec 32) (type type' : Nat) :
    branch true headOffset (some type) = branch true headOffset (some type') := by
  simp [branch]

theorem branch_apart (headOffset : BitVec 32) :
    branch false headOffset (some 7) ≠ branch false headOffset (some 31) := by
  simp only [branch, nalH264Sps, nalH264Pps, nalH264Sei]
  split_ifs <;> simp_all

theorem writeNaluBranch_confined_iff (n : Nat) (m : Nat → Byte) (isCombine : Bool)
    (headOffset : BitVec 32) :
    Confined n (writeNaluBranch isCombine headOffset) m ↔
      Closed (branchHit isCombine headOffset) (fun _ p j _ => p + j < n ∨
        isCombine = true) n n m 12 0 7 () := by
  rw [show writeNaluBranch isCombine headOffset =
    _ from funext (writeNaluBranch_eq_scan n isCombine headOffset)]
  refine scan_confined_iff ?_ ⟨fun _ _ _ _ _ _ _ _ _ => ⟨_, rfl, branch_found _ _ _⟩,
    ?_⟩ _ _ _ _ (.inl (Nat.zero_le _))
  · rintro p j _ _ - - (inside | rfl) m' same
    · simp only [branchHit, same (p + j) inside]
    · exact congrArg Except.error (branch_combined _ _ _)
  · rintro p j _ within - - outside
    obtain ⟨last, rfl⟩ : p + j = n ∧ isCombine = false := by
      simpa [Nat.le_antisymm_iff, within] using outside
    refine ⟨followedBy n m fun _ => 7, followedBy n m fun _ => 255, _, _, sameBelow_followedBy n m _,
      sameBelow_followedBy n m _, rfl, rfl, ?_⟩
    rw [last, followedBy_behind _ _ le_rfl, followedBy_behind _ _ le_rfl]
    exact branch_apart headOffset

-- What `vdec_write_nalu` does without is_combine, by the branch.
theorem writeNalu_branch (vsi : Vsi) (call : Call) : vsi.writeNalu call =
    let taken := if call.written > 0 then vsi.given call else []
    match writeNaluBranch false vsi.headOffset call.buf with
    | .noStartCode => (vsi, -1, [])
    | .parked type =>
      if vsi.room call.size then (vsi.park type call.buf call.size, call.size.toInt, [])
        else (vsi, -eilseq, [])
    | .direct => (vsi, call.written, taken)
    | .joined =>
      if call.memory then ({ headerBuf := memcpy vsi.headerBuf 0 (fun _ => 0) headerBufferSize },
        call.written, taken)
      else (vsi, -enomem, []) := by
  unfold Vsi.writeNalu writeNaluBranch
  match nalType call.buf with
  | none => rfl
  | some type =>
    by_cases sps : type = nalH264Sps
    · simp [branch, parks, sps]
    by_cases pps : type = nalH264Pps
    · simp [branch, parks, pps, show nalH264Pps ≠ nalH264Sps by decide]
    by_cases sei : type = nalH264Sei
    · simp [branch, parks, sei, show nalH264Sei ≠
        nalH264Sps by decide, show nalH264Sei ≠ nalH264Pps by decide]
    by_cases empty : vsi.headOffset = 0#32 <;> simp [branch, parks, sps, pps, sei, empty]

variable {Sps : Type} {memory : Int → Nat → Option (Nat → UInt8)}
  {parserSps : List UInt8 → Sps → Int × Sps} {vzalloc : Nat → Bool}
  {zeroed : Sps} {fillVdecParams : Sps → Parsed → Parsed}

theorem parseStreamCpu_short {m : Nat → Byte} {size : Nat} (short : s32 size ≤ 4) (vsi : Parsed) :
    (parseStreamCpu memory parserSps vzalloc zeroed fillVdecParams m size vsi).1 ≠ 0 := by
  have none_ : (s32 size - 4).toNat = 0 := by omega
  have search : h264DecodeExtradataPs memory parserSps m (s32 size) { sps := zeroed, spsParsed := false } =
      (0, { sps := zeroed, spsParsed := false }) := by
    unfold h264DecodeExtradataPs decodeParamSets
    rw [none_]
    rfl
  unfold parseStreamCpu
  rw [search]
  dsimp only
  split_ifs <;> simp_all [enomem]

theorem parseStreamCpu_same {m m' : Nat → Byte} {size j : Nat} (same : SameBelow size m m') (small : size < 2147483648)
    (found : findStartCode m 0 size = some j) (type : (m j).toNat % 32 = nalH264Sps) (vsi : Parsed) :
    parseStreamCpu memory parserSps vzalloc zeroed fillVdecParams m' size vsi =
      parseStreamCpu memory parserSps vzalloc zeroed fillVdecParams m size vsi := by
  have combine := congrFun ((checkFrameCombine_confined_iff size m).mpr (checkFrameCombine_closed (by omega) m) m' same) 0
  have length : s32 size = size := s32_eq (by omega) (by omega)
  have left : s32 ((size : Int) - (0 : Nat)) = size := s32_eq (by omega) (by omega)
  let ps : H264ParamSets Sps := { sps := zeroed, spsParsed := false }
  have bounds := ((@find_eq_some_iff _ _ size).mp (by simpa using found)).1
  obtain ⟨r, out⟩ := (@searchHit_sps _ _ _ 0 _ size) (by simpa using found)
    (by omega) (by simpa using type) ps
  have closed : Closed (searchHit memory (h264Unit parserSps) H264ParamSets.spsParsed)
      (fun _ _ _ _ => True) size size m
      ((size : Int) - 4).toNat 0 size ps := by
    refine closed_error (fun open_ => ?_) (by simpa using found) trivial (by rw [left]; exact out) _
    have bounds := open_.1
    omega
  have search : h264DecodeExtradataPs memory parserSps m' size ps =
      h264DecodeExtradataPs memory parserSps m size ps := by
    have confined := ((@decodeParamSets_confined_iff _ memory (h264Unit parserSps)
      H264ParamSets.spsParsed) (n := size) (m := m) (by omega) ps).mpr
    rw [length] at confined
    exact confined closed m' same
  unfold parseStreamCpu
  dsimp only at combine
  rw [length, combine, search]

theorem monitorHit_short {m : Nat → Byte} {p j : Nat} {len : Int} (type : m (p + j) = 7)
    (short : len ≤ 4) (word : -2147483648 ≤ len) (vsi : Parsed) :
    ∃ r, monitorHit memory parserSps vzalloc zeroed fillVdecParams m p j len vsi =
      .error r ∧ r.1 ≠ 0 := by
  have size : s32 (u32 len) = len := by
    unfold s32 u32
    omega
  have fails := (@parseStreamCpu_short _ memory parserSps vzalloc zeroed fillVdecParams)
    (m := fun k => m (p + k)) (by rw [size]; exact short) vsi
  refine ⟨_, ?_, fails⟩
  have sps : (m (p + j)).toNat % 32 = 7 := by rw [type]; rfl
  simp only [monitorHit, sps, nalH264Aud, nalH264Pps, nalH264Sei, nalH264Sps]
  rw [if_neg (by decide), if_pos trivial, if_pos fails]

theorem monitorHit_other {m : Nat → Byte} {p j : Nat} {len : Int} (type : m (p + j) = 255)
    (vsi : Parsed) :
    monitorHit memory parserSps vzalloc zeroed fillVdecParams m p j len vsi = .error (0, vsi) := by
  have other : (m (p + j)).toNat % 32 = 31 := by rw [type]; rfl
  simp only [monitorHit, other, nalH264Aud, nalH264Pps, nalH264Sei]
  rw [if_pos (by decide)]

theorem compared_apart {failed passed : Except (Int × Parsed) Parsed}
    (fails : (searchResult failed).1 ≠ 0) (passes : (searchResult passed).1 = 0) :
    compared failed ≠ compared passed := by
  intro same
  let cur : PicInfo :=
    { (searchResult passed).2.pic with codedWidth := (searchResult passed).2.pic.codedWidth + 1 }
  have differs : (searchResult passed).2.pic.Differs cur := .inl (Nat.succ_ne_self _)
  have at_ := congrArg Prod.fst (congrFun same cur)
  unfold compared at at_
  dsimp only at at_
  rw [if_neg fun changed => fails changed.1, if_pos ⟨passes, differs⟩] at at_
  cases at_

theorem monitorHit_settles {n : Nat} (small : n < 2147483648) (m : Nat → Byte) :
    Settles (monitorHit memory parserSps vzalloc zeroed fillVdecParams) (fun _ p j _ => p + j <
      n) n n m := by
  intro p j len vsi found within inside m' same
  have left : s32 ((n : Int) - p) = n - p := s32_eq (by omega) (by omega)
  have size : u32 ((n : Int) - p) = n - p := by
    have eq := u32_eq (n := (n : Int) - p) (by omega) (by omega)
    omega
  dsimp only
  simp only [monitorHit, same (p + j) inside]
  by_cases sps : (m (p + j)).toNat % 32 = nalH264Sps
  · have code : findStartCode (fun k => m (p + k)) 0 (n - p) = some j := by
      obtain ⟨pattern, zeros⟩ := find_eq_some_iff.mp found
      rw [← Int.toNat_natCast (n - p)]
      refine find_eq_some_iff.mpr ⟨?_, by simpa using zeros⟩
      obtain ⟨rfl, -, one⟩ | ⟨rfl, -, third, one⟩ := pattern
      · exact .inl ⟨rfl, by omega, by simpa using one⟩
      · exact .inr ⟨rfl, by omega, by simpa using third, by simpa using one⟩
    rw [left, size, parseStreamCpu_same (same.shift (by omega)) (by omega) code sps]
  · rw [if_neg sps, if_neg sps]

theorem monitorHit_tells {n : Nat} (small : n < 2147483648) (m : Nat → Byte) :
    Tells compared (monitorHit memory parserSps vzalloc zeroed fillVdecParams) (fun _ p j _ =>
      p + j < n) n n m where
  completed m' p j vsi near behind least most type := by
    have left : s32 ((n : Int) - p) = n - p := s32_eq (by omega) (by omega)
    obtain ⟨r, out, fails⟩ :=
      (@monitorHit_short _ _ _ _ _ _ _ _ _ (s32 ((n : Int) - p))) type (by omega) (by omega) vsi
    exact ⟨r, out, compared_apart fails rfl⟩
  outside p j vsi within least most outside := by
    have left : s32 ((n : Int) - p) = n - p := s32_eq (by omega) (by omega)
    have last : n ≤ p + j := Nat.le_of_not_lt outside
    obtain ⟨r, out, fails⟩ :=
      (@monitorHit_short _ _ _ _ _ _ (followedBy n m fun _ => 7) p j (s32 ((n : Int) - p)))
      (followedBy_behind _ _ last) (by omega) (by omega) vsi
    refine ⟨_, followedBy n m fun _ => 255, r, (0, vsi), sameBelow_followedBy n m fun _ => 7,
      sameBelow_followedBy n m _, out,
      monitorHit_other (followedBy_behind _ _ last) vsi, compared_apart fails rfl⟩

theorem monitorResChange_confined_iff {n : Nat} (word : n < 4294967296) (m : Nat → Byte)
    (vsi : Parsed) :
    Confined n (fun m => monitorResChange memory parserSps vzalloc zeroed fillVdecParams m n vsi) m ↔
      Closed (monitorHit memory parserSps vzalloc zeroed fillVdecParams) (fun _ p j _ => p + j < n)
        n n m (n - 4) 0 (s32 n) vsi := by
  by_cases small : n < 2147483648
  · exact scan_confined_iff (monitorHit_settles small m) (monitorHit_tells small m) _ _ _ _
      (.inl (Nat.zero_le _))
  · have negative : s32 n ≤ 3 := by
      unfold s32
      omega
    refine iff_of_true (fun _ _ => funext fun cur => ?_) (closed_short _ _ _ negative)
    simp only [monitorResChange, scan_short _ _ _ negative]

end Confinement

end UnionpiTiger.H264
