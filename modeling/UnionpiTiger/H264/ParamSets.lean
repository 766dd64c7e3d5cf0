import Mathlib.Data.List.Find
import UnionpiTiger.H264.Rbsp
import UnionpiTiger.H264.StartCodes

set_option autoImplicit false

namespace UnionpiTiger.H264

open Lib

def CodeAt (m : Nat → Byte) (p : Nat) : Prop :=
  m p = 0 ∧ m (p + 1) = 0 ∧ m (p + 2) = 1 ∨ m p = 0 ∧ m (p + 1) = 0 ∧ m (p + 2) = 0 ∧ m (p + 3) = 1

instance (m : Nat → Byte) (p : Nat) : Decidable (CodeAt m p) := inferInstanceAs (Decidable (_ ∨ _))

def calcNalLen (m : Nat → Byte) (p : Nat) (len : Int) : Int :=
  match (List.range (len - 4).toNat).find? fun i => CodeAt m (p + i) with
  | some i => i
  | none => len

def bytes (m : Nat → Byte) (p n : Nat) : List UInt8 := (span (fun k => m (p + k)) n).map UInt8.ofBitVec

def rbspOf (memory : Option (Nat → UInt8)) (src : List UInt8) : Option (List UInt8) :=
  match nalUnitExtractRbsp memory src with
  | some (some (dst, len)) => some (dst.take len)
  | _ => none

def intMax : Int := 2147483647

def initGetBits8 (byteSize : Int) : Int :=
  let byteSize := if byteSize > intMax / 8 ∨ byteSize < 0 then -1 else byteSize
  let bitSize := byteSize * 8
  if bitSize ≥ intMax - max 7 (avInputBufferPaddingSize * 8) ∨ bitSize < 0 then -1 else 0

section Decode

variable {P : Type} (memory : Int → Nat → Option (Nat → UInt8)) (unit : List UInt8 → P → Int × P)
  (parsed : P → Bool)

-- `decode_extradata_ps` of both parsers, with what is done with a unit. The memory is what the
-- vmalloc of the call with so many bytes left returns: no two calls of a search have as many.
def decodeExtradataPs (m : Nat → Byte) (p : Nat) (size : Int) (ps : P) : Int × P :=
  match findStartCode m p size.toNat with
  | none => (-1, ps)
  | some naluPos =>
    let srcLen := calcNalLen m (p + naluPos) (size - naluPos)
    match rbspOf (memory size (u32 (srcLen + avInputBufferPaddingSize)))
      (bytes m (p + naluPos) srcLen.toNat) with
    | none => (-enomem, ps)
    | some rbsp =>
      let ret := initGetBits8 rbsp.length
      if ret < 0 then (ret, ps) else unit rbsp ps

def searchHit (m : Nat → Byte) (p _j : Nat) (len : Int) (ps : P) : Except (Int × P) P :=
  let (ret, ps) := decodeExtradataPs memory unit m p len ps
  if ret ≠ 0 then .error (ret, ps) else if parsed ps then .error (0, ps) else .ok ps

def searchResult : Except (Int × P) P → Int × P
  | .error result => result
  | .ok ps => (0, ps)

def decodeParamSets (m : Nat → Byte) (size : Int) (ps : P) : Int × P :=
  searchResult (scan (searchHit memory unit parsed) size m (size - 4).toNat 0 size ps)

end Decode

structure H264ParamSets (Sps : Type) where
  sps : Sps
  spsParsed : Bool

-- The switch over the type, where an SPS goes to `aml_h264_parser_sps`.
def h264Unit {Sps : Type} (parserSps : List UInt8 → Sps → Int × Sps) (rbsp : List UInt8)
    (ps : H264ParamSets Sps) :
    Int × H264ParamSets Sps :=
  let header := (rbsp.headD 0).toNat
  if header / 128 ≠ 0 then (-1, ps)
  else if header % 32 = nalH264Sps then
    let (ret, sps) := parserSps rbsp ps.sps
    if ret < 0 then (ret, { ps with sps }) else (ret, { sps, spsParsed := true })
  else (0, ps)

def h264DecodeExtradataPs {Sps : Type} (memory : Int → Nat → Option (Nat → UInt8))
    (parserSps : List UInt8 → Sps → Int × Sps) (m : Nat → Byte) (size : Int)
    (ps : H264ParamSets Sps) : Int × H264ParamSets Sps :=
  decodeParamSets memory (h264Unit parserSps) H264ParamSets.spsParsed m size ps

structure H265ParamSets (Vps Sps : Type) where
  vps : Vps
  sps : Sps
  vpsParsed : Bool
  spsParsed : Bool

def hevcNalVps : Nat := 32

def hevcNalSps : Nat := 33

def h265Unit {Vps Sps : Type} (parseVps : List UInt8 → Vps → Int × Vps)
    (parseSps : List UInt8 → Sps → Int × Sps) (rbsp : List UInt8) (ps : H265ParamSets Vps Sps) :
    Int × H265ParamSets Vps Sps :=
  let first := (rbsp.headD 0).toNat
  let second := (rbsp.getD 1 0).toNat
  let temporalId : Int := (second % 8 : Nat) - 1
  if first / 128 ≠ 0 then (-1, ps)
  else if temporalId < 0 then (-1, ps)
  else if first / 2 % 64 = hevcNalVps then
    let (ret, vps) := parseVps rbsp ps.vps
    if ret < 0 then (ret, { ps with vps }) else (ret, { ps with vps, vpsParsed := true })
  else if first / 2 % 64 = hevcNalSps then
    let (ret, sps) := parseSps rbsp ps.sps
    if ret < 0 then (ret, { ps with sps }) else (ret, { ps with sps, spsParsed := true })
  else (0, ps)

def h265DecodeExtradataPs {Vps Sps : Type} (memory : Int → Nat → Option (Nat → UInt8))
    (parseVps : List UInt8 → Vps → Int × Vps) (parseSps : List UInt8 → Sps → Int × Sps)
    (m : Nat → Byte) (size : Int) (ps : H265ParamSets Vps Sps) :
    Int × H265ParamSets Vps Sps :=
  decodeParamSets memory (h265Unit parseVps parseSps) H265ParamSets.spsParsed m size ps

section Confinement

variable {P : Type} {memory : Int → Nat → Option (Nat → UInt8)} {unit : List UInt8 → P → Int × P}
  {parsed : P → Bool}
  {n p : Nat} {len : Int} {m m' : Nat → Byte}

theorem codeAt_same (same : SameBelow n m m') (inside : p + 3 < n) : CodeAt m' p ↔ CodeAt m p := by
  unfold CodeAt
  rw [same p (by omega), same (p + 1) (by omega), same (p + 2) (by omega), same (p + 3) inside]

theorem calcNalLen_le (m : Nat → Byte) (p : Nat) (len : Int) : calcNalLen m p len ≤ len := by
  unfold calcNalLen
  split
  next i found =>
    have below := List.mem_range.mp (List.mem_of_find?_eq_some found)
    omega
  next => exact le_rfl

theorem calcNalLen_same (same : SameBelow n m m') (inside : p + len ≤ n) :
    calcNalLen m' p len = calcNalLen m p len := by
  have search : ((List.range (len - 4).toNat).find? fun i => CodeAt m' (p + i)) =
      (List.range (len - 4).toNat).find? fun i => CodeAt m (p + i) := by
    refine List.find?_congr fun i below => decide_eq_decide.mpr (codeAt_same same ?_)
    have less := List.mem_range.mp below
    omega
  unfold calcNalLen
  rw [search]

theorem bytes_same {size : Nat} (same : SameBelow n m m') (inside : p + size ≤ n) :
    bytes m' p size = bytes m p size := by
  unfold bytes span
  refine congrArg _ (List.map_congr_left fun k below => same (p + k) ?_)
  have less := List.mem_range.mp below
  omega

theorem decodeExtradataPs_same (same : SameBelow n m m') (inside : p + len ≤ n) (ps : P) :
    decodeExtradataPs memory unit m' p len ps = decodeExtradataPs memory unit m p len ps := by
  have settled : ¬OpenEnd n m p len := fun open_ => by
    have bounds := open_.1
    omega
  unfold decodeExtradataPs
  rw [find_same same settled]
  match found : findStartCode m p len.toNat with
  | none => rfl
  | some naluPos =>
    have within := find_inside settled found
    have least := calcNalLen_le m (p + naluPos) (len - naluPos)
    dsimp only
    rw [calcNalLen_same same (by push_cast; omega), bytes_same same (by omega)]

theorem decodeExtradataPs_short (short : len ≤ 3) (ps : P) :
    decodeExtradataPs memory unit m p len ps = (-1, ps) := by
  unfold decodeExtradataPs
  rw [find_short short]

theorem searchHit_settles (small : n < 2147483648) :
    Settles (searchHit memory unit parsed) (fun _ _ _ _ => True) n n m := by
  intro p j _ ps _ within _ m' same
  have left : s32 ((n : Int) - p) = n - p := s32_eq (by omega) (by omega)
  dsimp only
  unfold searchHit
  rw [decodeExtradataPs_same same (by rw [left]; omega)]

theorem searchHit_tells (small : n < 2147483648) :
    Tells searchResult (searchHit memory unit parsed) (fun _ _ _ _ => True) n n m where
  completed m' p j ps near behind least most _ := by
    have left : s32 ((n : Int) - p) = n - p := s32_eq (by omega) (by omega)
    refine ⟨(-1, ps), ?_, ?_⟩
    · unfold searchHit
      rw [decodeExtradataPs_short (by omega)]
      rfl
    · intro same
      cases congrArg Prod.fst same
  outside _ _ _ _ _ _ outside := absurd trivial outside

theorem decodeParamSets_confined_iff (word : n < 4294967296) (ps : P) :
    Confined n (fun m => decodeParamSets memory unit parsed m (s32 n) ps) m ↔
      Closed (searchHit memory unit parsed) (fun _ _ _ _ => True) n (s32 n) m (s32 n - 4).toNat 0
        (s32 n) ps := by
  by_cases small : n < 2147483648
  · have size : s32 n = n := s32_eq (by omega) (by omega)
    rw [size]
    exact scan_confined_iff (searchHit_settles small) (searchHit_tells small) _ _ _ _
      (.inl (Nat.zero_le _))
  · have negative : s32 n ≤ 3 := by
      unfold s32
      omega
    have none_ : (s32 n - 4).toNat = 0 := by omega
    unfold decodeParamSets
    rw [none_]
    exact iff_of_true (Confined.const _) trivial

end Confinement

section Units

variable {P Sps : Type} {memory : Int → Nat → Option (Nat → UInt8)}
  {unit : List UInt8 → P → Int × P} {m : Nat → Byte} {p j : Nat}
  {len : Int}

theorem bytes_length (m : Nat → Byte) (p n : Nat) : (bytes m p n).length = n := by simp [bytes, span]

theorem bytes_succ (m : Nat → Byte) (p n : Nat) :
    bytes m p (n + 1) = UInt8.ofBitVec (m p) :: bytes m (p + 1) n := by
  simp [bytes, span, List.range_succ_eq_map, Function.comp_def, Nat.add_comm, Nat.add_left_comm]

theorem rbspOf_eq (memory : Option (Nat → UInt8)) {src : List UInt8}
    (short : src.length + avInputBufferPaddingSize < 2 ^ 32) :
    rbspOf memory src = memory.map fun _ => extracted src := by
  match memory with
  | none => rfl
  | some garbage =>
    obtain ⟨rest, result, -⟩ := nalUnitExtractRbsp_eq garbage short
    rw [rbspOf, result]
    simp

theorem calcNalLen_nonneg (m : Nat → Byte) (p : Nat) {len : Int} (nonneg : 0 ≤ len) :
    0 ≤ calcNalLen m p len := by
  unfold calcNalLen
  split
  · exact Int.natCast_nonneg _
  · exact nonneg

theorem calcNalLen_pos (plain : ¬CodeAt m p) (pos : 0 < len) : 0 < calcNalLen m p len := by
  unfold calcNalLen
  split
  next i found =>
    have code := List.find?_some found
    rcases Nat.eq_zero_or_pos i with rfl | positive
    · exact absurd (of_decide_eq_true code) plain
    · exact_mod_cast positive
  next => exact pos

theorem decodeExtradataPs_found (found : findStartCode m p len.toNat = some j)
    (small : len < 2147483648) (ps : P) :
    decodeExtradataPs memory unit m p len ps =
      let src := bytes m (p + j) (calcNalLen m (p + j) (len - j)).toNat
      match memory len (src.length + avInputBufferPaddingSize) with
      | none => (-enomem, ps)
      | some _ =>
        if initGetBits8 (extracted src).length < 0 then (initGetBits8 (extracted src).length, ps)
        else unit (extracted src) ps := by
  have code := (find_eq_some_iff.mp found).1
  have least := calcNalLen_nonneg m (p + j) (show 0 ≤ len - j by omega)
  have most := calcNalLen_le m (p + j) (len - j)
  have size : u32 (calcNalLen m (p + j) (len - j) + avInputBufferPaddingSize) =
      (bytes m (p + j) (calcNalLen m (p + j) (len - j)).toNat).length + avInputBufferPaddingSize := by
    rw [bytes_length]
    have eq := u32_eq (n := calcNalLen m (p + j) (len - j) + avInputBufferPaddingSize)
      (by unfold avInputBufferPaddingSize; omega)
      (by unfold avInputBufferPaddingSize; omega)
    omega
  unfold decodeExtradataPs
  rw [found]
  dsimp only
  rw [size, rbspOf_eq _ (by rw [bytes_length]; unfold avInputBufferPaddingSize; omega)]
  match memory len ((bytes m (p + j) (calcNalLen m (p + j) (len - j)).toNat).length +
    avInputBufferPaddingSize) with
  | none => rfl
  | some _ => rfl

theorem searchHit_stops {parsed : P → Bool} {ps : P} {result : Int × P}
    (decoded : decodeExtradataPs memory unit m p len ps = result)
    (stops : result.1 ≠ 0 ∨ parsed result.2 = true) :
    ∃ r, searchHit memory unit parsed m p j len ps = .error r := by
  unfold searchHit
  rw [decoded]
  by_cases fails : result.1 ≠ 0
  · exact ⟨_, if_pos fails⟩
  · exact ⟨_, (if_neg fails).trans (if_pos (stops.resolve_left fails))⟩

theorem h264Unit_sps {parserSps : List UInt8 → Sps → Int × Sps} {header : UInt8} (rest : List UInt8)
    (type : header.toNat % 32 = nalH264Sps) (ps : H264ParamSets Sps) :
    (h264Unit parserSps (header :: rest) ps).1 ≠ 0 ∨
      (h264Unit parserSps (header :: rest) ps).2.spsParsed = true := by
  simp only [h264Unit, List.headD_cons, type, if_true]
  split_ifs with forbidden fails
  · exact .inl (by simp)
  · exact .inl (by dsimp only; omega)
  · exact .inr rfl

theorem extracted_bytes (m : Nat → Byte) (p : Nat) {n : Nat} (positive : 0 < n) :
    ∃ rest, extracted (bytes m p n) = UInt8.ofBitVec (m p) :: rest := by
  obtain ⟨n, rfl⟩ := Nat.exists_eq_succ_of_ne_zero (Nat.ne_of_gt positive)
  rw [bytes_succ]
  exact ⟨_, rfl⟩

theorem searchHit_sps {parserSps : List UInt8 → Sps → Int × Sps}
    (found : findStartCode m p len.toNat = some j) (small : len < 2147483648)
    (type : (m (p + j)).toNat % 32 = nalH264Sps) (ps : H264ParamSets Sps) :
    ∃ r, searchHit memory (h264Unit parserSps) H264ParamSets.spsParsed m p j len ps = .error r := by
  have plain : ¬CodeAt m (p + j) := by
    intro code
    have zero : m (p + j) = 0 := code.elim (fun short => short.1) fun long => long.1
    rw [zero] at type
    cases type
  have bounds := (find_eq_some_iff.mp found).1
  have positive := (@calcNalLen_pos _ _ (len - j)) plain (by omega)
  obtain ⟨rest, unit⟩ :=
    extracted_bytes m (p + j) (n := (calcNalLen m (p + j) (len - j)).toNat) (by omega)
  refine searchHit_stops (decodeExtradataPs_found found small ps) ?_
  dsimp only
  split
  · exact .inl (by simp [enomem])
  · split_ifs with fails
    · exact .inl (by dsimp only; omega)
    · rw [unit]
      exact h264Unit_sps rest (by simpa using type) ps

end Units

end UnionpiTiger.H264
