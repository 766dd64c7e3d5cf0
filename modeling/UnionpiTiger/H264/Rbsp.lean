import UnionpiTiger.Lib.Stores
import UnionpiTiger.Lib.Words

set_option autoImplicit false

namespace UnionpiTiger.H264

open Lib

def avInputBufferPaddingSize : Nat := 64

-- The loops of `nal_unit_extract_rbsp` behind the header: while more than two bytes are left, and
-- then over the others.
def extractLoop : List UInt8 → List UInt8
  | a :: b :: c :: rest =>
    if a = 0 ∧ b = 0 ∧ c = 3 then a :: b :: extractLoop rest
    else a :: extractLoop (b :: c :: rest)
  | src => src

def extracted (src : List UInt8) : List UInt8 := src.take 2 ++ extractLoop (src.drop 2)

-- `nal_unit_extract_rbsp`: the buffer with the length; none where a write is outside of it. What
-- vmalloc returns is NULL or memory that holds something.
def nalUnitExtractRbsp (vmalloc : Option (Nat → UInt8)) (src : List UInt8) :
    Option (Option (List UInt8 × Nat)) :=
  match vmalloc with
  | none => some none
  | some garbage =>
    let dst := (List.range (u32 (src.length + avInputBufferPaddingSize))).map garbage
    let bytes := extracted src
    (store dst 0 (bytes ++ List.replicate avInputBufferPaddingSize 0)).map fun dst =>
      some (dst, bytes.length)

section Escaping

def zerosAfter (zeros : Nat) (byte : UInt8) : Nat :=
  if byte = 0 then (if zeros = 2 then 1 else zeros + 1) else 0

def escapeFrom : Nat → List UInt8 → List UInt8
  | _, [] => []
  | zeros, byte :: rest =>
    if zeros = 2 ∧ byte ≤ 3 then 3 :: byte :: escapeFrom (zerosAfter zeros byte) rest
    else byte :: escapeFrom (zerosAfter zeros byte) rest

def escape (s : List UInt8) : List UInt8 := escapeFrom 0 s

def lastZeros (s : List UInt8) : Nat := s.foldl zerosAfter 0

end Escaping

section Extraction

variable {a : UInt8} {rest : List UInt8}

theorem extractLoop_cons (plain : ¬(a = 0 ∧ ∃ more, rest = 0 :: 3 :: more)) :
    extractLoop (a :: rest) = a :: extractLoop rest := by
  match rest, plain with
  | [], _ => rfl
  | [b], _ => rfl
  | b :: c :: more, plain =>
    have other : ¬(a = 0 ∧ b = 0 ∧ c = 3) := by
      rintro ⟨rfl, rfl, rfl⟩
      exact plain ⟨rfl, more, rfl⟩
    rw [extractLoop, if_neg other]

theorem extractLoop_nonzero (nonzero : a ≠ 0) : extractLoop (a :: rest) = a :: extractLoop rest :=
  extractLoop_cons fun zero => nonzero zero.1

theorem extractLoop_length (src : List UInt8) : (extractLoop src).length ≤ src.length := by
  induction src using extractLoop.induct with
  | case1 a b c rest escape ih =>
    rw [extractLoop, if_pos escape]
    simp only [List.length_cons]
    omega
  | case2 a b c rest plain ih =>
    rw [extractLoop, if_neg plain]
    simp only [List.length_cons] at ih ⊢
    omega
  | case3 src short => rw [extractLoop]; exact short

theorem extracted_length (src : List UInt8) : (extracted src).length ≤ src.length := by
  have rest := extractLoop_length (src.drop 2)
  simp only [extracted, List.length_append, List.length_take, List.length_drop] at rest ⊢
  omega

end Extraction

section RoundTrip

def Ending (zeros : Nat) (s tail : List UInt8) : Prop :=
  tail = [] ∨ tail = [3] ∧ s.foldl zerosAfter zeros = 2

theorem zerosAfter_nonzero (zeros : Nat) {byte : UInt8} (nonzero : byte ≠ 0) :
    zerosAfter zeros byte = 0 := if_neg nonzero

theorem zerosAfter_le {zeros : Nat} (few : zeros ≤ 2) (byte : UInt8) : zerosAfter zeros byte ≤ 2 := by
  unfold zerosAfter
  split_ifs <;> omega

theorem extract_nonzero {byte : UInt8} (nonzero : byte ≠ 0) (zeros : Nat) (few : zeros ≤ 1)
    (rest : List UInt8) :
    extractLoop (List.replicate zeros 0 ++ byte :: rest) =
      List.replicate zeros 0 ++ byte :: extractLoop rest := by
  match zeros, few with
  | 0, _ => exact extractLoop_nonzero nonzero
  | 1, _ =>
    have plain : ¬((0 : UInt8) = 0 ∧ ∃ more, byte :: rest = 0 :: 3 :: more) := by simp [nonzero]
    simp only [List.replicate_one, List.singleton_append]
    rw [extractLoop_cons plain, extractLoop_nonzero nonzero]

theorem extract_large {byte : UInt8} (large : ¬byte ≤ 3) (rest : List UInt8) :
    extractLoop (0 :: 0 :: byte :: rest) = 0 :: 0 :: byte :: extractLoop rest := by
  have nonzero : byte ≠ 0 := by
    rintro rfl
    exact large (by decide)
  have other : byte ≠ 3 := by
    rintro rfl
    exact large (by decide)
  rw [extractLoop, if_neg (by simp [other])]
  exact congrArg (List.cons 0) (extract_nonzero nonzero 1 le_rfl rest)

theorem extract_inserted (rest : List UInt8) :
    extractLoop (0 :: 0 :: 3 :: rest) = 0 :: 0 :: extractLoop rest := by
  rw [extractLoop, if_pos ⟨rfl, rfl, rfl⟩]

theorem extract_escapeFrom (s tail : List UInt8) (zeros : Nat) (few : zeros ≤ 2)
    (ending : Ending zeros s tail) :
    extractLoop (List.replicate zeros 0 ++ (escapeFrom zeros s ++ tail)) =
      List.replicate zeros 0 ++ s := by
  induction s generalizing zeros with
  | nil =>
    obtain rfl | ⟨rfl, two⟩ := ending
    · match zeros, few with
      | 0, _ => rfl
      | 1, _ => rfl
      | 2, _ => rfl
    · obtain rfl : zeros = 2 := two
      exact extract_inserted []
  | cons byte rest ih =>
    have next := ih (zerosAfter zeros byte) (zerosAfter_le few byte) ending
    by_cases full : zeros = 2
    · subst full
      by_cases small : byte ≤ 3
      · simp only [escapeFrom, small, and_self, if_true, List.replicate_succ, List.replicate_zero,
          List.nil_append, List.cons_append, extract_inserted]
        by_cases zero : byte = 0
        · subst zero
          exact congrArg (fun l => 0 :: 0 :: l) next
        · rw [zerosAfter_nonzero 2 zero] at next ⊢
          rw [extractLoop_nonzero zero]
          exact congrArg (fun l => 0 :: 0 :: byte :: l) next
      · have nonzero : byte ≠ 0 := by
          rintro rfl
          exact small (by decide)
        rw [zerosAfter_nonzero 2 nonzero] at next
        simp only [escapeFrom, small, and_false, if_false, List.replicate_succ, List.replicate_zero,
          List.nil_append, List.cons_append, extract_large small, zerosAfter_nonzero 2 nonzero]
        exact congrArg (fun l => 0 :: 0 :: byte :: l) next
    · simp only [escapeFrom, full, false_and, if_false, List.cons_append]
      by_cases zero : byte = 0
      · subst zero
        have more : zerosAfter zeros 0 = zeros + 1 := by simp [zerosAfter, full]
        rw [more] at next ⊢
        simpa [List.replicate_succ', List.append_assoc] using next
      · rw [zerosAfter_nonzero zeros zero] at next ⊢
        rw [extract_nonzero zero zeros (by omega)]
        exact congrArg (fun l => List.replicate zeros 0 ++ byte :: l) next

theorem extracted_escape (first second : UInt8) (rest tail : List UInt8) (nonzero : second ≠ 0)
    (ending : tail = [] ∨ tail = [3] ∧ lastZeros (first :: second :: rest) = 2) :
    extracted (escape (first :: second :: rest) ++ tail) = first :: second :: rest := by
  have none_ : zerosAfter 0 first ≠ 2 := by
    unfold zerosAfter
    split_ifs <;> simp_all
  have count : zerosAfter (zerosAfter 0 first) second = 0 := zerosAfter_nonzero _ nonzero
  have header : escape (first :: second :: rest) ++ tail =
      first :: second :: (escapeFrom 0 rest ++ tail) := by
    simp [escape, escapeFrom, none_, count]
  have ending_ : Ending 0 rest tail := by simpa [Ending, lastZeros, count] using ending
  have body := extract_escapeFrom rest tail 0 (by omega) ending_
  rw [header]
  simpa [extracted] using body

end RoundTrip

section Buffer

variable {src : List UInt8}

theorem nalUnitExtractRbsp_eq (garbage : Nat → UInt8)
    (short : src.length + avInputBufferPaddingSize < 2 ^ 32) :
    ∃ rest, nalUnitExtractRbsp (some garbage) src =
        some (some (extracted src ++ (List.replicate avInputBufferPaddingSize 0 ++ rest),
          (extracted src).length)) ∧
      (extracted src).length + (avInputBufferPaddingSize + rest.length) =
        src.length + avInputBufferPaddingSize := by
  have least := extracted_length src
  have size : u32 (src.length + avInputBufferPaddingSize) = src.length + avInputBufferPaddingSize := by
    exact_mod_cast u32_natCast short
  refine ⟨((List.range (src.length + avInputBufferPaddingSize)).map garbage).drop
    ((extracted src).length + avInputBufferPaddingSize), ?_, ?_⟩
  · rw [nalUnitExtractRbsp, size, store_some (by simp; omega)]
    simp
  · simp
    omega

end Buffer

theorem rbsp_extraction (garbage : Nat → UInt8) :
    (∀ (first second : UInt8) (rest tail : List UInt8), second ≠ 0 →
      (tail = [] ∨ tail = [3] ∧ lastZeros (first :: second :: rest) = 2) →
      (escape (first :: second :: rest) ++ tail).length + avInputBufferPaddingSize < 2 ^ 32 →
      ∃ behind, nalUnitExtractRbsp (some garbage) (escape (first :: second :: rest) ++ tail) =
        some (some (first :: second :: rest ++
          (List.replicate avInputBufferPaddingSize 0 ++ behind), rest.length + 2))) ∧
    ∀ src : List UInt8, src.length + avInputBufferPaddingSize < 2 ^ 32 →
      ∃ bytes behind, nalUnitExtractRbsp (some garbage) src =
          some (some (bytes ++ (List.replicate avInputBufferPaddingSize 0 ++ behind), bytes.length)) ∧
        bytes.length ≤ src.length ∧
        bytes.length + (avInputBufferPaddingSize + behind.length) =
          src.length + avInputBufferPaddingSize := by
  constructor
  · intro first second rest tail nonzero ending short
    obtain ⟨behind, result, -⟩ := nalUnitExtractRbsp_eq garbage short
    rw [extracted_escape first second rest tail nonzero ending] at result
    exact ⟨behind, result⟩
  · intro src short
    obtain ⟨behind, result, size⟩ := nalUnitExtractRbsp_eq garbage short
    exact ⟨extracted src, behind, result, extracted_length src, size⟩

theorem rbsp_extraction_limits :
    (¬∀ (garbage : Nat → UInt8) (first second : UInt8) (rest tail : List UInt8), second ≠ 0 →
      (tail = [] ∨ tail = [3] ∧ [0, 0] <:+ first :: second :: rest) →
      ∃ behind, nalUnitExtractRbsp (some garbage) (escape (first :: second :: rest) ++ tail) =
        some (some (first :: second :: rest ++
          (List.replicate avInputBufferPaddingSize 0 ++ behind), rest.length + 2))) ∧
    ¬∀ (garbage : Nat → UInt8) (src : List UInt8), src.length < 2 ^ 32 →
      ∃ bytes behind, nalUnitExtractRbsp (some garbage) src =
      some (some (bytes ++ (List.replicate avInputBufferPaddingSize 0 ++ behind), bytes.length)) := by
  constructor
  · intro all
    obtain ⟨behind, result⟩ :=
      all (fun _ => 0) 1 1 [0, 0, 0] [3] (by decide) (.inr ⟨rfl, ⟨[1, 1, 0], rfl⟩⟩)
    have length : (nalUnitExtractRbsp (some fun _ => 0) (escape [1, 1, 0, 0, 0] ++ [3])).map
        (Option.map Prod.snd) =
        some (some 6) := by decide
    rw [result] at length
    simp at length
  · intro all
    obtain ⟨src, long⟩ : ∃ src : List UInt8, src.length = 4294967232 :=
      ⟨List.replicate _ 1, List.length_replicate⟩
    obtain ⟨bytes, behind, result⟩ := all (fun _ => 0) src (by omega)
    have size : u32 (src.length + avInputBufferPaddingSize) = 0 := by
      rw [long]
      rfl
    have outside : nalUnitExtractRbsp (some fun _ => 0) src = none := by
      rw [nalUnitExtractRbsp, size, store_none (by simp [avInputBufferPaddingSize])]
      rfl
    rw [outside] at result
    cases result

end UnionpiTiger.H264
