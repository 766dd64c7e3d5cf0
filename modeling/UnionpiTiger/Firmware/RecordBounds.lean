import UnionpiTiger.Firmware.Bytes

set_option autoImplicit false

namespace UnionpiTiger.Firmware.Raw

open Lib

def Fw.Sized (fw : Fw) : Prop := 0 ≤ fw.dataSize ∧ firmwareHead + fw.dataSize ≤ fw.size

namespace Buf

variable (buf : Buf)

def wordAt (k : Int) : Nat := wordOf buf.byte k.toNat

def intAt (k : Int) : Int := s32 (buf.wordAt k)

def nameLength (pos : Nat) : Nat := ((buf.bytes.drop pos).takeWhile fun b => b ≠ 0).length

def record (pos : Nat) (length : Int) : Fw where
  bytes := (List.range length.toNat).map fun j => buf.byte (pos + infoHead + j)
  size := frimwareSize
  large := frimware_large

end Buf

def Inside (buf : Buf) (k : Int) : Prop := 0 ≤ k ∧ k + 4 ≤ buf.limit

def Named (buf : Buf) (pos : Nat) : Prop := ∃ k, pos ≤ k ∧ k < buf.limit ∧ buf.byte k = 0

def Taken (buf : Buf) (pos : Nat) (length : Int) : Prop :=
  0 ≤ length ∧ length ≤ frimwareSize ∧ pos + infoHead + length ≤ buf.limit

def Matches (buf : Buf) (pos : Int) (info : FwInfo) : Prop :=
  info.data.duplicate = true ∧ buf.wordAt (pos + infoHead + 4) = info.data.checksum

instance (buf : Buf) (pos : Int) (info : FwInfo) : Decidable (Matches buf pos info) :=
  inferInstanceAs (Decidable (_ ∧ _))

def Room (buf : Buf) (pos length : Int) : Prop :=
  firmwareHead ≤ length ∧ pos + infoHead + length ≤ buf.limit

section Conditions

variable (crc32Le : UInt32 → List UInt8 → UInt32) (kzalloc : Call → Nat → Bool) (buf : Buf)

structure ParseFits (tryCnt pos : Nat) : Prop where
  head : Inside buf (pos + 96)
  name : buf.intAt (pos + 96) ≠ 0 → Named buf pos
  record : buf.intAt (pos + 96) ≠ 0 → 6 + buf.nameLength pos < pathMax →
    kzalloc (.info tryCnt) fwInfoSize = true →
    kzalloc (.firmware tryCnt) frimwareSize = true → Taken buf pos (buf.intAt (pos + 96)) ∧
        ((buf.record pos (buf.intAt (pos + 96))).duplicate = false →
          (buf.record pos (buf.intAt (pos + 96))).Sized)

def nextRecord : Nat × Nat → Option (Nat × Nat)
  | (tryCnt, pos) =>
    if buf.intAt (pos + 96) = 0 then none
    else if pathMax ≤ 6 + buf.nameLength pos then some (tryCnt - 1, pos)
    else if !kzalloc (.info tryCnt) fwInfoSize || !kzalloc (.firmware tryCnt) frimwareSize then none
    else if (buf.record pos (buf.intAt (pos + 96))).right crc32Le = some true then
      some (tryCnt - 1, pos + (buf.intAt (pos + 96)).toNat + infoHead)
    else none

-- Whether the first entry that the record is for gets its memory, and whether some entry does not.
def replaces (pos : Int) : (memory : Nat → Bool) → List FwInfo → Bool
  | _, [] => false
  | memory, info :: rest => if Matches buf pos info then memory 0
      else replaces pos (fun entry => memory (entry + 1)) rest

def starves (pos : Int) : (memory : Nat → Bool) → List FwInfo → Bool
  | _, [] => false
  | memory, info :: rest => (decide (Matches buf pos info) && !memory 0) ||
      starves pos (fun entry => memory (entry + 1)) rest

structure ReplaceFits (fwHead : List FwInfo) (tryCnt : Nat) (pos : Int) : Prop where
  head : Inside buf (pos + 96)
  duplicate : buf.intAt (pos + 96) ≠ 0 → fwHead ≠ [] → Inside buf (pos + infoHead + 224)
  record : buf.intAt (pos + 96) ≠ 0 → buf.intAt (pos + infoHead + 224) = 0 →
    replaces buf pos (memoryOf kzalloc tryCnt (buf.intAt (pos + 96))) fwHead = true →
      Room buf pos (buf.intAt (pos + 96))

def nextDuplicate (fwHead : List FwInfo) : Nat × Int → Option (Nat × Int)
  | (tryCnt, pos) =>
    if buf.intAt (pos + 96) = 0 then none
    else if buf.intAt (pos + infoHead + 224) = 0 ∧
      starves buf pos (memoryOf kzalloc tryCnt (buf.intAt (pos + 96))) fwHead = true then none
    else some (tryCnt - 1, pos + (buf.intAt (pos + 96) + infoHead))

def CodeFits : Prop :=
  kzalloc (.info 0) fwInfoSize = true → kzalloc (.firmware 0) frimwareSize = true →
    buf.bytes.length ≤ frimwareSize ∧
    Fw.Sized ⟨buf.bytes, frimwareSize, frimware_large⟩

structure PackageFits (srcFrom : List UInt8) (mgr : FwMgr) : Prop where
  parsed : ∀ k < tryParseMax + 1,
    ∀ pass ∈ walk (nextRecord crc32Le kzalloc buf) k (tryParseMax, infoHead),
    ParseFits kzalloc buf pass.1 pass.2
  replaced : ∀ after, parseRecords crc32Le kzalloc srcFrom buf mgr = some (true, after) →
    ∀ k < tryParseMax + 1,
    ∀ pass ∈ walk (nextDuplicate kzalloc buf after.fwHead) k (tryParseMax, (infoHead : Int)),
      ReplaceFits kzalloc buf after.fwHead pass.1 pass.2

end Conditions

section Bounds

variable {crc32Le : UInt32 → List UInt8 → UInt32} {kzalloc : Call → Nat → Bool} {buf : Buf}
  {mgr : FwMgr} {srcFrom : List UInt8}

theorem Fw.data_isSome (fw : Fw) : fw.data.isSome ↔ fw.Sized := by
  unfold Fw.data Fw.Sized
  split_ifs with sized <;> simp [sized]

theorem word_eq (buf : Buf) (k : Int) (inside : Inside buf k) :
    buf.word k = some (buf.wordAt k) := if_pos inside

theorem word_none (buf : Buf) (k : Int) (outside : ¬Inside buf k) : buf.word k = none := if_neg outside

theorem int_eq (buf : Buf) (k : Int) (inside : Inside buf k) : buf.int k = some (buf.intAt k) := by
  rw [Buf.int, word_eq buf k inside]
  rfl

theorem int_none (buf : Buf) (k : Int) (outside : ¬Inside buf k) : buf.int k = none := by
  rw [Buf.int, word_none buf k outside]
  rfl

theorem zero_after_text (text : List UInt8) :
    text.getD (text.takeWhile fun b => b ≠ 0).length 0 = 0 := by
  induction text with
  | nil => rfl
  | cons b rest ih =>
    by_cases zero : b = 0
    · simp [zero]
    · simpa [zero] using ih

theorem text_before_zero (text : List UInt8) (k : Nat) (zero : text.getD k 0 = 0) :
    (text.takeWhile fun b => b ≠ 0).length ≤ k := by
  induction text generalizing k with
  | nil => simp
  | cons b rest ih =>
    by_cases first : b = 0
    · simp [first]
    · cases k with
      | zero => exact absurd (by simpa using zero) first
      | succ k => simpa [first] using ih k (by simpa using zero)

theorem getD_drop (bytes : List UInt8) (pos k : Nat) :
    (bytes.drop pos).getD k 0 = bytes.getD (pos + k) 0 := by
  simp [List.getD_eq_getElem?_getD]

theorem string_eq (buf : Buf) (pos : Nat) (named : Named buf pos) :
    buf.string pos = some ((buf.bytes.drop pos).takeWhile fun b => b ≠ 0) := by
  obtain ⟨k, from_, inside, zero⟩ := named
  have short : buf.nameLength pos ≤ k - pos := by
    apply text_before_zero
    rw [getD_drop, Nat.add_sub_cancel' from_]
    exact zero
  exact if_pos (show pos + buf.nameLength pos < buf.limit by omega)

theorem string_none (buf : Buf) (pos : Nat) (unnamed : ¬Named buf pos) : buf.string pos = none := by
  have ends := zero_after_text (buf.bytes.drop pos)
  rw [getD_drop] at ends
  exact if_neg fun inside => unnamed ⟨_, Nat.le_add_right _ _, inside, ends⟩

theorem copy_eq (pos : Nat) (length : Int) (taken : Taken buf pos length) :
    buf.copy (pos + infoHead) length = some (buf.record pos length).bytes := by
  obtain ⟨positive, -, inside⟩ := taken
  rw [Buf.copy, if_pos ⟨by omega, positive, inside⟩]
  rfl

theorem copied_eq (pos : Nat) (length : Int) (taken : Taken buf pos length) :
    Fw.copied (buf.record pos length).bytes = some (buf.record pos length) := by
  obtain ⟨positive, small, -⟩ := taken
  exact if_pos (by simp [Buf.record, small])

theorem copied_none (pos : Nat) (length : Int) (not_taken : ¬Taken buf pos length) (record : List UInt8)
    (copied : buf.copy (pos + infoHead) length = some record) : Fw.copied record = none := by
  unfold Buf.copy at copied
  split_ifs at copied with inside
  cases copied
  refine if_neg fun small => not_taken ⟨inside.2.1, ?_, inside.2.2⟩
  simp at small
  exact small

theorem dataCheckSum_isSome (fw : Fw) : (fw.dataCheckSum crc32Le).isSome ↔ fw.Sized := by
  rw [Fw.dataCheckSum, Option.isSome_map, Fw.data_isSome]

section Records

variable {tryCnt pos : Nat}

theorem parseRecord_none (length : Int) (name : List UInt8) (not_taken : ¬Taken buf pos length) :
    parseRecord crc32Le srcFrom buf mgr tryCnt pos length name = none := by
  cases copied : buf.copy (pos + infoHead) length with
  | none => simp [parseRecord, copied]
  | some record => simp [parseRecord, copied, copied_none pos length not_taken record copied]

theorem parseRecord_eq (length : Int) (name : List UInt8) (taken : Taken buf pos length) :
    ∃ t, parseRecord crc32Le srcFrom buf mgr tryCnt pos length name =
      ((buf.record pos length).right crc32Le).map
      fun right => if right then .again (t, tryCnt - 1, pos + length.toNat + infoHead)
        else .stop (false, mgr) := by
  have long : (buf.record pos length).bytes.length = length.toNat := by simp [Buf.record]
  rw [parseRecord, copy_eq pos length taken, Option.bind_eq_bind, Option.bind_some,
    copied_eq pos length taken, Option.bind_eq_bind, Option.bind_some, long]
  cases (buf.record pos length).right crc32Le with
  | none => exact ⟨mgr, rfl⟩
  | some right =>
    rw [Option.bind_eq_bind, Option.bind_some]
    cases right with
    | false => exact ⟨mgr, rfl⟩
    | true =>
      rw [if_pos rfl]
      exact ⟨_, rfl⟩

theorem right_none (fw : Fw) (unsized : ¬(fw.duplicate = false → fw.Sized)) :
    fw.right crc32Le = none := by
  obtain ⟨own, unsized⟩ := Classical.not_imp.mp unsized
  rw [← (@dataCheckSum_isSome crc32Le), Option.not_isSome_iff_eq_none] at unsized
  simp [Fw.right, own, unsized]

theorem right_some (fw : Fw) (sized : fw.duplicate = false → fw.Sized) :
    ∃ right, fw.right crc32Le = some right := by
  cases own : fw.duplicate with
  | true => exact ⟨true, by simp [Fw.right, own]⟩
  | false =>
    obtain ⟨right, checked⟩ :=
      Option.isSome_iff_exists.mp (((@dataCheckSum_isSome crc32Le) fw).mpr (sized own))
    exact ⟨right, by simp [Fw.right, own, checked]⟩

theorem parsePass_unfit (unfit : ¬ParseFits kzalloc buf tryCnt pos) :
    parsePass crc32Le kzalloc srcFrom buf (mgr, tryCnt, pos) = none := by
  simp only [parsePass, Option.bind_eq_bind]
  by_cases head : Inside buf (pos + 96)
  case neg => simp [int_none buf _ head]
  rw [int_eq buf _ head, Option.bind_some]
  by_cases last : buf.intAt (pos + 96) = 0
  case pos => exact absurd ⟨head, fun more => absurd last more, fun more => absurd last more⟩ unfit
  rw [if_neg last]
  by_cases named : Named buf pos
  case neg => rw [string_none buf pos named, Option.bind_none]
  rw [string_eq buf pos named, Option.bind_some, ← Buf.nameLength]
  by_cases short : 6 + buf.nameLength pos < pathMax
  case neg => exact absurd ⟨head, fun _ => named, fun _ less => absurd less short⟩ unfit
  cases info : kzalloc (.info tryCnt) fwInfoSize
  case false => exact absurd ⟨head, fun _ => named, fun _ _ memory => by simp [info] at memory⟩ unfit
  cases room : kzalloc (.firmware tryCnt) frimwareSize
  case false => exact absurd ⟨head, fun _ => named, fun _ _ _ memory => by simp [room] at memory⟩ unfit
  rw [if_neg (by omega), if_neg (by simp)]
  by_cases taken : Taken buf pos (buf.intAt (pos + 96))
  case neg => exact parseRecord_none _ _ taken
  obtain ⟨t, parsed⟩ := parseRecord_eq _
    ((buf.bytes.drop pos).takeWhile fun b => b ≠ 0) taken
  have not_sized : ¬((buf.record pos (buf.intAt (pos + 96))).duplicate = false →
      (buf.record pos (buf.intAt (pos + 96))).Sized) :=
    fun sized => unfit ⟨head, fun _ => named, fun _ _ _ _ => ⟨taken, sized⟩⟩
  rw [parsed, right_none _ not_sized, Option.map_none]

theorem parsePass_fit (fits : ParseFits kzalloc buf tryCnt pos) :
    ∃ pass, parsePass crc32Le kzalloc srcFrom buf (mgr, tryCnt, pos) = some pass ∧
      Follows (fun s pass => s.2 = pass) (nextRecord crc32Le kzalloc buf (tryCnt, pos)) pass := by
  simp only [parsePass, nextRecord, Option.bind_eq_bind]
  rw [int_eq buf _ fits.head, Option.bind_some]
  by_cases last : buf.intAt (pos + 96) = 0
  case pos =>
    rw [if_pos last, if_pos last]
    exact ⟨_, rfl, trivial⟩
  rw [if_neg last, if_neg last, string_eq buf pos (fits.name last), Option.bind_some, ← Buf.nameLength]
  by_cases short : 6 + buf.nameLength pos < pathMax
  case neg =>
    rw [if_pos (Nat.not_lt.mp short), if_pos (Nat.not_lt.mp short)]
    exact ⟨_, rfl, rfl⟩
  rw [if_neg (Nat.not_le.mpr short), if_neg (Nat.not_le.mpr short)]
  by_cases full : (!kzalloc (.info tryCnt) fwInfoSize ||
    !kzalloc (.firmware tryCnt) frimwareSize) = true
  case pos =>
    rw [if_pos full, if_pos full]
    exact ⟨_, rfl, trivial⟩
  rw [if_neg full, if_neg full]
  obtain ⟨info, room⟩ : kzalloc (.info tryCnt) fwInfoSize = true ∧
      kzalloc (.firmware tryCnt) frimwareSize = true := by
    simpa using full
  obtain ⟨taken, sized⟩ := fits.record last short info room
  obtain ⟨t, parsed⟩ := parseRecord_eq _
    ((buf.bytes.drop pos).takeWhile fun b => b ≠ 0) taken
  rw [parsed]
  obtain ⟨right, checked⟩ := right_some _ sized
  rw [checked, Option.map_some]
  cases right with
  | true => exact ⟨_, rfl, rfl⟩
  | false => exact ⟨_, rfl, trivial⟩

theorem parseRecords_isSome : (parseRecords crc32Le kzalloc srcFrom buf mgr).isSome ↔
    ∀ k < tryParseMax + 1, ∀ pass ∈ walk (nextRecord crc32Le kzalloc buf) k (tryParseMax, infoHead),
      ParseFits kzalloc buf pass.1 pass.2 := by
  refine passes_isSome (parsePass crc32Le kzalloc srcFrom buf) (fun s => (true, s.1))
    (fun s pass => s.2 = pass)
    (nextRecord crc32Le kzalloc buf) (fun pass => ParseFits kzalloc buf pass.1 pass.2) ?_ ?_
      (tryParseMax + 1)
    (mgr, tryParseMax, infoHead) (tryParseMax, infoHead) rfl
  · rintro ⟨mgr, tryCnt, pos⟩ _ rfl fits
    exact parsePass_fit fits
  · rintro ⟨mgr, tryCnt, pos⟩ _ rfl unfit
    exact parsePass_unfit unfit

end Records

def FwInfo.kind (info : FwInfo) : Bool × Nat := (info.data.duplicate, info.data.checksum)

theorem wordOf_congr {byte other : Nat → UInt8} (k : Nat)
    (same : ∀ j, k ≤ j → j < k + 4 → byte j = other j) :
    wordOf byte k = wordOf other k := by
  rw [wordOf, wordOf, same k (by omega) (by omega), same (k + 1) (by omega) (by omega),
    same (k + 2) (by omega) (by omega), same (k + 3) (by omega) (by omega)]

theorem replaced_byte (fw other : Fw) (record : List UInt8)
    (replaced : fw.replaced record = some other) (k : Nat) (small : k < firmwareHead)
    (kept : ¬(200 ≤ k ∧ k < 204)) : other.byte k = fw.byte k := by
  unfold Fw.replaced at replaced
  split_ifs at replaced with large
  cases replaced
  have inside : k < record.length := by omega
  simp [Fw.byte, inside, small, kept]

theorem replaced_kind (info : FwInfo) (data : Fw) (record : List UInt8)
    (replaced : info.data.replaced record = some data) :
    FwInfo.kind { info with data } = info.kind := by
  have same := replaced_byte info.data data record replaced
  have checksum : data.checksum = info.data.checksum :=
    wordOf_congr 4 fun j from_ less => same j (by simp only [firmwareHead]; omega) (by omega)
  have word : wordOf data.byte 224 = wordOf info.data.byte 224 :=
    wordOf_congr 224 fun j from_ less => same j (by simp only [firmwareHead]; omega) (by omega)
  have duplicate : data.duplicate = info.data.duplicate := by
    rw [Fw.duplicate, Fw.duplicate, intOf, intOf, word]
  rw [FwInfo.kind, FwInfo.kind, checksum, duplicate]

section Replacing

variable {pos length : Int} {info : FwInfo} {memory : Bool}

theorem replaceInfo_other (inside : Inside buf (pos + infoHead + 4)) (other : ¬Matches buf pos info) :
    replaceInfo memory buf pos length info = some (some info) := by
  cases duplicate : info.data.duplicate
  case false => simp [replaceInfo, duplicate]
  have differs : buf.wordAt (pos + infoHead + 4) ≠ info.data.checksum :=
    fun same => other ⟨duplicate, same⟩
  simp [replaceInfo, duplicate, word_eq buf _ inside, differs]

theorem replaceInfo_full (inside : Inside buf (pos + infoHead + 4)) (same : Matches buf pos info)
    (full : memory = false) : replaceInfo memory buf pos length info = some none := by
  simp [replaceInfo, same.1, word_eq buf _ inside, same.2, full]

theorem replaceInfo_copy (inside : Inside buf (pos + infoHead + 4)) (same : Matches buf pos info)
    (has : memory = true) : replaceInfo memory buf pos length info =
      (buf.copy (pos + infoHead) length).bind fun record =>
        (info.data.replaced record).map fun data => some { info with data } := by
  simp [replaceInfo, same.1, word_eq buf _ inside, same.2, has, Option.map_eq_bind]

theorem replaceInfo_room (inside : Inside buf (pos + infoHead + 4)) (place : 0 ≤ pos + infoHead)
    (same : Matches buf pos info) (has : memory = true) (room : Room buf pos length) :
    ∃ other, replaceInfo memory buf pos length info = some (some other) ∧ other.kind = info.kind := by
  obtain ⟨large, behind⟩ := room
  have positive : 0 ≤ length := by
    simp only [firmwareHead] at large
    omega
  obtain ⟨record, copied, long⟩ : ∃ record, buf.copy (pos + infoHead) length = some record ∧
      record.length = length.toNat :=
    ⟨_, if_pos ⟨place, positive, behind⟩, by simp⟩
  obtain ⟨data, replaced⟩ : ∃ data, info.data.replaced record = some data :=
    ⟨_, dif_pos (show firmwareHead ≤ record.length by omega)⟩
  refine ⟨{ info with data }, ?_, replaced_kind info data record replaced⟩
  rw [replaceInfo_copy inside same has, copied, Option.bind_some, replaced, Option.map_some]

theorem replaceInfo_none (inside : Inside buf (pos + infoHead + 4)) (same : Matches buf pos info)
    (has : memory = true) (no_room : ¬Room buf pos length) :
    replaceInfo memory buf pos length info = none := by
  rw [replaceInfo_copy inside same has]
  cases copied : buf.copy (pos + infoHead) length with
  | none => rfl
  | some record =>
    have small : info.data.replaced record = none := by
      unfold Buf.copy at copied
      split_ifs at copied with read
      cases copied
      refine dif_neg fun large => no_room ⟨?_, read.2.2⟩
      simp at large
      omega
    rw [Option.bind_some, small, Option.map_none]

theorem replaceInfos_none (inside : Inside buf (pos + infoHead + 4)) (fwHead : List FwInfo)
    (memory : Nat → Bool) (takes : replaces buf pos memory fwHead = true)
    (no_room : ¬Room buf pos length) :
    replaceInfos buf pos length memory fwHead = none := by
  induction fwHead generalizing memory with
  | nil => cases takes
  | cons info rest ih =>
    by_cases first : Matches buf pos info
    · have has : memory 0 = true := by simpa [replaces, first] using takes
      simp [replaceInfos, replaceInfo_none inside first has no_room]
    · have later := ih (fun entry => memory (entry + 1)) (by simpa [replaces, first] using takes)
      simp [replaceInfos, replaceInfo_other inside first, later]

theorem replaceInfos_some (inside : Inside buf (pos + infoHead + 4)) (place : 0 ≤ pos + infoHead)
    (fwHead : List FwInfo) (memory : Nat → Bool)
    (room : replaces buf pos memory fwHead = true → Room buf pos length) :
    ∃ after, replaceInfos buf pos length memory fwHead = some (!starves buf pos memory fwHead, after) ∧
      after.map FwInfo.kind = fwHead.map FwInfo.kind := by
  induction fwHead generalizing memory with
  | nil => exact ⟨[], by simp [replaceInfos, starves]⟩
  | cons info rest ih =>
    by_cases first : Matches buf pos info
    case neg =>
      obtain ⟨after, replaced, kinds⟩ :=
        ih (fun entry => memory (entry + 1)) (by simpa [replaces, first] using room)
      exact ⟨info :: after, by simp [replaceInfos, replaceInfo_other inside first, first, replaced,
        starves], by simp [kinds]⟩
    cases has : memory 0
    case false =>
      have full := (@replaceInfo_full _ _ length _ _ inside first) rfl
      exact ⟨info :: rest, by simp [replaceInfos, full, first, starves, has], rfl⟩
    have enough : Room buf pos length := room (by simp [replaces, first, has])
    obtain ⟨other, replaced, kind⟩ := replaceInfo_room inside place first rfl enough
    obtain ⟨after, rest_, kinds⟩ := ih (fun entry => memory (entry + 1)) fun _ => enough
    exact ⟨other :: after, by simp [replaceInfos, replaced, rest_, starves, has], by simp [kind, kinds]⟩

end Replacing

theorem record_place {pos : Int} (head : Inside buf (pos + 96))
    (duplicate : Inside buf (pos + infoHead + 224)) :
    0 ≤ pos + infoHead ∧ Inside buf (pos + infoHead + 4) := by
  obtain ⟨from_, -⟩ := head
  obtain ⟨-, end_⟩ := duplicate
  have wide : (infoHead : Int) = 256 := rfl
  rw [wide] at end_ ⊢
  exact ⟨by omega, by omega, by omega⟩

theorem replaceWalk_outside {tryCnt : Nat} {pos length : Int}
    (outside : ¬Inside buf (pos + infoHead + 224)) (fwHead : List FwInfo) (filled : fwHead ≠ []) :
    replaceWalk kzalloc buf tryCnt pos length fwHead = none := by
  rw [replaceWalk, if_neg (by simpa using filled), int_none buf _ outside, Option.bind_eq_bind,
    Option.bind_none]

theorem replaceWalk_own {tryCnt : Nat} {pos length : Int}
    (duplicate : Inside buf (pos + infoHead + 224)) (own : buf.intAt (pos + infoHead + 224) = 0)
    (fwHead : List FwInfo) (filled : fwHead ≠ []) :
    replaceWalk kzalloc buf tryCnt pos length fwHead =
      replaceInfos buf pos length (memoryOf kzalloc tryCnt length) fwHead := by
  rw [replaceWalk, if_neg (by simpa using filled), int_eq buf _ duplicate, Option.bind_eq_bind,
    Option.bind_some, if_neg (not_not.mpr own)]

theorem replaceWalk_duplicate {tryCnt : Nat} {pos length : Int}
    (duplicate : Inside buf (pos + infoHead + 224)) (own : buf.intAt (pos + infoHead + 224) ≠ 0)
    (fwHead : List FwInfo) (filled : fwHead ≠ []) :
    replaceWalk kzalloc buf tryCnt pos length fwHead = some (true, fwHead) := by
  rw [replaceWalk, if_neg (by simpa using filled), int_eq buf _ duplicate, Option.bind_eq_bind,
    Option.bind_some, if_pos own]

theorem replacePass_unfit {fwHead : List FwInfo} {tryCnt : Nat} {pos : Int}
    (unfit : ¬ReplaceFits kzalloc buf fwHead tryCnt pos) :
    replacePass kzalloc buf (fwHead, tryCnt, pos) = none := by
  simp only [replacePass, Option.bind_eq_bind]
  by_cases head : Inside buf (pos + 96)
  case neg => simp [int_none buf _ head]
  rw [int_eq buf _ head, Option.bind_some]
  by_cases last : buf.intAt (pos + 96) = 0
  case pos => exact absurd ⟨head, fun more => absurd last more, fun more => absurd last more⟩ unfit
  rw [if_neg last]
  by_cases filled : fwHead ≠ []
  case neg =>
    have none_ : replaces buf pos (memoryOf kzalloc tryCnt (buf.intAt (pos + 96))) fwHead = false :=
      by rw [not_not.mp filled, replaces]
    exact absurd ⟨head, fun _ some_ => absurd some_ filled,
      fun _ _ takes => by simp [none_] at takes⟩ unfit
  by_cases duplicate : Inside buf (pos + infoHead + 224)
  case neg => rw [replaceWalk_outside duplicate _ filled, Option.bind_none]
  by_cases own : buf.intAt (pos + infoHead + 224) = 0
  case neg => exact absurd ⟨head, fun _ _ => duplicate, fun _ none_ => absurd none_ own⟩ unfit
  obtain ⟨place, checksum⟩ := record_place head duplicate
  have no_room : ¬(replaces buf pos (memoryOf kzalloc tryCnt (buf.intAt (pos + 96))) fwHead = true →
      Room buf pos (buf.intAt (pos + 96))) :=
    fun room => unfit ⟨head, fun _ _ => duplicate, fun _ _ => room⟩
  obtain ⟨takes, no_room⟩ := Classical.not_imp.mp no_room
  rw [replaceWalk_own duplicate own _ filled, replaceInfos_none checksum fwHead _ takes no_room,
    Option.bind_none]

theorem replaceWalk_fit {fwHead : List FwInfo} {tryCnt : Nat} {pos : Int}
    (fits : ReplaceFits kzalloc buf fwHead tryCnt pos) (more : buf.intAt (pos + 96) ≠ 0) :
    ∃ after, replaceWalk kzalloc buf tryCnt pos (buf.intAt (pos + 96)) fwHead =
        some (!decide (buf.intAt (pos + infoHead + 224) = 0 ∧
          starves buf pos (memoryOf kzalloc tryCnt (buf.intAt (pos + 96))) fwHead = true), after) ∧
      after.map FwInfo.kind = fwHead.map FwInfo.kind := by
  by_cases filled : fwHead ≠ []
  case neg =>
    rw [not_not.mp filled]
    exact ⟨[], by simp [replaceWalk, starves], rfl⟩
  have duplicate := fits.duplicate more filled
  obtain ⟨place, checksum⟩ := record_place fits.head duplicate
  by_cases own : buf.intAt (pos + infoHead + 224) = 0
  case neg =>
    rw [replaceWalk_duplicate duplicate own _ filled, decide_eq_false fun full => own full.1]
    exact ⟨fwHead, rfl, rfl⟩
  obtain ⟨after, replaced, kinds⟩ := replaceInfos_some checksum place fwHead _ (fits.record more own)
  refine ⟨after, ?_, kinds⟩
  rw [replaceWalk_own duplicate own _ filled, replaced]
  simp [own]

theorem replacePass_fit {fwHead : List FwInfo} {tryCnt : Nat} {pos : Int}
    (fits : ReplaceFits kzalloc buf fwHead tryCnt pos) :
    ∃ pass, replacePass kzalloc buf (fwHead, tryCnt, pos) = some pass ∧
      Follows (fun s pass => s.1.map FwInfo.kind = fwHead.map FwInfo.kind ∧ s.2 = pass)
        (nextDuplicate kzalloc buf fwHead (tryCnt, pos)) pass := by
  simp only [replacePass, nextDuplicate, Option.bind_eq_bind]
  rw [int_eq buf _ fits.head, Option.bind_some]
  by_cases last : buf.intAt (pos + 96) = 0
  case pos =>
    rw [if_pos last, if_pos last]
    exact ⟨_, rfl, trivial⟩
  rw [if_neg last, if_neg last]
  obtain ⟨after, walked, kinds⟩ := replaceWalk_fit fits last
  rw [walked, Option.bind_some]
  by_cases full : buf.intAt (pos + infoHead + 224) = 0 ∧
    starves buf pos (memoryOf kzalloc tryCnt (buf.intAt (pos + 96))) fwHead = true
  · rw [if_pos full, decide_eq_true full]
    exact ⟨_, rfl, trivial⟩
  · rw [if_neg full, decide_eq_false full]
    exact ⟨_, rfl, kinds, rfl⟩

section Kinds

variable {fwHead other : List FwInfo} {tryCnt : Nat} {pos : Int}

theorem matches_congr {info info' : FwInfo} (same : info'.kind = info.kind) :
    Matches buf pos info' ↔ Matches buf pos info := by
  obtain ⟨duplicate, checksum⟩ := Prod.mk.inj same
  rw [Matches, Matches, duplicate, checksum]

theorem replaces_congr (memory : Nat → Bool) (same : other.map FwInfo.kind = fwHead.map FwInfo.kind) :
    replaces buf pos memory other = replaces buf pos memory fwHead ∧
      starves buf pos memory other = starves buf pos memory fwHead := by
  induction fwHead generalizing other memory with
  | nil =>
    rw [List.map_eq_nil_iff.mp same]
    exact ⟨rfl, rfl⟩
  | cons info rest ih =>
    obtain ⟨info', rest', rfl, kind, kinds⟩ := List.map_eq_cons_iff.mp same
    obtain ⟨takes, lacks⟩ := ih (fun entry => memory (entry + 1)) kinds
    simp only [replaces, starves, (@matches_congr _ pos _ _ kind), takes, lacks]
    exact ⟨trivial, trivial⟩

theorem replaceFits_congr (same : other.map FwInfo.kind = fwHead.map FwInfo.kind)
    (fits : ReplaceFits kzalloc buf other tryCnt pos) :
    ReplaceFits kzalloc buf fwHead tryCnt pos where
  head := fits.head
  duplicate more filled := fits.duplicate more fun none_ => filled (by simpa [none_] using same.symm)
  record more own := by
    rw [← (replaces_congr _ same).1]
    exact fits.record more own

theorem nextDuplicate_congr (same : other.map FwInfo.kind = fwHead.map FwInfo.kind) :
    nextDuplicate kzalloc buf other = nextDuplicate kzalloc buf fwHead := by
  funext ⟨tryCnt, pos⟩
  simp only [nextDuplicate, (replaces_congr _ same).2]

end Kinds

theorem fwReplaceDupData_isSome (fwHead : List FwInfo) : (fwReplaceDupData kzalloc buf fwHead).isSome ↔
    ∀ k < tryParseMax + 1,
      ∀ pass ∈ walk (nextDuplicate kzalloc buf fwHead) k (tryParseMax, (infoHead : Int)),
      ReplaceFits kzalloc buf fwHead pass.1 pass.2 := by
  refine passes_isSome (replacePass kzalloc buf) Prod.fst
    (fun s pass => s.1.map FwInfo.kind = fwHead.map FwInfo.kind ∧
      s.2 = pass) (nextDuplicate kzalloc buf fwHead)
    (fun pass => ReplaceFits kzalloc buf fwHead pass.1 pass.2) ?_ ?_ (tryParseMax + 1) (fwHead,
      tryParseMax, (infoHead : Int))
    (tryParseMax, (infoHead : Int)) ⟨rfl, rfl⟩
  · rintro s pass ⟨same, there⟩ fits
    subst there
    have pass := replacePass_fit (replaceFits_congr same.symm fits)
    rw [nextDuplicate_congr same, same] at pass
    exact pass
  · rintro s pass ⟨same, there⟩ unfit
    subst there
    exact replacePass_unfit fun fits => unfit (replaceFits_congr same fits)

theorem fwPackageParse_isSome : (fwPackageParse crc32Le kzalloc srcFrom buf mgr).isSome ↔
    PackageFits crc32Le kzalloc buf srcFrom mgr := by
  cases parsed : parseRecords crc32Le kzalloc srcFrom buf mgr with
  | none =>
    have unfit : ¬PackageFits crc32Le kzalloc buf srcFrom mgr := fun fits => by
      simpa [parsed] using ((@parseRecords_isSome _ _ _ mgr srcFrom)).mpr fits.parsed
    simp [fwPackageParse, parsed, unfit]
  | some result =>
    obtain ⟨through, after⟩ := result
    have records := parseRecords_isSome.mp (Option.isSome_of_eq_some parsed)
    cases through with
    | false =>
      have fits : PackageFits crc32Le kzalloc buf srcFrom mgr :=
        ⟨records, fun other ends => by simp [parsed] at ends⟩
      simp [fwPackageParse, parsed, fits]
    | true =>
      have fits : PackageFits crc32Le kzalloc buf srcFrom mgr ↔
          (fwReplaceDupData kzalloc buf after.fwHead).isSome := by
        rw [fwReplaceDupData_isSome]
        constructor
        · exact fun fits => fits.replaced after parsed
        · intro duplicates
          refine ⟨records, fun other ends => ?_⟩
          obtain rfl : after = other := by simpa [parsed] using ends
          exact duplicates
      rw [fits]
      simp [fwPackageParse, parsed]

theorem copy_whole (small : buf.bytes.length ≤ buffSize) :
    buf.copy 0 buf.bytes.length = some buf.bytes := by
  have inside : buf.bytes.length ≤ buf.limit := le_min (Nat.le_add_right _ _) small
  rw [Buf.copy, if_pos ⟨le_rfl, by omega, by omega⟩, Option.some.injEq]
  apply List.ext_getElem
  · simp
  · intro k before after
    simp [Buf.byte, after]

theorem fwCodeParse_isSome (small : buf.bytes.length ≤ buffSize) :
    (fwCodeParse crc32Le kzalloc srcFrom buf mgr).isSome ↔
    CodeFits kzalloc buf := by
  cases info : kzalloc (.info 0) fwInfoSize
  case false => simp [fwCodeParse, CodeFits, info]
  cases room : kzalloc (.firmware 0) frimwareSize
  case false => simp [fwCodeParse, CodeFits, room]
  by_cases fits : buf.bytes.length ≤ frimwareSize
  case neg => simp [fwCodeParse, CodeFits, info, room, copy_whole small, Fw.copied, fits]
  have sized := (@dataCheckSum_isSome crc32Le) ⟨buf.bytes, frimwareSize, frimware_large⟩
  have copied : Fw.copied buf.bytes = some ⟨buf.bytes, frimwareSize, frimware_large⟩ := if_pos fits
  have parsed : (fwCodeParse crc32Le kzalloc srcFrom buf mgr).isSome ↔
      (Fw.dataCheckSum crc32Le ⟨buf.bytes, frimwareSize, frimware_large⟩).isSome := by
    rw [fwCodeParse, if_neg (by simp [info, room]), copy_whole small, Option.bind_eq_bind,
      Option.bind_some, copied, Option.bind_eq_bind, Option.bind_some]
    cases Fw.dataCheckSum crc32Le ⟨buf.bytes, frimwareSize, frimware_large⟩ with
    | none => rfl
    | some right => cases right <;> rfl
  rw [parsed, sized]
  exact ⟨fun sized _ _ => ⟨fits, sized⟩, fun fits => (fits info room).2⟩

end Bounds

end UnionpiTiger.Firmware.Raw

namespace UnionpiTiger.Firmware.Raw

open Lib

def magic (raw : List UInt8) (k : Nat) : Nat := wordOf (fun j => raw.getD j 0) k

structure LoadFits (raw : List UInt8) : Prop where
  first : raw.length ≤ buffSize → 4 ≤ raw.length
  second : raw.length ≤ buffSize → ¬(magic raw 0 = pack ∨ magic raw 0 = code) → secOffset ≤ raw.length →
    secOffset + 4 ≤ raw.length

def loaded (raw : List UInt8) : Option (List UInt8) :=
  if buffSize < raw.length then none
  else if magic raw 0 = pack ∨ magic raw 0 = code then some raw
  else if raw.length < secOffset then none
  else if magic raw secOffset = pack then some (raw.drop secOffset)
  else none

section Loading

variable {raw : List UInt8}

theorem magicAt_eq (k : Nat) (inside : k + 4 ≤ raw.length) :
    magicAt raw k = some (magic raw k) := if_pos inside

theorem magicAt_none (k : Nat) (outside : ¬k + 4 ≤ raw.length) : magicAt raw k = none := if_neg outside

theorem request_eq (fits : LoadFits raw) : requestFirmwareFromSys raw = some (loaded raw) := by
  unfold requestFirmwareFromSys loaded
  by_cases large : buffSize < raw.length
  case pos => simp [large]
  rw [if_neg large, if_neg large, magicAt_eq 0 (fits.first (Nat.not_lt.mp large)),
    Option.bind_eq_bind, Option.bind_some]
  by_cases bare : magic raw 0 = pack ∨ magic raw 0 = code
  case pos => rw [if_pos bare, if_pos bare]
  rw [if_neg bare, if_neg bare]
  by_cases short : raw.length < secOffset
  case pos => rw [if_pos short, if_pos short]
  rw [if_neg short, if_neg short,
    magicAt_eq secOffset (fits.second (Nat.not_lt.mp large) bare (Nat.not_lt.mp short))]
  rfl

theorem request_none (unfit : ¬LoadFits raw) : requestFirmwareFromSys raw = none := by
  unfold requestFirmwareFromSys
  by_cases large : buffSize < raw.length
  case pos => exact absurd ⟨fun small => by omega, fun small => by omega⟩ unfit
  rw [if_neg large, Option.bind_eq_bind]
  by_cases first : 0 + 4 ≤ raw.length
  case neg => rw [magicAt_none 0 first, Option.bind_none]
  rw [magicAt_eq 0 first, Option.bind_some]
  by_cases bare : magic raw 0 = pack ∨ magic raw 0 = code
  case pos => exact absurd ⟨fun _ => by omega, fun _ other => absurd bare other⟩ unfit
  rw [if_neg bare]
  by_cases short : raw.length < secOffset
  case pos => exact absurd ⟨fun _ => by omega, fun _ _ long => by omega⟩ unfit
  have second : ¬secOffset + 4 ≤ raw.length :=
    fun second => unfit ⟨fun _ => by omega, fun _ _ _ => second⟩
  rw [if_neg short, magicAt_none secOffset second]
  rfl

theorem loaded_length (fits : LoadFits raw) (bytes : List UInt8) (from_ : loaded raw = some bytes) :
    4 ≤ bytes.length ∧ bytes.length ≤ buffSize := by
  unfold loaded at from_
  split_ifs at from_ with large bare short second
  · cases from_
    have small := Nat.not_lt.mp large
    exact ⟨fits.first small, small⟩
  · cases from_
    have wide := fits.second (Nat.not_lt.mp large) bare (Nat.not_lt.mp short)
    rw [List.length_drop]
    omega

end Loading

section Operations

variable (crc32Le : UInt32 → List UInt8 → UInt32)

-- A turn of `fw_data_binding` for a file
structure BindFits (kzalloc : Call → Nat → Bool) (fileType : FileType) (srcFrom raw : List UInt8)
    (behind : Nat) (mgr : FwMgr) : Prop where
  load : LoadFits raw
  version : ∀ bytes ∈ loaded raw, fileType = .videoPackage → magic bytes 0 = pack →
    Inside ⟨bytes, behind⟩ 16
  package : ∀ bytes ∈ loaded raw, fileType = .videoPackage → magic bytes 0 = pack →
    Buf.wordAt ⟨bytes, behind⟩ 16 / 65536 % 256 = 0 →
      PackageFits crc32Le kzalloc ⟨bytes, behind⟩ srcFrom mgr
  code : ∀ bytes ∈ loaded raw, fileType = .videoFwFile → magic bytes 0 = code →
    CodeFits kzalloc ⟨bytes, behind⟩

def OpFits (mgr : FwMgr) : Op → Prop
  | .bind fileType srcFrom raw behind kzalloc =>
      BindFits crc32Le kzalloc fileType srcFrom raw behind mgr
  | .request fileName size => fileName.length + 4 < pathMax →
    ∀ info ∈ mgr.fwHead.find? fun info => info.name = fileName ++ [46, 98, 105, 110],
      info.data.Sized ∧ info.data.dataSize ≤ size
  | .clean => True

variable {crc32Le : UInt32 → List UInt8 → UInt32} {kzalloc : Call → Nat → Bool} {mgr : FwMgr}

theorem fwDataBinding_isSome (fileType : FileType) (srcFrom raw : List UInt8) (behind : Nat) :
    (fwDataBinding crc32Le kzalloc fileType srcFrom raw behind mgr).isSome ↔
      BindFits crc32Le kzalloc fileType srcFrom raw behind mgr := by
  unfold fwDataBinding
  by_cases load : LoadFits raw
  case neg =>
    have unfit : ¬BindFits crc32Le kzalloc fileType srcFrom raw behind mgr := fun fits => load fits.load
    rw [request_none load]
    simp [unfit]
  rw [request_eq load, Option.bind_eq_bind, Option.bind_some]
  cases from_ : loaded raw with
  | none =>
    have fits : BindFits crc32Le kzalloc fileType srcFrom raw behind mgr :=
      ⟨load, by simp [from_], by simp [from_], by simp [from_]⟩
    simp [fits]
  | some bytes =>
    obtain ⟨long, small⟩ := loaded_length load bytes from_
    have head : Inside ⟨bytes, behind⟩ 0 := ⟨le_rfl, by
      have := le_min (show 4 ≤ bytes.length + behind by omega) (show 4 ≤ buffSize by omega)
      exact_mod_cast this⟩
    dsimp only
    rw [word_eq _ 0 head, Option.bind_eq_bind, Option.bind_some]
    have word : Buf.wordAt ⟨bytes, behind⟩ 0 = magic bytes 0 := rfl
    rw [word]
    by_cases package : fileType = .videoPackage ∧ magic bytes 0 = pack
    · have other : fileType ≠ .videoFwFile := by simp [package.1]
      rw [if_pos package]
      by_cases version : Inside ⟨bytes, behind⟩ 16
      case neg =>
        have unfit : ¬BindFits crc32Le kzalloc fileType srcFrom raw behind mgr := fun fits =>
          version (fits.version bytes from_ package.1 package.2)
        simp [fwCheckPackVersion, word_none _ 16 version, unfit]
      rw [fwCheckPackVersion, word_eq _ 16 version, Option.map_some, Option.bind_eq_bind,
        Option.bind_some]
      have fits : BindFits crc32Le kzalloc fileType srcFrom raw behind mgr ↔
          (Buf.wordAt ⟨bytes, behind⟩ 16 / 65536 % 256 = 0 →
            PackageFits crc32Le kzalloc ⟨bytes, behind⟩ srcFrom mgr) := by
        constructor
        · exact fun fits => fits.package bytes from_ package.1 package.2
        · intro records
          exact ⟨load, by simp [from_, version], by simpa [from_,
            package] using records, fun _ _ single => absurd single other⟩
      rw [fits]
      by_cases supported : Buf.wordAt ⟨bytes, behind⟩ 16 / 65536 % 256 = 0
      · rw [if_pos (decide_eq_true supported), fwPackageParse_isSome]
        simp [supported]
      · simp [supported]
    · have not_package : fileType = .videoPackage → magic bytes 0 ≠ pack :=
        fun kind same => package ⟨kind, same⟩
      rw [if_neg package]
      have fits : BindFits crc32Le kzalloc fileType srcFrom raw behind mgr ↔
          (fileType = .videoFwFile → magic bytes 0 = code → CodeFits kzalloc ⟨bytes, behind⟩) := by
        constructor
        · exact fun fits => fits.code bytes from_
        · intro single
          refine ⟨load, ?_, ?_, ?_⟩ <;> simp only [from_, Option.mem_some_iff, forall_eq']
          · exact fun kind same => absurd same (not_package kind)
          · exact fun kind same => absurd same (not_package kind)
          · exact single
      rw [fits]
      by_cases single : fileType = .videoFwFile ∧ magic bytes 0 = code
      · rw [if_pos single, fwCodeParse_isSome small]
        simp [single]
      · rw [if_neg single]
        simp only [Option.isSome_some, true_iff]
        exact fun kind same => absurd ⟨kind, same⟩ single

theorem request_isSome (fileName : List UInt8) (size : Int) :
    (requestDecoderFirmwareOnSys mgr fileName size).isSome ↔
    OpFits crc32Le mgr (.request fileName size) := by
  unfold requestDecoderFirmwareOnSys OpFits
  by_cases long : pathMax ≤ fileName.length + 4
  case pos =>
    rw [if_pos long]
    exact ⟨fun _ short => by omega, fun _ => rfl⟩
  rw [if_neg long]
  have short : fileName.length + 4 < pathMax := Nat.not_le.mp long
  cases found : mgr.fwHead.find? fun info => info.name = fileName ++ [46, 98, 105, 110] with
  | none => simp [found]
  | some info =>
    simp only [found, Option.mem_some_iff, forall_eq', short, forall_const]
    have sized := Fw.data_isSome info.data
    cases data : info.data.data with
    | none =>
      rw [data] at sized
      simp [← sized]
    | some bytes =>
      rw [data] at sized
      rw [Option.bind_eq_bind, Option.bind_some, ← sized]
      split_ifs with fits <;> simp [fits]

theorem step_isSome (op : Op) : (step crc32Le mgr op).isSome ↔ OpFits crc32Le mgr op := by
  cases op with
  | bind fileType srcFrom raw behind kzalloc => exact fwDataBinding_isSome fileType srcFrom raw behind
  | request fileName size => rw [step, Option.isSome_map, request_isSome]
  | clean => simp [step, OpFits]

end Operations

theorem in_bounds_iff (crc32Le : UInt32 → List UInt8 → UInt32) (mgr : FwMgr) (ops : List Op) :
    (tryRun (step crc32Le) mgr ops).isSome ↔
      ∀ before op after, ops = before ++ op :: after → ∀ t ∈ tryRun (step crc32Le) mgr before,
        OpFits crc32Le t op :=
  tryRun_isSome (step crc32Le) (OpFits crc32Le) (fun _ => step_isSome) mgr ops

def overlong : List UInt8 :=
  [75, 67, 65, 80] ++ List.replicate 252 0 ++ [97] ++ List.replicate 95 0 ++ [255, 255, 255, 127]

theorem record_out_of_bounds :
    ¬∀ (crc32Le : UInt32 → List UInt8 → UInt32) (mgr : FwMgr) (ops : List Op),
      (tryRun (step crc32Le) mgr ops).isSome := by
  intro all
  have file := all (fun _ _ => 0) { curCpu := 0 } [.bind .videoPackage [] overlong 0 fun _ _ => true]
  have outside : (tryRun (step fun _ _ => 0) { curCpu := 0 }
      [.bind .videoPackage [] overlong 0 fun _ _ => true]).isSome = false := by
    decide +kernel
  rw [outside] at file
  cases file

end UnionpiTiger.Firmware.Raw
