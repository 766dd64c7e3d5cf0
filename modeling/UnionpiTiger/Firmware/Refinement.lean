import UnionpiTiger.Firmware.Parsing
import UnionpiTiger.Firmware.RecordBounds

set_option autoImplicit false

namespace UnionpiTiger.Firmware.Raw

open Lib

-- What the entries and the records on bytes stand for in the model on records.
def Fw.abstract (fw : Fw) : FirmwareData where
  checksum := UInt32.ofNat fw.checksum
  cpu := cstr ((List.range 16).map fun j => fw.byte (40 + j))
  format := cstr ((List.range 32).map fun j => fw.byte (56 + j))
  dataSize := fw.dataSize.toNat
  duplicate := fw.duplicate
  data := (List.range fw.dataSize.toNat).map fun j => fw.byte (firmwareHead + j)

def FwInfo.abstract (info : FwInfo) : Firmware.FwInfo where
  name := cstr info.name
  srcFrom := cstr info.srcFrom
  fileType := info.fileType
  format := info.format
  data := info.data.abstract

def FwMgr.abstract (mgr : FwMgr) : Firmware.FwMgr where
  curCpu := mgr.curCpu
  fwHead := mgr.fwHead.map FwInfo.abstract

namespace Buf

variable (buf : Buf)

def lengthAt (pos : Nat) : Int := buf.intAt (pos + 96)

def next (pos : Nat) : Nat := pos + (buf.lengthAt pos).toNat + infoHead

def packageInfo (pos : Nat) (length : Int) : PackageInfo where
  name := cstr (((buf.bytes.drop pos).takeWhile fun b => b ≠ 0).take 31)
  format := cstr ((List.range 32).map fun j => buf.byte (pos + 32 + j))
  data := (buf.record pos length).abstract

def entry (srcFrom : List UInt8) (pos : Nat) (length : Int) : FwInfo where
  name := ((buf.bytes.drop pos).takeWhile fun b => b ≠ 0).take 31
  srcFrom := srcFrom
  fileType := .videoPackage
  format := getFwFormat (cstr ((List.range 32).map fun j => buf.byte (pos + 32 + j)))
  data := buf.record pos length

def records : (passes pos : Nat) → List PackageInfo
  | 0, _ => []
  | passes + 1, pos => if buf.lengthAt pos = 0 then []
      else buf.packageInfo pos (buf.lengthAt pos) :: records passes (buf.next pos)

-- The names end inside of their field, and a record has the whole header of its firmware.
def WellFormed : (passes pos : Nat) → Prop
  | 0, _ => True
  | passes + 1, pos => buf.lengthAt pos ≠ 0 →
      buf.nameLength pos < 32 ∧ firmwareHead ≤ (buf.lengthAt pos).toNat ∧
        WellFormed passes (buf.next pos)

end Buf

section Entries

variable {crc32Le : UInt32 → List UInt8 → UInt32}

theorem wordOf_lt (byte : Nat → UInt8) (k : Nat) : wordOf byte k < 2 ^ 32 := by
  have first := (byte k).toNat_lt
  have second := (byte (k + 1)).toNat_lt
  have third := (byte (k + 2)).toNat_lt
  have fourth := (byte (k + 3)).toNat_lt
  unfold wordOf
  omega

theorem word_inj {a b : Nat} (first : a < 2 ^ 32) (second : b < 2 ^ 32) :
    UInt32.ofNat a = UInt32.ofNat b ↔ a = b := by
  rw [← UInt32.toNat_inj, UInt32.toNat_ofNat_of_lt' first, UInt32.toNat_ofNat_of_lt' second]

theorem map_range_getD (f : Nat → UInt8) (n : Nat) :
    ((List.range n).map fun k => ((List.range n).map f).getD k 0) = (List.range n).map f := by
  refine List.map_congr_left fun k below => ?_
  simp [List.getD_eq_getElem?_getD, List.mem_range.mp below]

theorem abstract_data (fw : Fw) :
    fw.abstract.data = (List.range fw.dataSize.toNat).map fun j => fw.byte (firmwareHead + j) := by
  rw [Fw.abstract]

theorem abstract_dataSize (fw : Fw) : fw.abstract.dataSize = fw.dataSize.toNat := by
  rw [Fw.abstract]

theorem payload_abstract (fw : Fw) : fw.abstract.payload = fw.abstract.data := by
  rw [FirmwareData.payload, abstract_dataSize, abstract_data]
  exact map_range_getD _ _

theorem dataCheckSum_abstract {fw : Fw} {right : Bool}
    (checked : fw.dataCheckSum crc32Le = some right) :
    right = fwDataCheckSum crc32Le fw.abstract := by
  obtain ⟨data, copied, same⟩ := Option.map_eq_some_iff.mp checked
  rw [Fw.data, Option.ite_none_right_eq_some] at copied
  obtain ⟨-, copied⟩ := copied
  have whole : fw.abstract.data = data := by
    rw [abstract_data]
    exact Option.some.inj copied
  rw [fwDataCheckSum, payload_abstract, whole, ← same]
  rfl

theorem right_abstract {fw : Fw} {right : Bool} (checked : fw.right crc32Le = some right) :
    right = (fw.abstract.duplicate || fwDataCheckSum crc32Le fw.abstract) := by
  unfold Fw.right at checked
  cases duplicate : fw.duplicate with
  | true =>
    rw [if_pos duplicate] at checked
    cases checked
    simp [Fw.abstract, duplicate]
  | false =>
    rw [if_neg (by simp [duplicate])] at checked
    rw [dataCheckSum_abstract checked]
    simp [Fw.abstract, duplicate]

theorem filterWalk_abstract (cpu format : Nat) (fwHead : List FwInfo) :
    Firmware.filterWalk cpu format (fwHead.map FwInfo.abstract) =
      ((filterWalk cpu format fwHead).1, (filterWalk cpu format fwHead).2.map FwInfo.abstract) := by
  induction fwHead with
  | nil => rfl
  | cons info rest ih =>
    have cpu_ : fwGetCpu info.abstract.data.cpu = info.data.cpu := rfl
    have type : info.abstract.fileType = info.fileType := rfl
    have format_ : info.abstract.format = info.format := rfl
    rw [List.map_cons, Firmware.filterWalk, filterWalk, cpu_, type, format_, ih]
    split_ifs <;> rfl

theorem fwDataFilter_abstract (mgr : FwMgr) (fw : Fw) (format : Nat) :
    Firmware.fwDataFilter mgr.abstract fw.abstract format =
      ((fwDataFilter mgr fw format).1, (fwDataFilter mgr fw format).2.map FwInfo.abstract) := by
  have cpu : fwGetCpu fw.abstract.cpu = fw.cpu := rfl
  rw [Firmware.fwDataFilter, fwDataFilter, cpu]
  change (if mgr.curCpu < fw.cpu then _ else _) = _
  split_ifs
  · rfl
  · rfl
  · exact filterWalk_abstract fw.cpu format mgr.fwHead

end Entries

section Parsing

variable {crc32Le : UInt32 → List UInt8 → UInt32} {kzalloc : Call → Nat → Bool}
  {srcFrom : List UInt8} {buf : Buf} {mgr : FwMgr}
  {tryCnt pos : Nat}

theorem record_length (length : Int) : (buf.record pos length).bytes.length = length.toNat := by
  simp [Buf.record]

def filed (mgr : FwMgr) (info : FwInfo) : FwMgr :=
  let (dropped, fwHead) := fwDataFilter mgr info.data info.format
  { mgr with fwHead := if dropped then fwHead else info :: fwHead }

theorem entry_abstract (length : Int) :
    (buf.entry srcFrom pos length).abstract =
      packageEntry (cstr srcFrom) (buf.packageInfo pos length) := by
  rw [FwInfo.abstract, Buf.entry, packageEntry, Buf.packageInfo]

theorem filed_abstract (length : Int) :
    (filed mgr (buf.entry srcFrom pos length)).abstract =
      Firmware.parseRecord (cstr srcFrom) mgr.abstract (buf.packageInfo pos length) := by
  have data : (buf.packageInfo pos length).data = (buf.entry srcFrom pos length).data.abstract := by
    rw [Buf.packageInfo, Buf.entry]
  have format : getFwFormat (buf.packageInfo pos length).format =
      (buf.entry srcFrom pos length).format := by
    rw [Buf.packageInfo, Buf.entry]
  rw [Firmware.parseRecord, data, format, fwDataFilter_abstract, ← entry_abstract, filed,
    FwMgr.abstract, FwMgr.abstract]
  dsimp only
  split_ifs
  · rfl
  · rw [List.map_cons]

theorem parseRecord_value (length : Int) (taken : Taken buf pos length) :
    parseRecord crc32Le srcFrom buf mgr tryCnt pos length
      ((buf.bytes.drop pos).takeWhile fun b => b ≠ 0) =
      ((buf.record pos length).right crc32Le).map fun right =>
        if right then .again (filed mgr (buf.entry srcFrom pos length), tryCnt - 1,
          pos + length.toNat + infoHead)
        else .stop (false, mgr) := by
  rw [parseRecord, copy_eq pos length taken, Option.bind_eq_bind, Option.bind_some,
    copied_eq pos length taken, Option.bind_eq_bind, Option.bind_some, record_length, filed,
    Buf.entry]
  cases (buf.record pos length).right crc32Le with
  | none => rw [Option.bind_eq_bind, Option.bind_none, Option.map_none]
  | some right =>
    rw [Option.bind_eq_bind, Option.bind_some, Option.map_some]
    cases right with
    | false => rw [if_neg (by decide), if_neg (by decide)]
    | true => rw [if_pos (by decide), if_pos (by decide)]

theorem parseRecord_refines {length : Int} (taken : Taken buf pos length)
    {pass : Pass (FwMgr × Nat × Nat) (Bool × FwMgr)}
    (run : parseRecord crc32Le srcFrom buf mgr tryCnt pos length
      ((buf.bytes.drop pos).takeWhile fun b => b ≠ 0) = some pass) :
    ((buf.packageInfo pos length).good crc32Le = false → pass = .stop (false, mgr)) ∧
      ((buf.packageInfo pos length).good crc32Le = true → ∃ after,
        pass = .again (after, tryCnt - 1, pos + length.toNat + infoHead) ∧
        after.abstract = Firmware.parseRecord (cstr srcFrom) mgr.abstract
          (buf.packageInfo pos length)) := by
  rw [parseRecord_value length taken] at run
  obtain ⟨right, checked, result⟩ := Option.map_eq_some_iff.mp run
  have good : (buf.packageInfo pos length).good crc32Le = right := by
    rw [right_abstract checked, PackageInfo.good, Buf.packageInfo]
  rw [good]
  cases right with
  | false => exact ⟨fun _ => result.symm, fun good => by cases good⟩
  | true => exact ⟨fun bad => absurd bad (by decide), fun _ => ⟨_, result.symm, filed_abstract length⟩⟩

theorem parsePass_refines (memory : ∀ call size, kzalloc call size = true)
    (short : buf.lengthAt pos ≠ 0 → buf.nameLength pos < 32)
    {pass : Pass (FwMgr × Nat × Nat) (Bool × FwMgr)}
    (run : parsePass crc32Le kzalloc srcFrom buf (mgr, tryCnt, pos) = some pass) :
    (buf.lengthAt pos = 0 → pass = .stop (true, mgr)) ∧
      (buf.lengthAt pos ≠ 0 → (buf.packageInfo pos (buf.lengthAt pos)).good crc32Le = false →
        pass = .stop (false, mgr)) ∧
      (buf.lengthAt pos ≠ 0 → (buf.packageInfo pos (buf.lengthAt pos)).good crc32Le = true → ∃ after,
        pass = .again (after, tryCnt - 1, buf.next pos) ∧
        after.abstract = Firmware.parseRecord (cstr srcFrom) mgr.abstract
          (buf.packageInfo pos (buf.lengthAt pos))) := by
  have fits : ParseFits kzalloc buf tryCnt pos := by
    by_contra unfit
    rw [parsePass_unfit unfit] at run
    cases run
  have record := fits.record
  have name := fits.name
  have length : buf.intAt (pos + 96) = buf.lengthAt pos := by rw [Buf.lengthAt]
  simp only [parsePass, Option.bind_eq_bind] at run
  rw [int_eq buf _ fits.head, Option.bind_some] at run
  rw [length] at run record name
  by_cases last : buf.lengthAt pos = 0
  · rw [if_pos last] at run
    exact ⟨fun _ => (Option.some.inj run).symm, fun more => absurd last more,
      fun more => absurd last more⟩
  have few := short last
  have named : 6 + buf.nameLength pos < pathMax := by
    unfold pathMax
    omega
  rw [if_neg last, string_eq buf pos (name last), Option.bind_some, ← Buf.nameLength,
    if_neg (Nat.not_le.mpr named), if_neg (by simp [memory])] at run
  obtain ⟨stops, goes⟩ := parseRecord_refines (record last named (memory _ _) (memory _ _)).1 run
  exact ⟨fun zero => absurd zero last, fun _ => stops, fun _ => goes⟩

theorem parseRecords_refines (memory : ∀ call size, kzalloc call size = true) {passes_ : Nat}
    (formed : buf.WellFormed passes_ pos) {through : Bool} {after : FwMgr}
    (run : passes (parsePass crc32Le kzalloc srcFrom buf) (fun s => (true, s.1)) passes_ (mgr,
      tryCnt, pos) = some (through, after)) :
    Firmware.parseRecords crc32Le (cstr srcFrom) (buf.records passes_ pos) mgr.abstract =
      (through, after.abstract) := by
  induction passes_ generalizing mgr tryCnt pos with
  | zero =>
    cases run
    rfl
  | succ passes_ ih =>
    rw [passes] at run
    obtain ⟨pass, first, run⟩ := Option.bind_eq_some_iff.mp run
    obtain ⟨ends, stops, goes⟩ := parsePass_refines memory (fun more => (formed more).1) first
    rw [Buf.records]
    by_cases last : buf.lengthAt pos = 0
    · rw [ends last] at run
      cases run
      rw [if_pos last, Firmware.parseRecords]
    · have cond : (!(buf.packageInfo pos (buf.lengthAt pos)).data.duplicate &&
          !fwDataCheckSum crc32Le (buf.packageInfo pos (buf.lengthAt pos)).data) =
            !(buf.packageInfo pos (buf.lengthAt pos)).good crc32Le := (Bool.not_or _ _).symm
      rw [if_neg last, Firmware.parseRecords, cond]
      cases good : (buf.packageInfo pos (buf.lengthAt pos)).good crc32Le with
      | false =>
        rw [stops last good] at run
        cases run
        rw [if_pos (by decide)]
      | true =>
        obtain ⟨next, again, abstract⟩ := goes last good
        rw [again] at run
        rw [if_neg (by decide), ← abstract]
        exact ih (formed last).2.2 run

end Parsing

section Replacing

variable {kzalloc : Call → Nat → Bool} {buf : Buf} {tryCnt pos : Nat} {length : Int}

theorem word_value {k : Int} {word : Nat} (read : buf.word k = some word) : word = buf.wordAt k := by
  unfold Buf.word at read
  split_ifs at read
  exact (Option.some.inj read).symm

theorem int_value {k value : Int} (read : buf.int k = some value) : value = buf.intAt k := by
  by_cases inside : Inside buf k
  · rw [int_eq buf k inside] at read
    exact (Option.some.inj read).symm
  · rw [int_none buf k inside] at read
    cases read

theorem record_byte (long : firmwareHead ≤ length.toNat) {k : Nat} (inside : k < firmwareHead) :
    (buf.record pos length).byte k = buf.byte (pos + infoHead + k) := by
  have below : k < length.toNat := by omega
  simp [Fw.byte, Buf.record, below]

theorem record_word (long : firmwareHead ≤ length.toNat) {k : Nat} (inside : k + 4 ≤ firmwareHead) :
    wordOf (buf.record pos length).byte k = buf.wordAt (pos + infoHead + k) := by
  have place : ((pos : Int) + infoHead + k).toNat = pos + infoHead + k := by omega
  rw [Buf.wordAt, place, wordOf, wordOf, record_byte long (by omega), record_byte long (by omega),
    record_byte long (by omega), record_byte long (by omega)]
  simp only [Nat.add_assoc]

theorem replaced_abstract (fw comp data : Fw) (replaced : fw.replaced comp.bytes = some data) :
    data.abstract = { fw.abstract with dataSize := comp.abstract.dataSize, data := comp.abstract.data } := by
  have kept := replaced_byte fw data comp.bytes replaced
  have other (k : Nat) (new : firmwareHead ≤ k ∨ 200 ≤ k ∧ k < 204) : data.byte k = comp.byte k := by
    unfold Fw.replaced at replaced
    split_ifs at replaced with large
    cases replaced
    by_cases inside : k < comp.bytes.length
    · have changed : ¬(k < firmwareHead ∧ ¬(200 ≤ k ∧ k < 204)) := by omega
      simp only [Fw.byte, List.getD_eq_getElem?_getD, List.getElem?_map, List.getElem?_range inside,
        Option.map_some, Option.getD_some, if_neg changed]
    · simp [Fw.byte, inside]
  have head (k : Nat) (below : k < 200) : data.byte k = fw.byte k := by
    have small : k < firmwareHead := Nat.lt_trans below (by decide)
    exact kept k small (by omega)
  have checksum : data.checksum = fw.checksum := wordOf_congr 4 fun j from_ less => head j (by omega)
  have duplicate : data.duplicate = fw.duplicate := by
    have word : wordOf data.byte 224 = wordOf fw.byte 224 :=
      wordOf_congr 224 fun j from_ less => kept j (by simp only [firmwareHead]; omega) (by omega)
    rw [Fw.duplicate, Fw.duplicate, intOf, intOf, word]
  have size : data.dataSize = comp.dataSize := by
    have word : wordOf data.byte 200 = wordOf comp.byte 200 :=
      wordOf_congr 200 fun j from_ less => other j (.inr (by omega))
    rw [Fw.dataSize, Fw.dataSize, intOf, intOf, word]
  have cpu : ((List.range 16).map fun j => data.byte (40 + j)) = (List.range 16).map fun j =>
      fw.byte (40 + j) :=
    List.map_congr_left fun j below => head _ (by have less := List.mem_range.mp below; omega)
  have format : ((List.range 32).map fun j => data.byte (56 + j)) = (List.range 32).map fun j =>
      fw.byte (56 + j) :=
    List.map_congr_left fun j below => head _ (by have less := List.mem_range.mp below; omega)
  have payload : ((List.range comp.dataSize.toNat).map fun j => data.byte (firmwareHead + j)) =
      (List.range comp.dataSize.toNat).map fun j => comp.byte (firmwareHead + j) :=
    List.map_congr_left fun j _ => other _ (.inl (Nat.le_add_right _ _))
  rw [Fw.abstract, checksum, cpu, format, size, duplicate, payload, Fw.abstract, Fw.abstract]

theorem replaceInfo_refines (long : firmwareHead ≤ length.toNat) {info : FwInfo}
    {result : Option FwInfo} (run : replaceInfo true buf pos length info = some result) :
    ∃ other, result = some other ∧ other.abstract =
      replaceWith (buf.record pos length).abstract info.abstract := by
  have checksum : (buf.record pos length).checksum = buf.wordAt (pos + infoHead + 4) :=
    record_word long (by decide)
  have words := word_inj (wordOf_lt (buf.record pos length).byte 4) (wordOf_lt info.data.byte 4)
  unfold replaceInfo at run
  cases duplicate : info.data.duplicate with
  | false =>
    rw [if_neg (by simp [duplicate])] at run
    have own : info.abstract.data.duplicate = false := by rw [FwInfo.abstract, Fw.abstract, duplicate]
    refine ⟨info, (Option.some.inj run).symm, ?_⟩
    rw [replaceWith, if_neg (by simp [own])]
  | true =>
    rw [if_pos duplicate, Option.bind_eq_bind] at run
    obtain ⟨word, read, run⟩ := Option.bind_eq_some_iff.mp run
    have set_ : info.abstract.data.duplicate = true := by rw [FwInfo.abstract, Fw.abstract, duplicate]
    have sum : info.abstract.data.checksum = UInt32.ofNat info.data.checksum := by
      rw [FwInfo.abstract, Fw.abstract]
    have compared : (buf.record pos length).abstract.checksum =
        UInt32.ofNat (buf.record pos length).checksum := by
      rw [Fw.abstract]
    have there : word = (buf.record pos length).checksum := by rw [checksum, word_value read]
    by_cases same : word = info.data.checksum
    · rw [if_neg (not_not.mpr same), if_neg (by decide), Option.bind_eq_bind] at run
      obtain ⟨record, copied, run⟩ := Option.bind_eq_some_iff.mp run
      obtain ⟨data, replaced, run⟩ := Option.bind_eq_some_iff.mp run
      have bytes : record = (buf.record pos length).bytes := by
        unfold Buf.copy at copied
        split_ifs at copied
        rw [← Option.some.inj copied, Buf.record]
        rfl
      rw [bytes] at replaced
      have equal : (buf.record pos length).checksum = info.data.checksum := there.symm.trans same
      refine ⟨_, (Option.some.inj run).symm, ?_⟩
      rw [replaceWith, if_pos ⟨set_, by rw [compared, sum, equal]⟩, FwInfo.abstract,
        replaced_abstract _ _ _ replaced, FwInfo.abstract]
    · rw [if_pos same] at run
      refine ⟨info, (Option.some.inj run).symm, ?_⟩
      have differ : ¬(info.abstract.data.duplicate = true ∧
          (buf.record pos length).abstract.checksum = info.abstract.data.checksum) := by
        rintro ⟨-, equal⟩
        rw [compared, sum] at equal
        exact same (there.trans (words.mp equal))
      rw [replaceWith, if_neg differ]

theorem replaceInfos_refines (long : firmwareHead ≤ length.toNat) {memory : Nat → Bool}
    (has : ∀ entry, memory entry = true) {fwHead after : List FwInfo} {more : Bool}
    (run : replaceInfos buf pos length memory fwHead = some (more, after)) :
    more = true ∧
      after.map FwInfo.abstract =
        (fwHead.map FwInfo.abstract).map (replaceWith (buf.record pos length).abstract) := by
  induction fwHead generalizing memory after more with
  | nil =>
    cases run
    exact ⟨rfl, rfl⟩
  | cons info rest ih =>
    rw [replaceInfos, has 0, Option.bind_eq_bind] at run
    obtain ⟨result, first, run⟩ := Option.bind_eq_some_iff.mp run
    obtain ⟨other, rfl, abstract⟩ := replaceInfo_refines long first
    obtain ⟨⟨more, tail⟩, later, both⟩ := Option.map_eq_some_iff.mp run
    cases both
    obtain ⟨goes, rest_⟩ := ih (fun entry => has (entry + 1)) later
    refine ⟨goes, ?_⟩
    rw [List.map_cons, List.map_cons, List.map_cons, abstract, rest_]

-- What one record makes of the list in the model on records.
def replacedBy (record : PackageInfo) (fwHead : List Firmware.FwInfo) : List Firmware.FwInfo :=
  if record.data.duplicate then fwHead else fwHead.map (replaceWith record.data)

theorem replaceWalk_refines (memory : ∀ call size, kzalloc call size = true)
    (long : firmwareHead ≤ length.toNat) {fwHead after : List FwInfo} {more : Bool}
    (run : replaceWalk kzalloc buf tryCnt (pos : Int) length fwHead = some (more, after)) :
    more = true ∧ after.map FwInfo.abstract =
      replacedBy (buf.packageInfo pos length) (fwHead.map FwInfo.abstract) := by
  have data : (buf.packageInfo pos length).data = (buf.record pos length).abstract := by
    rw [Buf.packageInfo]
  unfold replaceWalk at run
  by_cases empty : fwHead.isEmpty = true
  · rw [if_pos empty] at run
    cases run
    rw [List.isEmpty_iff.mp empty]
    exact ⟨rfl, (ite_self _).symm⟩
  rw [if_neg empty, Option.bind_eq_bind] at run
  obtain ⟨duplicate, read, run⟩ := Option.bind_eq_some_iff.mp run
  have same : duplicate = intOf (buf.record pos length).byte 224 := by
    rw [int_value read, intOf, record_word long (by decide), Buf.intAt]
    rfl
  have flag : (buf.packageInfo pos length).data.duplicate = decide (duplicate ≠ 0) := by
    rw [data, Fw.abstract, Fw.duplicate, same]
  rw [replacedBy, flag]
  by_cases set_ : duplicate ≠ 0
  · rw [if_pos set_] at run
    cases run
    rw [if_pos (decide_eq_true set_)]
    exact ⟨rfl, rfl⟩
  · rw [if_neg set_] at run
    rw [if_neg (by rw [decide_eq_true_iff]; exact set_), data]
    exact replaceInfos_refines long (fun entry => memory _ _) run

theorem replacePass_refines (memory : ∀ call size, kzalloc call size = true)
    (long : buf.lengthAt pos ≠ 0 → firmwareHead ≤ (buf.lengthAt pos).toNat) {fwHead : List FwInfo}
    {pass : Pass (List FwInfo × Nat × Int) (List FwInfo)}
    (run : replacePass kzalloc buf (fwHead, tryCnt, (pos : Int)) = some pass) :
    (buf.lengthAt pos = 0 → pass = .stop fwHead) ∧
      (buf.lengthAt pos ≠ 0 → ∃ after, pass = .again (after, tryCnt - 1, (buf.next pos : Int)) ∧
        after.map FwInfo.abstract =
          replacedBy (buf.packageInfo pos (buf.lengthAt pos)) (fwHead.map FwInfo.abstract)) := by
  simp only [replacePass, Option.bind_eq_bind] at run
  obtain ⟨size, read, run⟩ := Option.bind_eq_some_iff.mp run
  have head : size = buf.lengthAt pos := by rw [Buf.lengthAt, int_value read]
  rw [head] at run
  by_cases last : buf.lengthAt pos = 0
  · rw [if_pos last] at run
    exact ⟨fun _ => (Option.some.inj run).symm, fun more => absurd last more⟩
  rw [if_neg last] at run
  obtain ⟨⟨more, after⟩, walked, run⟩ := Option.bind_eq_some_iff.mp run
  obtain ⟨goes, abstract⟩ := replaceWalk_refines memory (long last) walked
  have next : (pos : Int) + (buf.lengthAt pos + infoHead) = (buf.next pos : Nat) := by
    have positive : 0 < firmwareHead := by decide
    have least := long last
    rw [Buf.next]
    omega
  rw [goes, if_pos rfl, next] at run
  exact ⟨fun zero => absurd zero last, fun _ => ⟨after, (Option.some.inj run).symm, abstract⟩⟩

theorem fwReplaceDupData_refines (memory : ∀ call size, kzalloc call size = true) {passes_ : Nat}
    (formed : buf.WellFormed passes_ pos) {fwHead after : List FwInfo}
    (run : passes (replacePass kzalloc buf) Prod.fst passes_ (fwHead, tryCnt,
      (pos : Int)) = some after) :
    after.map FwInfo.abstract =
      Firmware.fwReplaceDupData (fwHead.map FwInfo.abstract) (buf.records passes_ pos) := by
  induction passes_ generalizing fwHead tryCnt pos with
  | zero =>
    cases run
    rfl
  | succ passes_ ih =>
    rw [passes] at run
    obtain ⟨pass, first, run⟩ := Option.bind_eq_some_iff.mp run
    obtain ⟨stops, goes⟩ := replacePass_refines memory (fun more => (formed more).2.1) first
    rw [Buf.records]
    by_cases last : buf.lengthAt pos = 0
    · rw [stops last] at run
      cases run
      rw [if_pos last]
      rfl
    · obtain ⟨next, again, abstract⟩ := goes last
      rw [replacedBy] at abstract
      rw [again] at run
      rw [if_neg last, Firmware.fwReplaceDupData, List.foldl_cons, ← abstract]
      exact ih (formed last).2.2 run

end Replacing

section Files

variable {crc32Le : UInt32 → List UInt8 → UInt32} {kzalloc : Call → Nat → Bool}
  {srcFrom : List UInt8} {buf : Buf} {mgr after : FwMgr}

theorem records_length (passes_ pos : Nat) : (buf.records passes_ pos).length ≤ passes_ := by
  induction passes_ generalizing pos with
  | zero => exact Nat.le_refl 0
  | succ passes_ ih =>
    rw [Buf.records]
    split_ifs
    · exact Nat.zero_le _
    · exact Nat.succ_le_succ (ih _)

theorem fwPackageParse_refines (memory : ∀ call size, kzalloc call size = true)
    (formed : buf.WellFormed (tryParseMax + 1) infoHead)
    (run : fwPackageParse crc32Le kzalloc srcFrom buf mgr = some after) :
    Firmware.fwPackageParse crc32Le mgr.abstract (cstr srcFrom)
      (buf.records (tryParseMax + 1) infoHead) = after.abstract := by
  have whole := List.take_of_length_le ((@records_length buf) (tryParseMax + 1) infoHead)
  rw [fwPackageParse, Option.bind_eq_bind] at run
  obtain ⟨⟨through, parsed⟩, first, run⟩ := Option.bind_eq_some_iff.mp run
  have records := parseRecords_refines memory formed first
  rw [Firmware.fwPackageParse, whole, records]
  cases through with
  | false =>
    cases run
    rfl
  | true =>
    obtain ⟨fwHead, replaced, rfl⟩ := Option.map_eq_some_iff.mp run
    have duplicates := fwReplaceDupData_refines memory formed replaced
    dsimp only
    rw [if_pos rfl, FwMgr.abstract, FwMgr.abstract, duplicates]

theorem fwCodeParse_refines (memory : ∀ call size, kzalloc call size = true)
    (run : fwCodeParse crc32Le kzalloc srcFrom buf mgr = some after)
    (small : buf.bytes.length ≤ buffSize) :
    Firmware.fwCodeParse crc32Le mgr.abstract (cstr srcFrom)
      (Fw.abstract ⟨buf.bytes, frimwareSize, frimware_large⟩) =
      after.abstract := by
  rw [fwCodeParse, if_neg (by simp [memory]), copy_whole small, Option.bind_eq_bind,
    Option.bind_some, Option.bind_eq_bind] at run
  obtain ⟨data, copied, run⟩ := Option.bind_eq_some_iff.mp run
  obtain ⟨right, checked, run⟩ := Option.bind_eq_some_iff.mp run
  have file : data = ⟨buf.bytes, frimwareSize, frimware_large⟩ := by
    unfold Fw.copied at copied
    split_ifs at copied
    exact (Option.some.inj copied).symm
  rw [file] at checked run
  rw [Firmware.fwCodeParse, ← dataCheckSum_abstract checked]
  cases right with
  | false =>
    cases run
    rfl
  | true =>
    cases run
    rw [if_pos rfl, FwMgr.abstract, FwMgr.abstract, List.map_cons, FwInfo.abstract]
    rfl

def fileIn (fileType : FileType) (srcFrom bytes : List UInt8) (behind : Nat) : Option FwFile :=
  if fileType = .videoPackage ∧ magic bytes 0 = pack then
    if Buf.wordAt ⟨bytes, behind⟩ 16 / 65536 % 256 = 0
    then some (.package (cstr srcFrom) (Buf.records ⟨bytes, behind⟩ (tryParseMax + 1) infoHead))
    else none
  else if fileType = .videoFwFile ∧ magic bytes 0 = code then
    some (.code (cstr srcFrom) (Fw.abstract ⟨bytes, frimwareSize, frimware_large⟩))
  else none

def fileOf (fileType : FileType) (srcFrom raw : List UInt8) (behind : Nat) : Option FwFile :=
  (loaded raw).bind fun bytes => fileIn fileType srcFrom bytes behind

def parsed (crc32Le : UInt32 → List UInt8 → UInt32) (mgr : Firmware.FwMgr) :
    Option FwFile → Firmware.FwMgr
  | none => mgr
  | some file => mgr.parse crc32Le file

structure FileFormed (raw : List UInt8) (behind : Nat) (kzalloc : Call → Nat → Bool) : Prop where
  memory : ∀ call size, kzalloc call size = true
  records : ∀ bytes ∈ loaded raw, Buf.WellFormed ⟨bytes, behind⟩ (tryParseMax + 1) infoHead

theorem fwCheckPackVersion_value {supported : Bool}
    (checked : fwCheckPackVersion buf = some supported) :
    supported = decide (buf.wordAt 16 / 65536 % 256 = 0) := by
  obtain ⟨version, found, same⟩ := Option.map_eq_some_iff.mp checked
  rw [← same, word_value found]

theorem fwDataBinding_refines (fileType : FileType) (raw : List UInt8) (behind : Nat)
    (formed : FileFormed raw behind kzalloc)
    (run : fwDataBinding crc32Le kzalloc fileType srcFrom raw behind mgr = some after) :
    parsed crc32Le mgr.abstract (fileOf fileType srcFrom raw behind) = after.abstract := by
  have load : LoadFits raw := by
    by_contra unfit
    rw [fwDataBinding, request_none unfit] at run
    cases run
  rw [fwDataBinding, request_eq load, Option.bind_eq_bind, Option.bind_some] at run
  cases from_ : loaded raw with
  | none =>
    rw [from_] at run
    rw [fileOf, from_, Option.bind_none, parsed, Option.some.inj run]
  | some bytes =>
    have small := (loaded_length load bytes from_).2
    have records := formed.records bytes from_
    rw [from_] at run
    dsimp only at run
    rw [Option.bind_eq_bind] at run
    obtain ⟨word, read, run⟩ := Option.bind_eq_some_iff.mp run
    have first : word = magic bytes 0 := word_value read
    rw [first] at run
    rw [fileOf, from_, Option.bind_some, fileIn]
    by_cases package : fileType = .videoPackage ∧ magic bytes 0 = pack
    · rw [if_pos package, Option.bind_eq_bind] at run
      obtain ⟨version, checked, run⟩ := Option.bind_eq_some_iff.mp run
      rw [if_pos package]
      rw [fwCheckPackVersion_value checked] at run
      by_cases supported : Buf.wordAt ⟨bytes, behind⟩ 16 / 65536 % 256 = 0
      · rw [if_pos (decide_eq_true supported)] at run
        rw [if_pos supported, parsed, Firmware.FwMgr.parse]
        exact fwPackageParse_refines formed.memory records run
      · rw [if_neg (by rw [decide_eq_true_iff]; exact supported)] at run
        rw [if_neg supported, parsed, Option.some.inj run]
    · rw [if_neg package] at run
      rw [if_neg package]
      by_cases single : fileType = .videoFwFile ∧ magic bytes 0 = code
      · rw [if_pos single] at run
        rw [if_pos single, parsed, Firmware.FwMgr.parse]
        have refines := fwCodeParse_refines formed.memory run small
        exact refines
      · rw [if_neg single] at run
        rw [if_neg single, parsed, Option.some.inj run]

end Files

namespace Op

def file : Op → Option FwFile
  | .bind fileType srcFrom raw behind _ => fileOf fileType srcFrom raw behind
  | .request _ _ => none
  | .clean => none

def Formed : Op → Prop
  | .bind _ _ raw behind kzalloc => FileFormed raw behind kzalloc
  | .request _ _ => True
  | .clean => False

end Op

-- The parser on bytes refines the one on records, over every run of well formed files and requests.
theorem run_refines (crc32Le : UInt32 → List UInt8 → UInt32) (mgr after : FwMgr) (ops : List Op)
    (formed : ∀ op ∈ ops, op.Formed) (run : tryRun (step crc32Le) mgr ops = some after) :
    (ops.filterMap Op.file).foldl (Firmware.FwMgr.parse crc32Le) mgr.abstract = after.abstract := by
  induction ops generalizing mgr with
  | nil =>
    cases run
    rfl
  | cons op rest ih =>
    rw [tryRun] at run
    obtain ⟨next, first, run⟩ := Option.bind_eq_some_iff.mp run
    have later := ih next (fun other there => formed other (List.mem_cons_of_mem op there)) run
    have here := formed op List.mem_cons_self
    have step_ : parsed crc32Le mgr.abstract op.file = next.abstract := by
      cases op with
      | bind fileType srcFrom raw behind kzalloc =>
        rw [step] at first
        rw [Op.file]
        exact fwDataBinding_refines fileType raw behind here first
      | request fileName size =>
        rw [step] at first
        obtain ⟨_, -, same⟩ := Option.map_eq_some_iff.mp first
        rw [Op.file, parsed, same]
      | clean => exact here.elim
    rw [← later, ← step_]
    cases file : op.file with
    | none => rw [List.filterMap_cons_none file, parsed]
    | some file_ => rw [List.filterMap_cons_some file, List.foldl_cons, parsed]

end UnionpiTiger.Firmware.Raw
