import Mathlib.Data.List.Pairwise
import Mathlib.Data.List.TakeWhile
import UnionpiTiger.Firmware.Drv
import UnionpiTiger.Lib.Run

set_option autoImplicit false

namespace UnionpiTiger.Firmware

variable (crc32Le : UInt32 → List UInt8 → UInt32)

def FwInfo.cpu (info : FwInfo) : Nat := fwGetCpu info.data.cpu

-- The format that the firmware is for; fw_code_parse files every single file under 0 all the same.
def FwInfo.decoder (info : FwInfo) : Nat :=
  match info.fileType with
  | .videoPackage => info.format
  | .videoFwFile => getFwFormat info.data.format

def PackageInfo.cpu (record : PackageInfo) : Nat := fwGetCpu record.data.cpu

def PackageInfo.fwFormat (record : PackageInfo) : Nat := getFwFormat record.format

def PackageInfo.good (record : PackageInfo) : Bool :=
  record.data.duplicate || fwDataCheckSum crc32Le record.data

def recordsOf (package : List PackageInfo) : List PackageInfo := package.take (tryParseMax + 1)

def seenOf (package : List PackageInfo) : List PackageInfo :=
  (recordsOf package).takeWhile (PackageInfo.good crc32Le)

variable {crc32Le} {mgr : FwMgr} {list : List FwInfo} {cpu format : Nat}

def Unique (list : List FwInfo) : Prop :=
  list.Pairwise fun info other => info.format = other.format → info.format = firmwareMax

theorem Unique.eq (unique : Unique list) {info other : FwInfo} (here : info ∈ list)
    (there : other ∈ list) (same : info.format = other.format) (decoder : info.format ≠ firmwareMax)
    : info = other := by
  by_contra apart
  have symmetric : Std.Symm fun info other : FwInfo => info.format = other.format →
      info.format = firmwareMax :=
    ⟨fun _ _ only same => same.trans (only same.symm)⟩
  exact decoder (List.Pairwise.forall unique here there apart same)

theorem filterWalk_kept (kept : (filterWalk cpu format list).1 = false) :
    (filterWalk cpu format list).2 = list.filter (fun info => info.format ≠ format) ∧
      ∀ info ∈ list, info.format = format → info.fileType = .videoPackage ∧ info.cpu ≤ cpu := by
  induction list with
  | nil => exact ⟨rfl, nofun⟩
  | cons info rest ih =>
    unfold filterWalk at kept ⊢
    rw [List.filter_cons]
    by_cases other : info.format ≠ format
    · rw [if_pos other] at kept ⊢
      obtain ⟨list, all⟩ := ih kept
      rw [if_pos (decide_eq_true other), list]
      exact ⟨rfl, List.forall_mem_cons.mpr ⟨fun same => absurd same other, all⟩⟩
    · rw [if_neg other] at kept
      rw [if_neg other, if_neg (c := decide (info.format ≠ format) = true)
        (by rw [decide_eq_true_iff]; exact other)]
      by_cases file : info.fileType = .videoFwFile
      · rw [if_pos file] at kept
        cases kept
      · rw [if_neg file] at kept
        rw [if_neg file]
        by_cases newer : cpu < fwGetCpu info.data.cpu
        · rw [if_pos newer] at kept
          cases kept
        · rw [if_neg newer] at kept
          rw [if_neg newer]
          obtain ⟨list, all⟩ := ih kept
          refine ⟨list, List.forall_mem_cons.mpr ⟨fun _ => ⟨?_, Nat.not_lt.mp newer⟩, all⟩⟩
          cases type : info.fileType with
          | videoPackage => rfl
          | videoFwFile => exact absurd type file

theorem filterWalk_dropped (dropped : (filterWalk cpu format list).1 = true) (unique : Unique list)
    (decoder : format ≠ firmwareMax) :
    (filterWalk cpu format list).2 = list ∧
      ∃ info ∈ list, info.format = format ∧ (info.fileType = .videoFwFile ∨ cpu < info.cpu) := by
  induction list with
  | nil => cases dropped
  | cons info rest ih =>
    obtain ⟨first, unique⟩ := List.pairwise_cons.mp unique
    unfold filterWalk at dropped ⊢
    by_cases other : info.format ≠ format
    · rw [if_pos other] at dropped ⊢
      obtain ⟨same, found, there, fits⟩ := ih dropped unique
      dsimp only
      rw [same]
      exact ⟨rfl, found, List.mem_cons_of_mem _ there, fits⟩
    · rw [if_neg other] at dropped ⊢
      have here := not_not.mp other
      by_cases file : info.fileType = .videoFwFile
      · rw [if_pos file]
        exact ⟨rfl, info, List.mem_cons_self, here, .inl file⟩
      · rw [if_neg file] at dropped ⊢
        by_cases newer : cpu < fwGetCpu info.data.cpu
        · rw [if_pos newer]
          exact ⟨rfl, info, List.mem_cons_self, here, .inr newer⟩
        · rw [if_neg newer] at dropped
          obtain ⟨-, found, there, same, -⟩ := ih dropped unique
          exact absurd (first found there (here.trans same.symm)) (by rw [here]; exact decoder)

inductive Parsed (srcFrom : String) (mgr : FwMgr) (record : PackageInfo) : List FwInfo → Prop where
  | newer (newer : mgr.curCpu < record.cpu) : Parsed srcFrom mgr record mgr.fwHead
  | encoder (old : record.cpu ≤ mgr.curCpu) (format : record.fwFormat = firmwareMax) :
      Parsed srcFrom mgr record (packageEntry srcFrom record :: mgr.fwHead)
  | dropped (old : record.cpu ≤ mgr.curCpu) (decoder : record.fwFormat ≠ firmwareMax) (info : FwInfo)
      (there : info ∈ mgr.fwHead) (format : info.format = record.fwFormat)
      (before : info.fileType = .videoFwFile ∨
        record.cpu < info.cpu) : Parsed srcFrom mgr record mgr.fwHead
  | taken (old : record.cpu ≤ mgr.curCpu) (decoder : record.fwFormat ≠ firmwareMax)
      (all : ∀ info ∈ mgr.fwHead, info.format = record.fwFormat →
        info.fileType = .videoPackage ∧ info.cpu ≤ record.cpu) :
      Parsed srcFrom mgr record
        (packageEntry srcFrom record :: mgr.fwHead.filter fun info => info.format ≠ record.fwFormat)

theorem parseRecord_parsed (srcFrom : String) (mgr : FwMgr) (record : PackageInfo)
    (unique : Unique mgr.fwHead) :
    (parseRecord srcFrom mgr record).curCpu = mgr.curCpu ∧
      Parsed srcFrom mgr record (parseRecord srcFrom mgr record).fwHead := by
  refine ⟨rfl, ?_⟩
  unfold parseRecord fwDataFilter
  dsimp only
  by_cases newer : mgr.curCpu < fwGetCpu record.data.cpu
  · rw [if_pos newer]
    exact .newer newer
  · have old := Nat.not_lt.mp newer
    rw [if_neg newer]
    by_cases encoder : getFwFormat record.format = firmwareMax
    · rw [if_pos encoder]
      exact .encoder old encoder
    · rw [if_neg encoder]
      cases dropped : (filterWalk (fwGetCpu record.data.cpu) (getFwFormat record.format)
        mgr.fwHead).1 with
      | true =>
        obtain ⟨same, info, there, format, before⟩ := filterWalk_dropped dropped unique encoder
        rw [if_pos rfl, same]
        exact .dropped old encoder info there format before
      | false =>
        obtain ⟨left, all⟩ := filterWalk_kept dropped
        rw [if_neg Bool.false_ne_true, left]
        exact .taken old encoder all

def Beaten (start : FwMgr) (before : List PackageInfo) (record : PackageInfo)
    (after : List PackageInfo) : Prop :=
  record.fwFormat ≠ firmwareMax ∧
    ((∃ info ∈ start.fwHead, info.format = record.fwFormat ∧
      (info.fileType = .videoFwFile ∨ record.cpu < info.cpu)) ∨
      (∃ other ∈ before, other.cpu ≤ start.curCpu ∧ other.fwFormat = record.fwFormat ∧
        record.cpu < other.cpu) ∨
      ∃ other ∈ after, other.cpu ≤ start.curCpu ∧ other.fwFormat = record.fwFormat ∧
        record.cpu ≤ other.cpu)

def Pending (start : FwMgr) (done : List PackageInfo) (info : FwInfo) : Prop :=
  ∃ before record after, done = before ++ record :: after ∧ record.data.duplicate = true ∧
    record.cpu ≤ start.curCpu ∧
    info.data = record.data ∧ info.format = record.fwFormat ∧ info.fileType = .videoPackage ∧
      ¬ Beaten start before record after

variable (crc32Le) in
structure Sound (seen : List PackageInfo) (info : FwInfo) : Prop where
  payload : fwDataCheckSum crc32Le info.data = true
  duplicate : info.fileType = .videoPackage → info.data.duplicate = true →
    ∃ record ∈ seen, record.data.duplicate = false ∧ record.data.checksum = info.data.checksum ∧
      record.data.payload = info.data.payload

def Covers (list : List FwInfo) (format cpu : Nat) : Prop :=
  ∃ info ∈ list, info.format = format ∧ (info.fileType = .videoFwFile ∨ cpu ≤ info.cpu)

variable (crc32Le) in
structure Parsing (start : FwMgr) (seen done : List PackageInfo) (mgr : FwMgr) : Prop where
  cur : mgr.curCpu = start.curCpu
  unique : Unique mgr.fwHead
  cpu : ∀ info ∈ mgr.fwHead, info.cpu ≤ start.curCpu
  files : ∀ info ∈ start.fwHead, info.fileType = .videoFwFile → info ∈ mgr.fwHead
  begun : ∀ info ∈ start.fwHead, info.fileType = .videoPackage → info.format ≠ firmwareMax →
    Covers mgr.fwHead info.format info.cpu
  covered : ∀ record ∈ seen ++ done, record.fwFormat ≠ firmwareMax → record.cpu ≤ start.curCpu →
    Covers mgr.fwHead record.fwFormat record.cpu
  sound : ∀ info ∈ mgr.fwHead, Sound crc32Le seen info ∨ Pending start done info
  origin : ∀ info ∈ mgr.fwHead, info ∈ start.fwHead ∨ info.fileType = .videoPackage ∧
    ∃ record ∈ done, record.cpu ≤ start.curCpu ∧ record.fwFormat = info.format

variable {start : FwMgr} {seen done : List PackageInfo} {record : PackageInfo} {srcFrom : String}

theorem Unique.cons_filter (unique : Unique list) {info : FwInfo} :
    Unique (info :: list.filter fun other => other.format ≠ info.format) := by
  refine List.pairwise_cons.mpr ⟨fun other there same => ?_, unique.filter _⟩
  exact absurd same.symm (of_decide_eq_true (List.mem_filter.mp there).2)

theorem Unique.cons_encoder (unique : Unique list) {info : FwInfo}
    (encoder : info.format = firmwareMax) :
    Unique (info :: list) :=
  List.pairwise_cons.mpr ⟨fun _ _ _ => encoder, unique⟩

theorem Parsed.covers {fwHead : List FwInfo} (parsed : Parsed srcFrom mgr record fwHead)
    {format cpu : Nat} (before : Covers mgr.fwHead format cpu) : Covers fwHead format cpu := by
  obtain ⟨info, there, same, first⟩ := before
  cases parsed with
  | newer => exact ⟨info, there, same, first⟩
  | encoder => exact ⟨info, List.mem_cons_of_mem _ there, same, first⟩
  | dropped => exact ⟨info, there, same, first⟩
  | taken old decoder all =>
    by_cases here : info.format = record.fwFormat
    · obtain ⟨type, less⟩ := all info there here
      refine ⟨packageEntry srcFrom record, List.mem_cons_self, here.symm.trans same, .inr ?_⟩
      cases first with
      | inl file =>
        rw [type] at file
        cases file
      | inr newer => exact Nat.le_trans newer less
    · exact ⟨info, List.mem_cons_of_mem _ (List.mem_filter.mpr ⟨there, decide_eq_true here⟩), same,
        first⟩

theorem Parsed.covers_record {fwHead : List FwInfo} (parsed : Parsed srcFrom mgr record fwHead)
    (decoder : record.fwFormat ≠ firmwareMax) (old : record.cpu ≤ mgr.curCpu) :
    Covers fwHead record.fwFormat record.cpu := by
  cases parsed with
  | newer newer => exact absurd old (Nat.not_le.mpr newer)
  | encoder _ encoder => exact absurd encoder decoder
  | dropped _ _ info there format before =>
    refine ⟨info, there, format, ?_⟩
    cases before with
    | inl file => exact .inl file
    | inr newer => exact .inr (Nat.le_of_lt newer)
  | taken => exact ⟨packageEntry srcFrom record, List.mem_cons_self, rfl, .inr (Nat.le_refl _)⟩

theorem Parsed.origin {fwHead : List FwInfo} (parsed : Parsed srcFrom mgr record fwHead)
    {info : FwInfo} (there : info ∈ fwHead) :
    info ∈ mgr.fwHead ∨ record.cpu ≤ mgr.curCpu ∧ info = packageEntry srcFrom record := by
  cases parsed with
  | newer => exact .inl there
  | dropped => exact .inl there
  | encoder old =>
    cases List.mem_cons.mp there with
    | inl first => exact .inr ⟨old, first⟩
    | inr rest => exact .inl rest
  | taken old =>
    cases List.mem_cons.mp there with
    | inl first => exact .inr ⟨old, first⟩
    | inr rest => exact .inl (List.mem_of_mem_filter rest)

theorem Pending.next {info : FwInfo} (pending : Pending start done info)
    (stays : record.fwFormat ≠ firmwareMax → record.cpu ≤ start.curCpu →
      record.fwFormat = info.format → record.cpu < info.cpu) :
    Pending start (done ++ [record]) info := by
  obtain ⟨before, source, after, split, duplicate, old, data, format, type, unbeaten⟩ := pending
  refine ⟨before, source, after ++ [record],
    by rw [split, List.append_assoc, List.cons_append], duplicate, old, data, format,
    type, fun beaten => unbeaten ⟨beaten.1, ?_⟩⟩
  obtain ⟨decoder, first | first | ⟨other, there, acceptable, same, newer⟩⟩ := beaten
  · exact .inl first
  · exact .inr (.inl first)
  · cases List.mem_append.mp there with
    | inl earlier => exact .inr (.inr ⟨other, earlier, acceptable, same, newer⟩)
    | inr last =>
      cases List.mem_singleton.mp last
      have less := stays (by rw [same]; exact decoder) acceptable (same.trans format.symm)
      unfold FwInfo.cpu at less
      rw [data] at less
      exact absurd newer (Nat.not_le.mpr less)

theorem not_covers {cpu : Nat}
    (all : ∀ info ∈ mgr.fwHead, info.format = record.fwFormat →
      info.fileType = .videoPackage ∧ info.cpu ≤ record.cpu)
    (newer : record.cpu < cpu) : ¬ Covers mgr.fwHead record.fwFormat cpu := by
  rintro ⟨info, there, same, first⟩
  obtain ⟨type, less⟩ := all info there same
  cases first with
  | inl file =>
    rw [type] at file
    cases file
  | inr covers => exact absurd (Nat.le_trans covers less) (Nat.not_le.mpr newer)

theorem Parsing.unbeaten (parsing : Parsing crc32Le start seen done mgr)
    (all : ∀ info ∈ mgr.fwHead, info.format = record.fwFormat →
      info.fileType = .videoPackage ∧ info.cpu ≤ record.cpu) :
    ¬ Beaten start done record [] := by
  rintro ⟨decoder, ⟨info, there, same, first⟩ | ⟨other, there, old, same, newer⟩ | ⟨_, there, _⟩⟩
  · cases type : info.fileType with
    | videoFwFile =>
      obtain ⟨package_, -⟩ := all info (parsing.files info there type) same
      rw [type] at package_
      cases package_
    | videoPackage =>
      have newer : record.cpu < info.cpu := first.resolve_left fun file => by
        rw [type] at file
        cases file
      have covers := parsing.begun info there type (by rw [same]; exact decoder)
      rw [same] at covers
      exact not_covers all newer covers
  · have covers := parsing.covered other (List.mem_append_right _ there)
      (by rw [same]; exact decoder) old
    rw [same] at covers
    exact not_covers all newer covers
  · cases there

theorem packageEntry_sound (good : record.good crc32Le = true) (old : record.cpu ≤ start.curCpu)
    (unbeaten : ¬ Beaten start done record []) :
    Sound crc32Le seen (packageEntry srcFrom record) ∨
      Pending start (done ++ [record]) (packageEntry srcFrom record) := by
  unfold PackageInfo.good at good
  cases duplicate : record.data.duplicate with
  | true => exact .inr ⟨done, record, [], rfl, duplicate, old, rfl, rfl, rfl, unbeaten⟩
  | false =>
    rw [duplicate, Bool.false_or] at good
    refine .inl ⟨good, fun _ set_ => ?_⟩
    exact absurd (duplicate.symm.trans set_) Bool.false_ne_true

theorem Parsing.next (parsing : Parsing crc32Le start seen done mgr)
    (good : record.good crc32Le = true) :
    Parsing crc32Le start seen (done ++ [record]) (parseRecord srcFrom mgr record) := by
  obtain ⟨cur, parsed⟩ := parseRecord_parsed srcFrom mgr record parsing.unique
  have covered : ∀ other ∈ seen ++ (done ++ [record]), other.fwFormat ≠ firmwareMax →
      other.cpu ≤ start.curCpu →
      Covers (parseRecord srcFrom mgr record).fwHead other.fwFormat other.cpu := by
    intro other there decoder old
    rw [← List.append_assoc] at there
    cases List.mem_append.mp there with
    | inl earlier => exact parsed.covers (parsing.covered other earlier decoder old)
    | inr last =>
      cases List.mem_singleton.mp last
      exact parsed.covers_record decoder (by rw [parsing.cur]; exact old)
  have begun : ∀ info ∈ start.fwHead, info.fileType = .videoPackage → info.format ≠ firmwareMax →
      Covers (parseRecord srcFrom mgr record).fwHead info.format info.cpu :=
    fun info there type decoder => parsed.covers (parsing.begun info there type decoder)
  have waits : ∀ info ∈ mgr.fwHead,
      (record.fwFormat ≠ firmwareMax → record.cpu ≤ start.curCpu → record.fwFormat = info.format →
        record.cpu < info.cpu ∨ info.fileType = .videoFwFile) →
      Sound crc32Le seen info ∨ Pending start (done ++ [record]) info := by
    intro info there stays
    refine (parsing.sound info there).imp_right fun pending => pending.next fun decoder old same => ?_
    obtain ⟨_, _, _, _, _, _, _, _, type, _⟩ := pending
    refine (stays decoder old same).resolve_right fun file => ?_
    rw [type] at file
    cases file
  have origin : ∀ info ∈ (parseRecord srcFrom mgr record).fwHead, info ∈ start.fwHead ∨
      info.fileType = .videoPackage ∧
      ∃ other ∈ done ++ [record], other.cpu ≤ start.curCpu ∧ other.fwFormat = info.format := by
    intro info there
    rcases parsed.origin there with before | ⟨old, rfl⟩
    · refine (parsing.origin info before).imp_right ?_
      rintro ⟨type, other, earlier, rest⟩
      exact ⟨type, other, List.mem_append_left _ earlier, rest⟩
    · rw [parsing.cur] at old
      exact .inr ⟨rfl, record, List.mem_append_right _ List.mem_cons_self, old, rfl⟩
  rw [parsing.cur] at cur
  revert parsed covered begun origin
  generalize (parseRecord srcFrom mgr record) = after at cur ⊢
  obtain ⟨curCpu, fwHead⟩ := after
  intro parsed covered begun origin
  dsimp only at parsed covered begun origin cur
  cases parsed with
  | newer newer =>
    refine ⟨cur, parsing.unique, parsing.cpu, parsing.files, begun, covered,
      fun info there => waits info there ?_, origin⟩
    intro _ old _
    rw [parsing.cur] at newer
    exact absurd old (Nat.not_le.mpr newer)
  | encoder old encoder =>
    rw [parsing.cur] at old
    refine ⟨cur, parsing.unique.cons_encoder encoder, List.forall_mem_cons.mpr ⟨old, parsing.cpu⟩,
      fun info there file => List.mem_cons_of_mem _ (parsing.files info there file), begun, covered,
      List.forall_mem_cons.mpr ⟨packageEntry_sound good old fun beaten => beaten.1 encoder,
        fun info there => waits info there ?_⟩,
      origin⟩
    intro decoder
    exact absurd encoder decoder
  | dropped old decoder found there format before =>
    refine ⟨cur, parsing.unique, parsing.cpu, parsing.files, begun, covered,
      fun info here => waits info here ?_, origin⟩
    intro _ _ same
    have only := parsing.unique.eq here there (same.symm.trans format.symm)
      (by rw [← same]; exact decoder)
    rw [only]
    exact before.symm
  | taken old decoder all =>
    rw [parsing.cur] at old
    refine ⟨cur, parsing.unique.cons_filter, List.forall_mem_cons.mpr ⟨old,
      fun info there => parsing.cpu info (List.mem_of_mem_filter there)⟩,
      fun info there file => ?_, begun, covered,
      List.forall_mem_cons.mpr ⟨packageEntry_sound good old (parsing.unbeaten all),
        fun info there => ?_⟩, origin⟩
    · have here := parsing.files info there file
      refine List.mem_cons_of_mem _ (List.mem_filter.mpr ⟨here, decide_eq_true fun same => ?_⟩)
      have type := (all info here same).1
      rw [file] at type
      cases type
    · obtain ⟨here, other⟩ := List.mem_filter.mp there
      exact waits info here fun _ _ same => absurd same.symm (of_decide_eq_true other)

theorem parseRecords_parsing (srcFrom : String) (records : List PackageInfo)
    (parsing : Parsing crc32Le start seen done mgr) :
    Parsing crc32Le start seen (done ++ records.takeWhile (PackageInfo.good crc32Le))
        (parseRecords crc32Le srcFrom records mgr).2 ∧
      ((parseRecords crc32Le srcFrom records mgr).1 = true ↔
        ∀ record ∈ records, record.good crc32Le = true) := by
  induction records generalizing done mgr with
  | nil =>
    rw [List.takeWhile_nil, List.append_nil]
    exact ⟨parsing, iff_of_true rfl nofun⟩
  | cons record rest ih =>
    have cond : (!record.data.duplicate && !fwDataCheckSum crc32Le record.data) =
        !record.good crc32Le :=
      (Bool.not_or _ _).symm
    unfold parseRecords
    rw [cond, List.takeWhile_cons]
    cases good : record.good crc32Le with
    | false =>
      simp only [Bool.not_false, if_true, Bool.false_eq_true, if_false, List.append_nil]
      refine ⟨parsing, iff_of_false not_false fun all => ?_⟩
      exact absurd (good.symm.trans (all record List.mem_cons_self)) Bool.false_ne_true
    | true =>
      simp only [Bool.not_true, Bool.false_eq_true, if_false, if_true]
      have next : Parsing crc32Le start seen (done ++ [record]) (parseRecord srcFrom mgr record) :=
        parsing.next good
      obtain ⟨parsed, through⟩ := ih next
      rw [List.append_assoc, List.singleton_append] at parsed
      refine ⟨parsed, through.trans ?_⟩
      rw [List.forall_mem_cons]
      exact ⟨fun all => ⟨good, all⟩, fun all => all.2⟩

end UnionpiTiger.Firmware
