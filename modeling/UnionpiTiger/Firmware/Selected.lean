import UnionpiTiger.Firmware.Parsing

set_option autoImplicit false

namespace UnionpiTiger.Firmware

variable (crc32Le : UInt32 → List UInt8 → UInt32)

def FwFile.seen : FwFile → List PackageInfo
  | .package _ records => seenOf crc32Le records
  | .code _ _ => []

structure Selected (mgr : FwMgr) (seen : List PackageInfo) : Prop where
  unique : mgr.fwHead.Pairwise fun info other => info.format = other.format → info.format = firmwareMax
  -- No package entry is there for the format of a single file.
  decoders : mgr.fwHead.Pairwise fun info other => info.decoder = other.decoder →
    info.decoder = firmwareMax
  cpu : ∀ info ∈ mgr.fwHead, info.cpu ≤ mgr.curCpu
  highest : ∀ info ∈ mgr.fwHead, info.fileType = .videoPackage → info.format ≠ firmwareMax →
    ∀ record ∈ seen, record.fwFormat = info.format → record.cpu ≤ mgr.curCpu → record.cpu ≤ info.cpu
  payload : ∀ info ∈ mgr.fwHead, fwDataCheckSum crc32Le info.data = true
  duplicate : ∀ info ∈ mgr.fwHead, info.fileType = .videoPackage → info.data.duplicate = true →
    ∃ record ∈ seen, record.data.duplicate = false ∧ record.data.checksum = info.data.checksum ∧
      record.data.payload = info.data.payload

variable {crc32Le} {mgr : FwMgr} {list : List FwInfo} {seen : List PackageInfo} {record : PackageInfo}

def replaceAll (records : List PackageInfo) (info : FwInfo) : FwInfo :=
  records.foldl (fun info record => if record.data.duplicate then info
    else replaceWith record.data info) info

theorem fwReplaceDupData_eq (records : List PackageInfo) (list : List FwInfo) :
    fwReplaceDupData list records = list.map (replaceAll records) := by
  unfold fwReplaceDupData
  induction records generalizing list with
  | nil => exact (List.map_id list).symm
  | cons record rest ih =>
    rw [List.foldl_cons]
    cases duplicate : record.data.duplicate with
    | true =>
      rw [if_pos rfl, ih]
      refine List.map_congr_left fun info _ => ?_
      unfold replaceAll
      rw [List.foldl_cons, duplicate, if_pos rfl]
    | false =>
      rw [if_neg Bool.false_ne_true, ih, List.map_map]
      refine List.map_congr_left fun info _ => ?_
      unfold replaceAll
      rw [Function.comp_apply, List.foldl_cons, duplicate, if_neg Bool.false_ne_true]

def FwInfo.header (info : FwInfo) :
    String × String × FileType × Nat × UInt32 × String × String × Bool :=
  (info.name, info.srcFrom, info.fileType, info.format, info.data.checksum, info.data.cpu,
    info.data.format,
    info.data.duplicate)

theorem replaceWith_header (comp : FirmwareData) (info : FwInfo) :
    (replaceWith comp info).header = info.header := by
  unfold replaceWith
  split <;> rfl

theorem replaceAll_header (records : List PackageInfo) (info : FwInfo) :
    (replaceAll records info).header = info.header := by
  unfold replaceAll
  induction records generalizing info with
  | nil => rfl
  | cons record rest ih =>
    rw [List.foldl_cons, ih]
    split
    next => rfl
    next => exact replaceWith_header _ _

theorem replaceWith_sound {info : FwInfo} (there : record ∈ seen)
    (duplicate : record.data.duplicate = false) (good : record.good crc32Le = true)
    (before : Sound crc32Le seen info ∨ info.data.duplicate = true ∧
      record.data.checksum = info.data.checksum) :
    Sound crc32Le seen (replaceWith record.data info) := by
  unfold replaceWith
  split
  next both =>
    unfold PackageInfo.good at good
    rw [duplicate, Bool.false_or] at good
    refine ⟨?_, fun _ _ => ⟨record, there, duplicate, both.2, rfl⟩⟩
    unfold fwDataCheckSum at good ⊢
    dsimp only
    rw [← both.2]
    exact good
  next neither => exact before.resolve_right neither

theorem replaceAll_sound {records : List PackageInfo} (within : ∀ record ∈ records, record ∈ seen)
    (good : ∀ record ∈ records, record.good crc32Le = true) {info : FwInfo}
    (before : Sound crc32Le seen info ∨ info.data.duplicate = true ∧
      ∃ record ∈ records, record.data.duplicate = false ∧ record.data.checksum = info.data.checksum) :
    Sound crc32Le seen (replaceAll records info) := by
  unfold replaceAll
  induction records generalizing info with
  | nil =>
    refine before.resolve_right ?_
    rintro ⟨_, _, there, _⟩
    cases there
  | cons record rest ih =>
    have later := @ih (fun other there => within other (List.mem_cons_of_mem _ there))
      (fun other there => good other (List.mem_cons_of_mem _ there))
    rw [List.foldl_cons]
    cases duplicate : record.data.duplicate with
    | true =>
      rw [if_pos rfl]
      refine later (before.imp_right ?_)
      rintro ⟨set_, source, there, plain, same⟩
      refine ⟨set_, source, (List.mem_cons.mp there).resolve_left ?_, plain, same⟩
      rintro rfl
      exact absurd (duplicate.symm.trans plain) (by decide)
    | false =>
      rw [if_neg Bool.false_ne_true]
      have here := within record List.mem_cons_self
      have fine := good record List.mem_cons_self
      rcases before with sound | ⟨set_, source, there, plain, same⟩
      · exact later (.inl (replaceWith_sound here duplicate fine (.inl sound)))
      · cases List.mem_cons.mp there with
        | inl first =>
          rw [first] at same
          exact later (.inl (replaceWith_sound here duplicate fine (.inr ⟨set_, same⟩)))
        | inr rest_ =>
          have header := replaceWith_header record.data info
          have flag : (replaceWith record.data info).data.duplicate = info.data.duplicate :=
            congrArg (fun head => head.2.2.2.2.2.2.2) header
          have checksum : (replaceWith record.data info).data.checksum = info.data.checksum :=
            congrArg (fun head => head.2.2.2.2.1) header
          exact later (.inr ⟨flag.trans set_, source, rest_, plain, same.trans checksum.symm⟩)

variable (crc32Le) in
structure Holds (mgr : FwMgr) (seen : List PackageInfo) : Prop where
  unique : Unique mgr.fwHead
  cpu : ∀ info ∈ mgr.fwHead, info.cpu ≤ mgr.curCpu
  covered : ∀ record ∈ seen, record.fwFormat ≠ firmwareMax → record.cpu ≤ mgr.curCpu →
    Covers mgr.fwHead record.fwFormat record.cpu
  sound : ∀ info ∈ mgr.fwHead, Sound crc32Le seen info
  filed : ∀ info ∈ mgr.fwHead, info.fileType = .videoFwFile → info.format = 0
  unshadowed : ∀ info ∈ mgr.fwHead, info.fileType = .videoFwFile →
    ∀ other ∈ mgr.fwHead, other.fileType = .videoPackage →
    other.format = info.decoder → info.decoder = firmwareMax

theorem FwInfo.decoder_package {info : FwInfo} (type : info.fileType = .videoPackage) :
    info.decoder = info.format := by
  unfold FwInfo.decoder
  rw [type]

theorem Holds.decoders (holds : Holds crc32Le mgr seen) :
    mgr.fwHead.Pairwise fun info other => info.decoder = other.decoder →
      info.decoder = firmwareMax := by
  refine holds.unique.imp_of_mem fun {info other} here there only same => ?_
  cases type : info.fileType with
  | videoPackage =>
    rw [FwInfo.decoder_package type] at same ⊢
    cases type' : other.fileType with
    | videoPackage =>
      rw [FwInfo.decoder_package type'] at same
      exact only same
    | videoFwFile => exact same.trans (holds.unshadowed other there type' info here type same)
  | videoFwFile =>
    cases type' : other.fileType with
    | videoPackage =>
      rw [FwInfo.decoder_package type'] at same
      exact holds.unshadowed info here type other there type' same.symm
    | videoFwFile =>
      have zero := holds.filed info here type
      have most := only (zero.trans (holds.filed other there type').symm)
      rw [zero] at most
      exact absurd most (by decide)

def FilesKept (list after : List FwInfo) : Prop :=
  ∀ info ∈ list, info.fileType = .videoFwFile → ∃ later ∈ after, later.header = info.header

theorem Holds.selected (holds : Holds crc32Le mgr seen) : Selected crc32Le mgr seen := by
  refine ⟨holds.unique, holds.decoders, holds.cpu,
    fun info there type decoder record was same old => ?_,
    fun info there => (holds.sound info there).payload,
      fun info there => (holds.sound info there).duplicate⟩
  obtain ⟨other, here, format, first⟩ := holds.covered record was (by rw [same]; exact decoder) old
  have only := holds.unique.eq here there (format.trans same) (by rw [format, same]; exact decoder)
  rw [only, type] at first
  exact first.resolve_left FileType.noConfusion

theorem Holds.parsing (holds : Holds crc32Le mgr seen) : Parsing crc32Le mgr seen [] mgr := by
  refine ⟨rfl, holds.unique, holds.cpu, fun _ there _ => there,
    fun info there _ _ => ⟨info, there, rfl, .inr (Nat.le_refl _)⟩,
    fun record there => holds.covered record ?_, fun info there => .inl (holds.sound info there),
      fun info there => .inl there⟩
  rw [List.append_nil] at there
  exact there

theorem Sound.more {info : FwInfo} (sound : Sound crc32Le seen info) (more : List PackageInfo) :
    Sound crc32Le (seen ++ more) info := by
  refine ⟨sound.payload, fun type set_ => ?_⟩
  obtain ⟨record, there, rest⟩ := sound.duplicate type set_
  exact ⟨record, List.mem_append_left _ there, rest⟩

variable (crc32Le) in
def Suits (mgr : FwMgr) : FwFile → Prop
  | .package _ records =>
    (∀ record ∈ recordsOf records, record.data.duplicate = true →
      ∃ source ∈ recordsOf records, source.data.duplicate = false ∧
        source.data.checksum = record.data.checksum) ∧
    ((∃ record ∈ recordsOf records, record.good crc32Le = false) →
      ∀ before record after, seenOf crc32Le records = before ++ record :: after →
        record.data.duplicate = true →
        record.cpu ≤ mgr.curCpu → Beaten mgr before record after) ∧
    ∀ info ∈ mgr.fwHead, info.fileType = .videoFwFile → info.decoder ≠ 0 → info.decoder ≠ firmwareMax →
      ∀ record ∈ seenOf crc32Le records, record.fwFormat = info.decoder → mgr.curCpu < record.cpu
  | .code _ fw => fwDataCheckSum crc32Le fw = true → fwGetCpu fw.cpu ≤ mgr.curCpu ∧
    ∀ info ∈ mgr.fwHead, info.format ≠ 0 ∧ (info.format = getFwFormat fw.format →
      info.format = firmwareMax)

theorem fwCodeParse_holds {srcFrom : String} {fw : FirmwareData} (holds : Holds crc32Le mgr seen)
    (suits : Suits crc32Le mgr (.code srcFrom fw)) :
    Holds crc32Le (fwCodeParse crc32Le mgr srcFrom fw) seen ∧
      FilesKept mgr.fwHead (fwCodeParse crc32Le mgr srcFrom fw).fwHead := by
  unfold fwCodeParse
  split
  next good =>
    obtain ⟨old, only⟩ := suits good
    refine ⟨⟨List.pairwise_cons.mpr ⟨fun other there same => absurd same.symm (only other there).1,
      holds.unique⟩,
      List.forall_mem_cons.mpr ⟨old, holds.cpu⟩, fun record was decoder acceptable => ?_,
      List.forall_mem_cons.mpr ⟨⟨good, nofun⟩, holds.sound⟩,
        List.forall_mem_cons.mpr ⟨fun _ => rfl, holds.filed⟩,
      fun info here file other there package_ same => ?_⟩,
        fun info there _ => ⟨info, List.mem_cons_of_mem _ there, rfl⟩⟩
    · obtain ⟨info, there, rest⟩ := holds.covered record was decoder acceptable
      exact ⟨info, List.mem_cons_of_mem _ there, rest⟩
    · rcases List.mem_cons.mp there with rfl | there
      · cases package_
      rcases List.mem_cons.mp here with rfl | here
      · exact same.symm.trans ((only other there).2 same)
      · exact absurd (holds.filed info here file) (only info here).1
  next => exact ⟨holds, fun info there _ => ⟨info, there, rfl⟩⟩

theorem Parsing.filed {start : FwMgr} {done : List PackageInfo}
    (parsing : Parsing crc32Le start seen done mgr)
    (filed : ∀ info ∈ start.fwHead, info.fileType = .videoFwFile → info.format = 0) :
    ∀ info ∈ mgr.fwHead, info.fileType = .videoFwFile → info.format = 0 := by
  intro info there file
  rcases parsing.origin info there with before | ⟨package_, _⟩
  · exact filed info before file
  · rw [file] at package_
    cases package_

theorem Parsing.unshadowed {start : FwMgr} {done : List PackageInfo}
    (parsing : Parsing crc32Le start seen done mgr)
    (holds : Holds crc32Le start seen)
    (clear : ∀ info ∈ start.fwHead, info.fileType = .videoFwFile → info.decoder ≠ 0 →
      info.decoder ≠ firmwareMax →
      ∀ record ∈ done, record.fwFormat = info.decoder → start.curCpu < record.cpu) :
    ∀ info ∈ mgr.fwHead, info.fileType = .videoFwFile →
      ∀ other ∈ mgr.fwHead, other.fileType = .videoPackage →
      other.format = info.decoder → info.decoder = firmwareMax := by
  intro info here file other there package_ same
  by_contra decoder
  have old : info ∈ start.fwHead := by
    rcases parsing.origin info here with before | ⟨type, _⟩
    · exact before
    · rw [file] at type
      cases type
  have apart : info ≠ other := by
    rintro rfl
    rw [file] at package_
    cases package_
  have filed := holds.filed info old file
  by_cases zero : info.decoder = 0
  · refine apart (parsing.unique.eq here there (filed.trans (same.trans zero).symm) ?_)
    rw [filed]
    decide
  · rcases parsing.origin other there with before | ⟨_, record, seen_, acceptable, format⟩
    · exact decoder (holds.unshadowed info old file other before package_ same)
    · exact absurd (clear info old file zero decoder record seen_ (format.trans same))
        (Nat.not_lt.mpr acceptable)

theorem FwInfo.decoder_of_header {info other : FwInfo} (header : info.header = other.header) :
    info.decoder = other.decoder := by
  have type : info.fileType = other.fileType := congrArg (fun head => head.2.2.1) header
  have format : info.format = other.format := congrArg (fun head => head.2.2.2.1) header
  have own : info.data.format = other.data.format := congrArg (fun head => head.2.2.2.2.2.2.1) header
  unfold FwInfo.decoder
  rw [type, format, own]

theorem Unique.map (unique : Unique list) {f : FwInfo → FwInfo}
    (header : ∀ info, (f info).header = info.header) :
    Unique (list.map f) := by
  have format : ∀ info, (f info).format = info.format :=
    fun info => congrArg (fun head => head.2.2.2.1) (header info)
  refine List.pairwise_map.mpr (unique.imp fun {info other} only => ?_)
  rw [format, format]
  exact only

theorem Covers.map {format cpu : Nat} (covers : Covers list format cpu) {f : FwInfo → FwInfo}
    (header : ∀ info, (f info).header = info.header) : Covers (list.map f) format cpu := by
  obtain ⟨info, there, same, first⟩ := covers
  have type : (f info).fileType = info.fileType := congrArg (fun head => head.2.2.1) (header info)
  have kept : (f info).cpu = info.cpu :=
    congrArg fwGetCpu (congrArg (fun head => head.2.2.2.2.2.1) (header info))
  refine ⟨f info, List.mem_map_of_mem there,
    (congrArg (fun head => head.2.2.2.1) (header info)).trans same, ?_⟩
  rw [type, kept]
  exact first

theorem fwPackageParse_holds {srcFrom : String} {records : List PackageInfo}
    (holds : Holds crc32Le mgr seen) (suits : Suits crc32Le mgr (.package srcFrom records)) :
    Holds crc32Le (fwPackageParse crc32Le mgr srcFrom records) (seen ++ seenOf crc32Le records) ∧
      FilesKept mgr.fwHead (fwPackageParse crc32Le mgr srcFrom records).fwHead := by
  obtain ⟨refers, unbroken, clear⟩ := suits
  obtain ⟨parsed, through⟩ := parseRecords_parsing srcFrom (recordsOf records) holds.parsing
  rw [List.nil_append] at parsed
  have parse : fwPackageParse crc32Le mgr srcFrom records =
      if (parseRecords crc32Le srcFrom (recordsOf records) mgr).1 then
        { (parseRecords crc32Le srcFrom (recordsOf records) mgr).2 with
          fwHead := fwReplaceDupData (parseRecords crc32Le srcFrom (recordsOf records) mgr).2.fwHead
            (recordsOf records) }
      else (parseRecords crc32Le srcFrom (recordsOf records) mgr).2 := rfl
  rw [parse]
  generalize parseRecords crc32Le srcFrom (recordsOf records) mgr = result at parsed through
  obtain ⟨done, after⟩ := result
  dsimp only at parsed through ⊢
  cases done with
  | false =>
    rw [if_neg Bool.false_ne_true]
    have broken : ∃ record ∈ recordsOf records, record.good crc32Le = false := by
      by_contra none
      refine Bool.false_ne_true (through.mpr fun record there => ?_)
      by_contra bad
      exact none ⟨record, there, Bool.eq_false_iff.mpr bad⟩
    refine ⟨⟨parsed.unique,
      by rw [parsed.cur]; exact parsed.cpu, by rw [parsed.cur]; exact parsed.covered,
      fun info there => ?_, parsed.filed holds.filed, parsed.unshadowed holds clear⟩,
      fun info there file => ⟨info, parsed.files info there file, rfl⟩⟩
    refine ((parsed.sound info there).resolve_right ?_).more _
    rintro ⟨before, record, after_, split, duplicate, old, -, -, -, unbeaten⟩
    exact unbeaten (unbroken broken before record after_ split duplicate old)
  | true =>
    have good := through.mp rfl
    have whole : seenOf crc32Le records = recordsOf records := List.takeWhile_eq_self_iff.mpr good
    have header := replaceAll_header (recordsOf records)
    rw [if_pos rfl, fwReplaceDupData_eq]
    refine ⟨⟨parsed.unique.map header, fun info there => ?_, fun record there decoder old => ?_,
      fun info there => ?_,
      fun info there file => ?_, fun info here file other there package_ same => ?_⟩,
        fun info there file => ?_⟩
    · obtain ⟨source, here, rfl⟩ := List.mem_map.mp there
      have kept : (replaceAll (recordsOf records) source).cpu = source.cpu :=
        congrArg fwGetCpu (congrArg (fun head => head.2.2.2.2.2.1) (header source))
      rw [kept]
      dsimp only
      rw [parsed.cur]
      exact parsed.cpu source here
    · dsimp only at old ⊢
      rw [parsed.cur] at old
      exact (parsed.covered record there decoder old).map header
    · obtain ⟨source, here, rfl⟩ := List.mem_map.mp there
      refine replaceAll_sound (fun record there =>
        List.mem_append_right _ (by rw [whole]; exact there)) good ?_
      refine (parsed.sound source here).imp (fun sound => sound.more _) ?_
      rintro ⟨before, record, after_, split, duplicate, -, data, -⟩
      have within : record ∈ recordsOf records := by
        rw [← whole, seenOf, split]
        exact List.mem_append_right _ List.mem_cons_self
      rw [data]
      exact ⟨duplicate, refers record within duplicate⟩
    · obtain ⟨source, here, rfl⟩ := List.mem_map.mp there
      have type : source.fileType = .videoFwFile :=
        (congrArg (fun head => head.2.2.1) (header source)).symm.trans file
      exact (congrArg (fun head => head.2.2.2.1) (header source)).trans
        (parsed.filed holds.filed source here type)
    · obtain ⟨first, source, rfl⟩ := List.mem_map.mp here
      obtain ⟨second, source', rfl⟩ := List.mem_map.mp there
      have type : first.fileType = .videoFwFile :=
        (congrArg (fun head => head.2.2.1) (header first)).symm.trans file
      have type' : second.fileType = .videoPackage :=
        (congrArg (fun head => head.2.2.1) (header second)).symm.trans package_
      have format : (replaceAll (recordsOf records) second).format = second.format :=
        congrArg (fun head => head.2.2.2.1) (header second)
      rw [FwInfo.decoder_of_header (header first), format] at same
      rw [FwInfo.decoder_of_header (header first)]
      exact parsed.unshadowed holds clear first source type second source' type' same
    · exact ⟨replaceAll (recordsOf records) info,
        List.mem_map_of_mem (parsed.files info there file), header info⟩

theorem Holds.parse {file : FwFile} (holds : Holds crc32Le mgr seen) (suits : Suits crc32Le mgr file) :
    Holds crc32Le (mgr.parse crc32Le file) (seen ++ file.seen crc32Le) ∧
      FilesKept mgr.fwHead (mgr.parse crc32Le file).fwHead := by
  cases file with
  | package srcFrom records => exact fwPackageParse_holds holds suits
  | code srcFrom fw =>
    unfold FwFile.seen
    rw [List.append_nil]
    exact fwCodeParse_holds holds suits

theorem FilesKept.trans {first second third : List FwInfo} (before : FilesKept first second)
    (after : FilesKept second third) :
    FilesKept first third := by
  intro info there file
  obtain ⟨later, here, same⟩ := before info there file
  have type : later.fileType = info.fileType := congrArg (fun head => head.2.2.1) same
  obtain ⟨last, still, same'⟩ := after later here (type.trans file)
  exact ⟨last, still, same'.trans same⟩

end UnionpiTiger.Firmware
