import UnionpiTiger.Hw.AltWalks

set_option autoImplicit false

namespace UnionpiTiger.Hw

def rtkVendorConfigMagic : List UInt8 := [0x55, 0xab, 0x23, 0x87]

def configMacOffsetGen12 : Nat := 0x3c

def configMacOffsetGen3plus : Nat := 0x44

def configMacOffsetGen4plus : Nat := 0x30

structure VendorConfig where
  mem : Memory
  len : Nat
  signature : bytesAt mem 0 4 = rtkVendorConfigMagic
  length : le16At mem 4 + configHead = len
  small : len ≤ maxOrgConfigSize

structure Parsed where
  baudrate : UInt32 := 0
  hwFlowCntrl : UInt8
  heartbeat : UInt8 := 0
deriving DecidableEq

namespace VendorConfig

def dataLen (file : VendorConfig) : Nat := le16At file.mem 4

def byte (file : VendorConfig) (place : Nat) : Option UInt8 :=
  if place < file.len then some (file.mem place) else none

def entryData (file : VendorConfig) (i len k : Nat) : Option UInt8 :=
  if k < len then file.byte (configHead + i + entryHead + k) else none

def heartbeatOf (b : UInt8) : UInt8 := if b &&& 0x02 ≠ 0 ∧ b &&& 0x10 ≠ 0 then 1 else 0

def heartbeatEntry (mac offset : Nat) : Bool :=
  offset = 0x17a && mac = configMacOffsetGen12 ||
    offset = 0x1be && (mac = configMacOffsetGen3plus || mac = configMacOffsetGen4plus)

def parseEntry (file : VendorConfig) (mac i offset len : Nat) (out : Parsed) : Option Parsed :=
  if offset = 0xc then do
    let b₀ ← file.entryData i len 0
    let b₁ ← file.entryData i len 1
    let b₂ ← file.entryData i len 2
    let b₃ ← file.entryData i len 3
    let flow ←
      if len ≥ 12 then
        (file.entryData i len 12).map fun b => if b &&& 0x04 ≠ 0 then out.hwFlowCntrl ||| 0x80 ||| 1
          else out.hwFlowCntrl ||| 0x80
      else some out.hwFlowCntrl
    let _ ← file.byte (configHead + i + entryHead + 12)
    some { out with
      baudrate := b₀.toUInt32 + b₁.toUInt32 <<< 8 + b₂.toUInt32 <<< 16 + b₃.toUInt32 <<< 24
      hwFlowCntrl := flow }
  else if heartbeatEntry mac offset then (file.entryData i len 0).map fun b =>
    { out with heartbeat := heartbeatOf b }
  else some out

-- The loop of rtk_parse_config_file; none where it reads outside the file or an entry.
def parseFrom (file : VendorConfig) (mac : Nat) : Nat → Nat → Parsed → Option Parsed
  | 0, _, out => some out
  | fuel + 1, i, out =>
    if i < file.dataLen then do
      let low ← file.byte (configHead + i)
      let high ← file.byte (configHead + i + 1)
      let len ← file.byte (configHead + i + 2)
      let out ← file.parseEntry mac i (low.toNat + 256 * high.toNat) len.toNat out
      file.parseFrom mac fuel (i + (len.toNat + entryHead)) out
    else some out

def parse (file : VendorConfig) (mac : Nat) (hwFlowCntrl : UInt8) : Option Parsed :=
  file.parseFrom mac file.dataLen 0 { hwFlowCntrl }

def entries (file : VendorConfig) : List (Nat × Item) :=
  entriesFrom file.mem file.dataLen file.dataLen 0

structure Inside (file : VendorConfig) (mac i : Nat) (entry : Item) : Prop where
  head : i + entryHead ≤ file.dataLen
  baudrate : entry.offset = 0xc → 4 ≤ entry.data.length ∧ entry.data.length ≠ 12 ∧
    i + entryHead + 13 ≤ file.dataLen
  heartbeat : heartbeatEntry mac entry.offset = true →
    1 ≤ entry.data.length ∧ i + entryHead + 1 ≤ file.dataLen

section Parse

variable {file : VendorConfig} {mac i offset len : Nat} {out : Parsed}

theorem byte_isSome (file : VendorConfig) (k : Nat) :
    (file.byte (configHead + k)).isSome ↔ k < file.dataLen := by
  have length := file.length
  unfold byte dataLen
  split_ifs <;> simp <;> omega

theorem parseEntry_isSome (file : VendorConfig) (mac i offset len : Nat) (out : Parsed) :
    (file.parseEntry mac i offset len out).isSome ↔
    (offset = 0xc → 4 ≤ len ∧ len ≠ 12 ∧ i + entryHead + 13 ≤ file.dataLen) ∧
      (heartbeatEntry mac offset = true → 1 ≤ len ∧ i + entryHead + 1 ≤ file.dataLen) := by
  have read (k : Nat) : file.byte (configHead + i + entryHead + k) =
      if i + entryHead + k < file.dataLen then some (file.mem (configHead + i + entryHead + k))
        else none := by
    have length := file.length
    unfold byte
    refine if_congr ?_ rfl rfl
    unfold dataLen
    omega
  have own (k : Nat) : file.entryData i len k =
      if k < len ∧ i + entryHead + k < file.dataLen
        then some (file.mem (configHead + i + entryHead + k)) else none := by
    rw [entryData, read]
    split_ifs <;> simp_all
  have apart : heartbeatEntry mac 0xc = false := by simp [heartbeatEntry]
  unfold parseEntry
  by_cases baudrate : offset = 0xc
  · subst baudrate
    by_cases inside : 4 ≤ len ∧ len ≠ 12 ∧ i + entryHead + 13 ≤ file.dataLen
    · obtain ⟨four, other, behind⟩ := inside
      have some_ (k : Nat) (short : k < len) (within : k < 13) :
          file.entryData i len k = some (file.mem (configHead + i + entryHead + k)) := by
        rw [own, if_pos ⟨short, by omega⟩]
      have printed : file.byte (configHead + i + entryHead + 12) =
          some (file.mem (configHead + i + entryHead + 12)) := by
        rw [read, if_pos (by omega)]
      simp only [if_true, some_ 0 (by omega) (by decide), some_ 1 (by omega) (by decide),
        some_ 2 (by omega) (by decide), some_ 3 (by omega) (by decide), printed,
        Option.bind_eq_bind, Option.bind_some]
      by_cases long : len ≥ 12
      · simp [long, some_ 12 (by omega) (by decide), four, other, behind, apart]
      · simp [long, four, other, behind, apart]
    · simp only [if_true, inside, true_imp_iff, false_and, iff_false, Option.not_isSome_iff_eq_none,
        Option.bind_eq_bind]
      by_cases behind : i + entryHead + 13 ≤ file.dataLen
      · by_cases four : 4 ≤ len
        · have twelve : len = 12 := by
            by_contra other
            exact inside ⟨four, other, behind⟩
          have last : file.entryData i len 12 = none := by
            rw [own, if_neg (by omega)]
          simp [twelve] at last ⊢
          simp [last]
        · have third : file.entryData i len 3 = none := by
            rw [own, if_neg (by omega)]
          simp [third]
      · have printed : file.byte (configHead + i + entryHead + 12) = none := by
          rw [read, if_neg (by omega)]
        simp [printed]
  · by_cases heartbeat : heartbeatEntry mac offset = true
    · simp only [baudrate, heartbeat, own, if_true, if_false, false_imp_iff, true_and, true_imp_iff,
        Option.isSome_map]
      split_ifs <;> simp <;> omega
    · simp [baudrate, heartbeat]

theorem parseFrom_isSome (file : VendorConfig) (mac fuel i : Nat) (out : Parsed) :
    (file.parseFrom mac fuel i out).isSome ↔ ∀ entry ∈ entriesFrom file.mem file.dataLen fuel i,
      file.Inside mac entry.1 entry.2 := by
  induction fuel generalizing i out with
  | zero => simp [parseFrom, entriesFrom]
  | succ fuel ih =>
    unfold parseFrom entriesFrom
    by_cases more : i < file.dataLen
    · simp only [more, if_true, List.forall_mem_cons]
      by_cases head : i + entryHead ≤ file.dataLen
      · have read (k : Nat) (within : k < 3) :
          file.byte (configHead + i + k) = some (file.mem (configHead + i + k)) := by
          have some_ := (file.byte_isSome (i + k)).mpr (by unfold entryHead at head; omega)
          rw [← Nat.add_assoc] at some_
          unfold byte at some_ ⊢
          split_ifs at some_ ⊢
          · rfl
          · simp at some_
        have low := read 0 (by decide)
        have inside := file.parseEntry_isSome mac i (le16At file.mem (configHead + i))
          (file.mem (configHead + i + 2)).toNat out
        have offset : (file.mem (configHead + i)).toNat + 256 * (file.mem (configHead + i + 1)).toNat =
          le16At file.mem (configHead + i) := rfl
        rw [Nat.add_zero] at low
        simp only [low, read 1 (by decide), read 2 (by decide), Option.bind_eq_bind,
          Option.bind_some, offset]
        cases parsed : file.parseEntry mac i (le16At file.mem (configHead + i))
          (file.mem (configHead + i + 2)).toNat out with
        | none =>
          simp only [parsed, Option.isSome_none, Bool.false_eq_true, false_iff] at inside
          refine iff_of_false (by simp) fun all => inside ?_
          simpa only [bytesAt_length] using And.intro all.1.baudrate all.1.heartbeat
        | some out =>
          simp only [parsed, Option.isSome_some, true_iff] at inside
          rw [Option.bind_some, ih]
          refine (and_iff_right ⟨head, ?_, ?_⟩).symm
          · simpa only [bytesAt_length] using inside.1
          · simpa only [bytesAt_length] using inside.2
      · have outside : file.byte (configHead + i + 2) = none := by
          have none_ := (file.byte_isSome (i + 2)).not.mpr (by unfold entryHead at head; omega)
          rw [← Nat.add_assoc] at none_
          simpa using none_
        simp only [outside, Option.bind_eq_bind, Option.bind_none, Option.bind_fun_none]
        exact iff_of_false (by simp) fun all => head all.1.head
    · simp [more]

theorem parse_isSome (file : VendorConfig) (mac : Nat) (hwFlowCntrl : UInt8) :
    (file.parse mac hwFlowCntrl).isSome ↔ ∀ entry ∈ file.entries, file.Inside mac entry.1 entry.2 :=
      file.parseFrom_isSome ..

end Parse

end VendorConfig

structure AltStatics where
  altSize : Nat := 0
  stale : Option (List UInt8 × Nat) := none
  fits : ∀ old ∈ stale, old.1.length = maxAltConfigSize ∧ old.2 ≤ altSize := by simp

structure BringUpFiles where
  config : VendorConfig
  mac : Nat
  configName : List UInt8
  extraFile : Option (List UInt8)
  hwFlowCntrl : UInt8
  statics : AltStatics

namespace BringUpFiles

def lines (files : BringUpFiles) : List (List UInt8) :=
  Settings.configLines files.extraFile files.configName

def newBuffer : List UInt8 := List.replicate maxAltConfigSize 0

def start (files : BringUpFiles) : AltBytes :=
  match files.statics.stale with
  | none => ⟨newBuffer, 0, files.statics.altSize, [files.mac]⟩
  | some (bytes, inx) => ⟨bytes, inx, files.statics.altSize, [files.mac]⟩

def settings (files : BringUpFiles) : Option AltBytes := files.start.linesProcess files.lines

-- rtk_update_altsettings, with what getAltSettings leaves; none where a walk leaves the buffer.
def updateWith (files : BringUpFiles) (s : AltBytes) : Option (Memory × Nat) := do
  let bytes := if files.statics.stale.isSome then newBuffer else s.bytes
  let (mem, offsets, i) ← walkEntriesIn files.mac bytes files.config.dataLen files.config.dataLen
    files.config.mem s.offset 0
  let (mem, i) ← addSettingsIn files.mac bytes offsets mem i
  some (store mem 4 (le16 i), i + configHead)

def update (files : BringUpFiles) : Option (Memory × Nat) := files.settings.bind files.updateWith

-- Nothing is read outside the file or its entry, no line is written outside the buffer or the
-- array, each walk over the alternatives ends in their buffer, and the image fits what is
-- allocated for it.
structure Bounded (files : BringUpFiles) : Prop where
  parse : (files.config.parse files.mac files.hwFlowCntrl).isSome
  lines : files.settings.isSome
  walks : files.update.isSome
  image : ∀ image ∈ files.update, image.2 ≤ maxOrgConfigSize + maxAltConfigSize

def extra (files : BringUpFiles) : List Item :=
  if files.statics.stale.isSome then [] else accepted files.statics.altSize (itemsOf files.lines)

def noted (files : BringUpFiles) : List Nat :=
  files.mac :: Hw.noted files.statics.altSize (itemsOf files.lines)

def entries (files : BringUpFiles) : List Item := files.config.entries.map Prod.snd

def left (files : BringUpFiles) : List Nat :=
  files.noted.filter fun offset => offset ≠ 0 &&
    !files.entries.any fun entry => uses files.mac (listed files.extra) entry offset

def room (files : BringUpFiles) : Nat :=
  configHead + (files.entries.map Item.size).sum +
    ((addedFor files.mac (listed files.extra) files.left).map Item.size).sum

section Bounds

variable {files : BringUpFiles}

theorem lines_room (files : BringUpFiles) : (itemsOf files.lines).length < 128 := by
  have size := itemsOf_size files.lines
  have short := configLines_length files.extraFile files.configName
  unfold lines at size ⊢
  omega

theorem start_fits (files : BringUpFiles) : files.start.Fits := by
  unfold start
  cases old : files.statics.stale with
  | none => exact ⟨List.length_replicate, Nat.zero_le _⟩
  | some buffer =>
    obtain ⟨length, below⟩ := files.statics.fits buffer (by simp [old])
    exact ⟨length, below⟩

theorem start_altSize (files : BringUpFiles) : files.start.altSize = files.statics.altSize := by
  unfold start
  split <;> rfl

theorem start_offset (files : BringUpFiles) : files.start.offset = [files.mac] := by
  unfold start
  split <;> rfl

theorem settings_processed (files : BringUpFiles) :
    ∃ s, files.settings = some s ∧ AltBytes.Processed files.start s (itemsOf files.lines) := by
  refine files.start_fits.linesProcess files.lines ?_
  have few := files.lines_room
  rw [start_offset, List.length_singleton]
  unfold offsetCount
  omega

theorem extra_fits (files : BringUpFiles) : ∀ item ∈ files.extra, item.Fits := by
  have sub (size : Nat) (items : List Item) : ∀ item ∈ accepted size items, item ∈ items := by
    induction items generalizing size with
    | nil => simp [accepted]
    | cons item rest ih =>
      intro other there
      rw [accepted_cons] at there
      split_ifs at there <;> simp only [List.mem_cons] at there ⊢
      · exact .inr (ih _ other there)
      · exact .inr (ih _ other there)
      · exact there.imp_right (ih _ other)
  intro item there
  unfold extra at there
  split_ifs at there
  · simp at there
  · obtain ⟨-, data, offset⟩ := mem_itemsOf (sub _ _ item there)
    exact ⟨offset, data⟩

theorem altList {s : AltBytes} (processed : AltBytes.Processed files.start s (itemsOf files.lines)) :
    AltList (if files.statics.stale.isSome then newBuffer else s.bytes) files.extra := by
  have fits := files.extra_fits
  cases old : files.statics.stale with
  | some buffer =>
    have none_ : files.extra = [] := by simp [extra, old]
    rw [none_]
    exact ⟨by simp [newBuffer, encodeAll], by simp, by simp⟩
  | none =>
    have holds : files.start.Holds [] := by
      unfold start
      rw [old]
      exact ⟨by simp [newBuffer, encodeAll], rfl, by simp⟩
    have after := processed.holds [] holds
    rw [List.nil_append, start_altSize] at after
    have same : files.extra = accepted files.statics.altSize (itemsOf files.lines) := by
      simp [extra, old]
    rw [← same] at after
    exact ⟨after.bytes, after.fits, fits⟩

theorem filter_marked (unused : Nat → Bool) (offsets : List Nat) :
    ((offsets.map fun offset => if unused offset then 0 else offset).filter fun offset => offset ≠ 0) =
      offsets.filter fun offset => offset ≠ 0 && !unused offset := by
  induction offsets with
  | nil => rfl
  | cons offset offsets ih =>
    rw [List.map_cons, List.filter_cons, List.filter_cons, ih]
    cases unused offset <;> simp

theorem addedFor_filter (mac : Nat) (extra : List Item) (offsets : List Nat) :
    addedFor mac extra (offsets.filter fun offset => offset ≠ 0) = addedFor mac extra offsets := by
  unfold addedFor
  rw [List.filterMap_filter]
  refine List.filterMap_congr fun offset _ => ?_
  by_cases zero : offset = 0 <;> simp [zero, addedOf]

def Walks (files : BringUpFiles) :
    Prop := ∀ offset ∈ files.entries.map Item.offset ++ files.left, Stops files.extra offset

theorem updateWith_eq {s : AltBytes}
    (processed : AltBytes.Processed files.start s (itemsOf files.lines)) :
    (files.Walks → ∃ mem, files.updateWith s = some (mem, files.room)) ∧
      (¬files.Walks → files.updateWith s = none) := by
  have list := altList processed
  have offset : s.offset = files.noted := by
    rw [processed.offset, start_offset, start_altSize]
    rfl
  have ends := walkEntries_entries files.mac (listed files.extra) files.config.dataLen
    files.config.dataLen files.config.mem s.offset 0
  have entries : (entriesFrom files.config.mem files.config.dataLen files.config.dataLen 0).map
      Prod.snd = files.entries := rfl
  rw [entries, foldl_used, offset, Nat.zero_add] at ends
  have first : (∀ entry ∈ entriesFrom files.config.mem files.config.dataLen files.config.dataLen 0,
      Stops files.extra entry.2.offset) ↔
      ∀ offset ∈ files.entries.map Item.offset, Stops files.extra offset := by
    rw [← entries, List.map_map, List.forall_mem_map]
    rfl
  unfold updateWith Walks
  rw [List.forall_mem_append]
  simp only [list.walkEntries, first, offset, Option.bind_eq_bind]
  by_cases stop : ∀ offset ∈ files.entries.map Item.offset, Stops files.extra offset
  · rw [if_pos stop, and_iff_right stop, Option.bind_some]
    generalize walkEntries files.mac (listed files.extra) files.config.dataLen files.config.dataLen
      files.config.mem files.noted 0 =
      walked at ends ⊢
    obtain ⟨mem, offsets, i⟩ := walked
    obtain ⟨rfl, rfl⟩ := Prod.mk.inj ends
    have left : (∀ offset ∈ files.noted.map fun offset =>
        if files.entries.any fun entry => uses files.mac (listed files.extra) entry offset
          then 0 else offset,
          offset ≠ 0 → Stops files.extra offset) ↔ ∀ offset ∈ files.left, Stops files.extra offset := by
      unfold BringUpFiles.left
      rw [← filter_marked]
      simp [List.mem_filter]
    have ends := (addSettings_added files.mac (listed files.extra) (files.noted.map fun offset =>
      if files.entries.any fun entry => uses files.mac (listed files.extra) entry offset then 0
        else offset) mem
        (files.entries.map Item.size).sum).ends
    rw [← addedFor_filter, filter_marked] at ends
    dsimp only
    rw [list.addSettings, if_congr left rfl rfl]
    generalize addSettings files.mac (listed files.extra) _ mem (files.entries.map Item.size).sum =
      added at ends ⊢
    have room : added.2 + configHead = files.room := by
      rw [ends, room, Nat.add_comm, ← Nat.add_assoc]
      rfl
    refine ⟨fun stops => ⟨store added.1 4 (le16 added.2), ?_⟩, fun goes => by rw [if_neg goes]; rfl⟩
    rw [if_pos stops, Option.bind_some, room]
  · rw [if_neg stop]
    exact ⟨fun both => absurd both.1 stop, fun _ => rfl⟩

theorem bounded_iff (files : BringUpFiles) : files.Bounded ↔
    (∀ entry ∈ files.config.entries, files.config.Inside files.mac entry.1 entry.2) ∧ files.Walks ∧
      files.room ≤ maxOrgConfigSize + maxAltConfigSize := by
  obtain ⟨s, done, processed⟩ := files.settings_processed
  obtain ⟨walks, leaves⟩ := updateWith_eq processed
  have update : files.update = files.updateWith s := by rw [BringUpFiles.update, done, Option.bind_some]
  rw [← VendorConfig.parse_isSome files.config files.mac files.hwFlowCntrl]
  constructor
  · intro bounded
    have some_ := bounded.walks
    by_cases stops : files.Walks
    · obtain ⟨mem, same⟩ := walks stops
      exact ⟨bounded.parse, stops, bounded.image (mem, files.room) (by rw [update, same]; rfl)⟩
    · rw [update, leaves stops] at some_
      simp at some_
  · rintro ⟨parse, stops, fits⟩
    obtain ⟨mem, same⟩ := walks stops
    refine ⟨parse, by simp [done], by simp [update, same], fun image there => ?_⟩
    rw [update, same, Option.mem_def, Option.some.injEq] at there
    rw [← there]
    exact fits

def sampleFiles : BringUpFiles where
  config := {
    mem := fun k => (rtkVendorConfigMagic ++ [15, 0, 0x0c, 0, 12] ++ List.replicate 12 0).getD k 0
    len := 21
    signature := by decide
    length := by decide
    small := by decide }
  mac := configMacOffsetGen3plus
  configName := []
  extraFile := none
  hwFlowCntrl := 0
  statics := {}

theorem config_out_of_bounds : ¬∀ files : BringUpFiles, files.Bounded := by
  intro claim
  have read := (claim sampleFiles).parse
  have outside : sampleFiles.config.parse sampleFiles.mac sampleFiles.hwFlowCntrl = none := by decide
  rw [outside] at read
  cases read

end Bounds

end BringUpFiles

end UnionpiTiger.Hw
