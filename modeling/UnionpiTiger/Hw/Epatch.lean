import Mathlib.Data.List.Basic
import Mathlib.Data.Nat.Find

set_option autoImplicit false

namespace UnionpiTiger.Hw.Epatch

def lmpSubversion8723a : UInt16 := 0x1200
def projectIdMaskAll : UInt32 := 0xFFFFFFFF
def rtkEpatchSignature : List UInt8 := [0x52, 0x65, 0x61, 0x6C, 0x74, 0x65, 0x63, 0x68]
def extensionSectionSignature : List UInt8 := [0x51, 0x04, 0xFD, 0x77]

def readAt (buf : List UInt8) (place : Int) : Option UInt8 :=
  if 0 ≤ place then buf[place.toNat]? else none

def readRange (buf : List UInt8) (place : Int) (n : Nat) : Option (List UInt8) :=
  if n = 0 then some []
  else if 0 ≤ place ∧ place.toNat + n ≤ buf.length then some ((buf.drop place.toNat).take n) else none

def streamToUint16 (buf : List UInt8) (place : Nat) : Option Nat := do
  let low ← readAt buf place
  let high ← readAt buf (place + 1 : Nat)
  some (low.toNat + 256 * high.toNat)

def streamToUint32 (buf : List UInt8) (place : Nat) : Option Nat := do
  let low ← streamToUint16 buf place
  let high ← streamToUint16 buf (place + 2)
  some (low + 65536 * high)

structure PatchEntry where
  chipId : Nat
  patchLength : Nat
  patchOffset : Nat
deriving DecidableEq

structure HwCfg where
  lmpSubversion : UInt16
  eversion : UInt8
  projectIdMask : UInt32
  configBuf : List UInt8

structure Allocs where
  entry : Bool
  total : Bool

structure FinalPatch where
  entry : Option PatchEntry
  totalBuf : List UInt8
deriving DecidableEq

def projectIdWalk (fwBuf : List UInt8) : (turns : Nat) → (pBuf : Int) → Option UInt8
  | 0, _ => none
  | turns + 1, pBuf => do
    let opcode ← readAt fwBuf pBuf
    let len ← readAt fwBuf (pBuf - 1)
    if opcode = 0x00 ∧ len = 1 then readAt fwBuf (pBuf - 2)
    else
      let pBuf := pBuf - (len.toNat + 2)
      let next ← readAt fwBuf pBuf
      if next = 0xFF then some 0 else projectIdWalk fwBuf turns pBuf

def rtkGetFwProjectId (fwBuf : List UInt8) (pBuf : Int) : Option UInt8 :=
  projectIdWalk fwBuf fwBuf.length pBuf

def findEntry (fwBuf : List UInt8) (numberOfPatch chip : Nat) :
    (left i : Nat) → Option (Option PatchEntry)
  | 0, _ => some none
  | left + 1, i => do
    let chipId ← streamToUint16 fwBuf (14 + 2 * i)
    if chipId = chip then
      let patchLength ← streamToUint16 fwBuf (14 + 2 * numberOfPatch + 2 * i)
      let patchOffset ← streamToUint32 fwBuf (14 + 4 * numberOfPatch + 4 * i)
      some (some { chipId, patchLength, patchOffset })
    else findEntry fwBuf numberOfPatch chip left (i + 1)

def rtkGetPatchEntry (cfg : HwCfg) (alloc : Bool) (fwBuf : List UInt8) : Option (Option PatchEntry) :=
  if alloc then do
    let numberOfPatch ← streamToUint16 fwBuf 12
    findEntry fwBuf numberOfPatch (cfg.eversion.toNat + 1) numberOfPatch 0
  else some none

def projectRefused (cfg : HwCfg) (projId : UInt8) : Bool :=
  cfg.projectIdMask != projectIdMaskAll && cfg.projectIdMask &&& ((1 : UInt32) <<< projId.toUInt32) == 0

-- The image and the config in `total_buf`. The version goes over the end of the patch, the others
-- are read from there.
def assemble (cfg : HwCfg) (fwBuf : List UInt8) (entry : PatchEntry) : Option FinalPatch := do
  let patch ← readRange fwBuf entry.patchOffset entry.patchLength
  let fwVersion ← readRange fwBuf 8 4
  let total := patch.take (entry.patchLength - 4) ++ fwVersion
  let _ ← readRange total ((entry.patchLength : Int) - 8) 4
  let _ ← readRange total ((entry.patchLength : Int) - 12) 4
  some { entry := some entry, totalBuf := total ++ cfg.configBuf }

-- Without a result, some read was outside. A rejected image leaves no patch and `dl_fw_flag` at 0.
def rtkGetBtFinalPatch (cfg : HwCfg) (alloc : Allocs) (fwBuf : List UInt8) :
    Option (Option FinalPatch) := do
  let signature ← readRange fwBuf 0 8
  if cfg.lmpSubversion = lmpSubversion8723a then
    if signature = rtkEpatchSignature then some none
    else if alloc.total then some (some { entry := none, totalBuf := fwBuf ++ cfg.configBuf })
    else some none
  else if signature ≠ rtkEpatchSignature then some none
  else
    let extension ← readRange fwBuf ((fwBuf.length : Int) - 4) 4
    if extension ≠ extensionSectionSignature then some none
    else
      let projId ← rtkGetFwProjectId fwBuf ((fwBuf.length : Int) - 5)
      if projectRefused cfg projId then some none
      else
        match ← rtkGetPatchEntry cfg alloc.entry fwBuf with
        | none => some none
        | some entry => if alloc.total then (assemble cfg fwBuf entry).map some else some none

section Reads

variable {buf : List UInt8}

@[simp] theorem readAt_natCast (buf : List UInt8) (place : Nat) :
    readAt buf (place : Int) = buf[place]? := by
  rw [readAt, if_pos (Int.natCast_nonneg place), Int.toNat_natCast]

theorem readAt_eq_some_iff (buf : List UInt8) (place : Int) (byte : UInt8) :
    readAt buf place = some byte ↔ ∃ k : Nat, place = k ∧ buf[k]? = some byte := by
  constructor
  · intro read
    unfold readAt at read
    split_ifs at read with inside
    exact ⟨place.toNat, (Int.toNat_of_nonneg inside).symm, read⟩
  · rintro ⟨k, rfl, read⟩
    rwa [readAt_natCast]

def u16At (buf : List UInt8) (place : Nat) : Nat :=
  (buf.getD place 0).toNat + 256 * (buf.getD (place + 1) 0).toNat

def u32At (buf : List UInt8) (place : Nat) : Nat := u16At buf place + 65536 * u16At buf (place + 2)

theorem streamToUint16_eq (buf : List UInt8) (place : Nat) :
    streamToUint16 buf place = if place + 2 ≤ buf.length then some (u16At buf place) else none := by
  unfold streamToUint16 u16At
  rw [readAt_natCast, readAt_natCast]
  by_cases inside : place + 2 ≤ buf.length
  · have low : place < buf.length := by omega
    have high : place + 1 < buf.length := by omega
    simp [inside, low, high]
  · have high : buf[place + 1]? = none := List.getElem?_eq_none (by omega)
    rw [if_neg inside, high]
    cases buf[place]? <;> rfl

theorem streamToUint32_eq (buf : List UInt8) (place : Nat) :
    streamToUint32 buf place = if place + 4 ≤ buf.length then some (u32At buf place) else none := by
  unfold streamToUint32 u32At
  rw [streamToUint16_eq, streamToUint16_eq]
  by_cases inside : place + 4 ≤ buf.length
  · have low : place + 2 ≤ buf.length := by omega
    simp [inside, low]
  · have high : ¬ place + 2 + 2 ≤ buf.length := by omega
    rw [if_neg inside, if_neg high]
    split_ifs <;> rfl

end Reads

section Walk

inductive Records (fwBuf : List UInt8) : Nat → UInt8 → Prop
  | project {p : Nat} {data : UInt8} (opcode : fwBuf[p + 2]? = some 0x00) (len : fwBuf[p + 1]? = some 1)
      (value : fwBuf[p]? = some data) : Records fwBuf (p + 2) data
  | last {p : Nat} {opcode len : UInt8} (first : fwBuf[p + len.toNat + 2]? = some opcode)
      (second : fwBuf[p + len.toNat + 1]? = some len) (other : ¬ (opcode = 0x00 ∧ len = 1))
      (stop : fwBuf[p]? = some 0xFF) : Records fwBuf (p + len.toNat + 2) 0
  | more {p : Nat} {opcode len next id : UInt8} (first : fwBuf[p + len.toNat + 2]? = some opcode)
      (second : fwBuf[p + len.toNat + 1]? = some len) (other : ¬ (opcode = 0x00 ∧ len = 1))
      (goes : fwBuf[p]? = some next) (on : next ≠ 0xFF) (rest : Records fwBuf p id) :
      Records fwBuf (p + len.toNat + 2) id

variable {fwBuf : List UInt8}

theorem walk_turn_iff (turns p : Nat) (id : UInt8) :
    projectIdWalk fwBuf (turns + 1) p = some id ↔ ∃ opcode len, fwBuf[p]? = some opcode ∧
      (∃ q, p = q + 1 ∧ fwBuf[q]? = some len) ∧
      (if opcode = 0x00 ∧ len = 1 then ∃ q, p = q + 2 ∧ fwBuf[q]? = some id
      else ∃ q next, p = q + len.toNat + 2 ∧ fwBuf[q]? = some next ∧
        (if next = 0xFF then id = 0 else projectIdWalk fwBuf turns q = some id)) := by
  simp only [projectIdWalk, Option.bind_eq_bind, Option.bind_eq_some_iff, readAt_natCast]
  constructor
  · rintro ⟨opcode, first, len, second, rest⟩
    obtain ⟨k, place, second⟩ := (readAt_eq_some_iff _ _ _).mp second
    refine ⟨opcode, len, first, ⟨k, by omega, second⟩, ?_⟩
    split_ifs at rest ⊢ with project
    · obtain ⟨q, place, value⟩ := (readAt_eq_some_iff _ _ _).mp rest
      exact ⟨q, by omega, value⟩
    · obtain ⟨next, read, rest⟩ := Option.bind_eq_some_iff.mp rest
      obtain ⟨q, place, goes⟩ := (readAt_eq_some_iff _ _ _).mp read
      refine ⟨q, next, by omega, goes, ?_⟩
      rw [place] at rest
      split_ifs at rest ⊢ with stop
      · exact (Option.some.inj rest).symm
      · exact rest
  · rintro ⟨opcode, len, first, ⟨k, rfl, second⟩, rest⟩
    refine ⟨opcode, first, len, (readAt_eq_some_iff _ _ _).mpr ⟨k, by omega, second⟩, ?_⟩
    split_ifs at rest ⊢ with project
    · obtain ⟨q, place, value⟩ := rest
      exact (readAt_eq_some_iff _ _ _).mpr ⟨q, by omega, value⟩
    · obtain ⟨q, next, place, goes, rest⟩ := rest
      have below : ((k + 1 : Nat) : Int) - (len.toNat + 2) = q := by omega
      refine Option.bind_eq_some_iff.mpr ⟨next, (readAt_eq_some_iff _ _ _).mpr ⟨q, below, goes⟩, ?_⟩
      rw [below]
      split_ifs at rest ⊢ with stop
      · rw [rest]
      · exact rest

theorem Records.cases {p : Nat} {id : UInt8} (records : Records fwBuf p id) :
    ∃ opcode len, fwBuf[p]? = some opcode ∧ (∃ q, p = q + 1 ∧ fwBuf[q]? = some len) ∧
      (if opcode = 0x00 ∧ len = 1 then ∃ q, p = q + 2 ∧ fwBuf[q]? = some id
      else ∃ q next, p = q + len.toNat + 2 ∧ fwBuf[q]? = some next ∧
        (if next = 0xFF then id = 0 else Records fwBuf q id)) := by
  cases records with
  | project opcode len value =>
    exact ⟨_, _, opcode, ⟨_, rfl, len⟩, by rw [if_pos ⟨rfl, rfl⟩]; exact ⟨_, rfl, value⟩⟩
  | last first second other stop =>
    exact ⟨_, _, first, ⟨_, rfl, second⟩,
      by rw [if_neg other]; exact ⟨_, _, rfl, stop, by rw [if_pos rfl]⟩⟩
  | more first second other goes on rest =>
    exact ⟨_, _, first, ⟨_, rfl, second⟩,
      by rw [if_neg other]; exact ⟨_, _, rfl, goes, by rwa [if_neg on]⟩⟩

theorem walk_iff (turns p : Nat) (enough : p < turns) (id : UInt8) :
    projectIdWalk fwBuf turns p = some id ↔ Records fwBuf p id := by
  induction turns generalizing p with
  | zero => omega
  | succ turns ih =>
    rw [walk_turn_iff]
    constructor
    · rintro ⟨opcode, len, first, ⟨k, rfl, second⟩, rest⟩
      split_ifs at rest with project
      · obtain ⟨q, place, value⟩ := rest
        obtain rfl : k = q + 1 := by omega
        rw [project.1] at first
        rw [project.2] at second
        exact .project first second value
      · obtain ⟨q, next, place, goes, rest⟩ := rest
        obtain rfl : k = q + len.toNat + 1 := by omega
        split_ifs at rest with stop
        · rw [rest]
          rw [stop] at goes
          exact .last first second project goes
        · exact .more first second project goes stop ((ih q (by omega)).mp rest)
    · intro records
      obtain ⟨opcode, len, first, second, rest⟩ := records.cases
      refine ⟨opcode, len, first, second, ?_⟩
      split_ifs at rest ⊢ with project
      · exact rest
      · obtain ⟨q, next, place, goes, rest⟩ := rest
        refine ⟨q, next, place, goes, ?_⟩
        split_ifs at rest ⊢ with stop
        · exact rest
        · exact (ih q (by omega)).mpr rest

end Walk

section Tables

variable {fwBuf : List UInt8} {n chip : Nat}

def chipIdAt (fwBuf : List UInt8) (i : Nat) : Nat := u16At fwBuf (14 + 2 * i)

def entryAt (fwBuf : List UInt8) (n i : Nat) : PatchEntry where
  chipId := chipIdAt fwBuf i
  patchLength := u16At fwBuf (14 + 2 * n + 2 * i)
  patchOffset := u32At fwBuf (14 + 4 * n + 4 * i)

structure Selects (fwBuf : List UInt8) (chip i stop j : Nat) : Prop where
  from_ : i ≤ j
  below : j < stop
  same : chipIdAt fwBuf j = chip
  first : ∀ k, i ≤ k → k < j → chipIdAt fwBuf k ≠ chip

theorem Selects.unique {i stop j k : Nat} (first : Selects fwBuf chip i stop j)
    (second : Selects fwBuf chip i stop k) :
    j = k := by
  rcases Nat.lt_trichotomy j k with less | same | more
  · exact absurd first.same (second.first j first.from_ less)
  · exact same
  · exact absurd second.same (first.first k second.from_ more)

theorem exists_selects {stop : Nat} (found : ¬ ∀ k < stop, chipIdAt fwBuf k ≠ chip) :
    ∃ j, Selects fwBuf chip 0 stop j := by
  have some : ∃ k, k < stop ∧ chipIdAt fwBuf k = chip := by
    by_contra none
    exact found fun k below same => none ⟨k, below, same⟩
  refine ⟨Nat.find some, Nat.zero_le _, (Nat.find_spec some).1, (Nat.find_spec some).2,
    fun k _ less same => ?_⟩
  exact Nat.find_min some less ⟨Nat.lt_trans less (Nat.find_spec some).1, same⟩

theorem findEntry_turn (left i : Nat) (inside : 14 + 2 * i + 2 ≤ fwBuf.length) :
    findEntry fwBuf n chip (left + 1) i =
      if chipIdAt fwBuf i = chip then
        if 14 + 2 * n + 2 * i + 2 ≤ fwBuf.length ∧ 14 + 4 * n + 4 * i + 4 ≤ fwBuf.length then
          some (some (entryAt fwBuf n i))
        else none
      else findEntry fwBuf n chip left (i + 1) := by
  rw [findEntry, streamToUint16_eq, if_pos inside, Option.bind_eq_bind, Option.bind_some]
  change (if chipIdAt fwBuf i = chip then _ else _) = _
  split_ifs with same both
  · rw [streamToUint16_eq, streamToUint32_eq, if_pos both.1, if_pos both.2]
    rfl
  · rw [streamToUint16_eq, streamToUint32_eq]
    by_cases low : 14 + 2 * n + 2 * i + 2 ≤ fwBuf.length
    · rw [if_pos low, if_neg fun high => both ⟨low, high⟩]
      rfl
    · rw [if_neg low]
      rfl
  · rfl

theorem findEntry_outside (left i : Nat) (outside : ¬ 14 + 2 * i + 2 ≤ fwBuf.length) :
    findEntry fwBuf n chip (left + 1) i = none := by
  rw [findEntry, streamToUint16_eq, if_neg outside]
  rfl

theorem findEntry_none_iff (left i : Nat) :
    findEntry fwBuf n chip left i = some none ↔
      (∀ k, i ≤ k → k < i + left → chipIdAt fwBuf k ≠ chip) ∧
        (left = 0 ∨ 14 + 2 * (i + left) ≤ fwBuf.length) := by
  induction left generalizing i with
  | zero => exact ⟨fun _ => ⟨fun k low high => by omega, .inl rfl⟩, fun _ => rfl⟩
  | succ left ih =>
    by_cases inside : 14 + 2 * i + 2 ≤ fwBuf.length
    · rw [findEntry_turn left i inside]
      by_cases same : chipIdAt fwBuf i = chip
      · rw [if_pos same]
        refine ⟨fun found => ?_, fun both => absurd same (both.1 i (Nat.le_refl i) (by omega))⟩
        split_ifs at found
        cases found
      · rw [if_neg same, ih]
        constructor
        · rintro ⟨others, fits⟩
          refine ⟨fun k low high => ?_, .inr (by omega)⟩
          rcases Nat.eq_or_lt_of_le low with rfl | more
          · exact same
          · exact others k more (by omega)
        · rintro ⟨others, fits⟩
          exact ⟨fun k low high => others k (by omega) (by omega), by omega⟩
    · rw [findEntry_outside left i inside]
      exact ⟨nofun, fun both => by omega⟩

theorem findEntry_some_iff (left i : Nat) (entry : PatchEntry) :
    findEntry fwBuf n chip left i = some (some entry) ↔
      ∃ j, Selects fwBuf chip i (i + left) j ∧ 14 + 2 * j + 2 ≤ fwBuf.length ∧
        14 + 2 * n + 2 * j + 2 ≤ fwBuf.length ∧
        14 + 4 * n + 4 * j + 4 ≤ fwBuf.length ∧ entry = entryAt fwBuf n j := by
  induction left generalizing i with
  | zero =>
    refine ⟨nofun, ?_⟩
    rintro ⟨j, selects, -⟩
    have low := selects.from_
    have high := selects.below
    omega
  | succ left ih =>
    by_cases inside : 14 + 2 * i + 2 ≤ fwBuf.length
    · rw [findEntry_turn left i inside]
      by_cases same : chipIdAt fwBuf i = chip
      · rw [if_pos same]
        constructor
        · intro found
          split_ifs at found with both
          exact ⟨i, ⟨Nat.le_refl i, by omega, same, fun k low high => by omega⟩, inside, both.1, both.2,
            (Option.some.inj (Option.some.inj found)).symm⟩
        · rintro ⟨j, selects, -, lengths, offsets, rfl⟩
          obtain rfl : j = i := by
            by_contra other
            exact selects.first i (Nat.le_refl i)
              (Nat.lt_of_le_of_ne selects.from_ (Ne.symm other)) same
          rw [if_pos ⟨lengths, offsets⟩]
      · rw [if_neg same, ih]
        constructor
        · rintro ⟨j, selects, fits⟩
          refine ⟨j, ⟨Nat.le_of_succ_le selects.from_,
            by have high := selects.below; omega, selects.same, ?_⟩, fits⟩
          intro k low high
          rcases Nat.eq_or_lt_of_le low with rfl | more
          · exact same
          · exact selects.first k more high
        · rintro ⟨j, selects, fits⟩
          have other : i ≠ j := fun at_ => same (at_ ▸ selects.same)
          have low := selects.from_
          have high := selects.below
          exact ⟨j, ⟨by omega,
            by omega, selects.same, fun k low' high' => selects.first k (by omega) high'⟩, fits⟩
    · rw [findEntry_outside left i inside]
      refine ⟨nofun, ?_⟩
      rintro ⟨j, selects, fits, -⟩
      have low := selects.from_
      omega

end Tables

section Assemble

theorem readRange_isSome_iff (buf : List UInt8) (place : Int) {n : Nat} (some : n ≠ 0) :
    (readRange buf place n).isSome ↔ 0 ≤ place ∧ place.toNat + n ≤ buf.length := by
  unfold readRange
  rw [if_neg some]
  split_ifs with inside
  · exact ⟨fun _ => inside, fun _ => rfl⟩
  · exact ⟨nofun, fun both => absurd both inside⟩

theorem readRange_length {buf bytes : List UInt8} {place : Int} {n : Nat}
    (read : readRange buf place n = some bytes) :
    bytes.length = n := by
  unfold readRange at read
  split_ifs at read with empty inside
  · rw [← Option.some.inj read, empty]
    rfl
  · rw [← Option.some.inj read, List.length_take, List.length_drop]
    omega

theorem assemble_iff (cfg : HwCfg) (fwBuf : List UInt8) (entry : PatchEntry) :
    (∃ patch, assemble cfg fwBuf entry = some patch ∧ patch.entry = some entry) ↔
      12 ≤ entry.patchLength ∧ entry.patchOffset + entry.patchLength ≤ fwBuf.length := by
  simp only [assemble, Option.bind_eq_bind, Option.bind_eq_some_iff]
  constructor
  · rintro ⟨_, ⟨patch, taken, fwVersion, -, -, -, coex, last, -⟩, -⟩
    have room := ((readRange_isSome_iff _ _ (by decide : 4 ≠ 0)).mp
      (Option.isSome_iff_exists.mpr ⟨coex, last⟩)).1
    have within := ((readRange_isSome_iff _ _ (by omega : entry.patchLength ≠ 0)).mp
      (Option.isSome_iff_exists.mpr ⟨patch, taken⟩)).2
    omega
  · rintro ⟨room, within⟩
    obtain ⟨patch, taken⟩ := Option.isSome_iff_exists.mp
      ((readRange_isSome_iff fwBuf entry.patchOffset (by omega : entry.patchLength ≠ 0)).mpr
        ⟨by omega, by omega⟩)
    obtain ⟨fwVersion, read⟩ := Option.isSome_iff_exists.mp
      ((readRange_isSome_iff fwBuf 8 (by decide : 4 ≠ 0)).mpr ⟨by omega, by omega⟩)
    have size : (patch.take (entry.patchLength - 4) ++ fwVersion).length = entry.patchLength := by
      rw [List.length_append, List.length_take, readRange_length taken, readRange_length read]
      omega
    obtain ⟨svn, second⟩ := Option.isSome_iff_exists.mp
      ((readRange_isSome_iff (patch.take (entry.patchLength - 4) ++ fwVersion)
        ((entry.patchLength : Int) - 8)
        (by decide : 4 ≠ 0)).mpr (by omega))
    obtain ⟨coex, last⟩ := Option.isSome_iff_exists.mp
      ((readRange_isSome_iff (patch.take (entry.patchLength - 4) ++ fwVersion)
        ((entry.patchLength : Int) - 12)
        (by decide : 4 ≠ 0)).mpr (by omega))
    exact ⟨_, ⟨patch, taken, fwVersion, read, svn, second, coex, last, rfl⟩, rfl⟩

theorem assemble_entry {cfg : HwCfg} {fwBuf : List UInt8} {entry : PatchEntry} {patch : FinalPatch}
    (assembled : assemble cfg fwBuf entry = some patch) : patch.entry = some entry := by
  simp only [assemble, Option.bind_eq_bind, Option.bind_eq_some_iff] at assembled
  obtain ⟨_, -, _, -, _, -, _, -, same⟩ := assembled
  rw [← Option.some.inj same]

end Assemble

section Contained

variable (cfg : HwCfg) (alloc : Allocs) (fwBuf : List UInt8)

structure SignaturesPass : Prop where
  size : 8 ≤ fwBuf.length
  signature : fwBuf.take 8 = rtkEpatchSignature
  extension : fwBuf.drop (fwBuf.length - 4) = extensionSectionSignature

def numberOfPatch : Nat := u16At fwBuf 12

structure EntryInside (entry : PatchEntry) : Prop where
  tables : 14 + 8 * numberOfPatch fwBuf ≤ fwBuf.length
  words : 12 ≤ entry.patchLength
  patch : entry.patchOffset + entry.patchLength ≤ fwBuf.length

def Contained : Prop :=
  ∃ result, rtkGetBtFinalPatch cfg alloc fwBuf = some result ∧
    ∀ patch, result = some patch → ∃ entry, patch.entry = some entry ∧ EntryInside fwBuf entry

structure TablesLaidOut : Prop where
  header : 14 ≤ fwBuf.length
  missing : (∀ k < numberOfPatch fwBuf, chipIdAt fwBuf k ≠ cfg.eversion.toNat + 1) →
    14 + 2 * numberOfPatch fwBuf ≤ fwBuf.length
  selected : ∀ j, Selects fwBuf (cfg.eversion.toNat + 1) 0 (numberOfPatch fwBuf) j →
    14 + 4 * numberOfPatch fwBuf + 4 * j + 4 ≤ fwBuf.length ∧
      (alloc.total = true → EntryInside fwBuf (entryAt fwBuf (numberOfPatch fwBuf) j))

def LaidOut : Prop :=
  cfg.lmpSubversion = lmpSubversion8723a ∨ ∃ id, Records fwBuf (fwBuf.length - 5) id ∧
    (projectRefused cfg id = false → alloc.entry = true → TablesLaidOut cfg alloc fwBuf)

variable {cfg alloc fwBuf}

def finish (cfg : HwCfg) (alloc : Allocs) (fwBuf : List UInt8) :
    Option PatchEntry → Option (Option FinalPatch)
  | none => some none
  | some entry => if alloc.total then (assemble cfg fwBuf entry).map some else some none

theorem final_eq (passes : SignaturesPass fwBuf) (lmp : cfg.lmpSubversion ≠ lmpSubversion8723a) :
    rtkGetBtFinalPatch cfg alloc fwBuf =
      (projectIdWalk fwBuf fwBuf.length (fwBuf.length - 5 : Nat)).bind fun projId =>
        if projectRefused cfg projId then some none
        else (rtkGetPatchEntry cfg alloc.entry fwBuf).bind (finish cfg alloc fwBuf) := by
  have size := passes.size
  have head : readRange fwBuf 0 8 = some rtkEpatchSignature := by
    rw [readRange, if_neg (by decide), if_pos (by omega), ← passes.signature]
    rfl
  have tail : readRange fwBuf ((fwBuf.length : Int) - 4) 4 = some extensionSectionSignature := by
    have place : ((fwBuf.length : Int) - 4).toNat = fwBuf.length - 4 := by omega
    rw [readRange, if_neg (by decide), if_pos (by omega), place, ← passes.extension,
      List.take_of_length_le (by rw [List.length_drop]; omega)]
  have start : (fwBuf.length : Int) - 5 = (fwBuf.length - 5 : Nat) := by omega
  have last : (fun found => match found with
      | none => some none
      | some entry => if alloc.total then (assemble cfg fwBuf entry).map some else some none) =
          finish cfg alloc fwBuf := by
    funext found
    cases found <;> rfl
  simp only [rtkGetBtFinalPatch, rtkGetFwProjectId, head, tail, start, Option.bind_eq_bind,
    Option.bind_some, lmp, ne_eq, not_true_eq_false, if_false, ← last]

theorem rtkGetPatchEntry_eq (header : 14 ≤ fwBuf.length) :
    rtkGetPatchEntry cfg true fwBuf =
      findEntry fwBuf (numberOfPatch fwBuf) (cfg.eversion.toNat + 1) (numberOfPatch fwBuf) 0 := by
  rw [rtkGetPatchEntry, if_pos rfl, streamToUint16_eq, if_pos header]
  rfl

theorem tablesLaidOut_of_result {result : Option FinalPatch}
    (finished : (rtkGetPatchEntry cfg true fwBuf).bind (finish cfg alloc fwBuf) = some result)
    (inside : ∀ patch, result = some patch → ∃ entry, patch.entry = some entry ∧
      EntryInside fwBuf entry) :
    TablesLaidOut cfg alloc fwBuf := by
  obtain ⟨found, looked, finished⟩ := Option.bind_eq_some_iff.mp finished
  have header : 14 ≤ fwBuf.length := by
    by_contra short
    rw [rtkGetPatchEntry, if_pos rfl, streamToUint16_eq, if_neg (by omega)] at looked
    cases looked
  rw [rtkGetPatchEntry_eq header] at looked
  cases found with
  | none =>
    obtain ⟨others, fits⟩ := (findEntry_none_iff _ _).mp looked
    rw [Nat.zero_add] at others fits
    exact ⟨header, fun _ =>
      by omega, fun j selects => absurd selects.same (others j selects.from_ selects.below)⟩
  | some entry =>
    obtain ⟨j, selects, -, -, offsets, rfl⟩ := (findEntry_some_iff _ _ _).mp looked
    rw [Nat.zero_add] at selects
    refine ⟨header, fun others => absurd selects.same (others j selects.below), fun j' selects' => ?_⟩
    obtain rfl := selects.unique selects'
    refine ⟨offsets, fun total => ?_⟩
    rw [finish, if_pos total] at finished
    obtain ⟨patch, assembled, taken⟩ := Option.map_eq_some_iff.mp finished
    obtain ⟨entry, same, contained⟩ := inside patch taken.symm
    rw [assemble_entry assembled] at same
    rwa [Option.some.inj same]

theorem result_of_tablesLaidOut (tables : TablesLaidOut cfg alloc fwBuf) :
    ∃ result, (rtkGetPatchEntry cfg true fwBuf).bind (finish cfg alloc fwBuf) = some result ∧
      ∀ patch, result = some patch → ∃ entry, patch.entry = some entry ∧ EntryInside fwBuf entry := by
  rw [rtkGetPatchEntry_eq tables.header]
  by_cases others : ∀ k < numberOfPatch fwBuf, chipIdAt fwBuf k ≠ cfg.eversion.toNat + 1
  · have missing := tables.missing others
    have looked := (findEntry_none_iff (n := numberOfPatch fwBuf) (numberOfPatch fwBuf) 0).mpr
      ⟨fun k _ below => others k (by omega), .inr (by omega)⟩
    rw [looked]
    exact ⟨none, rfl, nofun⟩
  · obtain ⟨j, selects⟩ := exists_selects others
    obtain ⟨offsets, fits⟩ := tables.selected j selects
    have below := selects.below
    have looked := (findEntry_some_iff (n := numberOfPatch fwBuf) (numberOfPatch fwBuf) 0 _).mpr
      ⟨j, by rwa [Nat.zero_add], by omega, by omega, offsets, rfl⟩
    rw [looked, Option.bind_some, finish]
    split_ifs with total
    · have header := tables.header
      have contained := fits total
      obtain ⟨patch, assembled, same⟩ :=
        (assemble_iff cfg fwBuf _).mpr ⟨contained.words, contained.patch⟩
      refine ⟨some patch, by rw [assembled]; rfl, fun _ here => ?_⟩
      cases here
      exact ⟨_, same, contained⟩
    · exact ⟨none, rfl, nofun⟩

end Contained

theorem finalPatch_contained_iff (cfg : HwCfg) (alloc : Allocs) (fwBuf : List UInt8)
    (passes : SignaturesPass fwBuf) :
    Contained cfg alloc fwBuf ↔ LaidOut cfg alloc fwBuf := by
  have size := passes.size
  by_cases lmp : cfg.lmpSubversion = lmpSubversion8723a
  · have head : readRange fwBuf 0 8 = some rtkEpatchSignature := by
      rw [readRange, if_neg (by decide), if_pos (by omega), ← passes.signature]
      rfl
    have refused : rtkGetBtFinalPatch cfg alloc fwBuf = some none := by
      simp only [rtkGetBtFinalPatch, head, lmp, Option.bind_eq_bind, Option.bind_some, if_true]
    exact ⟨fun _ => .inl lmp, fun _ => ⟨none, refused, nofun⟩⟩
  · have walk (id : UInt8) : projectIdWalk fwBuf fwBuf.length (fwBuf.length - 5 : Nat) = some id ↔
        Records fwBuf (fwBuf.length - 5) id :=
      walk_iff fwBuf.length (fwBuf.length - 5) (by omega) id
    unfold Contained LaidOut
    rw [final_eq passes lmp]
    constructor
    · rintro ⟨result, finished, inside⟩
      obtain ⟨id, walked, finished⟩ := Option.bind_eq_some_iff.mp finished
      refine .inr ⟨id, (walk id).mp walked, fun taken entry => ?_⟩
      rw [taken, if_neg Bool.false_ne_true, entry] at finished
      exact tablesLaidOut_of_result finished inside
    · rintro (same | ⟨id, records, tables⟩)
      · exact absurd same lmp
      · rw [(walk id).mpr records, Option.bind_some]
        cases taken : projectRefused cfg id with
        | true => exact ⟨none, rfl, nofun⟩
        | false =>
          rw [if_neg Bool.false_ne_true]
          cases entry : alloc.entry with
          | true => exact result_of_tablesLaidOut (tables taken entry)
          | false => exact ⟨none, rfl, nofun⟩

def hugeCount : List UInt8 :=
  rtkEpatchSignature ++ [0x00, 0x00, 0x00, 0x00, 0xFF, 0xFF, 0x00, 0x01, 0x00] ++
    extensionSectionSignature

theorem not_contained_hugeCount :
    ¬ ∀ (cfg : HwCfg) (alloc : Allocs) (fwBuf : List UInt8), SignaturesPass fwBuf →
      Contained cfg alloc fwBuf := by
  intro all
  obtain ⟨result, read, -⟩ := all ⟨0x8723, 0, projectIdMaskAll, []⟩ ⟨true, true⟩ hugeCount
    ⟨by decide, by decide, by decide⟩
  have outside : rtkGetBtFinalPatch ⟨0x8723, 0, projectIdMaskAll, []⟩ ⟨true, true⟩ hugeCount =
      none := by decide
  rw [outside] at read
  cases read

def onePatch : List UInt8 :=
  rtkEpatchSignature ++ [0x00, 0x00, 0x00, 0x00, 0x01, 0x00, 0x01, 0x00, 0x0C, 0x00, 0x16, 0x00,
    0x00, 0x00] ++
    [1, 2, 3, 4, 5, 6, 7, 8, 9, 10, 11, 12] ++ [0x00, 0x01, 0x00] ++ extensionSectionSignature

theorem laidOut_onePatch : LaidOut ⟨0x8723, 0, projectIdMaskAll, []⟩ ⟨true, true⟩ onePatch := by
  refine (finalPatch_contained_iff _ _ onePatch ⟨by decide, by decide, by decide⟩).mp ⟨some
    { entry := some ⟨1, 12, 22⟩, totalBuf := [1, 2, 3, 4, 5, 6, 7, 8, 0, 0, 0, 0] }, by
      decide, fun patch same => ?_⟩
  cases same
  exact ⟨_, rfl, by decide, by decide, by decide⟩

end UnionpiTiger.Hw.Epatch
