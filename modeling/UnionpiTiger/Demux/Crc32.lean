import UnionpiTiger.Demux.Reception
import UnionpiTiger.Lib.Crc

set_option autoImplicit false

namespace UnionpiTiger.Demux

open Lib

def crc32Poly : UInt32 := 0x04c11db7

def crc32Loop : Nat → UInt32 → UInt32 → Option UInt32
  | 0, _, _ => none
  | fuel + 1, j, k =>
    if j = 0x80000000 then some k
    else crc32Loop fuel (j <<< 1)
      ((k <<< 1) ^^^ (if (k ^^^ j) &&& 0x80000000 ≠ 0 then crc32Poly else 0))

def crc32TableInit (table : Nat → UInt32) : Option (Nat → UInt32) :=
  (List.range 256).foldlM
    (fun table i => (crc32Loop 33 ((UInt32.ofNat i <<< 24) ||| 0x800000) 0).map
      (Function.update table i)) table

def crc32Byte (table : Nat → UInt32) (crc : UInt32) (byte : UInt8) : UInt32 :=
  (crc <<< 8) ^^^ table ((crc >>> 24) ^^^ byte.toUInt32).toNat

-- swdmx_crc32 with the static table it fills and reads. The first entry is 0, so that every call
-- fills it again.
def crc32WithTable (table : Nat → UInt32) (p : List UInt8) : Option (UInt32 × (Nat → UInt32)) := do
  let table ← if table 0 = 0 then crc32TableInit table else some table
  return (p.foldl (crc32Byte table) 0xffffffff, table)

def crc32TableAfter (calls : List (List UInt8)) : Option (Nat → UInt32) :=
  calls.foldlM (fun table p => (crc32WithTable table p).map (·.2)) fun _ => 0

def crc32After (calls : List (List UInt8)) (p : List UInt8) : Option UInt32 :=
  (crc32TableAfter calls).bind fun table => (crc32WithTable table p).map (·.1)

def sectionBits (p : List UInt8) : List Bool := p.flatMap fun byte => msbBits byte.toBitVec

def mpegCrc32 (p : List UInt8) : UInt32 := ⟨msbFeed crc32Poly.toBitVec 0xffffffff#32 (sectionBits p)⟩

def crcBytes (crc : UInt32) : List UInt8 :=
  [(crc >>> 24).toUInt8, (crc >>> 16).toUInt8, (crc >>> 8).toUInt8, crc.toUInt8]

section Table

theorem crc32Loop_eq : ∀ i : Fin 256, crc32Loop 33 ((UInt32.ofNat i.val <<< 24) ||| 0x800000) 0 =
    some (crc32Entry (UInt32.ofNat i.val)) := by decide +kernel

theorem crc32Entry_eq : ∀ i : Fin 256, (crc32Entry (UInt32.ofNat i.val)).toBitVec =
    msbFeed crc32Poly.toBitVec 0#32 (msbBits (BitVec.ofNat 8 i.val)) := by decide +kernel

theorem foldlM_update (entries : Nat → UInt32) (loop : Nat → Option UInt32) (indices : List Nat)
    (ends : ∀ i ∈ indices, loop i = some (entries i)) (table : Nat → UInt32) :
    indices.foldlM (fun table i => (loop i).map (Function.update table i)) table =
      some fun i => if i ∈ indices then entries i else table i := by
  induction indices generalizing table with
  | nil => rfl
  | cons i rest ih =>
    have last : ∀ j ∈ rest, loop j = some (entries j) :=
      fun j member => ends j (List.mem_cons_of_mem _ member)
    simp only [List.foldlM_cons, ends i (List.mem_cons_self ..), Option.map_some, Option.bind_eq_bind,
      Option.bind_some, ih last]
    congr 1
    funext j
    by_cases later : j ∈ rest
    · simp [later]
    · by_cases same : j = i <;> simp [same, later, Function.update]

def crc32Step (crc : UInt32) (byte : UInt8) : UInt32 :=
  (crc <<< 8) ^^^ crc32Entry ((crc >>> 24) ^^^ byte.toUInt32)

def filledTable (table : Nat → UInt32) (i : Nat) : UInt32 :=
  if i < 256 then crc32Entry (UInt32.ofNat i) else table i

theorem crc32TableInit_eq (table : Nat → UInt32) :
    crc32TableInit table = some (filledTable table) := by
  have ends : ∀ i ∈ List.range 256, crc32Loop 33 ((UInt32.ofNat i <<< 24) ||| 0x800000) 0 =
      some (crc32Entry (UInt32.ofNat i)) := fun i member => crc32Loop_eq ⟨i, List.mem_range.mp member⟩
  have filled := foldlM_update (fun i => crc32Entry (UInt32.ofNat i)) _ _ ends table
  simp only [List.mem_range] at filled
  exact filled

theorem index_lt (crc : UInt32) (byte : UInt8) : ((crc >>> 24) ^^^ byte.toUInt32).toNat < 256 := by
  have small := byte.toNat_lt
  have high : crc.toNat >>> 24 < 2 ^ 8 := by
    have below := crc.toNat_lt
    rw [Nat.shiftRight_eq_div_pow]
    omega
  simpa using Nat.xor_lt_two_pow high small

theorem crc32Byte_filled (table : Nat → UInt32) (crc : UInt32) (byte : UInt8) :
    crc32Byte (filledTable table) crc byte = crc32Step crc byte := by
  rw [crc32Byte, filledTable, if_pos (index_lt crc byte), UInt32.ofNat_toNat, crc32Step]

theorem crc32WithTable_eq (table : Nat → UInt32) (zero : table 0 = 0) (p : List UInt8) :
    crc32WithTable table p = some (swdmxCrc32 p, filledTable table) := by
  have bytes : crc32Byte (filledTable table) = crc32Step := by
    funext crc byte
    exact crc32Byte_filled table crc byte
  simp only [crc32WithTable, if_pos zero, crc32TableInit_eq, bytes, Option.bind_eq_bind,
    Option.bind_some, Option.pure_def]
  rfl

theorem filledTable_zero (table : Nat → UInt32) : filledTable table 0 = 0 := by
  rw [filledTable, if_pos (by decide)]
  decide

theorem crc32TableAfter_eq (calls : List (List UInt8)) :
    ∃ table, crc32TableAfter calls = some table ∧ table 0 = 0 := by
  have run (start : Nat → UInt32) (zero : start 0 = 0) : ∃ table,
      calls.foldlM (fun table p => (crc32WithTable table p).map (·.2)) start = some table ∧
        table 0 = 0 := by
    induction calls generalizing start with
    | nil => exact ⟨start, rfl, zero⟩
    | cons p rest ih =>
      simpa [crc32WithTable_eq start zero p] using ih (filledTable start) (filledTable_zero start)
  exact run _ rfl

theorem crc32After_eq (calls : List (List UInt8)) (p : List UInt8) :
    crc32After calls p = some (swdmxCrc32 p) := by
  obtain ⟨table, used, zero⟩ := crc32TableAfter_eq calls
  simp [crc32After, used, crc32WithTable_eq table zero p]

end Table

section BitSerial

theorem leaves_byte (crc : UInt32) (byte : UInt8) (i : Nat) (below : i < 8) :
    (BitVec.ofNat 8 ((crc >>> 24) ^^^ byte.toUInt32).toNat).getMsbD i =
      (crc.toBitVec.getMsbD i ^^ byte.toBitVec.getMsbD i) := by
  have word : BitVec.ofNat 8 ((crc >>> 24) ^^^ byte.toUInt32).toNat =
      ((crc.toBitVec >>> 24) ^^^ byte.toBitVec.setWidth 32).setWidth 8 := rfl
  rw [word]
  have high : 7 - i < 8 := by omega
  simp [BitVec.getMsbD_eq_getLsbD, below, high,
    show i < 32 by omega, show 24 + (7 - i) = 31 - i by omega]

theorem crc32Step_eq (crc : UInt32) (byte : UInt8) :
    (crc32Step crc byte).toBitVec =
      msbFeed crc32Poly.toBitVec crc.toBitVec (msbBits byte.toBitVec) := by
  have entry := crc32Entry_eq ⟨_, index_lt crc byte⟩
  rw [UInt32.ofNat_toNat] at entry
  rw [crc32Step, msbFeed_word _ _ _ (by decide) (leaves_byte crc byte), UInt32.toBitVec_xor, entry]
  rfl

theorem swdmxCrc32_eq (p : List UInt8) : swdmxCrc32 p = mpegCrc32 p := by
  have feed (crc : UInt32) : (p.foldl crc32Step crc).toBitVec =
      msbFeed crc32Poly.toBitVec crc.toBitVec (sectionBits p) := by
    induction p generalizing crc with
    | nil => rfl
    | cons byte rest ih => simp [ih, crc32Step_eq, sectionBits, msbFeed_append]
  exact UInt32.toBitVec_inj.mp (feed 0xffffffff)

theorem sectionBits_crcBytes (crc : UInt32) : sectionBits (crcBytes crc) = msbBits crc.toBitVec := by
  have bits (i : Nat) (below : i < 32) :
      ((crc >>> 24).toUInt8.toBitVec ++ (crc >>> 16).toUInt8.toBitVec ++
      (crc >>> 8).toUInt8.toBitVec ++ crc.toUInt8.toBitVec : BitVec (8 + 8 + 8 + 8)).getLsbD i =
        crc.toBitVec.getLsbD i := by
    rw [BitVec.getLsbD_append, BitVec.getLsbD_append, BitVec.getLsbD_append]
    by_cases first : i < 8
    · simp [first]
    by_cases second : i < 16
    · simp [first, show i - 8 < 8 by omega, show 8 + (i - 8) = i by omega]
    by_cases third : i < 24
    · simp [first, show ¬i - 8 < 8 by omega, show i - 8 - 8 < 8 by omega,
        show 16 + (i - 8 - 8) = i by omega]
    · simp [first, show ¬i - 8 < 8 by omega, show ¬i - 8 - 8 < 8 by omega,
        show i - 8 - 8 - 8 < 8 by omega, show 24 + (i - 8 - 8 - 8) = i by omega]
  have joined : ((crc >>> 24).toUInt8.toBitVec ++ (crc >>> 16).toUInt8.toBitVec ++
      (crc >>> 8).toUInt8.toBitVec ++ crc.toUInt8.toBitVec : BitVec (8 + 8 + 8 + 8)) = crc.toBitVec :=
    BitVec.eq_of_getLsbD_eq bits
  rw [← joined, msbBits_append, msbBits_append, msbBits_append]
  simp [sectionBits, crcBytes]

theorem sectionBits_append (first second : List UInt8) :
    sectionBits (first ++ second) = sectionBits first ++ sectionBits second := List.flatMap_append

theorem mpegCrc32_residue (message : List UInt8) :
    mpegCrc32 (message ++ crcBytes (mpegCrc32 message)) = 0 := by
  apply UInt32.toBitVec_inj.mp
  simp only [mpegCrc32, sectionBits_append, sectionBits_crcBytes, msbFeed_append, msbFeed_msbBits]
  rfl

end BitSerial

def Burst (width : Nat) (sent received : List UInt8) : Prop :=
  ∃ before first second after, sectionBits sent = before ++ first ++ after ∧
    sectionBits received = before ++ second ++ after ∧ first.length = second.length ∧
      first.length ≤ width ∧ first ≠ second

theorem mpegCrc32_ne_of_burst {sent received : List UInt8} (burst : Burst 32 sent received) :
    mpegCrc32 sent ≠ mpegCrc32 received := by
  intro same
  obtain ⟨before, first, second, after, was, is_, lengths, short, differ⟩ := burst
  have registers := congrArg UInt32.toBitVec same
  simp only [mpegCrc32, was, is_] at registers
  exact msbFeed_ne_of_burst (by decide) _ lengths short differ registers

theorem section_crc (calls : List (List UInt8)) :
    (∀ p, crc32After calls p = some (mpegCrc32 p)) ∧
      (∀ message, crc32After calls (message ++ crcBytes (mpegCrc32 message)) = some 0) ∧
      ∀ message received, Burst 32 (message ++ crcBytes (mpegCrc32 message)) received →
        ∃ crc, crc32After calls received = some crc ∧ crc ≠ 0 := by
  have serial (p : List UInt8) : crc32After calls p = some (mpegCrc32 p) := by
    rw [crc32After_eq, swdmxCrc32_eq]
  refine ⟨serial, fun message => ?_, fun message received burst => ⟨_, serial received, ?_⟩⟩
  · rw [serial, mpegCrc32_residue]
  · have differs := mpegCrc32_ne_of_burst burst
    rw [mpegCrc32_residue] at differs
    exact differs.symm

end UnionpiTiger.Demux
