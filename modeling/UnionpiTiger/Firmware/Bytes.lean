import UnionpiTiger.Firmware.Drv
import UnionpiTiger.Lib.Checked
import UnionpiTiger.Lib.Words

set_option autoImplicit false

namespace UnionpiTiger.Firmware.Raw

open Lib

def frimwareSize : Nat := 64 * 1024

def buffSize : Nat := 1024 * 1024 * 2

def secOffset : Nat := 256

def pathMax : Nat := 4096

-- sizeof(struct firmware_s), sizeof(struct package_info_s) and sizeof(struct fw_info_s)
def firmwareHead : Nat := 512

def infoHead : Nat := 256

def fwInfoSize : Nat := 96

def pack : Nat := tag 'P' 'A' 'C' 'K'

def code : Nat := tag 'C' 'O' 'D' 'E'

def wordOf (byte : Nat → UInt8) (k : Nat) : Nat :=
  (byte k).toNat + 256 * (byte (k + 1)).toNat + 65536 * (byte (k + 2)).toNat + 16777216 *
    (byte (k + 3)).toNat

def intOf (byte : Nat → UInt8) (k : Nat) : Int := s32 (wordOf byte k)

def cstr (bytes : List UInt8) :
    String := String.ofList ((bytes.takeWhile fun b => b ≠ 0).map fun b => Char.ofNat b.toNat)

theorem frimware_large : firmwareHead ≤ frimwareSize := by decide

structure Fw where
  bytes : List UInt8
  size : Nat
  large : firmwareHead ≤ size

namespace Fw

def byte (fw : Fw) (k : Nat) : UInt8 := fw.bytes.getD k 0

def checksum (fw : Fw) : Nat := wordOf fw.byte 4

def cpu (fw : Fw) : Nat := fwGetCpu (cstr ((List.range 16).map fun j => fw.byte (40 + j)))

def dataSize (fw : Fw) : Int := intOf fw.byte 200

def duplicate (fw : Fw) : Bool := intOf fw.byte 224 ≠ 0

def data (fw : Fw) : Option (List UInt8) :=
  if 0 ≤ fw.dataSize ∧ firmwareHead + fw.dataSize ≤ fw.size then
    some ((List.range fw.dataSize.toNat).map fun j => fw.byte (firmwareHead + j))
  else none

def dataCheckSum (crc32Le : UInt32 → List UInt8 → UInt32) (fw : Fw) : Option Bool :=
  fw.data.map fun data => UInt32.ofNat fw.checksum = crc32Le 0xFFFFFFFF data ^^^ 0xFFFFFFFF

def right (crc32Le : UInt32 → List UInt8 → UInt32) (fw : Fw) : Option Bool :=
  if fw.duplicate then some true else fw.dataCheckSum crc32Le

-- A copy to an allocation of FRIMWARE_SIZE; none where it is not inside.
def copied (record : List UInt8) : Option Fw :=
  if record.length ≤ frimwareSize then some ⟨record, frimwareSize, frimware_large⟩ else none

def replaced (fw : Fw) (record : List UInt8) : Option Fw :=
  if large : firmwareHead ≤ record.length then
    some {
      bytes := (List.range record.length).map fun k =>
        if k < firmwareHead ∧ ¬(200 ≤ k ∧ k < 204) then fw.byte k else record.getD k 0
      size := record.length
      large }
  else none

end Fw

structure Buf where
  bytes : List UInt8
  behind : Nat

namespace Buf

def limit (buf : Buf) : Nat := min (buf.bytes.length + buf.behind) buffSize

def byte (buf : Buf) (k : Nat) : UInt8 := buf.bytes.getD k 0

def word (buf : Buf) (k : Int) : Option Nat :=
  if 0 ≤ k ∧ k + 4 ≤ buf.limit then some (wordOf buf.byte k.toNat) else none

def int (buf : Buf) (k : Int) : Option Int := (buf.word k).map fun word => s32 word

def string (buf : Buf) (k : Nat) : Option (List UInt8) :=
  let text := (buf.bytes.drop k).takeWhile fun b => b ≠ 0
  if k + text.length < buf.limit then some text else none

-- The source of a memcpy. A length below zero is one beyond any buffer.
def copy (buf : Buf) (k len : Int) : Option (List UInt8) :=
  if 0 ≤ k ∧ 0 ≤ len ∧ k + len ≤ buf.limit
    then some ((List.range len.toNat).map fun j => buf.byte (k.toNat + j)) else none

end Buf

structure FwInfo where
  name : List UInt8
  srcFrom : List UInt8
  fileType : FileType
  format : Nat
  data : Fw

structure FwMgr where
  curCpu : Nat
  fwHead : List FwInfo := []

-- The filter walk of `fw_data_filter`: whether the new firmware is dropped, and what is left of
-- the list.
def filterWalk (cpu format : Nat) : List FwInfo → Bool × List FwInfo
  | [] => (false, [])
  | info :: rest =>
    if info.format ≠ format
      then ((filterWalk cpu format rest).1, info :: (filterWalk cpu format rest).2)
    else if info.fileType = .videoFwFile then (true, info :: rest)
    else if cpu < info.data.cpu then (true, info :: rest)
    else filterWalk cpu format rest

def fwDataFilter (mgr : FwMgr) (fw : Fw) (format : Nat) : Bool × List FwInfo :=
  if mgr.curCpu < fw.cpu then (true, mgr.fwHead)
  else if format = firmwareMax then (false, mgr.fwHead)
  else filterWalk fw.cpu format mgr.fwHead

def sizeT (n : Int) : Nat := u64 n

section Parsing

-- The calls of kzalloc while a file is parsed, by what try_cnt is then.
inductive Call where
  | info (tryCnt : Nat)
  | firmware (tryCnt : Nat)
  | duplicate (tryCnt entry : Nat)

-- The checksum function, and what each call of kzalloc with a size returns.
variable (crc32Le : UInt32 → List UInt8 → UInt32) (kzalloc : Call → Nat → Bool)

-- A pass of `fw_package_parse` from its memcpy on, for a record of a length and a name.
def parseRecord (srcFrom : List UInt8) (buf : Buf) (mgr : FwMgr) (tryCnt pos : Nat) (length : Int)
    (name : List UInt8) :
    Option (Pass (FwMgr × Nat × Nat) (Bool × FwMgr)) := do
  let format := getFwFormat (cstr ((List.range 32).map fun j => buf.byte (pos + 32 + j)))
  let record ← buf.copy (pos + infoHead) length
  let data ← Fw.copied record
  let right ← data.right crc32Le
  if right then
    let (dropped, fwHead) := fwDataFilter mgr data format
    let info : FwInfo := { name := name.take 31, srcFrom, fileType := .videoPackage, format, data }
    let mgr := { mgr with fwHead := if dropped then fwHead else info :: fwHead }
    some (.again (mgr, tryCnt - 1, pos + record.length + infoHead))
  else some (.stop (false, mgr))

-- One pass of `fw_package_parse` over the record at a place; it ends the parsing with whether the
-- duplicates are replaced then.
def parsePass (srcFrom : List UInt8) (buf : Buf) (s : FwMgr × Nat × Nat) :
    Option (Pass (FwMgr × Nat × Nat) (Bool × FwMgr)) := do
  let (mgr, tryCnt, pos) := s
  let length ← buf.int (pos + 96)
  if length = 0 then some (.stop (true, mgr))
  else
    let name ← buf.string pos
    if pathMax ≤ 6 + name.length then some (.again (mgr, tryCnt - 1, pos))
    else if !kzalloc (.info tryCnt) fwInfoSize ||
      !kzalloc (.firmware tryCnt) frimwareSize then some (.stop (false, mgr))
    else parseRecord crc32Le srcFrom buf mgr tryCnt pos length name

def replaceInfo (memory : Bool) (buf : Buf) (pos length : Int) (info : FwInfo) :
    Option (Option FwInfo) :=
  if info.data.duplicate then do
    let checksum ← buf.word (pos + infoHead + 4)
    if checksum ≠ info.data.checksum then some (some info)
    else if !memory then some none
    else
      let record ← buf.copy (pos + infoHead) length
      let data ← info.data.replaced record
      some (some { info with data })
  else some (some info)

def memoryOf (tryCnt : Nat) (length : Int) (entry : Nat) : Bool :=
  kzalloc (.duplicate tryCnt entry) (sizeT length)

-- The memory is that of each entry of the list.
def replaceInfos (buf : Buf) (pos length : Int) :
    (memory : Nat → Bool) → List FwInfo → Option (Bool × List FwInfo)
  | _, [] => some (true, [])
  | memory, info :: rest => do
    match ← replaceInfo (memory 0) buf pos length info with
    | none => some (false, info :: rest)
    | some info => (replaceInfos buf pos length (fun entry => memory (entry + 1)) rest).map fun (more, rest) => (more, info :: rest)

def replaceWalk (buf : Buf) (tryCnt : Nat) (pos length : Int) (fwHead : List FwInfo) :
    Option (Bool × List FwInfo) :=
  if fwHead.isEmpty then some (true, [])
  else do
    let duplicate ← buf.int (pos + infoHead + 224)
    if duplicate ≠ 0 then some (true, fwHead)
      else replaceInfos buf pos length (memoryOf kzalloc tryCnt length) fwHead

def replacePass (buf : Buf) (s : List FwInfo × Nat × Int) :
    Option (Pass (List FwInfo × Nat × Int) (List FwInfo)) := do
  let (fwHead, tryCnt, pos) := s
  let length ← buf.int (pos + 96)
  if length = 0 then some (.stop fwHead)
  else
    let (more, fwHead) ← replaceWalk kzalloc buf tryCnt pos length fwHead
    some (if more then .again (fwHead, tryCnt - 1, pos + (length + infoHead)) else .stop fwHead)

def fwReplaceDupData (buf : Buf) (fwHead : List FwInfo) : Option (List FwInfo) :=
  passes (replacePass kzalloc buf) Prod.fst (tryParseMax + 1) (fwHead, tryParseMax, (infoHead : Int))

def parseRecords (srcFrom : List UInt8) (buf : Buf) (mgr : FwMgr) : Option (Bool × FwMgr) :=
  passes (parsePass crc32Le kzalloc srcFrom buf) (fun s => (true, s.1)) (tryParseMax + 1) (mgr,
    tryParseMax, infoHead)

def fwPackageParse (srcFrom : List UInt8) (buf : Buf) (mgr : FwMgr) : Option FwMgr := do
  let (through, mgr) ← parseRecords crc32Le kzalloc srcFrom buf mgr
  if through then (fwReplaceDupData kzalloc buf mgr.fwHead).map fun fwHead =>
    { mgr with fwHead } else some mgr

def fwCodeParse (srcFrom : List UInt8) (buf : Buf) (mgr : FwMgr) : Option FwMgr :=
  if !kzalloc (.info 0) fwInfoSize || !kzalloc (.firmware 0) frimwareSize then some mgr
  else do
    let record ← buf.copy 0 buf.bytes.length
    let data ← Fw.copied record
    let right ← data.dataCheckSum crc32Le
    if right then
      let info : FwInfo := { name := [], srcFrom, fileType := .videoFwFile, format := 0, data }
      some { mgr with fwHead := info :: mgr.fwHead }
    else some mgr

def magicAt (raw : List UInt8) (k : Nat) : Option Nat :=
  if k + 4 ≤ raw.length then some (wordOf (fun j => raw.getD j 0) k) else none

def requestFirmwareFromSys (raw : List UInt8) : Option (Option (List UInt8)) :=
  if buffSize < raw.length then some none
  else do
    let magic ← magicAt raw 0
    if magic = pack ∨ magic = code then some (some raw)
    else if raw.length < secOffset then some none
    else do
      let magic ← magicAt raw secOffset
      some (if magic = pack then some (raw.drop secOffset) else none)

def fwCheckPackVersion (buf : Buf) : Option Bool :=
  (buf.word 16).map fun version => version / 65536 % 256 = 0

def fwDataBinding (fileType : FileType) (srcFrom raw : List UInt8) (behind : Nat) (mgr : FwMgr) :
    Option FwMgr := do
  match ← requestFirmwareFromSys raw with
  | none => some mgr
  | some bytes =>
    let buf : Buf := ⟨bytes, behind⟩
    let magic ← buf.word 0
    if fileType = .videoPackage ∧ magic = pack then
      let supported ← fwCheckPackVersion buf
      if supported then fwPackageParse crc32Le kzalloc srcFrom buf mgr else some mgr
    else if fileType = .videoFwFile ∧ magic = code then fwCodeParse crc32Le kzalloc srcFrom buf mgr
    else some mgr

-- `request_decoder_firmware_on_sys` for a buffer of a size: what is copied to it, if anything.
def requestDecoderFirmwareOnSys (mgr : FwMgr) (fileName : List UInt8) (size : Int) :
    Option (Option (List UInt8)) :=
  if pathMax ≤ fileName.length + 4 then some none
  else
    match mgr.fwHead.find? fun info => info.name = fileName ++ [46, 98, 105, 110] with
    | none => some none
    | some info => do
      let data ← info.data.data
      if info.data.dataSize ≤ size then some (some data) else none

inductive Op where
  | bind (fileType : FileType) (srcFrom raw : List UInt8) (behind : Nat) (kzalloc : Call → Nat → Bool)
  | request (fileName : List UInt8) (size : Int)
  | clean

def step (mgr : FwMgr) : Op → Option FwMgr
  | .bind fileType srcFrom raw behind kzalloc =>
      fwDataBinding crc32Le kzalloc fileType srcFrom raw behind mgr
  | .request fileName size => (requestDecoderFirmwareOnSys mgr fileName size).map fun _ => mgr
  | .clean => some { mgr with fwHead := [] }

end Parsing

end UnionpiTiger.Firmware.Raw
