import Mathlib.Algebra.Order.Ring.Nat
import Mathlib.Data.List.Basic

set_option autoImplicit false

namespace UnionpiTiger.Firmware

def tag (a b c d : Char) : Nat := a.toNat * 2 ^ 24 + b.toNat * 2 ^ 16 + c.toNat * 2 ^ 8 + d.toNat

def firmwareMax : Nat := 2 ^ 32 - 1

def formatName : List (Nat × String) :=
  [(0, "mpeg12"), (tag 'M' '1' '2' 'M', "mpeg12_multi"), (1, "mpeg4_3"), (2, "mpeg4_4"),
    (tag 'M' '4' '4' 'M', "mpeg4_4_multi"), (3, "xvid"), (tag 'M' '4' '5' 'M', "xvid_multi"), (4, "h263"),
    (tag '2' '6' '3' 'M', "h263_multi"), (5, "mjpeg"), (6, "mjpeg_multi"), (7, "real_v8"), (8, "real_v9"),
    (9, "vc1"), (32, "vc1_g12a"), (10, "avs"), (28, "avs_gxm"), (29, "avs_no_cabac"),
    (tag 'A' 'V' 'S' 'M', "avs_multi"), (11, "h264"), (14, "h264_mvc"), (31, "h264_mvc_gxm"), (15, "h264_multi"),
    (23, "h264_multi_mmu"), (30, "h264_multi_gxm"), (16, "hevc"), (17, "hevc_mmu"),
    (tag '2' '6' '5' 'S', "hevc_mmu_swap"), (24, "hevc_g12a"), (18, "vp9"), (19, "vp9_mmu"), (25, "vp9_g12a"),
    (26, "avs2"), (27, "avs2_mmu"), (tag 'A' 'V' '1' 'M', "av1_mmu"), (20, "h264_enc"), (21, "jpeg_enc"),
    (firmwareMax, "unknown")]

def cpuType : List (Nat × String) :=
  [(0x21, "gxl"), (0x22, "gxm"), (0x23, "txl"), (0x24, "txlx"), (0x25, "axg"), (0x26, "gxlx"), (0x27, "txhd"),
    (0x28, "g12a"), (0x29, "g12b"), (0x2a, "gxlx2"), (0x2b, "sm1"), (0x2e, "tl1"), (0x2f, "tm2")]

def lookup (default : Nat) (table : List (Nat × String)) (name : String) : Nat :=
  table.foldl (fun value entry => if name = entry.2 then entry.1 else value) default

def getFwFormat (name : String) : Nat := lookup firmwareMax formatName name

def fwGetCpu (name : String) : Nat := lookup 0 cpuType name

structure FirmwareData where
  checksum : UInt32
  cpu : String
  format : String
  dataSize : Nat
  duplicate : Bool
  data : List UInt8
deriving DecidableEq, Repr

def FirmwareData.payload (fw : FirmwareData) : List UInt8 :=
  (List.range fw.dataSize).map fun k => fw.data.getD k 0

inductive FileType where
  | videoPackage
  | videoFwFile
deriving DecidableEq, Repr

structure FwInfo where
  name : String
  srcFrom : String
  fileType : FileType
  format : Nat
  data : FirmwareData
deriving DecidableEq, Repr

structure PackageInfo where
  name : String
  format : String
  data : FirmwareData
deriving DecidableEq, Repr

structure FwMgr where
  curCpu : Nat
  fwHead : List FwInfo := []

def tryParseMax : Nat := 256

variable (crc32Le : UInt32 → List UInt8 → UInt32)

def fwDataCheckSum (fw : FirmwareData) : Bool :=
  fw.checksum = crc32Le 0xFFFFFFFF fw.payload ^^^ 0xFFFFFFFF

def filterWalk (cpu format : Nat) : List FwInfo → Bool × List FwInfo
  | [] => (false, [])
  | info :: rest =>
    if info.format ≠ format
      then ((filterWalk cpu format rest).1, info :: (filterWalk cpu format rest).2)
    else if info.fileType = .videoFwFile then (true, info :: rest)
    else if cpu < fwGetCpu info.data.cpu then (true, info :: rest)
    else filterWalk cpu format rest

def fwDataFilter (mgr : FwMgr) (fw : FirmwareData) (format : Nat) : Bool × List FwInfo :=
  if mgr.curCpu < fwGetCpu fw.cpu then (true, mgr.fwHead)
  else if format = firmwareMax then (false, mgr.fwHead)
  else filterWalk (fwGetCpu fw.cpu) format mgr.fwHead

def replaceWith (comp : FirmwareData) (info : FwInfo) : FwInfo :=
  if info.data.duplicate ∧ comp.checksum = info.data.checksum then
    { info with data := { info.data with dataSize := comp.dataSize, data := comp.data } }
  else info

def fwReplaceDupData (fwHead : List FwInfo) (records : List PackageInfo) : List FwInfo :=
  records.foldl (fun fwHead record => if record.data.duplicate then fwHead
    else fwHead.map (replaceWith record.data)) fwHead

def packageEntry (srcFrom : String) (record : PackageInfo) : FwInfo where
  name := record.name
  srcFrom := srcFrom
  fileType := .videoPackage
  format := getFwFormat record.format
  data := record.data

def parseRecord (srcFrom : String) (mgr : FwMgr) (record : PackageInfo) : FwMgr :=
  let (dropped, fwHead) := fwDataFilter mgr record.data (getFwFormat record.format)
  { mgr with fwHead := if dropped then fwHead else packageEntry srcFrom record :: fwHead }

def parseRecords (srcFrom : String) : List PackageInfo → FwMgr → Bool × FwMgr
  | [], mgr => (true, mgr)
  | record :: rest, mgr =>
    if !record.data.duplicate && !fwDataCheckSum crc32Le record.data then (false, mgr)
    else parseRecords srcFrom rest (parseRecord srcFrom mgr record)

def fwPackageParse (mgr : FwMgr) (srcFrom : String) (package : List PackageInfo) : FwMgr :=
  let records := package.take (tryParseMax + 1)
  let (through, mgr) := parseRecords crc32Le srcFrom records mgr
  if through then { mgr with fwHead := fwReplaceDupData mgr.fwHead records } else mgr

def fwCodeParse (mgr : FwMgr) (srcFrom : String) (fw : FirmwareData) : FwMgr :=
  if fwDataCheckSum crc32Le fw then
    { mgr with fwHead := { name := "", srcFrom := srcFrom, fileType := .videoFwFile, format := 0, data := fw } :: mgr.fwHead }
  else mgr

inductive FwFile where
  | package (name : String) (records : List PackageInfo)
  | code (name : String) (fw : FirmwareData)

def FwMgr.parse (mgr : FwMgr) : FwFile → FwMgr
  | .package name records => fwPackageParse crc32Le mgr name records
  | .code name fw => fwCodeParse crc32Le mgr name fw

end UnionpiTiger.Firmware
