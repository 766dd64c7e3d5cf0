import Mathlib.Data.Nat.Log
import UnionpiTiger.Lib.Triples
import UnionpiTiger.Lib.Words

set_option autoImplicit false

namespace UnionpiTiger.H264.SpsParser

open Lib

def golombVlcLen : List Nat := [
  19,17,15,15,13,13,13,13,11,11,11,11,11,11,11,11,9,9,9,9,9,9,9,9,9,9,9,9,9,9,9,9,
  7,7,7,7,7,7,7,7,7,7,7,7,7,7,7,7,7,7,7,7,7,7,7,7,7,7,7,7,7,7,7,7,
  5,5,5,5,5,5,5,5,5,5,5,5,5,5,5,5,5,5,5,5,5,5,5,5,5,5,5,5,5,5,5,5,
  5,5,5,5,5,5,5,5,5,5,5,5,5,5,5,5,5,5,5,5,5,5,5,5,5,5,5,5,5,5,5,5,
  3,3,3,3,3,3,3,3,3,3,3,3,3,3,3,3,3,3,3,3,3,3,3,3,3,3,3,3,3,3,3,3,
  3,3,3,3,3,3,3,3,3,3,3,3,3,3,3,3,3,3,3,3,3,3,3,3,3,3,3,3,3,3,3,3,
  3,3,3,3,3,3,3,3,3,3,3,3,3,3,3,3,3,3,3,3,3,3,3,3,3,3,3,3,3,3,3,3,
  3,3,3,3,3,3,3,3,3,3,3,3,3,3,3,3,3,3,3,3,3,3,3,3,3,3,3,3,3,3,3,3,
  1,1,1,1,1,1,1,1,1,1,1,1,1,1,1,1,1,1,1,1,1,1,1,1,1,1,1,1,1,1,1,1,
  1,1,1,1,1,1,1,1,1,1,1,1,1,1,1,1,1,1,1,1,1,1,1,1,1,1,1,1,1,1,1,1,
  1,1,1,1,1,1,1,1,1,1,1,1,1,1,1,1,1,1,1,1,1,1,1,1,1,1,1,1,1,1,1,1,
  1,1,1,1,1,1,1,1,1,1,1,1,1,1,1,1,1,1,1,1,1,1,1,1,1,1,1,1,1,1,1,1,
  1,1,1,1,1,1,1,1,1,1,1,1,1,1,1,1,1,1,1,1,1,1,1,1,1,1,1,1,1,1,1,1,
  1,1,1,1,1,1,1,1,1,1,1,1,1,1,1,1,1,1,1,1,1,1,1,1,1,1,1,1,1,1,1,1,
  1,1,1,1,1,1,1,1,1,1,1,1,1,1,1,1,1,1,1,1,1,1,1,1,1,1,1,1,1,1,1,1,
  1,1,1,1,1,1,1,1,1,1,1,1,1,1,1,1,1,1,1,1,1,1,1,1,1,1,1,1,1,1,1,1]

def ueGolombVlcCode : List Nat := [
  32,32,32,32,32,32,32,32,31,32,32,32,32,32,32,32,15,16,17,18,19,20,21,22,
  23,24,25,26,27,28,29,30,7,7,7,7,8,8,8,8,9,9,9,9,10,10,10,10,
  11,11,11,11,12,12,12,12,13,13,13,13,14,14,14,14,3,3,3,3,3,3,3,3,
  3,3,3,3,3,3,3,3,4,4,4,4,4,4,4,4,4,4,4,4,4,4,4,4,
  5,5,5,5,5,5,5,5,5,5,5,5,5,5,5,5,6,6,6,6,6,6,6,6,
  6,6,6,6,6,6,6,6,1,1,1,1,1,1,1,1,1,1,1,1,1,1,1,1,
  1,1,1,1,1,1,1,1,1,1,1,1,1,1,1,1,1,1,1,1,1,1,1,1,
  1,1,1,1,1,1,1,1,1,1,1,1,1,1,1,1,1,1,1,1,1,1,1,1,
  2,2,2,2,2,2,2,2,2,2,2,2,2,2,2,2,2,2,2,2,2,2,2,2,
  2,2,2,2,2,2,2,2,2,2,2,2,2,2,2,2,2,2,2,2,2,2,2,2,
  2,2,2,2,2,2,2,2,2,2,2,2,2,2,2,2,0,0,0,0,0,0,0,0,
  0,0,0,0,0,0,0,0,0,0,0,0,0,0,0,0,0,0,0,0,0,0,0,0,
  0,0,0,0,0,0,0,0,0,0,0,0,0,0,0,0,0,0,0,0,0,0,0,0,
  0,0,0,0,0,0,0,0,0,0,0,0,0,0,0,0,0,0,0,0,0,0,0,0,
  0,0,0,0,0,0,0,0,0,0,0,0,0,0,0,0,0,0,0,0,0,0,0,0,
  0,0,0,0,0,0,0,0,0,0,0,0,0,0,0,0,0,0,0,0,0,0,0,0,
  0,0,0,0,0,0,0,0,0,0,0,0,0,0,0,0,0,0,0,0,0,0,0,0,
  0,0,0,0,0,0,0,0,0,0,0,0,0,0,0,0,0,0,0,0,0,0,0,0,
  0,0,0,0,0,0,0,0,0,0,0,0,0,0,0,0,0,0,0,0,0,0,0,0,
  0,0,0,0,0,0,0,0,0,0,0,0,0,0,0,0,0,0,0,0,0,0,0,0,
  0,0,0,0,0,0,0,0,0,0,0,0,0,0,0,0,0,0,0,0,0,0,0,0,
  0,0,0,0,0,0,0,0]

def seGolombVlcCode : List Int := [
  17,17,17,17,17,17,17,17,16,17,17,17,17,17,17,17,8,-8,9,-9,10,-10,11,-11,
  12,-12,13,-13,14,-14,15,-15,4,4,4,4,-4,-4,-4,-4,5,5,5,5,-5,-5,-5,-5,
  6,6,6,6,-6,-6,-6,-6,7,7,7,7,-7,-7,-7,-7,2,2,2,2,2,2,2,2,
  2,2,2,2,2,2,2,2,-2,-2,-2,-2,-2,-2,-2,-2,-2,-2,-2,-2,-2,-2,-2,-2,
  3,3,3,3,3,3,3,3,3,3,3,3,3,3,3,3,-3,-3,-3,-3,-3,-3,-3,-3,
  -3,-3,-3,-3,-3,-3,-3,-3,1,1,1,1,1,1,1,1,1,1,1,1,1,1,1,1,
  1,1,1,1,1,1,1,1,1,1,1,1,1,1,1,1,1,1,1,1,1,1,1,1,
  1,1,1,1,1,1,1,1,1,1,1,1,1,1,1,1,1,1,1,1,1,1,1,1,
  -1,-1,-1,-1,-1,-1,-1,-1,-1,-1,-1,-1,-1,-1,-1,-1,-1,-1,-1,-1,-1,-1,-1,-1,
  -1,-1,-1,-1,-1,-1,-1,-1,-1,-1,-1,-1,-1,-1,-1,-1,-1,-1,-1,-1,-1,-1,-1,-1,
  -1,-1,-1,-1,-1,-1,-1,-1,-1,-1,-1,-1,-1,-1,-1,-1,0,0,0,0,0,0,0,0,
  0,0,0,0,0,0,0,0,0,0,0,0,0,0,0,0,0,0,0,0,0,0,0,0,
  0,0,0,0,0,0,0,0,0,0,0,0,0,0,0,0,0,0,0,0,0,0,0,0,
  0,0,0,0,0,0,0,0,0,0,0,0,0,0,0,0,0,0,0,0,0,0,0,0,
  0,0,0,0,0,0,0,0,0,0,0,0,0,0,0,0,0,0,0,0,0,0,0,0,
  0,0,0,0,0,0,0,0,0,0,0,0,0,0,0,0,0,0,0,0,0,0,0,0,
  0,0,0,0,0,0,0,0,0,0,0,0,0,0,0,0,0,0,0,0,0,0,0,0,
  0,0,0,0,0,0,0,0,0,0,0,0,0,0,0,0,0,0,0,0,0,0,0,0,
  0,0,0,0,0,0,0,0,0,0,0,0,0,0,0,0,0,0,0,0,0,0,0,0,
  0,0,0,0,0,0,0,0,0,0,0,0,0,0,0,0,0,0,0,0,0,0,0,0,
  0,0,0,0,0,0,0,0,0,0,0,0,0,0,0,0,0,0,0,0,0,0,0,0,
  0,0,0,0,0,0,0,0]

-- Why the parser does not come to its end: it fails, or it would divide by zero or read outside
-- of a table.
inductive Stop where
  | failed
  | divided
  | outside
deriving DecidableEq

structure Reader where
  index : Nat
  touched : Nat

def Reader.advance (r : Reader) (behind len : Nat) : Reader :=
  { index := r.index + len, touched := max r.touched behind }

abbrev Reading (α : Type) : Type := Prog Reader Stop α

def ffLog2Tab : List Nat := [
  0,0,1,1,2,2,2,2,3,3,3,3,3,3,3,3,4,4,4,4,4,4,4,4,4,4,4,4,4,4,4,4,
  5,5,5,5,5,5,5,5,5,5,5,5,5,5,5,5,5,5,5,5,5,5,5,5,5,5,5,5,5,5,5,5,
  6,6,6,6,6,6,6,6,6,6,6,6,6,6,6,6,6,6,6,6,6,6,6,6,6,6,6,6,6,6,6,6,
  6,6,6,6,6,6,6,6,6,6,6,6,6,6,6,6,6,6,6,6,6,6,6,6,6,6,6,6,6,6,6,6,
  7,7,7,7,7,7,7,7,7,7,7,7,7,7,7,7,7,7,7,7,7,7,7,7,7,7,7,7,7,7,7,7,
  7,7,7,7,7,7,7,7,7,7,7,7,7,7,7,7,7,7,7,7,7,7,7,7,7,7,7,7,7,7,7,7,
  7,7,7,7,7,7,7,7,7,7,7,7,7,7,7,7,7,7,7,7,7,7,7,7,7,7,7,7,7,7,7,7,
  7,7,7,7,7,7,7,7,7,7,7,7,7,7,7,7,7,7,7,7,7,7,7,7,7,7,7,7,7,7,7,7]

def shortLog2? (v n : Nat) : Option Nat :=
  if 256 ≤ v then ffLog2Tab[v / 256]?.map fun log => n + 8 + log
    else ffLog2Tab[v]?.map fun log => n + log

-- `av_log2`, with the masks as comparisons: none where its table is left.
def avLog2? (v : Nat) : Option Nat := if 65536 ≤ v then shortLog2? (v / 65536) 16 else shortLog2? v 0

section Reads

variable (m : Nat → UInt8)

def cacheAt (index : Nat) : Nat :=
  let bytes := (m (index / 8)).toNat * 16777216 + (m (index / 8 + 1)).toNat * 65536 +
    (m (index / 8 + 2)).toNat * 256 +
    (m (index / 8 + 3)).toNat
  bytes * 2 ^ (index % 8) % 4294967296

def getBits (n : Nat) :
    Reading Nat := fun r => (.ok (cacheAt m r.index >>> (32 - n)), r.advance (r.index / 8 + 4) n)

def bitAt (index : Nat) : Nat := (m (index / 8)).toNat * 2 ^ (index % 8) % 256 / 128

def getBits1 : Reading Nat := fun r => (.ok (bitAt m r.index), r.advance (r.index / 8 + 1) 1)

def showBits (n : Nat) :
    Reading Nat := fun r => (.ok (cacheAt m r.index >>> (32 - n)), r.advance (r.index / 8 + 4) 0)

def skipBits (n : Nat) : Reading Unit := fun r => (.ok (), r.advance 0 n)

def lookup {α : Type} (table : List α) (i : Nat) : Reading α := fun r =>
  match table[i]? with
  | some a => (.ok a, r)
  | none => (.error .outside, r)

def avLog2 (v : Nat) : Reading Nat := fun r =>
  match avLog2? v with
  | some log => (.ok log, r)
  | none => (.error .outside, r)

def fillCache : Reading Nat := fun r => (.ok (cacheAt m r.index), r.advance (r.index / 8 + 4) 0)

def getUeGolomb : Reading Int := do
  let buf ← fillCache m
  if 134217728 ≤ buf then do
    let len ← lookup golombVlcLen (buf >>> 23)
    let code ← lookup ueGolombVlcCode (buf >>> 23)
    skipBits len
    pure (code : Int)
  else do
    let log2 ← avLog2 buf
    let log : Int := 2 * log2 - 31
    skipBits (32 - log).toNat
    if log < 7 then pure (-1) else pure ((buf >>> log.toNat : Nat) - 1)

def ueAt (index : Nat) : Int := (getUeGolomb m { index, touched := 0 }).1.toOption.getD (-1)

def getUeGolomb31 : Reading Nat := do
  let buf ← fillCache m
  let len ← lookup golombVlcLen (buf >>> 23)
  skipBits len
  lookup ueGolombVlcCode (buf >>> 23)

def getUeGolombLong : Reading Nat := do
  let buf ← showBits m 32
  let log2 ← avLog2 buf
  let log := 31 - log2
  skipBits log
  let code ← getBits m (log + 1)
  pure (u32 ((code : Int) - 1))

def getSeGolomb : Reading Int := do
  let buf ← fillCache m
  if 134217728 ≤ buf then do
    let len ← lookup golombVlcLen (buf >>> 23)
    let code ← lookup seGolombVlcCode (buf >>> 23)
    skipBits len
    pure code
  else do
    let log ← avLog2 buf
    skipBits (31 - log)
    let rest ← fillCache m
    let buf := rest >>> log
    skipBits (32 - log)
    pure (if buf % 2 = 1 then -((buf / 2 : Nat) : Int) else (buf / 2 : Nat))

def getSeGolombLong : Reading Int := do
  let buf ← getUeGolombLong m
  pure (s32 (if buf % 2 = 1 then ((buf / 2 + 1 : Nat) : Int) else -((buf / 2 : Nat) : Int)))

end Reads

end UnionpiTiger.H264.SpsParser
