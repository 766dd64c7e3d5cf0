import Mathlib.Data.BitVec
import Mathlib.Data.List.Basic
import UnionpiTiger.Lib.Run

set_option autoImplicit false

namespace UnionpiTiger.H264

abbrev Byte : Type := BitVec 8

def headerBufferSize : Nat := 128 * 1024

def nalH264Sei : Nat := 6

def nalH264Sps : Nat := 7

def nalH264Pps : Nat := 8

def eilseq : Int := 84

def enomem : Int := 12

def span (mem : Nat → Byte) (n : Nat) : List Byte := (List.range n).map mem

def memcpy (dst : Nat → Byte) (place : Nat) (src : Nat → Byte) (n : Nat) : Nat → Byte :=
  fun i => if place ≤ i ∧ i < place + n then src (i - place) else dst i

def findStartCode (data : Nat → Byte) (p dataSz : Nat) : Option Nat :=
  if dataSz > 3 ∧ data p = 0 ∧ data (p + 1) = 0 ∧ data (p + 2) = 1 then some 3
  else if dataSz > 4 ∧ data p = 0 ∧ data (p + 1) = 0 ∧ data (p + 2) = 0 ∧ data (p + 3) = 1 then some 4
  else none

def searchStartcode (buf : Nat → Byte) (range : Nat) : Option Nat :=
  (List.range (range - 4)).findSome? fun p => (findStartCode buf p 7).map fun j => p + j

def nalType (buf : Nat → Byte) : Option Nat :=
  (searchStartcode buf 16).map fun pos => (buf pos).toNat % 32

-- struct vdec_h264_vsi, as far as the header cache goes.
structure Vsi where
  headerBuf : Nat → Byte
  spsSize : BitVec 32 := 0
  ppsSize : BitVec 32 := 0
  seiSize : BitVec 32 := 0
  headOffset : BitVec 32 := 0

-- A call with what vmalloc and vdec_vframe_write do in it.
structure Call where
  buf : Nat → Byte
  size : BitVec 32
  memory : Bool
  written : Int

def parks (type : Nat) : Bool := type = nalH264Sps || type = nalH264Pps || type = nalH264Sei

namespace Vsi

def room (vsi : Vsi) (size : BitVec 32) : Bool := (vsi.headOffset + size).toNat ≤ headerBufferSize

def park (vsi : Vsi) (type : Nat) (buf : Nat → Byte) (size : BitVec 32) : Vsi :=
  { vsi with
    spsSize := if type = nalH264Sps then size else vsi.spsSize
    ppsSize := if type = nalH264Pps then size else vsi.ppsSize
    seiSize := if type = nalH264Sei then size else vsi.seiSize
    headerBuf := memcpy vsi.headerBuf vsi.headOffset.toNat buf size.toNat
    headOffset := vsi.headOffset + size }

def given (vsi : Vsi) (call : Call) : List Byte :=
  if vsi.headOffset = 0 then span call.buf call.size.toNat
  else
    let writeBuf := memcpy vsi.headerBuf vsi.headOffset.toNat call.buf call.size.toNat
    span writeBuf (vsi.headOffset + call.size).toNat

-- vdec_write_nalu where is_combine is false: the cache, the result and the bytes that were written.
def writeNalu (vsi : Vsi) (call : Call) : Vsi × Int × List Byte :=
  let taken := if call.written > 0 then vsi.given call else []
  match nalType call.buf with
  | none => (vsi, -1, [])
  | some type =>
    if parks type then
      if vsi.room call.size then (vsi.park type call.buf call.size, call.size.toInt, [])
        else (vsi, -eilseq, [])
    else if vsi.headOffset = 0 then (vsi, call.written, taken)
    else if call.memory then
      ({ headerBuf := memcpy vsi.headerBuf 0 (fun _ => 0) headerBufferSize }, call.written, taken)
    else (vsi, -enomem, [])

end Vsi

structure Feed where
  vsi : Vsi
  accepted : List Byte
  returned : List Byte

namespace Feed

def result (feed : Feed) (call : Call) : Int := (feed.vsi.writeNalu call).2.1

def step (feed : Feed) (call : Call) : Feed :=
  let (vsi, ret, taken) := feed.vsi.writeNalu call
  { vsi
    accepted := feed.accepted ++ taken
    returned := if ret > 0 then feed.returned ++ span call.buf call.size.toNat else feed.returned }

def start : Feed := { vsi := { headerBuf := fun _ => 0 }, accepted := [], returned := [] }

structure Kept (feed : Feed) : Prop where
  bytes : feed.accepted ++ span feed.vsi.headerBuf feed.vsi.headOffset.toNat = feed.returned
  bounded : feed.vsi.headOffset.toNat ≤ headerBufferSize

def Unharmed (feed : Feed) (call : Call) : Prop :=
  feed.result call ≤ 0 →
    (feed.step call).vsi.headerBuf = feed.vsi.headerBuf ∧
      (feed.step call).vsi.headOffset = feed.vsi.headOffset ∧
      ∀ again, (feed.step call).vsi.given again = feed.vsi.given again

def Right (feed : Feed) (call : Call) : Prop := (feed.step call).Kept ∧ feed.Unharmed call

def Fits (feed : Feed) (call : Call) : Prop :=
  ∀ type, nalType call.buf = some type →
    if parks type then
      feed.vsi.room call.size = true → feed.vsi.headOffset.toNat + call.size.toNat < 2 ^ 32
    else
      feed.vsi.headOffset ≠ 0 → call.memory = true →
        call.written > 0 ∧ feed.vsi.headOffset.toNat + call.size.toNat < 2 ^ 32

end Feed

theorem span_length (mem : Nat → Byte) (n : Nat) : (span mem n).length = n := by
  simp [span]

theorem span_zero (mem : Nat → Byte) : span mem 0 = [] := rfl

theorem span_memcpy (dst src : Nat → Byte) (place n : Nat) :
    span (memcpy dst place src n) (place + n) = span dst place ++ span src n := by
  unfold span
  rw [List.range_add, List.map_append, List.map_map]
  refine congrArg₂ (· ++ ·) (List.map_congr_left fun i below => ?_)
    (List.map_congr_left fun _ below => ?_)
  · have less := List.mem_range.mp below
    exact if_neg fun inside => Nat.not_le.mpr less inside.1
  · have less := List.mem_range.mp below
    unfold memcpy
    rw [Function.comp_apply, if_pos ⟨Nat.le_add_right _ _, Nat.add_lt_add_left less _⟩,
      Nat.add_sub_cancel_left]

theorem memcpy_zero (dst src : Nat → Byte) (place : Nat) : memcpy dst place src 0 = dst :=
  funext fun _ => if_neg fun inside => Nat.not_lt.mpr inside.1 inside.2

namespace Feed

variable {feed : Feed} {call : Call}

theorem Kept.unharmed_of_same (kept : feed.Kept) {ret : Int} (fails : ret ≤ 0)
    (same : feed.vsi.writeNalu call = (feed.vsi, ret, [])) : feed.Right call := by
  have step : feed.step call = feed := by
    unfold Feed.step
    rw [same]
    dsimp only
    rw [if_neg (Int.not_lt.mpr fails), List.append_nil]
  refine ⟨by rw [step]; exact kept, fun _ => ?_⟩
  rw [step]
  exact ⟨rfl, rfl, fun _ => rfl⟩

theorem toNat_add_of_lt {a b : BitVec 32} (small : a.toNat + b.toNat < 2 ^ 32) :
    (a + b).toNat = a.toNat + b.toNat := by
  rw [BitVec.toNat_add, Nat.mod_eq_of_lt small]

theorem given_congr {vsi vsi' : Vsi} (buf : vsi'.headerBuf = vsi.headerBuf)
    (offset : vsi'.headOffset = vsi.headOffset) (again : Call) :
    vsi'.given again = vsi.given again := by
  unfold Vsi.given
  rw [buf, offset]

theorem Kept.parked (kept : feed.Kept) {type : Nat} (room : feed.vsi.room call.size = true)
    (parked : feed.vsi.writeNalu call = (feed.vsi.park type call.buf call.size, call.size.toInt, [])) :
    feed.Right call ↔ feed.vsi.headOffset.toNat + call.size.toNat < 2 ^ 32 := by
  have bounded := kept.bounded
  have fits : (feed.vsi.headOffset + call.size).toNat ≤ headerBufferSize := of_decide_eq_true room
  have vsi : (feed.step call).vsi = feed.vsi.park type call.buf call.size := by
    unfold Feed.step
    rw [parked]
  have result : feed.result call = call.size.toInt := congrArg (fun answer => answer.2.1) parked
  unfold headerBufferSize at bounded fits
  constructor
  · rintro ⟨-, unharmed⟩
    by_contra wraps
    have below := call.size.isLt
    have negative : feed.result call ≤ 0 := by
      rw [result, BitVec.toInt_eq_toNat_cond, if_neg (by omega)]
      omega
    have offset := (unharmed negative).2.1
    rw [vsi] at offset
    have none : call.size = 0 := left_eq_add.mp (Eq.symm offset)
    rw [none] at wraps
    exact wraps (by
      rw [show (0 : BitVec 32).toNat = 0 from rfl]
      omega)
  · intro small
    have sum := toNat_add_of_lt small
    rw [sum] at fits
    have exact_ : call.size.toInt = call.size.toNat := by
      rw [BitVec.toInt_eq_toNat_cond, if_pos (by omega)]
    have bytes : (feed.step call).accepted ++
        span (feed.step call).vsi.headerBuf (feed.step call).vsi.headOffset.toNat =
        feed.returned ++ span call.buf call.size.toNat := by
      have accepted : (feed.step call).accepted = feed.accepted := by
        unfold Feed.step
        rw [parked]
        exact List.append_nil _
      rw [accepted, vsi]
      change feed.accepted ++ span (memcpy _ _ _ _) (feed.vsi.headOffset + call.size).toNat = _
      rw [sum, span_memcpy, ← List.append_assoc, kept.bytes]
    have returned : (feed.step call).returned =
        if call.size.toInt > 0 then feed.returned ++ span call.buf call.size.toNat
          else feed.returned := by
      unfold Feed.step
      rw [parked]
    refine ⟨⟨?_, ?_⟩, fun fails => ?_⟩
    · rw [bytes, returned]
      split
      next => rfl
      next none =>
        have zero : call.size.toNat = 0 := by omega
        rw [zero, span_zero, List.append_nil]
    · rw [vsi]
      exact sum.le.trans fits
    · rw [result] at fails
      have zero : call.size.toNat = 0 := by omega
      have none : call.size = 0 := BitVec.eq_of_toNat_eq zero
      have buf : (feed.step call).vsi.headerBuf = feed.vsi.headerBuf := by
        rw [vsi]
        change memcpy feed.vsi.headerBuf _ call.buf call.size.toNat = _
        rw [zero, memcpy_zero]
      have offset : (feed.step call).vsi.headOffset = feed.vsi.headOffset := by
        rw [vsi]
        change feed.vsi.headOffset + call.size = _
        rw [none, add_zero]
      exact ⟨buf, offset, given_congr buf offset⟩

theorem Kept.flushed (kept : feed.Kept) (some : feed.vsi.headOffset ≠ 0)
    (flushed : feed.vsi.writeNalu call =
      ({ headerBuf := memcpy feed.vsi.headerBuf 0 (fun _ => 0) headerBufferSize },
      call.written, if call.written > 0 then feed.vsi.given call else [])) :
    feed.Right call ↔ call.written > 0 ∧ feed.vsi.headOffset.toNat + call.size.toNat < 2 ^ 32 := by
  have result : feed.result call = call.written := congrArg (fun answer => answer.2.1) flushed
  have offset : (feed.step call).vsi.headOffset = 0 := by
    unfold Feed.step
    rw [flushed]
  have given : feed.vsi.given call =
      span (memcpy feed.vsi.headerBuf feed.vsi.headOffset.toNat call.buf call.size.toNat)
        (feed.vsi.headOffset + call.size).toNat :=
    if_neg some
  constructor
  · rintro ⟨after, unharmed⟩
    by_cases accepted : call.written > 0
    · refine ⟨accepted, ?_⟩
      have bytes := congrArg List.length after.bytes
      have before := congrArg List.length kept.bytes
      rw [offset] at bytes
      unfold Feed.step at bytes
      rw [flushed] at bytes
      dsimp only at bytes
      rw [if_pos accepted, if_pos accepted, given] at bytes
      rw [List.length_append, span_length] at before
      rw [show (0 : BitVec 32).toNat = 0 from rfl, span_zero, List.append_nil, List.length_append,
        List.length_append, span_length, span_length, BitVec.toNat_add] at bytes
      have below := Nat.mod_lt (feed.vsi.headOffset.toNat + call.size.toNat) (Nat.two_pow_pos 32)
      omega
    · have same := (unharmed (by rw [result]; omega)).2.1
      exact absurd (same.symm.trans offset) some
  · rintro ⟨accepted, small⟩
    refine ⟨⟨?_, ?_⟩, fun fails => ?_⟩
    · rw [offset]
      unfold Feed.step
      rw [flushed]
      dsimp only
      rw [if_pos accepted, if_pos accepted, given, toNat_add_of_lt small, span_memcpy, ← kept.bytes]
      change _ ++ [] = _
      rw [List.append_nil, List.append_assoc]
    · rw [offset]
      exact Nat.zero_le _
    · rw [result] at fails
      omega

theorem Kept.straight (kept : feed.Kept) (none : feed.vsi.headOffset = 0)
    (straight : feed.vsi.writeNalu call = (feed.vsi, call.written,
      if call.written > 0 then feed.vsi.given call else [])) :
    feed.Right call := by
  have given : feed.vsi.given call = span call.buf call.size.toNat := if_pos none
  have vsi : (feed.step call).vsi = feed.vsi := by
    unfold Feed.step
    rw [straight]
  refine ⟨⟨?_, by rw [vsi]; exact kept.bounded⟩, fun _ => ?_⟩
  · have bytes := kept.bytes
    rw [vsi]
    rw [none] at bytes ⊢
    change _ ++ [] = _ at bytes
    change _ ++ [] = _
    rw [List.append_nil] at bytes ⊢
    unfold Feed.step
    rw [straight]
    dsimp only
    split
    next => rw [given, bytes]
    next => rw [List.append_nil, bytes]
  · rw [vsi]
    exact ⟨rfl, rfl, fun _ => rfl⟩

theorem Kept.right_iff (kept : feed.Kept) (call : Call) : feed.Right call ↔ feed.Fits call := by
  unfold Fits
  cases found : nalType call.buf with
  | none =>
    have same : feed.vsi.writeNalu call = (feed.vsi, -1, []) := by
      unfold Vsi.writeNalu
      rw [found]
    exact iff_of_true (kept.unharmed_of_same (by decide) same) nofun
  | some type =>
    have only : ∀ motive : Nat → Prop, (∀ type', some type = some type' → motive type') ↔
        motive type := fun _ =>
      ⟨fun all => all type rfl, fun here _ same => Option.some.inj same ▸ here⟩
    rw [only]
    have write : feed.vsi.writeNalu call = if parks type then
        if feed.vsi.room call.size then (feed.vsi.park type call.buf call.size, call.size.toInt, [])
          else (feed.vsi, -eilseq, [])
      else if feed.vsi.headOffset = 0 then
        (feed.vsi, call.written, if call.written > 0 then feed.vsi.given call else [])
      else if call.memory
        then ({ headerBuf := memcpy feed.vsi.headerBuf 0 (fun _ => 0) headerBufferSize },
        call.written, if call.written > 0 then feed.vsi.given call else [])
      else (feed.vsi, -enomem, []) := by
      unfold Vsi.writeNalu
      rw [found]
    by_cases parks : parks type = true
    · rw [if_pos parks] at write ⊢
      by_cases room : feed.vsi.room call.size = true
      · rw [if_pos room] at write
        rw [kept.parked room write]
        exact ⟨fun small _ => small, fun fits => fits room⟩
      · rw [if_neg room] at write
        exact iff_of_true (kept.unharmed_of_same (by decide) write) fun fits => absurd fits room
    · rw [if_neg parks] at write ⊢
      by_cases empty : feed.vsi.headOffset = 0
      · rw [if_pos empty] at write
        exact iff_of_true (kept.straight empty write) fun some => absurd empty some
      · rw [if_neg empty] at write
        by_cases memory : call.memory = true
        · rw [if_pos memory] at write
          rw [kept.flushed empty write]
          exact ⟨fun fits _ _ => fits, fun fits => fits empty memory⟩
        · rw [if_neg memory] at write
          exact iff_of_true (kept.unharmed_of_same (by decide) write) fun _ has => absurd has memory

theorem bounded_step (bounded : feed.vsi.headOffset.toNat ≤ headerBufferSize) (call : Call) :
    (feed.step call).vsi.headOffset.toNat ≤ headerBufferSize := by
  change (feed.vsi.writeNalu call).1.headOffset.toNat ≤ headerBufferSize
  unfold Vsi.writeNalu
  dsimp only
  split
  next => exact bounded
  next type _ =>
    split
    next =>
      split
      next room => exact of_decide_eq_true room
      next => exact bounded
    next =>
      split
      next => exact bounded
      next =>
        split
        next => exact Nat.zero_le _
        next => exact bounded

theorem start_kept : start.Kept := ⟨rfl, Nat.zero_le _⟩

theorem header_kept (calls : List Call) :
    (Lib.run step start calls).vsi.headOffset.toNat ≤ headerBufferSize ∧
      (Lib.Along step Right start calls ↔ Lib.Along step Fits start calls) := by
  constructor
  · exact Lib.run_always step (fun feed => feed.vsi.headOffset.toNat ≤ headerBufferSize)
      (fun _ call bounded => bounded_step bounded call) start (Nat.zero_le _) calls
  · refine Lib.along_iff_along step (fun _ _ => True) Right Fits Kept (fun _ call kept _ =>
      kept.right_iff call)
      (fun _ _ _ _ right => right.1) start start_kept calls ?_
    exact (Lib.along_iff_forall step (fun _ => True) start calls).mpr fun _ _ => trivial

def sps : Nat → Byte := fun i => if i = 2 then 1 else if i = 3 then 0x67 else 0

def slice : Nat → Byte := fun i => if i = 2 then 1 else if i = 3 then 0x65 else 0

theorem header_lost :
    let tries : List Call := [⟨sps, 6, true, 1⟩, ⟨slice, 6, true, -11⟩]
    let feed := Lib.run step start tries
    (start.step ⟨sps, 6, true, 1⟩).result ⟨slice, 6, true, -11⟩ = -11 ∧
      (start.step ⟨sps, 6, true, 1⟩).vsi.headOffset = 6 ∧ feed.vsi.headOffset = 0 ∧
      (start.step ⟨sps, 6, true, 1⟩).vsi.given ⟨slice, 6, true, 1⟩ =
        [0, 0, 1, 0x67, 0, 0, 0, 0, 1, 0x65, 0, 0] ∧
      feed.vsi.given ⟨slice, 6, true, 1⟩ = [0, 0, 1, 0x65, 0, 0] ∧
      (feed.step ⟨slice, 6, true, 1⟩).accepted = [0, 0, 1, 0x65, 0, 0] ∧
      (feed.step ⟨slice, 6, true, 1⟩).returned = [0, 0, 1, 0x67, 0, 0, 0, 0, 1, 0x65, 0, 0] := by
  decide +kernel

end Feed

end UnionpiTiger.H264
