import Mathlib.Algebra.Order.BigOperators.Group.List
import Mathlib.Algebra.Order.Ring.Nat
import Mathlib.Data.List.Nodup
import Mathlib.Data.List.Perm.Basic
import UnionpiTiger.Vdec.Input

set_option autoImplicit false

namespace UnionpiTiger.Amports

open Lib Vdec

def eFault : Int := 14

inductive Pointer where
  | buf (index : Nat)
  | user (address : Nat)
deriving DecidableEq, Repr

structure ThreadrwBuf where
  vbuffer : Nat → UInt8
  writeOff : Int
  dataSize : Int
  bufferSize : Int

structure ThreadrwWriteTask where
  buf : Nat → ThreadrwBuf
  bufsNum : Nat
  capacity : Nat
  datafifo : List Pointer
  freefifo : List Pointer
  errors : Int
  bufferedDataSize : Int
  passedDataLen : Int
  dataOffset : Int

def kfifoPut (capacity : Nat) (fifo : List Pointer) (pointer : Pointer) : List Pointer :=
  if fifo.length < capacity then fifo ++ [pointer] else fifo

-- What copy_from_user leaves of a buffer. What it cannot read it fills with zeros.
def copied (buf : UserBuf) (off n : Nat) (vbuffer : Nat → UInt8) (i : Nat) : UInt8 :=
  if i < n then (if off + i < buf.readable then buf.byte (off + i) else 0) else vbuffer i

namespace ThreadrwWriteTask

-- A buffer that a caller's address stands for cannot be followed any further.
def threadrwWriteOnece (task : ThreadrwWriteTask) (buf : UserBuf) (off count : Nat) :
    Option (ThreadrwWriteTask × Int) :=
  match task.freefifo with
  | [] => some (task, if task.errors ≠ 0 then task.errors else -eAgain)
  | .user _ :: _ => none
  | .buf index :: freefifo =>
    let rwbuf := task.buf index
    let toWrite := s32 (min (u32 rwbuf.bufferSize) (u32 count) : Nat)
    let rwbuf := { rwbuf with vbuffer := copied buf off toWrite.toNat rwbuf.vbuffer }
    if buf.readable < off + toWrite.toNat then
      some ({ task with
        buf := Function.update task.buf index rwbuf
        freefifo := kfifoPut task.capacity freefifo (.user (buf.pointer + off)) }, -eFault)
    else
      some ({ task with
        buf := Function.update task.buf index { rwbuf with dataSize := toWrite, writeOff := 0 }
        freefifo
        datafifo := kfifoPut task.capacity task.datafifo (.buf index) }, toWrite)

-- The loop of threadrw_write_in, which holds the mutex while it waits. The result is what the last
-- piece returned, and how far the buffer has been written.
def writeLoop (nonblock : Bool) (buf : UserBuf) (count : Nat) :
    Nat → ThreadrwWriteTask → Int → Int → Nat → Nat → Option (ThreadrwWriteTask × Int × Int)
  | 0, _, _, _, _, _ => none
  | fuel + 1, task, ret, off, left, waitNum =>
    if left = 0 then some (task, ret, off)
    else do
      let (task, ret) ← task.threadrwWriteOnece buf off.toNat left
      if ret < 0 then
        if off > 0 then return (task, ret, off)
        else if ret = -eAgain then
          if !nonblock && waitNum + 1 < 10 then
            writeLoop nonblock buf count fuel task ret off left (waitNum + 1)
          else return (task, -eAgain, off)
        else return (task, ret, off)
      else if u64 ret ≥ left then writeLoop nonblock buf count fuel task ret (s32 count) 0 waitNum
      else if ret > 0 then
        writeLoop nonblock buf count fuel task ret (s32 (off + ret)) (left - ret.toNat) waitNum
      else writeLoop nonblock buf count fuel task ret off left waitNum

def threadrwWriteIn (task : ThreadrwWriteTask) (nonblock : Bool) (buf : UserBuf) (count : Nat) :
    Option (ThreadrwWriteTask × Int) := do
  let (task, ret, off) ← writeLoop nonblock buf count (task.freefifo.length + 11) task 0 0 count 0
  if off > 0 then
    return ({ task with
      bufferedDataSize := s32 (task.bufferedDataSize + off)
      dataOffset := s32 (task.dataOffset + off) }, off)
  else return (task, ret)

def offered (task : ThreadrwWriteTask) : Pointer → List UInt8
  | .buf index =>
    let rwbuf := task.buf index
    (List.range rwbuf.dataSize.toNat).map fun i => rwbuf.vbuffer (rwbuf.writeOff.toNat + i)
  | .user _ => []

def doWriteWorkIn (task : ThreadrwWriteTask) (ret : Int) : Option (ThreadrwWriteTask × Bool) :=
  match task.datafifo with
  | [] => some (task, false)
  | .user _ :: _ => none
  | .buf index :: datafifo =>
    let rwbuf := task.buf index
    if ret = -eAgain then some (task, false)
    else if ret ≥ rwbuf.dataSize then
      let writeLen := rwbuf.dataSize
      some ({ task with
        buf := Function.update task.buf index { rwbuf with dataSize := 0 }
        datafifo
        freefifo := kfifoPut task.capacity task.freefifo (.buf index)
        passedDataLen :=
          if writeLen > 0 then s32 (task.passedDataLen + writeLen) else task.passedDataLen }, true)
    else if ret > 0 then
      some ({ task with
        buf := Function.update task.buf index { rwbuf with
          dataSize := s32 (rwbuf.dataSize - ret)
          writeOff := s32 (rwbuf.writeOff + ret) }
        passedDataLen := s32 (task.passedDataLen + ret) }, true)
    else some ({ task with errors := ret }, false)

def taken (task : ThreadrwWriteTask) (ret : Int) : List UInt8 :=
  match task.datafifo with
  | [] => []
  | pointer :: _ => (task.offered pointer).take ret.toNat

end ThreadrwWriteTask

namespace ThreadrwWriteTask

def pointers (task : ThreadrwWriteTask) : List Pointer := (List.range task.bufsNum).map .buf

def sizeOf (task : ThreadrwWriteTask) : Pointer → Nat
  | .buf index => (task.buf index).bufferSize.toNat
  | .user _ => 0

theorem sizeOf_buf (task : ThreadrwWriteTask) (index : Nat) :
    task.sizeOf (.buf index) = (task.buf index).bufferSize.toNat := rfl

def room (task : ThreadrwWriteTask) (fifo : List Pointer) : Nat := (fifo.map task.sizeOf).sum

def Owned (task : ThreadrwWriteTask) : Prop := (task.freefifo ++ task.datafifo).Perm task.pointers

structure Sized (task : ThreadrwWriteTask) : Prop where
  positive : ∀ index, 0 ≤ (task.buf index).bufferSize
  small : task.room task.pointers < 2147483648
  capacity : task.bufsNum ≤ task.capacity

end ThreadrwWriteTask

structure ThreadrwBuf.Bounded (rwbuf : ThreadrwBuf) : Prop where
  size : 0 ≤ rwbuf.dataSize
  off : 0 ≤ rwbuf.writeOff
  inside : rwbuf.writeOff + rwbuf.dataSize ≤ rwbuf.bufferSize

namespace ThreadrwWriteTask

variable {start task : ThreadrwWriteTask} {buf : UserBuf} {off count left : Nat} {front : List Pointer}

theorem room_append (first second : List Pointer) :
    task.room (first ++ second) = task.room first + task.room second := by
  unfold room
  rw [List.map_append, List.sum_append]

theorem Owned.room (owned : task.Owned) :
    task.room task.freefifo + task.room task.datafifo = task.room task.pointers := by
  rw [← room_append]
  exact (owned.map task.sizeOf).sum_eq

theorem Owned.length (owned : task.Owned) :
    task.freefifo.length + task.datafifo.length = task.bufsNum := by
  have same := owned.length_eq
  rw [List.length_append] at same
  rw [same]
  unfold pointers
  rw [List.length_map, List.length_range]

theorem Owned.nodup (owned : task.Owned) : (task.freefifo ++ task.datafifo).Nodup :=
  owned.nodup_iff.mpr (List.Nodup.map (fun _ _ same => Pointer.buf.inj same) List.nodup_range)

theorem Owned.is_buf (owned : task.Owned) (pointer : Pointer)
    (mem : pointer ∈ task.freefifo ++ task.datafifo) : ∃ index, pointer = .buf index := by
  obtain ⟨index, -, same⟩ := List.mem_map.mp (owned.mem_iff.mp mem)
  exact ⟨index, same.symm⟩

-- What a call of threadrw_write has done so far: the buffers of `front` have been filled with the
-- first bytes of the caller's.
structure Queued (start task : ThreadrwWriteTask) (buf : UserBuf) (off : Nat) (front : List Pointer) :
    Prop where
  free : start.freefifo = front ++ task.freefifo
  data : task.datafifo = start.datafifo ++ front
  held : front.flatMap task.offered = (List.range off).map buf.byte
  sizes : ∀ index, (task.buf index).bufferSize = (start.buf index).bufferSize
  others : ∀ index, .buf index ∉ front → task.buf index = start.buf index
  bounds : ∀ index, .buf index ∈ front → (task.buf index).Bounded
  within : off ≤ start.room front
  read : off ≤ buf.readable
  rest : task = { start with buf := task.buf, freefifo := task.freefifo, datafifo := task.datafifo }

theorem queued_none (start : ThreadrwWriteTask) (buf : UserBuf) : Queued start start buf 0 [] where
  free := rfl
  data := (List.append_nil _).symm
  held := rfl
  sizes _ := rfl
  others _ _ := rfl
  bounds _ := nofun
  within := Nat.zero_le _
  read := Nat.zero_le _
  rest := rfl

theorem Queued.room_eq (queued : Queued start task buf off front) (fifo : List Pointer) :
    task.room fifo = start.room fifo := by
  refine congrArg List.sum (List.map_congr_left fun pointer _ => ?_)
  cases pointer with
  | buf index => exact congrArg Int.toNat (queued.sizes index)
  | user address => rfl

theorem Queued.owned (queued : Queued start task buf off front) (owned : start.Owned) : task.Owned := by
  have same : task.pointers = start.pointers := by
    rw [queued.rest]
    rfl
  unfold Owned
  rw [same, queued.data]
  refine List.Perm.trans ?_ owned
  rw [queued.free, List.append_assoc, ← List.append_assoc]
  exact List.perm_append_comm

theorem offered_length (task : ThreadrwWriteTask) (index : Nat) :
    (task.offered (.buf index)).length = (task.buf index).dataSize.toNat := by
  unfold offered
  rw [List.length_map, List.length_range]

theorem flatMap_offered_congr {other : ThreadrwWriteTask} {fifo : List Pointer}
    (same : ∀ index, .buf index ∈ fifo → other.buf index = task.buf index) :
    fifo.flatMap other.offered = fifo.flatMap task.offered := by
  refine List.flatMap_congr fun pointer mem => ?_
  cases pointer with
  | buf index =>
    simp only [offered, same index mem]
  | user address => rfl

theorem kfifoPut_room {capacity : Nat} {fifo : List Pointer} (room : fifo.length < capacity)
    (pointer : Pointer) : kfifoPut capacity fifo pointer = fifo ++ [pointer] := if_pos room

theorem le_room {fifo : List Pointer} {pointer : Pointer} (mem : pointer ∈ fifo) :
    task.sizeOf pointer ≤ task.room fifo := List.single_le_sum (by simp) _ (List.mem_map_of_mem mem)

def piece (task : ThreadrwWriteTask) (index left : Nat) : Nat :=
  min (task.sizeOf (.buf index)) (u32 left)

theorem Queued.onece (queued : Queued start task buf off front) (owned : start.Owned)
    (sized : start.Sized) (errors : start.errors ≤ 0) (left : Nat) :
    (task.freefifo = [] ∧ ∃ code, task.threadrwWriteOnece buf off left = some (task, code) ∧ code < 0) ∨
      ∃ index free, task.freefifo = .buf index :: free ∧
        (buf.readable < off + start.piece index left ∧
          (∃ t address, task.threadrwWriteOnece buf off left = some (t, -eFault) ∧
            .user address ∈ t.freefifo) ∨
        off + start.piece index left ≤ buf.readable ∧
          ∃ t, task.threadrwWriteOnece buf off left =
              some (t, ((start.piece index left : Nat) : Int)) ∧ t.freefifo = free ∧
            Queued start t buf (off + start.piece index left)
              (front ++ [.buf index])) := by
  have kept := queued.owned owned
  cases first : task.freefifo with
  | nil =>
    refine Or.inl ⟨rfl, if task.errors ≠ 0 then task.errors else -eAgain, ?_, ?_⟩
    · unfold threadrwWriteOnece
      rw [first]
    · have same : task.errors = start.errors := by rw [queued.rest]
      split_ifs with some_
      · omega
      · decide
  | cons pointer free =>
    have mem : pointer ∈ task.freefifo ++ task.datafifo := by
      rw [first]
      exact List.mem_append_left _ List.mem_cons_self
    obtain ⟨index, rfl⟩ := kept.is_buf _ mem
    have split : start.freefifo = front ++ .buf index :: free := first ▸ queued.free
    have fresh : .buf index ∉ front ∧ .buf index ∉ free := by
      have nodup := (List.nodup_append.mp owned.nodup).1
      rw [split] at nodup
      obtain ⟨-, later, apart⟩ := List.nodup_append.mp nodup
      exact ⟨fun here => apart _ here _ List.mem_cons_self rfl, (List.nodup_cons.mp later).1⟩
    have same := queued.others index fresh.1
    have listed : start.sizeOf (.buf index) ≤ start.room start.pointers :=
      le_room (owned.mem_iff.mp
        (List.mem_append_left _ (split ▸ List.mem_append_right _ List.mem_cons_self)))
    have positive := sized.positive index
    have small := sized.small
    have size : u32 (task.buf index).bufferSize = start.sizeOf (.buf index) := by
      rw [sizeOf_buf] at listed
      rw [same, sizeOf_buf]
      unfold u32
      omega
    have most : start.piece index left ≤ start.sizeOf (.buf index) := Nat.min_le_left _ _
    have plain : s32 (min (u32 (task.buf index).bufferSize) (u32 left) : Nat) =
        start.piece index left := by
      rw [size]
      exact s32_eq (by omega) (show ((start.piece index left : Nat) : Int) < _ by omega)
    have room : free.length + task.datafifo.length < task.capacity := by
      have sum := kept.length
      have capacity : task.capacity = start.capacity ∧ task.bufsNum = start.bufsNum := by
        rw [queued.rest]
        exact ⟨rfl, rfl⟩
      have enough := sized.capacity
      rw [first, List.length_cons] at sum
      omega
    refine Or.inr ⟨index, free, rfl, ?_⟩
    unfold threadrwWriteOnece
    rw [first]
    dsimp only
    rw [plain, Int.toNat_natCast]
    by_cases faults : buf.readable < off + start.piece index left
    · rw [if_pos faults]
      refine Or.inl ⟨faults, _, buf.pointer + off, rfl, ?_⟩
      show _ ∈ kfifoPut task.capacity free _
      rw [kfifoPut_room (by omega)]
      exact List.mem_append_right _ (List.mem_singleton_self _)
    · rw [if_neg faults]
      refine Or.inr ⟨Nat.le_of_not_lt faults, _, rfl, rfl, ?_⟩
      constructor
      case free =>
        rw [split, List.append_assoc]
        rfl
      case data =>
        show kfifoPut task.capacity task.datafifo _ = _
        rw [kfifoPut_room (by omega), queued.data, List.append_assoc]
      case held =>
        rw [List.flatMap_append, List.range_add, List.map_append, List.map_map]
        refine congrArg₂ (· ++ ·) ?_ ?_
        · rw [← queued.held]
          refine flatMap_offered_congr fun other here => Function.update_of_ne ?_ _ _
          rintro rfl
          exact fresh.1 here
        · rw [List.flatMap_singleton]
          simp only [offered, Function.update_self, Int.toNat_natCast, Int.toNat_zero, Nat.zero_add]
          refine List.map_congr_left fun i mem => ?_
          have below := List.mem_range.mp mem
          unfold copied
          rw [if_pos below, if_pos (by omega)]
          rfl
      case sizes =>
        intro other
        by_cases here : other = index
        · rw [here]
          simp only [Function.update_self]
          exact queued.sizes index
        · simp only [Function.update_of_ne here]
          exact queued.sizes other
      case others =>
        intro other apart
        have outside := List.mem_append.not.mp apart
        have here : other ≠ index := fun same =>
          apart (same ▸ List.mem_append_right _ (List.mem_singleton_self _))
        simp only [Function.update_of_ne here]
        exact queued.others other fun mem => outside (Or.inl mem)
      case bounds =>
        intro other mem
        by_cases here : other = index
        · rw [here]
          simp only [Function.update_self]
          refine ⟨Int.natCast_nonneg _, Int.le_refl 0, ?_⟩
          rw [sizeOf_buf] at most
          rw [same]
          dsimp only
          omega
        · simp only [Function.update_of_ne here]
          refine queued.bounds other ((List.mem_append.mp mem).resolve_right fun new => here ?_)
          exact Pointer.buf.inj (List.mem_singleton.mp new)
      case within =>
        rw [room_append]
        have last : start.room [.buf index] = start.sizeOf (.buf index) := List.sum_singleton
        have before := queued.within
        omega
      case read => exact Nat.le_of_not_lt faults
      case rest =>
        rw [queued.rest]

inductive Ends (start : ThreadrwWriteTask) (buf : UserBuf) (reach : Nat) :
    Option (ThreadrwWriteTask × Int × Int) → Prop where
  | queued (t : ThreadrwWriteTask) (ret : Int) (off : Nat) (front : List Pointer)
      (queued : Queued start t buf off front) (some_ : 0 < off ∨
        ret ≤ 0) (read : reach ≤ buf.readable) :
      Ends start buf reach (some (t, ret, off))
  | failed (t : ThreadrwWriteTask) (ret : Int) (off : Int) (address : Nat)
      (mem : .user address ∈ t.freefifo) (unread : buf.readable < reach) :
      Ends start buf reach (some (t, ret, off))

theorem piece_rest (start : ThreadrwWriteTask) (off index left : Nat) (free : List Pointer) :
    off + start.piece index left + min (start.room free) (u32 (left - start.piece index left : Nat)) =
      off + min (start.room (.buf index :: free)) (u32 left) := by
  have split : start.room (.buf index :: free) = start.sizeOf (.buf index) + start.room free :=
    List.sum_cons
  have rest : u32 (left - start.piece index left : Nat) = u32 left - start.piece index left := by
    unfold piece u32
    omega
  rw [split, rest]
  unfold piece
  omega

theorem writeLoop_ends (owned : start.Owned) (sized : start.Sized) (errors : start.errors ≤ 0)
    (nonblock : Bool) (buf : UserBuf) (count fuel : Nat) (task : ThreadrwWriteTask) (ret : Int)
    (off left waitNum : Nat) (front : List Pointer) (queued : Queued start task buf off front)
    (some_ : 0 < off ∨ ret ≤ 0) (sum : off + left = count) (waits : waitNum < 10)
    (enough : task.freefifo.length + (10 - waitNum) < fuel) :
    Ends start buf (off + min (start.room task.freefifo) (u32 left))
      (writeLoop nonblock buf count fuel task ret off left waitNum) := by
  induction fuel generalizing task ret off left waitNum front with
  | zero => omega
  | succ fuel ih =>
    unfold writeLoop
    by_cases done : left = 0
    · rw [if_pos done, done]
      refine Ends.queued task ret off front queued some_ ?_
      have none_ : u32 ((0 : Nat) : Int) = 0 := rfl
      rw [none_, Nat.min_zero]
      exact queued.read
    · rw [if_neg done, Int.toNat_natCast]
      rcases queued.onece owned sized errors left with
        ⟨empty, code, result, negative⟩ | ⟨index, free, first, ⟨unread, t, address, result, mem⟩ |
          ⟨read, t, result, left_, next⟩⟩
      · have reach : off + min (start.room task.freefifo) (u32 left) = off := by
          rw [empty]
          exact Nat.add_eq_left.mpr (Nat.zero_min _)
        rw [result, Option.bind_eq_bind, Option.bind_some]
        dsimp only
        rw [if_pos negative]
        by_cases some_ : (off : Int) > 0
        · rw [if_pos some_]
          exact Ends.queued task code off front queued (Or.inl (by omega)) (reach.trans_le queued.read)
        · rw [if_neg some_]
          split_ifs with again waiting
          · refine ih task code off left (waitNum + 1) front queued (Or.inr (by omega)) sum ?_ ?_
            · have more := (Bool.and_eq_true_iff.mp waiting).2
              exact of_decide_eq_true more
            · have more := of_decide_eq_true (Bool.and_eq_true_iff.mp waiting).2
              omega
          · exact Ends.queued task _ off front queued (Or.inr (by decide)) (reach.trans_le queued.read)
          · exact Ends.queued task code off front queued (Or.inr (by omega))
              (reach.trans_le queued.read)
      · rw [result, Option.bind_eq_bind, Option.bind_some]
        dsimp only
        rw [if_pos (by decide)]
        have least := piece_rest start off index left free
        have unread : buf.readable < off + min (start.room task.freefifo) (u32 left) := by
          rw [first, ← least]
          omega
        by_cases some_ : (off : Int) > 0
        · rw [if_pos some_]
          exact Ends.failed t _ off address mem unread
        · rw [if_neg some_, if_neg (by decide)]
          exact Ends.failed t _ off address mem unread
      · have all := piece_rest start off index left free
        have most : start.piece index left ≤ u32 left := Nat.min_le_right _ _
        have small := sized.small
        have within := next.within
        have part : start.room (front ++ [.buf index]) ≤ start.room start.pointers := by
          have free_ := congrArg start.room next.free
          rw [room_append] at free_
          have sum := owned.room
          omega
        rw [result, Option.bind_eq_bind, Option.bind_some, first, ← all, ← left_]
        dsimp only
        have ends := ih t (start.piece index left) (off + start.piece index left)
          (left - start.piece index left) waitNum (front ++ [.buf index]) next
        rw [if_neg (by omega)]
        have plain : u64 (start.piece index left) = start.piece index left := u64_natCast (by omega)
        rw [plain]
        have shorter : t.freefifo.length + (10 - waitNum) < fuel := by
          rw [first, List.length_cons] at enough
          rw [left_]
          omega
        by_cases last : start.piece index left ≥ left
        · have whole : start.piece index left = left := by
            unfold u32 at most
            omega
          have count_ : s32 count = (off + start.piece index left : Nat) := by
            rw [whole, sum]
            exact s32_eq (by omega) (by omega)
          have none_ : left - start.piece index left = 0 := Nat.sub_eq_zero_of_le last
          rw [if_pos last, count_]
          rw [none_] at ends ⊢
          exact ends (Or.inl (Nat.add_pos_right _ (by omega))) (by rw [whole]; exact sum) waits shorter
        · rw [if_neg last]
          by_cases some_ : ((start.piece index left : Nat) : Int) > 0
          · have off_ : s32 (off + start.piece index left) = (off + start.piece index left : Nat) := by
              rw [s32_eq (by omega) (by omega)]
              exact (Int.natCast_add _ _).symm
            rw [if_pos some_, off_, Int.toNat_natCast]
            exact ends (Or.inl (Nat.add_pos_right _ (Int.natCast_pos.mp some_)))
              (by rw [Nat.add_assoc, Nat.add_sub_of_le (Nat.le_of_not_le last)]; exact sum) waits
                shorter
          · have none_ : start.piece index left = 0 := by omega
            rw [if_neg some_]
            rw [none_, Nat.sub_zero, Nat.add_zero] at ends ⊢
            exact ends (Or.inr (by omega)) sum waits shorter

end ThreadrwWriteTask

end UnionpiTiger.Amports
