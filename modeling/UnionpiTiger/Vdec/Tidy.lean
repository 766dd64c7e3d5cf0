import UnionpiTiger.Vdec.Input
import Mathlib.Algebra.BigOperators.Group.Finset.Basic
import Mathlib.Algebra.Order.BigOperators.Group.Finset
import Mathlib.Algebra.BigOperators.Group.List.Lemmas

set_option autoImplicit false

namespace UnionpiTiger.Vdec

open Lib

def Chunk.extent (c : Chunk) : Nat := c.size + c.padingSize

def Chunk.after (c d : Chunk) : Prop := d.offset + d.extent ≤ c.offset

def bytes (chunks : List Chunk) : Nat := (chunks.map Chunk.size).sum

def extents (chunks : List Chunk) : Nat := (chunks.map Chunk.extent).sum

structure Block.Filled (b : Block) (chunks : List Chunk) : Prop where
  type : b.type = .frameBlock
  own : b.isOutBuf = false
  room : b.wp < b.size
  behind : ∀ c ∈ chunks, c.offset + c.extent ≤ b.wp
  extents : extents chunks ≤ b.wp
  chunkCount : b.chunkCount = chunks.length
  dataSize : b.dataSize = bytes chunks

namespace Input

def chunksOf (s : Input) (addr : Nat) : List Chunk :=
  s.vframeChunkList.filter fun c => c.block = addr

def addrs (s : Input) : List Nat := s.vframeBlockList ++ s.vframeBlockFreeList

def total (s : Input) (of : Block → Nat) : Nat :=
  ∑ addr ∈ Finset.range s.nextBlock, ((s.block addr).map of).getD 0

structure Listed (s : Input) : Prop where
  nodup : s.addrs.Nodup
  held : ∀ addr, s.block addr ≠ none ↔ addr ∈ s.addrs
  fresh : ∀ addr, s.block addr ≠ none → addr < s.nextBlock

structure Placed (s : Input) : Prop extends s.Listed where
  size : s.size = s.total Block.size
  bounded : s.size < 2164264960

structure Counted (s : Input) : Prop where
  dataSize : s.dataSize = bytes s.vframeChunkList
  haveFrameNum : s.haveFrameNum = s.vframeChunkList.length
  totals : u64 (s.totalWrCount - s.totalRdCount) = bytes s.vframeChunkList
  small : bytes s.vframeChunkList < 2147483648

structure Tidy (s : Input) : Prop extends s.Placed where
  plain : s.secure = false
  type : s.type = .frameBlock
  wr : ∀ addr, s.wrBlock = some addr → addr ∈ s.vframeBlockList
  free : ∀ addr ∈ s.vframeBlockFreeList, ∀ b, s.block addr = some b → b.wp = 0
  filled : ∀ addr b, s.block addr = some b → b.Filled (s.chunksOf addr)
  lodged : ∀ c ∈ s.vframeChunkList, s.block c.block ≠ none
  wide : ∀ c ∈ s.vframeChunkList, 64 ≤ c.extent
  apart : s.vframeChunkList.Pairwise fun c d => c.block = d.block → d.after c
  numbered : s.vframeChunkList.Pairwise fun c d => c.addr ≠ d.addr
  fewer : ∀ c ∈ s.vframeChunkList, c.addr < s.nextChunk
  default : 0 < s.defaultBlockSize ∧ s.defaultBlockSize < 2147483648 ∧ 131072 ∣ s.defaultBlockSize
  counted : s.Counted

variable {s t : Input} {addr : Nat} {b : Block}

theorem put_self : (s.put addr b).block addr = some b := Function.update_self _ _ _

theorem put_other {a : Nat} (apart : a ≠ addr) : (s.put addr b).block a = s.block a :=
  Function.update_of_ne apart _ _

theorem put_keeps {a : Nat} (has : a ≠ addr → s.block a ≠ none) : (s.put addr b).block a ≠ none := by
  by_cases here : a = addr
  · rw [here, put_self]
    exact Option.some_ne_none _
  · rw [put_other here]
    exact has here

theorem put_some {a : Nat} {c : Block} (found : (s.put addr b).block a = some c) :
    a = addr ∧ c = b ∨ a ≠ addr ∧ s.block a = some c := by
  by_cases here : a = addr
  · subst here
    rw [put_self] at found
    exact Or.inl ⟨rfl, (Option.some.inj found).symm⟩
  · rw [put_other here] at found
    exact Or.inr ⟨here, found⟩

theorem freeBlock_self : (s.freeBlock addr).block addr = none := Function.update_self _ _ _

theorem freeBlock_other {a : Nat} (apart : a ≠ addr) : (s.freeBlock addr).block a = s.block a :=
  Function.update_of_ne apart _ _

theorem freeBlock_some {a : Nat} {c : Block} (found : (s.freeBlock addr).block a = some c) :
    a ≠ addr ∧ s.block a = some c := by
  by_cases here : a = addr
  · subst here
    rw [freeBlock_self] at found
    cases found
  · rw [freeBlock_other here] at found
    exact ⟨here, found⟩

section Total

variable (of : Block → Nat)

theorem total_update (below : addr < s.nextBlock) (entry : Option Block) :
    ({ s with block := Function.update s.block addr entry } : Input).total of +
      ((s.block addr).map of).getD 0 = s.total of + (entry.map of).getD 0 := by
  have mem : addr ∈ Finset.range s.nextBlock := Finset.mem_range.mpr below
  unfold total
  rw [← Finset.add_sum_erase _ _ mem, ← Finset.add_sum_erase _ _ mem]
  have others : ∑ a ∈ (Finset.range s.nextBlock).erase addr,
      ((Function.update s.block addr entry a).map of).getD 0 =
        ∑ a ∈ (Finset.range s.nextBlock).erase addr, ((s.block a).map of).getD 0 := by
    refine Finset.sum_congr rfl fun a here => ?_
    rw [Function.update_of_ne (Finset.ne_of_mem_erase here)]
  dsimp only
  rw [others, Function.update_self]
  omega

theorem le_total (below : addr < s.nextBlock) (found : s.block addr = some b) :
    of b ≤ s.total of := by
  have one := Finset.single_le_sum (f := fun a => ((s.block a).map of).getD 0)
    (fun a _ => Nat.zero_le _) (Finset.mem_range.mpr below)
  simpa [total, found] using one

end Total

namespace Listed

theorem below (listed : s.Listed) (found : s.block addr = some b) : addr < s.nextBlock :=
  listed.fresh addr (by rw [found]; exact Option.some_ne_none b)

theorem mem (listed : s.Listed) (found : s.block addr = some b) : addr ∈ s.addrs :=
  (listed.held addr).mp (by rw [found]; exact Option.some_ne_none b)

theorem get (listed : s.Listed) (mem : addr ∈ s.addrs) : ∃ b, s.block addr = some b :=
  Option.ne_none_iff_exists'.mp ((listed.held addr).mpr mem)

theorem absent (listed : s.Listed) : s.block s.nextBlock = none := by
  by_contra has
  exact Nat.lt_irrefl _ (listed.fresh _ has)

theorem put (listed : s.Listed) (found : s.block addr = some b) (other : Block) :
    (s.put addr other).Listed where
  nodup := listed.nodup
  held a := by
    by_cases here : a = addr
    · subst here
      rw [put_self]
      exact iff_of_true (Option.some_ne_none _) (listed.mem found)
    · rw [put_other here]
      exact listed.held a
  fresh a has := by
    obtain ⟨c, has⟩ := Option.ne_none_iff_exists'.mp has
    rcases put_some has with ⟨here, -⟩ | ⟨-, old⟩
    · rw [here]
      exact listed.below found
    · exact listed.below old

theorem moved (listed : s.Listed) {blocks free : List Nat} (perm : (blocks ++ free).Perm s.addrs) :
    ({ s with vframeBlockList := blocks, vframeBlockFreeList := free } : Input).Listed where
  nodup := perm.nodup_iff.mpr listed.nodup
  held a := (listed.held a).trans perm.mem_iff.symm
  fresh := listed.fresh

theorem free (listed : s.Listed) (addr : Nat) (b : Block) :
    ((s.delBlockLocked addr b).freeBlock addr).Listed := by
  have apart := List.nodup_append.mp listed.nodup
  have kept : ∀ a, a ∈ s.vframeBlockList.erase addr ++ s.vframeBlockFreeList.erase addr ↔
      a ≠ addr ∧ a ∈ s.addrs := by
    intro a
    rw [List.mem_append, apart.1.mem_erase_iff, apart.2.1.mem_erase_iff]
    unfold addrs
    rw [List.mem_append]
    tauto
  constructor
  case nodup =>
    refine List.nodup_append.mpr ⟨apart.1.erase _, apart.2.1.erase _, fun a one other two => ?_⟩
    exact apart.2.2 a (List.mem_of_mem_erase one) other (List.mem_of_mem_erase two)
  case held =>
    intro a
    refine Iff.trans ?_ (kept a).symm
    by_cases here : a = addr
    · rw [here, freeBlock_self]
      exact iff_of_false (fun given => given rfl) (fun given => given.1 rfl)
    · rw [freeBlock_other here]
      exact (listed.held a).trans ⟨fun mem => ⟨here, mem⟩, fun given => given.2⟩
  case fresh =>
    intro a has
    obtain ⟨c, has⟩ := Option.ne_none_iff_exists'.mp has
    exact listed.below (freeBlock_some has).2

theorem addBlock (listed : s.Listed) (b : Block) : (s.addBlock b).Listed := by
  have absent : s.nextBlock ∉ s.addrs := fun mem => (listed.held _).mpr mem listed.absent
  have perm : (s.addBlock b).addrs.Perm (s.nextBlock :: s.addrs) := by
    show ((s.vframeBlockList ++ [s.nextBlock]) ++ s.vframeBlockFreeList).Perm _
    rw [List.append_assoc]
    exact List.perm_middle
  constructor
  case nodup => exact perm.nodup_iff.mpr (List.nodup_cons.mpr ⟨absent, listed.nodup⟩)
  case held =>
    intro a
    rw [perm.mem_iff, List.mem_cons]
    show (s.put s.nextBlock _).block a ≠ none ↔ _
    by_cases here : a = s.nextBlock
    · rw [here, put_self]
      exact iff_of_true (Option.some_ne_none _) (Or.inl rfl)
    · rw [put_other here]
      exact (listed.held a).trans ⟨Or.inr, fun given => given.resolve_left here⟩
  case fresh =>
    intro a has
    show a < s.nextBlock + 1
    replace has : (s.put s.nextBlock { b with wp := 0 }).block a ≠ none := has
    obtain ⟨c, has⟩ := Option.ne_none_iff_exists'.mp has
    rcases put_some has with ⟨here, -⟩ | ⟨-, old⟩
    · omega
    · exact Nat.lt_succ_of_lt (listed.below old)

end Listed

namespace Placed

theorem put (placed : s.Placed) (found : s.block addr = some b) (other : Block)
    (same : other.size = b.size) : (s.put addr other).Placed where
  toListed := placed.toListed.put found other
  size := by
    have sum := total_update Block.size (placed.below found) (some other)
    rw [found, Option.map_some, Option.map_some, Option.getD_some, Option.getD_some, same] at sum
    exact placed.size.trans (Nat.add_right_cancel sum).symm
  bounded := placed.bounded

theorem moved (placed : s.Placed) {blocks free : List Nat} (perm : (blocks ++ free).Perm s.addrs) :
    ({ s with vframeBlockList := blocks, vframeBlockFreeList := free } : Input).Placed where
  toListed := placed.toListed.moved perm
  size := placed.size
  bounded := placed.bounded

theorem free (placed : s.Placed) (found : s.block addr = some b) :
    ((s.delBlockLocked addr b).freeBlock addr).Placed := by
  have sum := total_update Block.size (placed.below found) none
  rw [found, Option.map_some, Option.getD_some, Option.map_none, Option.getD_none] at sum
  have within := le_total Block.size (placed.below found) found
  have small := placed.bounded
  have size := placed.size
  have left : ((s.delBlockLocked addr b).freeBlock addr).size =
      ((s.delBlockLocked addr b).freeBlock addr).total Block.size := by
    show u32 (s.size - b.size) = ({ s with block := Function.update s.block addr none } : Input).total _
    unfold u32
    omega
  refine ⟨placed.toListed.free addr b, left, ?_⟩
  rw [left]
  refine Nat.lt_of_le_of_lt ?_ placed.bounded
  rw [size]
  show ({ s with block := Function.update s.block addr none } : Input).total _ ≤ _
  omega

theorem addBlock (placed : s.Placed) (small : s.size + b.size < 2164264960) :
    (s.addBlock b).Placed := by
  have total : (s.addBlock b).total Block.size = s.total Block.size + b.size := by
    show ∑ a ∈ Finset.range (s.nextBlock + 1), _ = _
    rw [Finset.sum_range_succ]
    refine congrArg₂ (· + ·) (Finset.sum_congr rfl fun a mem => ?_) ?_
    · show (((s.put s.nextBlock _).block a).map Block.size).getD 0 = _
      rw [put_other (Nat.ne_of_lt (Finset.mem_range.mp mem))]
    · show (((s.put s.nextBlock _).block s.nextBlock).map Block.size).getD 0 = _
      rw [put_self]
      rfl
  refine ⟨placed.toListed.addBlock b, ?_, ?_⟩
  · show u32 (s.size + b.size) = _
    rw [total, ← placed.size]
    unfold u32
    omega
  · show u32 (s.size + b.size) < _
    unfold u32
    omega

end Placed

end Input

end UnionpiTiger.Vdec
