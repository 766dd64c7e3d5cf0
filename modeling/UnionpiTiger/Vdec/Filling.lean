import Mathlib.Tactic.Ring
import UnionpiTiger.Vdec.Tidy

set_option autoImplicit false

namespace UnionpiTiger.Vdec

open Lib

namespace Input

-- What a call that fails leaves as it was. A block that is not there counts as one without data.
def counts (s : Input) (addr : Nat) : Int × Int :=
  ((s.block addr).map fun b => (b.chunkCount, b.dataSize)).getD (0, 0)

structure Unchanged (s t : Input) : Prop where
  chunks : t.vframeChunkList = s.vframeChunkList
  dataSize : t.dataSize = s.dataSize
  haveFrameNum : t.haveFrameNum = s.haveFrameNum
  totalWrCount : t.totalWrCount = s.totalWrCount
  totalRdCount : t.totalRdCount = s.totalRdCount
  counts : ∀ addr, t.counts addr = s.counts addr

variable {s t u : Input} {addr : Nat} {b : Block}

theorem Unchanged.refl (s : Input) : s.Unchanged s := ⟨rfl, rfl, rfl, rfl, rfl, fun _ => rfl⟩

theorem Unchanged.trans (first : s.Unchanged t) (second : t.Unchanged u) : s.Unchanged u where
  chunks := second.chunks.trans first.chunks
  dataSize := second.dataSize.trans first.dataSize
  haveFrameNum := second.haveFrameNum.trans first.haveFrameNum
  totalWrCount := second.totalWrCount.trans first.totalWrCount
  totalRdCount := second.totalRdCount.trans first.totalRdCount
  counts addr := (second.counts addr).trans (first.counts addr)

theorem counts_update (entry : Option Block)
    (same : (entry.map fun b => (b.chunkCount, b.dataSize)).getD (0, 0) = s.counts addr) (a : Nat) :
    ({ s with block := Function.update s.block addr entry } : Input).counts a = s.counts a := by
  show ((Function.update s.block addr entry a).map fun b => (b.chunkCount, b.dataSize)).getD (0, 0) = _
  by_cases here : a = addr
  · rw [here, ← same, Function.update_self]
  · rw [Function.update_of_ne here]
    rfl

theorem erase_both_perm {xs ys : List Nat} (nodup : (xs ++ ys).Nodup) (mem : addr ∈ xs ++ ys) :
    (xs.erase addr ++ ys.erase addr ++ [addr]).Perm (xs ++ ys) := by
  obtain ⟨one, two, apart⟩ := List.nodup_append.mp nodup
  have left : ∀ a, a ∈ xs.erase addr ++ ys.erase addr ↔ a ≠ addr ∧ a ∈ xs ++ ys := by
    intro a
    rw [List.mem_append, one.mem_erase_iff, two.mem_erase_iff, List.mem_append]
    tauto
  have erased : (xs.erase addr ++ ys.erase addr).Nodup :=
    List.nodup_append.mpr ⟨one.erase _, two.erase _, fun a first other second =>
      apart a (List.mem_of_mem_erase first) other (List.mem_of_mem_erase second)⟩
  refine (List.perm_ext_iff_of_nodup ?_ nodup).mpr fun a => ?_
  · refine List.nodup_append.mpr ⟨erased, List.nodup_singleton _, fun a here other last => ?_⟩
    rw [List.mem_singleton.mp last]
    exact ((left a).mp here).1
  · rw [List.mem_append, left, List.mem_singleton]
    by_cases here : a = addr
    · rw [here]
      tauto
    · tauto

theorem Listed.perm_free (listed : s.Listed) (mem : addr ∈ s.addrs) :
    (s.moveToFreeList addr).addrs.Perm s.addrs := by
  show (s.vframeBlockList.erase addr ++ (s.vframeBlockFreeList.erase addr ++ [addr])).Perm _
  rw [← List.append_assoc]
  exact erase_both_perm listed.nodup mem

theorem Listed.perm_block (listed : s.Listed) (mem : addr ∈ s.addrs) :
    (s.moveToBlockList addr).addrs.Perm s.addrs := by
  refine List.Perm.trans ?_ (erase_both_perm listed.nodup mem)
  show (s.vframeBlockList.erase addr ++ [addr] ++ s.vframeBlockFreeList.erase addr).Perm _
  rw [List.append_assoc, List.append_assoc]
  exact List.Perm.append_left _ List.perm_append_comm

theorem mem_chunksOf {c : Chunk} : c ∈ s.chunksOf addr ↔ c ∈ s.vframeChunkList ∧ c.block = addr := by
  unfold chunksOf
  rw [List.mem_filter, decide_eq_true_iff]

namespace Tidy

theorem empty_iff (tidy : s.Tidy) (found : s.block addr = some b) :
    b.chunkCount = 0 ↔ s.chunksOf addr = [] := by
  rw [(tidy.filled addr b found).chunkCount, ← List.length_eq_zero_iff]
  omega

theorem counts_empty (tidy : s.Tidy) (found : s.block addr = some b)
    (empty : s.chunksOf addr = []) : s.counts addr = (0, 0) := by
  have filled := tidy.filled addr b found
  rw [empty] at filled
  unfold counts
  rw [found, Option.map_some, Option.getD_some, filled.chunkCount, filled.dataSize]
  rfl

theorem empty_of_start (tidy : s.Tidy) (found : s.block addr = some b) (start : b.wp = 0) :
    s.chunksOf addr = [] := by
  refine List.eq_nil_iff_forall_not_mem.mpr fun c here => ?_
  have bound := (tidy.filled addr b found).behind c here
  have wide := tidy.wide c (mem_chunksOf.mp here).1
  omega

theorem free_empty (tidy : s.Tidy) (mem : addr ∈ s.vframeBlockFreeList) : s.chunksOf addr = [] := by
  obtain ⟨b, found⟩ := tidy.get (List.mem_append_right _ mem)
  exact tidy.empty_of_start found (tidy.free addr mem b found)

theorem relaid (tidy : s.Tidy) {block : Nat → Option Block} {list free : List Nat}
    {wrBlock : Option Nat}
    {size nextBlock : Nat}
    (placed : ({ s with block, vframeBlockList := list, vframeBlockFreeList := free, wrBlock, size, nextBlock } :
      Input).Placed)
    (wr : ∀ addr, wrBlock = some addr → addr ∈ list) (start : ∀ addr ∈ free, ∀ b,
      block addr = some b → b.wp = 0)
    (filled : ∀ addr b, block addr = some b → b.Filled (s.chunksOf addr))
    (lodged : ∀ c ∈ s.vframeChunkList, block c.block ≠ none) :
    ({ s with block, vframeBlockList := list, vframeBlockFreeList := free, wrBlock, size, nextBlock } : Input).Tidy :=
  { placed, tidy with wr, filled, lodged, free := start, counted := { tidy.counted with } }

theorem rewound (tidy : s.Tidy) (found : s.block addr = some b) (empty : s.chunksOf addr = []) :
    (s.put addr { b with rp := 0, wp := 0 }).Tidy := by
  have filled := tidy.filled addr b found
  have placed := tidy.put found { b with rp := 0, wp := 0 } rfl
  refine tidy.relaid placed tidy.wr ?free ?filled ?lodged
  case free =>
    intro a mem c has
    rcases put_some has with ⟨-, rfl⟩ | ⟨-, old⟩
    · rfl
    · exact tidy.free a mem c old
  case filled =>
    intro a c has
    rcases put_some has with ⟨rfl, rfl⟩ | ⟨-, old⟩
    · show Block.Filled _ (s.chunksOf a)
      rw [empty] at filled ⊢
      exact ⟨filled.type, filled.own, Nat.lt_of_le_of_lt (Nat.zero_le _) filled.room, nofun,
        Nat.le_refl _, filled.chunkCount, filled.dataSize⟩
    · exact tidy.filled a c old
  case lodged =>
    intro c mem
    exact put_keeps fun _ => tidy.lodged c mem

theorem toFreeList (tidy : s.Tidy) (found : s.block addr = some b) (start : b.wp = 0)
    (wrBlock : Option Nat) (elsewhere : ∀ a, wrBlock = some a → a ∈ s.vframeBlockList ∧ a ≠ addr) :
    ({ s.moveToFreeList addr with wrBlock } : Input).Tidy := by
  have placed : ({ s.moveToFreeList addr with wrBlock } : Input).Placed :=
    { tidy.toPlaced.moved (tidy.perm_free (tidy.mem found)) with }
  refine tidy.relaid placed ?wr ?free tidy.filled tidy.lodged
  case wr =>
    intro a writes
    obtain ⟨mem, apart⟩ := elsewhere a writes
    exact (List.mem_erase_of_ne apart).mpr mem
  case free =>
    intro a mem c has
    rcases List.mem_append.mp mem with there | last
    · exact tidy.free a (List.mem_of_mem_erase there) c has
    · obtain rfl := List.mem_singleton.mp last
      obtain rfl : b = c := Option.some.inj (found.symm.trans has)
      exact start

theorem emptied (tidy : s.Tidy) (found : s.block addr = some b) (empty : s.chunksOf addr = [])
    (wrBlock : Option Nat) (elsewhere : ∀ a, wrBlock = some a → a ∈ s.vframeBlockList ∧ a ≠ addr) :
    ({ (s.put addr { b with rp := 0, wp := 0 }).moveToFreeList addr with wrBlock } : Input).Tidy :=
  (tidy.rewound found empty).toFreeList put_self rfl wrBlock elsewhere

theorem emptied_unchanged (found : s.block addr = some b) (wrBlock : Option Nat) :
    s.Unchanged { (s.put addr { b with rp := 0, wp := 0 }).moveToFreeList addr with wrBlock } where
  chunks := rfl
  dataSize := rfl
  haveFrameNum := rfl
  totalWrCount := rfl
  totalRdCount := rfl
  counts := counts_update _ (by unfold counts; rw [found]; rfl)

theorem freed (tidy : s.Tidy) (found : s.block addr = some b) (empty : s.chunksOf addr = [])
    (idle : s.wrBlock ≠ some addr) : ((s.delBlockLocked addr b).freeBlock addr).Tidy := by
  have placed := tidy.toPlaced.free found
  refine tidy.relaid placed ?wr ?free ?filled ?lodged
  case wr =>
    intro a writes
    refine (List.mem_erase_of_ne ?_).mpr (tidy.wr a writes)
    rintro rfl
    exact idle writes
  case free =>
    intro a mem c has
    exact tidy.free a (List.mem_of_mem_erase mem) c (freeBlock_some has).2
  case filled =>
    intro a c has
    exact tidy.filled a c (freeBlock_some (s := s.delBlockLocked addr b) has).2
  case lodged =>
    intro c mem
    have apart : c.block ≠ addr := fun here =>
      List.not_mem_nil (empty ▸ mem_chunksOf.mpr ⟨mem, here⟩)
    show ((s.delBlockLocked addr b).freeBlock addr).block c.block ≠ none
    rw [freeBlock_other apart]
    exact tidy.lodged c mem

theorem freed_unchanged (tidy : s.Tidy) (found : s.block addr = some b)
    (empty : s.chunksOf addr = []) : s.Unchanged ((s.delBlockLocked addr b).freeBlock addr) where
  chunks := rfl
  dataSize := rfl
  haveFrameNum := rfl
  totalWrCount := rfl
  totalRdCount := rfl
  counts := counts_update _ (tidy.counts_empty found empty).symm

theorem taken (tidy : s.Tidy) (mem : addr ∈ s.vframeBlockFreeList) :
    ({ s.moveToBlockList addr with wrBlock := some addr } : Input).Tidy := by
  have placed : ({ s.moveToBlockList addr with wrBlock := some addr } : Input).Placed :=
    { tidy.toPlaced.moved (tidy.perm_block (List.mem_append_right _ mem)) with }
  refine tidy.relaid placed ?wr ?free tidy.filled tidy.lodged
  case wr =>
    intro a writes
    cases writes
    exact List.mem_append_right _ (List.mem_singleton_self _)
  case free =>
    intro a here c has
    exact tidy.free a (List.mem_of_mem_erase here) c has

end Tidy

end Input

end UnionpiTiger.Vdec

namespace UnionpiTiger.Vdec

open Lib

theorem padding_bounds (count : Nat) : 64 ≤ padding count ∧ padding count ≤ 4160 := by
  have up := le_alignUp (count + 64) 4096 (by decide)
  have down := alignUp_lt (count + 64) 4096 (by decide)
  unfold padding pageAlign minFramePaddingSize pageSize
  split_ifs <;> omega

theorem alignUp_of_dvd {n unit : Nat} (positive : 0 < unit) (multiple : unit ∣ n) :
    alignUp n unit = n := by
  obtain ⟨k, rfl⟩ := multiple
  unfold alignUp
  rw [Nat.mul_add_div positive, Nat.div_eq_of_lt (by omega), Nat.add_zero, Nat.mul_comm]

-- What the block size grows to is an int again, made up of the units that storage comes in.
structure Sized (defaultSize : Int) : Prop where
  positive : 0 < defaultSize
  upper : defaultSize < 2147483648
  multiple : 131072 ∣ defaultSize

theorem Sized.storage {d : Int} (sized : Sized d) : (u32 (pageAlign (u32 d)) : Int) = d := by
  obtain ⟨k, multiple⟩ := sized.multiple
  have lower := sized.positive
  have upper := sized.upper
  have plain : (u32 d : Int) = d := u32_eq (Int.le_of_lt lower) (by omega)
  have aligned : pageAlign (u32 d) = u32 d := by
    refine alignUp_of_dvd (by decide) ⟨32 * k.toNat, ?_⟩
    unfold pageSize
    omega
  rw [aligned, plain]
  exact plain

namespace Input

theorem doubled_sized (size : Int) (steps fuel : Nat) (within : steps < fuel) (d : Int)
    (sized : Sized d) (fits : 2 * d < 2147483648) (enough : 4194304 < d * 2 ^ steps) :
    ∃ d', doubled size fuel d = some d' ∧ Sized d' := by
  induction fuel generalizing d steps with
  | zero => omega
  | succ fuel ih =>
    have lower := sized.positive
    have twice : s32 (d * 2) = d * 2 := s32_eq (by omega) (by omega)
    have next : Sized (d * 2) := ⟨by omega, by omega, Dvd.dvd.mul_right sized.multiple 2⟩
    unfold doubled
    rw [twice]
    dsimp only
    by_cases more : d * 2 ≤ s32 (2 * size) ∧ d * 2 ≤ vframeBlockSizeMax
    · rw [if_pos more]
      have small : d * 2 ≤ 4194304 := more.2
      cases steps with
      | zero => omega
      | succ steps =>
        refine ih steps (by omega) (d * 2) next (by omega) ?_
        calc (4194304 : Int) < d * 2 ^ (steps + 1) := enough
          _ = d * 2 * 2 ^ steps := by rw [pow_succ]; ring
    · rw [if_neg more]
      exact ⟨d * 2, rfl, next⟩

-- A frame for which a block has to be allocated: neither its size nor the doubling leaves an int.
structure Grows (s : Input) (count : Nat) : Prop where
  small : count + padding count + extraPaddingSize < 2147483648
  doubles : s.defaultBlockSize ≤ s32 (frameSize count * 2) → 2 * s.defaultBlockSize < 2147483648
  holds : ¬s.defaultBlockSize ≤ s32 (frameSize count * 2) →
    (count + padding count : Int) < s.defaultBlockSize

theorem frameSize_eq {count : Nat} (small : count + padding count + extraPaddingSize < 2147483648) :
    frameSize count = count + padding count + extraPaddingSize := by
  unfold frameSize
  exact s32_eq (by omega) (by omega)

theorem sized_aligned (size : Int) (lower : 0 ≤ size) (upper : size < 1073741824) :
    Sized (s32 (alignUp (u32 (size + 64)) 131072)) ∧
      size ≤ s32 (alignUp (u32 (size + 64)) 131072) := by
  have plain : (u32 (size + 64) : Int) = size + 64 := u32_eq (by omega) (by omega)
  have up := le_alignUp (u32 (size + 64)) 131072 (by decide)
  have down := alignUp_lt (u32 (size + 64)) 131072 (by decide)
  have multiple := dvd_alignUp (u32 (size + 64)) 131072
  rw [s32_eq (by omega) (by omega)]
  exact ⟨⟨by omega, by omega, Int.natCast_dvd_natCast.mpr multiple⟩, by omega⟩

theorem grownBlockSize_spec {s : Input} {count : Nat} (sized : Sized s.defaultBlockSize)
    (grows : s.Grows count) : ∃ d, grownBlockSize s.defaultBlockSize (frameSize count) = some d ∧
      Sized d ∧ (count + padding count : Int) < d := by
  have small := grows.small
  have size := frameSize_eq small
  unfold extraPaddingSize at small size
  unfold grownBlockSize
  by_cases grow : s.defaultBlockSize ≤ s32 (frameSize count * 2)
  · rw [if_pos grow]
    have lower := sized.positive
    -- The size is positive, so twice the size has not wrapped.
    have half : frameSize count < 1073741824 := by
      unfold s32 at grow
      omega
    obtain ⟨d, doubles, dSized⟩ :=
      doubled_sized (frameSize count) 6 33 (by decide) _ sized (grows.doubles grow) (by
        have unit := sized.multiple
        omega)
    rw [doubles, Option.map_some]
    by_cases short : d < frameSize count
    · rw [if_pos short]
      obtain ⟨aligned, wide⟩ := sized_aligned (frameSize count) (by omega) half
      exact ⟨_, rfl, aligned, by omega⟩
    · rw [if_neg short]
      exact ⟨d, rfl, dSized, by omega⟩
  · rw [if_neg grow]
    exact ⟨_, rfl, sized, grows.holds grow⟩

theorem size_of_admitted {s : Input} (free : ¬s.haveBlocksEnough > 13) : s.size < 16777216 := by
  unfold haveBlocksEnough vframeBlockMaxTotalSize at free
  split_ifs at free <;> omega

end Input

end UnionpiTiger.Vdec
