import UnionpiTiger.Vdec.Filling
import Mathlib.Algebra.BigOperators.Group.Finset.Piecewise
import Mathlib.Algebra.BigOperators.Ring.Finset

set_option autoImplicit false

namespace UnionpiTiger.Vdec

open Lib

theorem bytes_perm {first second : List Chunk} (perm : first.Perm second) :
    bytes first = bytes second := (perm.map _).sum_eq

theorem extents_perm {first second : List Chunk} (perm : first.Perm second) :
    extents first = extents second := (perm.map _).sum_eq

theorem bytes_append (first second : List Chunk) :
    bytes (first ++ second) = bytes first + bytes second := by
  unfold bytes
  rw [List.map_append, List.sum_append]

theorem extents_append (first second : List Chunk) :
    extents (first ++ second) = extents first + extents second := by
  unfold extents
  rw [List.map_append, List.sum_append]

theorem bytes_filter_le (chunks : List Chunk) (p : Chunk → Bool) :
    bytes (chunks.filter p) ≤ bytes chunks :=
  (List.Sublist.map Chunk.size List.filter_sublist).sum_le_sum fun _ _ => Nat.zero_le _

theorem length_le_extents (chunks : List Chunk) (wide : ∀ c ∈ chunks, 64 ≤ c.extent) :
    64 * chunks.length ≤ extents chunks := by
  induction chunks with
  | nil => exact Nat.le_refl _
  | cons c rest ih =>
    have first := wide c List.mem_cons_self
    have others := ih fun d mem => wide d (List.mem_cons_of_mem _ mem)
    have split : extents (c :: rest) = c.extent + extents rest := rfl
    rw [List.length_cons]
    omega

theorem length_eq_sum (chunks : List Chunk) (n : Nat) (below : ∀ c ∈ chunks, c.block < n) :
    ∑ a ∈ Finset.range n, (chunks.filter fun c => c.block = a).length = chunks.length := by
  induction chunks with
  | nil => simp
  | cons c rest ih =>
    have each : ∀ a, ((c :: rest).filter fun c => c.block = a).length =
        (if c.block = a then 1 else 0) + (rest.filter fun c => c.block = a).length := by
      intro a
      rw [List.filter_cons]
      by_cases here : c.block = a
      · simp [here, Nat.add_comm]
      · simp [here]
    rw [Finset.sum_congr rfl fun a _ => each a, Finset.sum_add_distrib,
      ih fun d mem => below d (List.mem_cons_of_mem _ mem), Finset.sum_ite_eq,
      if_pos (Finset.mem_range.mpr (below c List.mem_cons_self)), List.length_cons, Nat.add_comm]

theorem perm_remove {chunks : List Chunk} (numbered : chunks.Pairwise fun c d => c.addr ≠ d.addr)
    {chunk : Chunk} (mem : chunk ∈ chunks) :
    chunks.Perm (chunk :: chunks.filter fun c => c.addr ≠ chunk.addr) := by
  induction chunks with
  | nil => cases mem
  | cons c rest ih =>
    obtain ⟨apart, later⟩ := List.pairwise_cons.mp numbered
    rw [List.filter_cons]
    rcases List.mem_cons.mp mem with rfl | there
    · have all : (rest.filter fun c => c.addr ≠ chunk.addr) = rest :=
        List.filter_eq_self.mpr fun d here => decide_eq_true (apart d here).symm
      rw [all, if_neg (by simp)]
    · rw [if_pos (decide_eq_true (apart chunk there))]
      exact ((ih later there).cons c).trans (List.Perm.swap _ _ _)

theorem Block.Filled.perm {b : Block} {first second : List Chunk} (filled : b.Filled first)
    (perm : first.Perm second) : b.Filled second where
  type := filled.type
  own := filled.own
  room := filled.room
  behind c mem := filled.behind c (perm.mem_iff.mpr mem)
  extents := by
    rw [← extents_perm perm]
    exact filled.extents
  chunkCount := by
    rw [← perm.length_eq]
    exact filled.chunkCount
  dataSize := by
    rw [← bytes_perm perm]
    exact filled.dataSize

namespace Input

variable {s t : Input} {addr : Nat} {b : Block}

namespace Tidy

theorem small_block (tidy : s.Tidy) (found : s.block addr = some b) : b.size < 2164264960 := by
  have within := le_total Block.size (tidy.below found) found
  have bounded := tidy.bounded
  rw [tidy.size] at bounded
  omega

theorem few (tidy : s.Tidy) : 64 * s.vframeChunkList.length < 2164264960 := by
  have below : ∀ c ∈ s.vframeChunkList, c.block < s.nextBlock :=
    fun c mem => tidy.fresh _ (tidy.lodged c mem)
  have each : ∀ a ∈ Finset.range s.nextBlock,
      64 * (s.chunksOf a).length ≤ ((s.block a).map Block.size).getD 0 := by
    intro a _
    have wide : ∀ c ∈ s.chunksOf a, 64 ≤ c.extent :=
      fun c mem => tidy.wide c (mem_chunksOf.mp mem).1
    have many := length_le_extents _ wide
    cases found : s.block a with
    | none =>
      have empty : s.chunksOf a = [] := List.eq_nil_iff_forall_not_mem.mpr fun c mem => by
        obtain ⟨here, same⟩ := mem_chunksOf.mp mem
        exact tidy.lodged c here (same ▸ found)
      rw [empty]
      exact Nat.le_refl _
    | some b =>
      have filled := tidy.filled a b found
      exact Nat.le_trans many (Nat.le_trans filled.extents (Nat.le_of_lt filled.room))
  have sum := Finset.sum_le_sum each
  rw [← Finset.mul_sum] at sum
  have all := length_eq_sum s.vframeChunkList s.nextBlock below
  have bounded := tidy.bounded
  have size : s.size = ∑ a ∈ Finset.range s.nextBlock, ((s.block a).map Block.size).getD 0 := tidy.size
  unfold chunksOf at sum
  rw [all] at sum
  omega

theorem chunksOf_length_le (s : Input) (addr : Nat) :
    (s.chunksOf addr).length ≤ s.vframeChunkList.length := List.length_filter_le _ _

theorem add (tidy : s.Tidy) (found : s.block addr = some b) (mem : addr ∈ s.vframeBlockList)
    {chunk : Chunk} {count : Nat} (size : chunk.size = count) (block : chunk.block = addr)
    (number : chunk.addr = s.nextChunk) (offset : chunk.offset = b.wp)
    (room : b.wp + chunk.extent < b.size) (wide : 64 ≤ chunk.extent)
    (small : s.dataSize + chunk.size < 2147483648) (written : Nat → UInt8) :
    (s.addChunk addr { b with mem := written } chunk count).Tidy := by
  subst size
  have filled := tidy.filled addr b found
  have limit := tidy.small_block found
  have few := tidy.few
  have fewer := chunksOf_length_le s addr
  have data := tidy.counted.dataSize
  have part := bytes_filter_le s.vframeChunkList fun c => c.block = addr
  have wp : advance b.wp (u32 (chunk.size + chunk.padingSize)) b.size = b.wp + chunk.extent := by
    unfold Chunk.extent at room ⊢
    have plain : u32 (chunk.size + chunk.padingSize) = chunk.size + chunk.padingSize :=
      u32_natCast (n := chunk.size + chunk.padingSize) (by omega)
    have sum : u32 (b.wp + (chunk.size + chunk.padingSize)) = b.wp + (chunk.size + chunk.padingSize) :=
      u32_natCast (n := b.wp + (chunk.size + chunk.padingSize)) (by omega)
    unfold advance
    rw [plain]
    push_cast
    rw [sum]
    exact if_neg (by omega)
  have own : ∀ a, (s.vframeChunkList ++ [chunk]).filter (fun c => c.block = a) =
      s.chunksOf a ++ if a = addr then [chunk] else [] := by
    intro a
    rw [List.filter_append]
    refine congrArg _ ?_
    by_cases here : a = addr
    · simp [here, block]
    · simp [here, block, Ne.symm here]
  have placed := tidy.put found { b with
    mem := written
    wp := advance b.wp (u32 (chunk.size + chunk.padingSize)) b.size
    dataSize := s32 (b.dataSize + chunk.size)
    chunkCount := s32 (b.chunkCount + 1) } rfl
  constructor
  case toPlaced => exact { placed with }
  case plain => exact tidy.plain
  case type => exact tidy.type
  case wr =>
    intro a writes
    cases writes
    exact mem
  case free =>
    intro a here c has
    rcases put_some (s := s) has with ⟨rfl, -⟩ | ⟨-, old⟩
    · exact absurd rfl ((List.nodup_append.mp tidy.nodup).2.2 a mem a here)
    · exact tidy.free a here c old
  case filled =>
    intro a c has
    show c.Filled ((s.vframeChunkList ++ [chunk]).filter _)
    rw [own]
    rcases put_some (s := s) has with ⟨rfl, rfl⟩ | ⟨apart, old⟩
    · rw [if_pos rfl]
      constructor
      case type => exact filled.type
      case own => exact filled.own
      case room => exact wp ▸ room
      case behind =>
        intro d here
        show _ ≤ advance _ _ _
        rw [wp]
        rcases List.mem_append.mp here with old | new
        · exact Nat.le_trans (filled.behind d old) (Nat.le_add_right _ _)
        · rw [List.mem_singleton.mp new, offset]
      case extents =>
        show _ ≤ advance _ _ _
        rw [wp, extents_append]
        exact Nat.add_le_add_right filled.extents _
      case chunkCount =>
        show s32 (b.chunkCount + 1) = _
        rw [filled.chunkCount, List.length_append, List.length_singleton]
        exact s32_eq (by omega) (by omega)
      case dataSize =>
        show s32 (b.dataSize + chunk.size) = _
        have single : bytes [chunk] = chunk.size := Nat.add_zero _
        unfold chunksOf at filled ⊢
        rw [filled.dataSize, bytes_append, single]
        exact s32_eq (by omega) (by omega)
    · rw [if_neg apart, List.append_nil]
      exact tidy.filled a c old
  case lodged =>
    intro c here
    refine put_keeps fun same => ?_
    rcases List.mem_append.mp here with old | new
    · exact tidy.lodged c old
    · exact absurd (List.mem_singleton.mp new ▸ block) same
  case wide =>
    intro c here
    rcases List.mem_append.mp here with old | new
    · exact tidy.wide c old
    · exact List.mem_singleton.mp new ▸ wide
  case apart =>
    refine List.pairwise_append.mpr ⟨tidy.apart, List.pairwise_singleton _ _, fun c old d new => ?_⟩
    rw [List.mem_singleton.mp new]
    intro same
    show c.offset + c.extent ≤ chunk.offset
    rw [offset]
    exact filled.behind c (mem_chunksOf.mpr ⟨old, same.trans block⟩)
  case numbered =>
    refine List.pairwise_append.mpr ⟨tidy.numbered, List.pairwise_singleton _ _, fun c old d new => ?_⟩
    rw [List.mem_singleton.mp new, number]
    exact Nat.ne_of_lt (tidy.fewer c old)
  case fewer =>
    intro c here
    show c.addr < s.nextChunk + 1
    rcases List.mem_append.mp here with old | new
    · exact Nat.lt_succ_of_lt (tidy.fewer c old)
    · rw [List.mem_singleton.mp new, number]
      exact Nat.lt_succ_self _
  case default => exact tidy.default
  case counted =>
    have single : bytes [chunk] = chunk.size := Nat.add_zero _
    constructor
    case dataSize =>
      show s32 (s.dataSize + chunk.size) = bytes (s.vframeChunkList ++ [chunk])
      rw [bytes_append, single, data]
      exact s32_eq (by omega) (by omega)
    case haveFrameNum =>
      show s32 (s.haveFrameNum + 1) = (s.vframeChunkList ++ [chunk]).length
      rw [tidy.counted.haveFrameNum, List.length_append, List.length_singleton]
      exact s32_eq (by omega) (by omega)
    case totals =>
      show u64 (u64 (s.totalWrCount + chunk.size) - s.totalRdCount) =
        bytes (s.vframeChunkList ++ [chunk])
      have totals := tidy.counted.totals
      rw [bytes_append, single]
      unfold u64 at totals ⊢
      omega
    case small =>
      show bytes (s.vframeChunkList ++ [chunk]) < _
      rw [bytes_append, single]
      omega

theorem remove (tidy : s.Tidy) {chunk : Chunk} (mem : chunk ∈ s.vframeChunkList)
    (found : s.block chunk.block = some b) (rp : Nat) :
    (s.removeChunk chunk { b with
      rp
      dataSize := s32 (b.dataSize - chunk.size)
      chunkCount := s32 (b.chunkCount - 1) }).Tidy := by
  have filled := tidy.filled _ b found
  have few := tidy.few
  have fewer := chunksOf_length_le s chunk.block
  have data := tidy.counted.dataSize
  have part := bytes_filter_le s.vframeChunkList fun c => c.block = chunk.block
  have perm := perm_remove tidy.numbered mem
  have shorter : ∀ c ∈ s.vframeChunkList.filter (fun c => c.addr ≠ chunk.addr), c ∈ s.vframeChunkList :=
    fun c here => (List.mem_filter.mp here).1
  have own : ∀ a, (s.chunksOf a).Perm ((if a = chunk.block then [chunk] else []) ++
      (s.vframeChunkList.filter fun c => c.addr ≠ chunk.addr).filter fun c => c.block = a) := by
    intro a
    refine (perm.filter _).trans ?_
    rw [List.filter_cons]
    by_cases here : a = chunk.block
    · rw [if_pos here, if_pos (by simp [here])]
      exact List.Perm.refl _
    · rw [if_neg here, if_neg (by simp [Ne.symm here])]
      exact List.Perm.refl _
  have placed := tidy.put found { b with
    rp
    dataSize := s32 (b.dataSize - chunk.size)
    chunkCount := s32 (b.chunkCount - 1) } rfl
  have removed : bytes s.vframeChunkList =
      chunk.size + bytes (s.vframeChunkList.filter fun c => c.addr ≠ chunk.addr) := bytes_perm perm
  have small := tidy.counted.small
  constructor
  case toPlaced => exact { placed with }
  case plain => exact tidy.plain
  case type => exact tidy.type
  case wr => exact tidy.wr
  case free =>
    intro a here c has
    rcases put_some (s := s) has with ⟨rfl, rfl⟩ | ⟨-, old⟩
    · exact tidy.free _ here b found
    · exact tidy.free a here c old
  case filled =>
    intro a c has
    show c.Filled ((s.vframeChunkList.filter _).filter _)
    rcases put_some (s := s) has with ⟨rfl, rfl⟩ | ⟨apart, old⟩
    · have all := filled.perm (own chunk.block)
      rw [if_pos rfl, List.singleton_append] at all
      have extent := all.extents
      have count := all.chunkCount
      have size := all.dataSize
      have first : ∀ rest, extents (chunk :: rest) = chunk.extent + extents rest := fun _ => rfl
      have bytesFirst : ∀ rest, bytes (chunk :: rest) = chunk.size + bytes rest := fun _ => rfl
      have within := bytes_perm (own chunk.block)
      rw [if_pos rfl, List.singleton_append, bytesFirst] at within
      have most : bytes (s.chunksOf chunk.block) ≤ bytes s.vframeChunkList := part
      have length := (own chunk.block).length_eq
      rw [if_pos rfl, List.singleton_append, List.length_cons] at length
      rw [first] at extent
      rw [List.length_cons] at count
      rw [bytesFirst] at size
      constructor
      case type => exact filled.type
      case own => exact filled.own
      case room => exact filled.room
      case behind => exact fun d here => all.behind d (List.mem_cons_of_mem _ here)
      case extents => exact Nat.le_trans (Nat.le_add_left _ _) extent
      case chunkCount =>
        show s32 (b.chunkCount - 1) = _
        rw [count, s32_eq (by omega) (by omega)]
        omega
      case dataSize =>
        show s32 (b.dataSize - chunk.size) = _
        rw [size, s32_eq (by omega) (by omega)]
        omega
    · have all := (tidy.filled a c old).perm (own a)
      rw [if_neg apart, List.nil_append] at all
      exact all
  case lodged =>
    intro c here
    exact put_keeps fun _ => tidy.lodged c (shorter c here)
  case wide => exact fun c here => tidy.wide c (shorter c here)
  case apart => exact tidy.apart.sublist List.filter_sublist
  case numbered => exact tidy.numbered.sublist List.filter_sublist
  case fewer => exact fun c here => tidy.fewer c (shorter c here)
  case default => exact tidy.default
  case counted =>
    constructor
    case dataSize =>
      show s32 (s.dataSize - chunk.size) = bytes (s.vframeChunkList.filter _)
      rw [data, s32_eq (by omega) (by omega)]
      omega
    case haveFrameNum =>
      show s32 (s.haveFrameNum - 1) = (s.vframeChunkList.filter _).length
      have length := perm.length_eq
      rw [List.length_cons] at length
      rw [tidy.counted.haveFrameNum, s32_eq (by omega) (by omega)]
      omega
    case totals =>
      show u64 (s.totalWrCount - u64 (s.totalRdCount + chunk.size)) = bytes (s.vframeChunkList.filter _)
      have totals := tidy.counted.totals
      unfold u64 at totals ⊢
      omega
    case small => exact Nat.lt_of_le_of_lt (bytes_filter_le _ _) small

end Tidy

end Input

end UnionpiTiger.Vdec
