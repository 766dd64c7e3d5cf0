import UnionpiTiger.Lib.RingQueue
import UnionpiTiger.Vdec.Calls
import UnionpiTiger.Vdec.Input

set_option autoImplicit false

namespace UnionpiTiger.Vdec

open Lib

def laid (place : Nat → Nat) (n : Nat) (byte : Nat → UInt8) : List Write :=
  (List.range n).map fun i => ⟨place i, byte i⟩

theorem writes_eq_laid (offset n : Nat) (byte : Nat → UInt8) :
    writes offset n byte = laid (fun i => offset + i) n byte := rfl

theorem laid_congr {place other : Nat → Nat} {n : Nat} {byte else_ : Nat → UInt8}
    (places : ∀ i < n, place i = other i) (bytes : ∀ i < n, byte i = else_ i) :
    laid place n byte = laid other n else_ := by
  refine List.map_congr_left fun i mem => ?_
  have below := List.mem_range.mp mem
  rw [places i below, bytes i below]

theorem laid_append (place : Nat → Nat) (m n : Nat) (byte : Nat → UInt8) :
    laid place m byte ++ laid (fun i => place (m + i)) n (fun i => byte (m + i)) =
      laid place (m + n) byte := by
  unfold laid
  rw [List.range_add, List.map_append, List.map_map]
  rfl

theorem mem_laid {place : Nat → Nat} {n : Nat} {byte : Nat → UInt8} {w : Write} :
    w ∈ laid place n byte ↔ ∃ i < n, ⟨place i, byte i⟩ = w := by
  unfold laid
  simp only [List.mem_map, List.mem_range]

theorem laid_succ (place : Nat → Nat) (n : Nat) (byte : Nat → UInt8) :
    laid place (n + 1) byte = laid place n byte ++ [⟨place n, byte n⟩] := by
  unfold laid
  rw [List.range_succ, List.map_append]
  rfl

theorem foldl_laid_succ (place : Nat → Nat) (n : Nat) (byte mem : Nat → UInt8) :
    (laid place (n + 1) byte).foldl Write.apply mem =
      Function.update ((laid place n byte).foldl Write.apply mem) (place n) (byte n) := by
  rw [laid_succ, List.foldl_append]
  rfl

theorem laid_other {place : Nat → Nat} {n p : Nat} (byte : Nat → UInt8) (mem : Nat → UInt8)
    (apart : ∀ i < n, place i ≠ p) : (laid place n byte).foldl Write.apply mem p = mem p := by
  induction n with
  | zero => rfl
  | succ n ih =>
    rw [foldl_laid_succ, Function.update_of_ne (apart n (Nat.lt_succ_self n)).symm]
    exact ih fun i below => apart i (Nat.lt_succ_of_lt below)

theorem laid_here {place : Nat → Nat} {n i : Nat} (byte : Nat → UInt8) (mem : Nat → UInt8)
    (apart : ∀ j < n, j ≠ i → place j ≠ place i) (below : i < n) :
    (laid place n byte).foldl Write.apply mem (place i) = byte i := by
  induction n with
  | zero => omega
  | succ n ih =>
    rw [foldl_laid_succ]
    by_cases last : i = n
    · rw [last, Function.update_self]
    · rw [Function.update_of_ne (apart n (Nat.lt_succ_self n) (Ne.symm last)).symm]
      exact ih (fun j less => apart j (Nat.lt_succ_of_lt less)) (by omega)

structure Complete (outcome : Outcome) (buf : UserBuf) (count : Nat) : Prop where
  readable : count ≤ buf.readable
  mapped : ∀ phys n, outcome.vmap phys n = true

section Copies

variable {outcome : Outcome} {buf : UserBuf} {count : Nat}

theorem amlCopyFromUser_complete (offset : Nat) {place n : Nat} (within : place + n ≤ buf.readable) :
    amlCopyFromUser offset buf place n =
      (laid (fun i => offset + i) n fun i => buf.byte (place + i), true) := by
  unfold amlCopyFromUser
  rw [writes_eq_laid, decide_eq_true within]
  refine congrArg (·, true) (laid_congr (fun _ _ => rfl) fun i below => ?_)
  exact if_pos (by omega)

theorem copySpans_complete (mapped : ∀ phys n, outcome.vmap phys n = true) (place phys spans i : Nat)
    (within : place + (i + spans) * spanSize ≤ buf.readable) :
    copySpans outcome buf place phys spans i =
      (laid (fun k => phys + i * spanSize + k) (spans * spanSize)
        fun k => buf.byte (place + i * spanSize + k), true) := by
  induction spans generalizing i with
  | zero =>
    rw [Nat.zero_mul, copySpans, laid, List.range_zero, List.map_nil]
  | succ spans ih =>
    have one : (i + 1 + spans) * spanSize = (i + (spans + 1)) * spanSize := by
      rw [Nat.add_assoc, Nat.add_comm 1 spans]
    have next : (i + 1) * spanSize = i * spanSize + spanSize := Nat.add_one_mul i spanSize
    have first : place + i * spanSize + spanSize ≤ buf.readable := by
      have least : (i + 1) * spanSize ≤ (i + (spans + 1)) * spanSize :=
        Nat.mul_le_mul_right _ (by omega)
      omega
    have tail : laid (fun k => phys + (i + 1) * spanSize + k) (spans * spanSize)
        (fun k => buf.byte (place + (i + 1) * spanSize + k)) =
          laid (fun k => phys + i * spanSize + (spanSize + k)) (spans * spanSize)
            fun k => buf.byte (place + i * spanSize + (spanSize + k)) :=
      laid_congr (fun k _ => by omega) fun k _ => congrArg buf.byte (by omega)
    unfold copySpans
    rw [mapped, Bool.not_true, if_neg Bool.false_ne_true, amlCopyFromUser_complete _ first]
    dsimp only
    rw [Bool.not_true, if_neg Bool.false_ne_true, ih (i + 1) (by rw [one]; exact within), tail]
    dsimp only
    rw [laid_append, Nat.add_one_mul spans, Nat.add_comm spanSize]

theorem copyFromUserToPhyaddr_complete (mapped : ∀ phys n, outcome.vmap phys n = true)
    (virts phys : Nat) {place size : Nat} (within : place + size ≤ buf.readable) (isMapped : Bool) :
    copyFromUserToPhyaddr outcome virts buf place size phys 0 isMapped =
      laid (fun i => (if isMapped then virts else phys) + i) size fun i => buf.byte (place + i) := by
  unfold copyFromUserToPhyaddr
  cases isMapped with
  | true =>
    rw [if_pos rfl, amlCopyFromUser_complete _ within]
    dsimp only
    rw [Bool.not_true, if_neg Bool.false_ne_true]
    exact List.append_nil _
  | false =>
    have split := Nat.div_add_mod' size spanSize
    have pieces : place + (0 + size / spanSize) * spanSize ≤ buf.readable := by
      rw [Nat.zero_add]
      omega
    dsimp only
    rw [if_neg Bool.false_ne_true, copySpans_complete mapped place phys _ 0 pieces]
    simp only [Nat.zero_mul, Nat.add_zero, Bool.not_true, Bool.false_eq_true, false_or, if_false]
    by_cases whole : size % spanSize = 0
    · rw [if_pos whole]
      rw [whole, Nat.add_zero] at split
      rw [split]
    · have rest : place + (size - size % spanSize) + size % spanSize ≤ buf.readable := by omega
      rw [if_neg whole, mapped, Bool.not_true, if_neg Bool.false_ne_true,
        amlCopyFromUser_complete _ rest]
      dsimp only
      rw [Bool.not_true, if_neg Bool.false_ne_true]
      have front : size - size % spanSize = size / spanSize * spanSize := by omega
      show laid _ _ _ ++ laid _ _ _ ++ [] = _
      rw [List.append_nil, front]
      refine Eq.trans ?_
        (congrArg (fun n => laid (fun i => phys + i) n fun i => buf.byte (place + i)) split)
      rw [← laid_append]
      refine congrArg (_ ++ ·) (laid_congr (fun k _ => ?_) fun k _ => ?_)
      · omega
      · exact congrArg buf.byte (by omega)

end Copies

def Block.place (b : Block) (i : Nat) : Nat := (b.wp + i) % b.size

def framed (buf : UserBuf) (count i : Nat) : UInt8 := if i < count then buf.byte i else 0

section Fill

variable {outcome : Outcome} {buf : UserBuf} {count : Nat} {b : Block} {chunk : Chunk}

theorem clear_complete (mapped : ∀ phys n, outcome.vmap phys n = true) (virts phys n : Nat)
    (isMapped : Bool) : clear outcome virts phys n isMapped =
      some (laid (fun i => (if isMapped then virts else phys) + i) n fun _ => 0) := by
  unfold clear
  cases isMapped with
  | true => rfl
  | false =>
    rw [if_neg Bool.false_ne_true, if_pos (mapped phys n)]
    rfl

structure Block.Round (b : Block) : Prop where
  type : b.type = .frameCircular
  own : b.isOutBuf = false
  room : b.wp < b.size
  upper : b.size ≤ 2147483648

theorem Block.Round.place_eq (round : b.Round) {i : Nat} (below : i < b.size) :
    b.place i = if b.size ≤ b.wp + i then b.wp + i - b.size else b.wp + i :=
  mod_of_lt_twice (by have inside := round.room; omega)

theorem laid_round {size p n : Nat} (inside : p < size) (small : n ≤ size) (byte : Nat → UInt8) :
    laid (fun i => p + i) (min (size - p) n) byte ++
        laid (fun i => 0 + i) (n - min (size - p) n) (fun i => byte (min (size - p) n + i)) =
      laid (fun i => (p + i) % size) n byte := by
  have all : min (size - p) n + (n - min (size - p) n) = n := by omega
  refine Eq.trans ?_ (congrArg (fun n => laid (fun i => (p + i) % size) n byte) all)
  rw [← laid_append (fun i => (p + i) % size)]
  refine congrArg₂ (· ++ ·) (laid_congr (fun i below => ?_) fun _ _ => rfl)
    (laid_congr (fun i below => ?_) fun _ _ => rfl)
  · rw [mod_of_lt_twice (by omega), if_neg (by omega)]
  · rw [mod_of_lt_twice (by omega), if_pos (by omega)]
    omega

theorem copies_circular (round : b.Round) (complete : Complete outcome buf count)
    (fits : count < b.size) (ends : b.isMapped = true → b.wp + count < b.size) {len : Nat}
    (split : len = min (b.size - b.wp) count) :
    copyFromUserToPhyaddr outcome b.wp buf 0 (u32 len) b.wp 0 b.isMapped ++
        (if count > len then
          copyFromUserToPhyaddr outcome (b.wp + len) buf len (u32 (count - len)) 0 0 b.isMapped
        else []) =
      laid b.place count buf.byte := by
  have room := round.room
  have upper := round.upper
  have read := complete.readable
  have later : u32 (count - len) = count - len := by
    unfold u32
    omega
  rw [u32_natCast (by omega), later, copyFromUserToPhyaddr_complete complete.mapped _ _ (by omega)]
  refine Eq.trans ?_ (laid_round room (Nat.le_of_lt fits) buf.byte)
  rw [← split]
  refine congrArg₂ (· ++ ·) (laid_congr (fun i _ => ?_) fun i _ => ?_) ?_
  · rw [ite_self]
  · rw [Nat.zero_add]
  · by_cases more : count > len
    · have plain : b.isMapped = false := Bool.eq_false_iff.mpr fun mapped => by
        have before := ends mapped
        omega
      rw [if_pos more, copyFromUserToPhyaddr_complete complete.mapped _ _ (by omega), plain]
      rfl
    · have none_ : count - len = 0 := by omega
      rw [if_neg more, none_]
      rfl

theorem clears_circular (round : b.Round) (count pading : Nat) (small : pading ≤ b.size) :
    laid (fun i => b.place count + i) (min (b.size - b.place count) pading) (fun _ => 0) ++
        laid (fun i => 0 + i) (pading - min (b.size - b.place count) pading) (fun _ => 0) =
      laid (fun i => b.place (count + i)) pading fun _ => 0 := by
  have inside : b.place count < b.size := Nat.mod_lt _ (Nat.zero_lt_of_lt round.room)
  rw [laid_round inside small fun _ => 0]
  refine laid_congr (fun i _ => ?_) fun _ _ => rfl
  show ((b.wp + count) % b.size + i) % b.size = (b.wp + (count + i)) % b.size
  rw [Nat.mod_add_mod, Nat.add_assoc]

theorem laid_framed (place : Nat → Nat) (pading : Nat) :
    laid place count buf.byte ++ laid (fun i => place (count + i)) pading (fun _ => 0) =
      laid place (count + pading) (framed buf count) := by
  rw [← laid_append]
  refine congrArg₂ (· ++ ·) (laid_congr (fun _ _ => rfl) fun i below => ?_)
    (laid_congr (fun _ _ => rfl) fun i _ => ?_)
  · exact (if_pos below).symm
  · exact (if_neg (by omega)).symm

theorem vframeChunkFill_circular (chunk : Chunk) (round : b.Round)
    (complete : Complete outcome buf count) (fits : count + chunk.padingSize < b.size)
    (ends : b.isMapped = true → b.wp + count < b.size) :
    vframeChunkFill outcome chunk buf count b =
      some (laid b.place (count + chunk.padingSize) (framed buf count)) := by
  have room := round.room
  have upper := round.upper
  have copies := copies_circular round complete (by omega) ends rfl
  have clears := clears_circular round count chunk.padingSize (by omega)
  have after : b.place count < b.size := Nat.mod_lt _ (by omega)
  have space : u32 (b.size - b.wp) = b.size - b.wp := by
    unfold u32
    omega
  have left : u32 (b.size - b.place count) = b.size - b.place count := by
    unfold u32
    omega
  have next : (if u32 (b.wp + count) ≥ b.size then u32 (b.wp + count) - b.size
      else u32 (b.wp + count)) =
      b.place count := by
    have small : u32 (b.wp + count) = b.wp + count := by
      unfold u32
      omega
    rw [small]
    exact (round.place_eq (by omega)).symm
  have mapped : (if b.isMapped then
      (if count > min (b.size - b.wp) count then
        b.wp + min (b.size - b.wp) count + (count - min (b.size - b.wp) count)
      else b.wp + min (b.size - b.wp) count)
      else b.place count) = b.place count := by
    split_ifs with isMapped
    · have before := ends isMapped
      omega
    · have before := ends isMapped
      rw [round.place_eq (by omega), if_neg (by omega)]
      omega
    · rfl
  unfold vframeChunkFill
  rw [round.type]
  dsimp only
  rw [space, next, left, clear_complete complete.mapped, mapped, Option.bind_eq_bind, Option.bind_some,
    copies, ← laid_framed, ← clears]
  by_cases more : chunk.padingSize > min (b.size - b.place count) chunk.padingSize
  · rw [if_pos more, clear_complete complete.mapped, ite_self, Option.bind_some, List.append_assoc]
    rfl
  · have none_ : chunk.padingSize - min (b.size - b.place count) chunk.padingSize = 0 := by omega
    rw [if_neg more, none_, Option.bind_some, List.append_assoc]
    rfl

theorem vframeChunkFill_behind (round : b.Round) {ws : List Write}
    (filled : vframeChunkFill outcome chunk buf count b = some ws) (fits : count < b.size)
    (pads : 0 < chunk.padingSize) (mapped : b.isMapped = true) (reaches : b.size ≤ b.wp + count) :
    ∃ w ∈ ws, b.size ≤ w.offset := by
  have room := round.room
  have upper := round.upper
  have space : u32 (b.size - b.wp) = b.size - b.wp := by
    unfold u32
    omega
  have behind : b.size ≤ (if count > min (b.size - b.wp) count then
      b.wp + min (b.size - b.wp) count + (count - min (b.size - b.wp) count)
      else b.wp + min (b.size - b.wp) count) := by
    split_ifs <;> omega
  have next : (if u32 (b.wp + count) ≥ b.size then u32 (b.wp + count) - b.size
      else u32 (b.wp + count)) <
      b.size := by
    unfold u32
    split_ifs <;> omega
  unfold vframeChunkFill at filled
  rw [round.type] at filled
  dsimp only at filled
  rw [space, mapped] at filled
  revert filled behind next
  generalize (if count > min (b.size - b.wp) count then
      b.wp + min (b.size - b.wp) count + (count - min (b.size - b.wp) count)
      else b.wp + min (b.size - b.wp) count) = p
  generalize (if u32 (b.wp + count) ≥ b.size then u32 (b.wp + count) - b.size
    else u32 (b.wp + count)) = wp
  intro filled behind next
  have cleared : 0 < min (u32 (b.size - wp)) chunk.padingSize := by
    unfold u32
    omega
  have first : (⟨p + 0, 0⟩ : Write) ∈ writes p (min (u32 (b.size - wp)) chunk.padingSize) fun _ => 0 :=
    List.mem_map_of_mem (List.mem_range.mpr cleared)
  unfold clear at filled
  simp only [if_true, Option.bind_eq_bind, Option.bind_some] at filled
  split_ifs at filled
  all_goals
    cases filled
    exact ⟨_, List.mem_append_left _ (List.mem_append_right _ first), behind⟩

end Fill

def Chain (size : Nat) : Nat → List Chunk → Nat → Prop
  | a, [], w => a = w
  | a, c :: rest, w => c.offset = a % size ∧ Chain size (a + c.extent) rest w

namespace Chain

variable {size a w : Nat} {chunks : List Chunk} {c : Chunk}

theorem extents_eq (chain : Chain size a chunks w) : a + extents chunks = w := by
  induction chunks generalizing a with
  | nil => exact chain
  | cons c rest ih =>
    have tail := ih chain.2
    unfold extents at *
    rw [List.map_cons, List.sum_cons]
    omega

theorem snoc (chain : Chain size a chunks w) (starts : c.offset = w % size) :
    Chain size a (chunks ++ [c]) (w + c.extent) := by
  induction chunks generalizing a with
  | nil =>
    have same : a = w := chain
    exact ⟨same ▸ starts, same ▸ rfl⟩
  | cons d rest ih => exact ⟨chain.1, ih chain.2⟩

theorem mem (chain : Chain size a chunks w) (mem : c ∈ chunks) :
    ∃ p, c.offset = p % size ∧ a ≤ p ∧ p + c.extent ≤ w := by
  induction chunks generalizing a with
  | nil => cases mem
  | cons d rest ih =>
    rcases List.mem_cons.mp mem with rfl | later
    · have end_ := chain.2.extents_eq
      exact ⟨a, chain.1, Nat.le_refl _, by omega⟩
    · obtain ⟨p, starts, after, before⟩ := ih chain.2 later
      exact ⟨p, starts, by omega, before⟩

end Chain

theorem advance_eq {place step size : Nat} (inside : place < size) (small : step < size)
    (upper : size ≤ 2147483648) : advance place step size = (place + step) % size := by
  have plain : u32 (place + step) = place + step := by
    unfold u32
    omega
  unfold advance
  rw [plain]
  exact (mod_of_lt_twice (by omega)).symm

-- A block in use: `r` is the place that the read pointer has come to, `a` the one that the first
-- of the chunks starts at.
structure Block.Ring (b : Block) (chunks : List Chunk) (r a w : Nat) : Prop extends b.Round where
  rp : b.rp = r % b.size
  wp : b.wp = w % b.size
  behind : r ≤ a
  chain : Chain b.size a chunks w
  within : w < r + b.size

namespace Block.Ring

variable {b other : Block} {chunks rest : List Chunk} {r a w : Nat} {c : Chunk}

theorem space (ring : b.Ring chunks r a w) (started : r < w) :
    vframeBlockSpace b + (w - r) = b.size := by
  have room := ring.room
  have upper := ring.upper
  have within := ring.within
  have inside := Nat.mod_lt r (Nat.zero_lt_of_lt room)
  have ahead := add_mod_of_lt r (w - r) (Nat.zero_lt_of_lt room) (by omega)
  rw [Nat.add_sub_of_le (Nat.le_of_lt started)] at ahead
  unfold vframeBlockSpace
  rw [ring.type, ring.rp, ring.wp]
  dsimp only
  rw [ahead]
  unfold u32
  split_ifs <;> omega

theorem place_eq (ring : b.Ring chunks r a w) (i : Nat) : b.place i = (w + i) % b.size := by
  unfold Block.place
  rw [ring.wp, Nat.mod_add_mod]

theorem place_ne (ring : b.Ring chunks r a w) {i j : Nat} (apart : i ≠ j) (left : w + i < r + b.size)
    (right : w + j < r + b.size) : b.place i ≠ b.place j := by
  have end_ := ring.chain.extents_eq
  have behind := ring.behind
  rw [ring.place_eq, ring.place_eq]
  rcases Nat.lt_or_gt_of_ne apart with less | more
  · exact mod_ne_of_lt (by omega) (by omega)
  · exact (mod_ne_of_lt (by omega) (by omega)).symm

theorem place_ne_chunk (ring : b.Ring chunks r a w) (mem : c ∈ chunks) {i k : Nat}
    (free : w + i < r + b.size) (within : k < c.extent) : b.place i ≠ (c.offset + k) % b.size := by
  have behind := ring.behind
  obtain ⟨p, starts, after, before⟩ := ring.chain.mem mem
  rw [ring.place_eq, starts, Nat.mod_add_mod]
  exact (mod_ne_of_lt (by omega) (by omega)).symm

theorem add (ring : b.Ring chunks r a w) (type : other.type = b.type)
    (own : other.isOutBuf = b.isOutBuf) (size : other.size = b.size) (rp : other.rp = b.rp)
    (wp : other.wp = advance b.wp (u32 (c.size + c.padingSize)) b.size) (starts : c.offset = b.wp)
    (fits : w + c.extent < r + b.size) : other.Ring (chunks ++ [c]) r a (w + c.extent) := by
  have room := ring.room
  have upper := ring.upper
  have end_ := ring.chain.extents_eq
  have behind := ring.behind
  have small : c.extent < b.size := by omega
  have next : other.wp = (w + c.extent) % b.size := by
    have step : u32 (c.size + c.padingSize) = c.extent := by
      unfold u32 Chunk.extent at *
      omega
    rw [wp, step, advance_eq room small upper, ring.wp, Nat.mod_add_mod]
  constructor
  case toRound =>
    refine ⟨type.trans ring.type, own.trans ring.own, ?_, size ▸ upper⟩
    rw [next, size]
    exact Nat.mod_lt _ (Nat.zero_lt_of_lt room)
  case rp => rw [rp, size, ring.rp]
  case wp => rw [next, size]
  case behind => exact behind
  case chain =>
    rw [size]
    exact ring.chain.snoc (starts.trans ring.wp)
  case within => rwa [size]

theorem release (ring : b.Ring (c :: rest) r a w) (type : other.type = b.type)
    (own : other.isOutBuf = b.isOutBuf) (size : other.size = b.size) (wp : other.wp = b.wp)
    (rp : other.rp = advance b.rp c.size b.size) : other.Ring rest (r + c.size) (a + c.extent) w := by
  have room := ring.room
  have upper := ring.upper
  have within := ring.within
  have behind := ring.behind
  have end_ := ring.chain.2.extents_eq
  have bytes : c.size ≤ c.extent := Nat.le_add_right _ _
  have inside : b.rp < b.size := ring.rp ▸ Nat.mod_lt r (Nat.zero_lt_of_lt room)
  constructor
  case toRound => exact ⟨type.trans ring.type, own.trans ring.own,
    by rw [wp, size]; exact room, size ▸ upper⟩
  case rp => rw [rp, size, advance_eq inside (by omega) upper, ring.rp, Nat.mod_add_mod]
  case wp => rw [wp, size, ring.wp]
  case behind => omega
  case chain =>
    rw [size]
    exact ring.chain.2
  case within =>
    rw [size]
    omega

end Block.Ring

end UnionpiTiger.Vdec
