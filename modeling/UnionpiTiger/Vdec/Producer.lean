import UnionpiTiger.Vdec.Calls

set_option autoImplicit false

namespace UnionpiTiger.Vdec

open Lib Input

structure AddCall where
  outcome : Outcome := {}
  stamp : Stamp := {}
  buf : UserBuf
  count : UInt64

-- Where a call of vdec_input_add_chunk is between two sections of the lock.
inductive AddAt where
  | idle
  | secure (call : AddCall)
  | giveUp (call : AddCall) (addr : Nat)
  | takeFree (call : AddCall)
  | passLimits (call : AddCall)
  | allocate (call : AddCall)
  | finish (call : AddCall) (addr : Nat)

structure Sharing where
  input : Input
  pc : AddAt := .idle

-- The thread that adds frames calls and goes on by a section, and the other thread releases a chunk.
inductive SharingAct where
  | call (call : AddCall)
  | goOn
  | release (addr : Nat)

namespace Sharing

def begin_ (s : Sharing) (call : AddCall) : Option Sharing :=
  if s.input.secure then some { s with pc := .secure call }
  else (s.input.lookAtWrBlock call.count.toNat).map fun
    | .fill addr => { s with pc := .finish call addr }
    | .giveUp addr => { s with pc := .giveUp call addr }
    | .fresh => { s with pc := .takeFree call }
    | .back _ => s

def chosen (call : AddCall) : Input × Except Int Nat → Sharing
  | (input, .ok addr) => { input, pc := .finish call addr }
  | (input, .error _) => { input }

def goOn (s : Sharing) : Option Sharing :=
  match s.pc with
  | .idle => some s
  | .secure call => some (chosen call (s.input.secureBlock call.outcome call.buf call.count.toNat))
  | .giveUp call addr => (s.input.giveUp addr).map fun input => { input, pc := .takeFree call }
  | .takeFree call => (s.input.takeFreeBlock (frameSize call.count.toNat)).map fun
    | (input, some addr) => { input, pc := .finish call addr }
    | (input, none) => { input, pc := .passLimits call }
  | .passLimits call => (s.input.passLimits (frameSize call.count.toNat)).map fun
    | (input, some _) => { input }
    | (input, none) => { input, pc := .allocate call }
  | .allocate call => some (chosen call (s.input.allocate call.outcome))
  | .finish call addr => (s.input.finish call.outcome call.stamp call.buf call.count.toNat addr).map
      fun done => { input := done.1 }

def step (s : Sharing) : SharingAct → Sharing
  | .call call => if s.pc matches .idle then (s.begin_ call).getD s else s
  | .goOn => s.goOn.getD s
  | .release addr => ((s.input.vdecInputReleaseChunk addr).map fun input => { s with input }).getD s

def Reachable (s : Sharing) : Prop :=
  s.pc = .idle → ∀ addr ∈ s.input.vframeBlockList, s.input.wrBlock ≠ some addr →
    ∃ b, s.input.block addr = some b ∧ 0 < b.chunkCount

def InUse (s : Input) : Prop :=
  ∀ addr b, s.wrBlock = some addr → addr ∈ s.vframeBlockList → s.block addr = some b → 0 < b.chunkCount

def GoesOn (s : Sharing) : Prop :=
  match s.pc with
  | .secure call => (∀ code, (s.input.secureBlock call.outcome call.buf call.count.toNat).2 ≠
      .error code) →
    InUse s.input
  | .takeFree call => ∀ input addr,
    s.input.takeFreeBlock (frameSize call.count.toNat) = some (input, some addr) → InUse s.input
  | .allocate call => (∀ code, (s.input.allocate call.outcome).2 ≠ .error code) → InUse s.input
  | .finish _ addr => ∀ b, s.input.block addr = some b → b.chunkCount < 2147483647
  | _ => True

def Fits (s : Sharing) : SharingAct → Prop
  | .goOn => s.GoesOn
  | _ => True

instance InUse.decidable (s : Input) : Decidable (InUse s) :=
  decidable_of_iff (∀ addr ∈ s.wrBlock, addr ∈ s.vframeBlockList → ∀ b ∈ s.block addr, 0 < b.chunkCount)
    ⟨fun all addr b writes mem found => all addr writes mem b found,
      fun inUse addr writes mem b found => inUse addr b writes mem found⟩

theorem isOk_iff {A : Type} (result : Except Int A) :
    result.isOk = true ↔ ∀ code, result ≠ .error code := by
  cases result with
  | error code => exact iff_of_false Bool.false_ne_true fun none_ => none_ code rfl
  | ok a => exact iff_of_true rfl nofun

instance GoesOn.decidable : (s : Sharing) → Decidable s.GoesOn
  | ⟨_, .secure _⟩ => decidable_of_iff _ (imp_congr (isOk_iff _) Iff.rfl)
  | ⟨_, .takeFree _⟩ => decidable_of_iff _ (Input.taken_iff _ _)
  | ⟨_, .allocate _⟩ => decidable_of_iff _ (imp_congr (isOk_iff _) Iff.rfl)
  | ⟨input, .finish _ addr⟩ =>
    inferInstanceAs (Decidable (∀ b ∈ input.block addr, b.chunkCount < 2147483647))
  | ⟨_, .idle⟩ => isTrue trivial
  | ⟨_, .giveUp _ _⟩ => isTrue trivial
  | ⟨_, .passLimits _⟩ => isTrue trivial

instance Fits.decidable (s : Sharing) : (act : SharingAct) → Decidable (s.Fits act)
  | .goOn => inferInstanceAs (Decidable s.GoesOn)
  | .call _ => isTrue trivial
  | .release _ => isTrue trivial

end Sharing

namespace Input

structure Held (s : Input) : Prop extends s.Listed where
  wr : ∀ addr, s.wrBlock = some addr → s.block addr ≠ none
  plain : s.secure = false → ∀ addr b, s.block addr = some b → b.isOutBuf = false
  idle : s.secure = false → ∀ addr ∈ s.vframeBlockFreeList, s.wrBlock ≠ some addr ∧
    ∀ b, s.block addr = some b → b.chunkCount = 0
  counted : ∀ addr b, s.block addr = some b →
    b.chunkCount = (s.chunksOf addr).length ∧ b.chunkCount < 2147483648
  lodged : ∀ c ∈ s.vframeChunkList, s.block c.block ≠ none
  numbered : s.vframeChunkList.Pairwise fun c d => c.addr ≠ d.addr
  fewer : ∀ c ∈ s.vframeChunkList, c.addr < s.nextChunk

def Busy (s : Input) (addr : Nat) : Prop :=
  ∀ b, s.block addr = some b → addr ∈ s.vframeBlockList → s.wrBlock ≠ some addr → 0 < b.chunkCount

structure Owned (s : Input) : Prop extends s.Held where
  busy : ∀ addr, s.Busy addr

variable {s : Input} {addr : Nat} {b : Block}

theorem put_same (found : s.block addr = some b) : s.put addr b = s := by
  unfold put
  rw [← found, Function.update_eq_self]

theorem chunksOf_none (lodged : ∀ c ∈ s.vframeChunkList, s.block c.block ≠ none)
    (none_ : s.block addr = none) : s.chunksOf addr = [] :=
  List.eq_nil_iff_forall_not_mem.mpr fun c mem => by
    obtain ⟨here, same⟩ := mem_chunksOf.mp mem
    exact lodged c here (same ▸ none_)

namespace Held

theorem toFreeList (held : s.Held) (others : ∀ a, a ≠ addr → s.Busy a) (found : s.block addr = some b)
    (other : Block) (own : other.isOutBuf = b.isOutBuf) (count : other.chunkCount = b.chunkCount)
    (wrBlock : Option Nat) (keeps : ∀ a, wrBlock = some a → s.wrBlock = some a)
    (loses : ∀ a, s.wrBlock = some a → a = addr ∨ wrBlock = some a)
    (idle : s.secure = false → b.chunkCount = 0 ∧ wrBlock ≠ some addr) :
    ({ (s.put addr other).moveToFreeList addr with wrBlock } : Input).Owned := by
  have put := held.put found other
  have moved := put.moved (put.perm_free (put.mem put_self))
  constructor
  case toHeld =>
    constructor
    case toListed => exact { moved with }
    case wr =>
      intro a writes
      exact put_keeps fun _ => held.wr a (keeps a writes)
    case plain =>
      intro plain a c has
      rcases put_some (s := s) has with ⟨-, rfl⟩ | ⟨-, old⟩
      · rw [own]
        exact held.plain plain addr b found
      · exact held.plain plain a c old
    case idle =>
      intro plain a mem
      rcases List.mem_append.mp mem with there | last
      · obtain ⟨notWr, empty⟩ := held.idle plain a (List.mem_of_mem_erase there)
        refine ⟨fun writes => notWr (keeps a writes), fun c has => ?_⟩
        rcases put_some (s := s) has with ⟨-, rfl⟩ | ⟨-, old⟩
        · exact count.trans (idle plain).1
        · exact empty c old
      · obtain rfl := List.mem_singleton.mp last
        refine ⟨(idle plain).2, fun c has => ?_⟩
        rcases put_some (s := s) has with ⟨-, rfl⟩ | ⟨apart, -⟩
        · exact count.trans (idle plain).1
        · exact absurd rfl apart
    case counted =>
      intro a c has
      show _ = ((s.chunksOf a).length : Int) ∧ _
      rcases put_some (s := s) has with ⟨rfl, rfl⟩ | ⟨-, old⟩
      · rw [count]
        exact held.counted _ b found
      · exact held.counted a c old
    case lodged =>
      intro c mem
      exact put_keeps fun _ => held.lodged c mem
    case numbered => exact held.numbered
    case fewer => exact held.fewer
  case busy =>
    intro a c has mem other
    obtain ⟨apart, mem⟩ := (List.nodup_append.mp held.nodup).1.mem_erase_iff.mp mem
    rcases put_some (s := s) has with ⟨here, -⟩ | ⟨-, old⟩
    · exact absurd here apart
    · exact others a apart c old mem fun writes => (loses a writes).elim apart other

theorem freed (held : s.Held) (others : ∀ a, a ≠ addr → s.Busy a) (found : s.block addr = some b)
    (empty : b.chunkCount = 0) (idle : s.wrBlock ≠ some addr) :
    ((s.delBlockLocked addr b).freeBlock addr).Owned := by
  have none_ : s.chunksOf addr = [] := List.length_eq_zero_iff.mp (by
    have counted := (held.counted addr b found).1
    omega)
  constructor
  case toHeld =>
    constructor
    case toListed => exact held.free addr b
    case wr =>
      intro a writes
      rw [freeBlock_other]
      · exact held.wr a writes
      · rintro rfl
        exact idle writes
    case plain => exact fun plain a c has => held.plain plain a c (freeBlock_some has).2
    case idle =>
      intro plain a mem
      obtain ⟨notWr, empty⟩ := held.idle plain a (List.mem_of_mem_erase mem)
      exact ⟨notWr, fun c has => empty c (freeBlock_some has).2⟩
    case counted => exact fun a c has => held.counted a c (freeBlock_some has).2
    case lodged =>
      intro c mem
      have apart : c.block ≠ addr := fun here =>
        List.not_mem_nil (none_ ▸ mem_chunksOf.mpr ⟨mem, here⟩)
      rw [freeBlock_other apart]
      exact held.lodged c mem
    case numbered => exact held.numbered
    case fewer => exact held.fewer
  case busy =>
    intro a c has mem other
    obtain ⟨apart, old⟩ := freeBlock_some has
    exact others a apart c old (List.mem_of_mem_erase mem) other

theorem remove (held : s.Held) {chunk : Chunk} (mem : chunk ∈ s.vframeChunkList)
    (found : s.block chunk.block = some b) (other : Block) (own : other.isOutBuf = b.isOutBuf)
    (count : other.chunkCount = s32 (b.chunkCount - 1)) : (s.removeChunk chunk other).Held := by
  have removed : ∀ a, (s.chunksOf a).length = (if a = chunk.block then 1 else 0) +
      ((s.vframeChunkList.filter fun c => c.addr ≠ chunk.addr).filter fun c => c.block = a).length := by
    intro a
    have perm := (perm_remove held.numbered mem).filter fun c => decide (c.block = a)
    unfold chunksOf
    rw [perm.length_eq, List.filter_cons]
    by_cases here : a = chunk.block
    · rw [if_pos here, if_pos (by simp [here]), List.length_cons, Nat.add_comm]
    · rw [if_neg here, if_neg (by simp [Ne.symm here]), Nat.zero_add]
  have shorter : ∀ c ∈ s.vframeChunkList.filter (fun c => c.addr ≠ chunk.addr), c ∈ s.vframeChunkList :=
    fun c listed => (List.mem_filter.mp listed).1
  constructor
  case toListed => exact { held.put found other with }
  case wr =>
    intro a writes
    exact put_keeps fun _ => held.wr a writes
  case plain =>
    intro plain a c has
    rcases put_some (s := s) has with ⟨-, rfl⟩ | ⟨-, old⟩
    · rw [own]
      exact held.plain plain _ b found
    · exact held.plain plain a c old
  case idle =>
    intro plain a here
    obtain ⟨notWr, empty⟩ := held.idle plain a here
    refine ⟨notWr, fun c has => ?_⟩
    rcases put_some (s := s) has with ⟨rfl, -⟩ | ⟨-, old⟩
    · have all := removed chunk.block
      have none_ := empty b found
      have counted := (held.counted _ b found).1
      rw [if_pos rfl] at all
      omega
    · exact empty c old
  case counted =>
    intro a c has
    show _ = (((s.vframeChunkList.filter _).filter _).length : Int) ∧ _
    have all := removed a
    rcases put_some (s := s) has with ⟨rfl, rfl⟩ | ⟨apart, old⟩
    · obtain ⟨counted, limit⟩ := held.counted _ b found
      rw [if_pos rfl] at all
      rw [count, s32_eq (by omega) (by omega)]
      omega
    · rw [if_neg apart] at all
      obtain ⟨counted, limit⟩ := held.counted a c old
      omega
  case lodged =>
    intro c listed
    exact put_keeps fun _ => held.lodged c (shorter c listed)
  case numbered => exact held.numbered.sublist List.filter_sublist
  case fewer => exact fun c listed => held.fewer c (shorter c listed)

theorem recycle (held : s.Held) (others : ∀ a, a ≠ addr → s.Busy a) (found : s.block addr = some b) :
    (s.recycle addr b).Owned := by
  unfold Input.recycle
  by_cases out : b.isOutBuf = true
  · rw [if_pos out]
    have moved := held.toFreeList others found b rfl rfl s.wrBlock (fun _ writes => writes)
      (fun _ writes => Or.inr writes) fun plain => by
        rw [held.plain plain addr b found] at out
        cases out
    rw [put_same found] at moved
    exact moved
  · rw [if_neg out]
    by_cases idle : b.chunkCount = 0 ∧ s.wrBlock ≠ some addr
    · rw [if_pos idle]
      by_cases small : (b.size : Int) < u32 s.defaultBlockSize
      · rw [if_pos small]
        exact held.freed others found idle.1 idle.2
      · rw [if_neg small]
        exact held.toFreeList others found { b with rp := 0, wp := 0 } rfl rfl s.wrBlock
          (fun _ writes => writes) (fun _ writes => Or.inr writes) fun _ => idle
    · rw [if_neg idle]
      refine ⟨held, fun a => ?_⟩
      by_cases here : a = addr
      · subst here
        intro c has _ other
        obtain rfl : b = c := Option.some.inj (found.symm.trans has)
        have counted := (held.counted a b found).1
        have some_ : b.chunkCount ≠ 0 := fun empty => idle ⟨empty, other⟩
        omega
      · exact others a here

end Held

namespace Owned

theorem taken (owned : s.Owned) (mem : addr ∈ s.vframeBlockFreeList) (inUse : Sharing.InUse s) :
    ({ s.moveToBlockList addr with wrBlock := some addr } : Input).Owned := by
  have moved := owned.moved (owned.perm_block (List.mem_append_right _ mem))
  constructor
  case toHeld =>
    constructor
    case toListed => exact { moved with }
    case wr =>
      rintro a ⟨⟩
      exact (owned.held addr).mpr (List.mem_append_right _ mem)
    case plain => exact owned.plain
    case idle =>
      intro plain a here
      obtain ⟨apart, here⟩ := (List.nodup_append.mp owned.nodup).2.1.mem_erase_iff.mp here
      exact ⟨fun same => apart (Option.some.inj same).symm, (owned.idle plain a here).2⟩
    case counted => exact owned.counted
    case lodged => exact owned.lodged
    case numbered => exact owned.numbered
    case fewer => exact owned.fewer
  case busy =>
    intro a c has here other
    have apart : a ≠ addr := fun same => other (congrArg some same.symm)
    rcases List.mem_append.mp here with old | new
    · replace old := List.mem_of_mem_erase old
      by_cases writes : s.wrBlock = some a
      · exact inUse a c writes old has
      · exact owned.busy a c has old writes
    · exact absurd (List.mem_singleton.mp new) apart

theorem addBlock (owned : s.Owned) (inUse : Sharing.InUse s)
    (own : s.secure = false → b.isOutBuf = false) (empty : b.chunkCount = 0) :
    (s.addBlock b).Owned := by
  constructor
  case toHeld =>
    constructor
    case toListed => exact owned.toListed.addBlock b
    case wr =>
      rintro a ⟨⟩
      show (s.put s.nextBlock _).block s.nextBlock ≠ none
      rw [put_self]
      exact Option.some_ne_none _
    case plain =>
      intro plain a c has
      rcases put_some (s := s) has with ⟨-, rfl⟩ | ⟨-, old⟩
      · exact own plain
      · exact owned.plain plain a c old
    case idle =>
      intro plain a here
      have apart : a ≠ s.nextBlock := by
        rintro rfl
        exact (owned.held _).mpr (List.mem_append_right _ here) owned.absent
      refine ⟨fun same => apart (Option.some.inj same).symm, fun c has => ?_⟩
      rcases put_some (s := s) has with ⟨same, -⟩ | ⟨-, old⟩
      · exact absurd same apart
      · exact (owned.idle plain a here).2 c old
    case counted =>
      intro a c has
      show _ = ((s.chunksOf a).length : Int) ∧ _
      rcases put_some (s := s) has with ⟨rfl, rfl⟩ | ⟨-, old⟩
      · rw [chunksOf_none owned.lodged owned.absent]
        dsimp only
        rw [empty]
        exact ⟨rfl, by decide⟩
      · exact owned.counted a c old
    case lodged =>
      intro c mem
      exact put_keeps fun _ => owned.lodged c mem
    case numbered => exact owned.numbered
    case fewer => exact owned.fewer
  case busy =>
    intro a c has here other
    have apart : a ≠ s.nextBlock := fun same => other (congrArg some same.symm)
    rcases put_some (s := s) has with ⟨same, -⟩ | ⟨-, old⟩
    · exact absurd same apart
    · rcases List.mem_append.mp here with mem | new
      · by_cases writes : s.wrBlock = some a
        · exact inUse a c writes mem old
        · exact owned.busy a c old mem writes
      · exact absurd (List.mem_singleton.mp new) apart

theorem addChunk (owned : s.Owned) (found : s.block addr = some b) (writes : s.wrBlock = some addr)
    (few : b.chunkCount < 2147483647) {chunk : Chunk} (block : chunk.block = addr)
    (number : chunk.addr = s.nextChunk) (count : Nat) (written : Nat → UInt8) :
    (s.addChunk addr { b with mem := written } chunk count).Owned := by
  obtain ⟨counted, -⟩ := owned.counted addr b found
  have put := owned.put found { b with
    mem := written
    wp := advance b.wp (u32 (chunk.size + chunk.padingSize)) b.size
    dataSize := s32 (b.dataSize + chunk.size)
    chunkCount := s32 (b.chunkCount + 1) }
  have more : s32 (b.chunkCount + 1) = b.chunkCount + 1 := s32_eq (by omega) (by omega)
  constructor
  case toHeld =>
    constructor
    case toListed => exact { put with }
    case wr =>
      rintro a ⟨⟩
      show (s.put addr _).block addr ≠ none
      rw [put_self]
      exact Option.some_ne_none _
    case plain =>
      intro plain a c has
      rcases put_some (s := s) has with ⟨-, rfl⟩ | ⟨-, old⟩
      · exact owned.plain plain addr b found
      · exact owned.plain plain a c old
    case idle =>
      intro plain a here
      obtain ⟨notWr, empty⟩ := owned.idle plain a here
      rw [writes] at notWr
      refine ⟨notWr, fun c has => ?_⟩
      rcases put_some (s := s) has with ⟨same, -⟩ | ⟨-, old⟩
      · exact absurd (congrArg some same.symm) notWr
      · exact empty c old
    case counted =>
      intro a c has
      show _ = (((s.vframeChunkList ++ [chunk]).filter fun c => c.block = a).length : Int) ∧ _
      rw [List.filter_append, List.length_append]
      rcases put_some (s := s) has with ⟨rfl, rfl⟩ | ⟨apart, old⟩
      · have single : ([chunk].filter fun c => c.block = a).length = 1 := by simp [block]
        rw [single]
        dsimp only
        rw [more]
        unfold chunksOf at counted
        omega
      · have none_ : ([chunk].filter fun c => c.block = a).length = 0 := by
          simp [block, Ne.symm apart]
        rw [none_]
        exact owned.counted a c old
    case lodged =>
      intro c here
      refine put_keeps fun same => ?_
      rcases List.mem_append.mp here with old | new
      · exact owned.lodged c old
      · exact absurd (List.mem_singleton.mp new ▸ block) same
    case numbered =>
      refine List.pairwise_append.mpr ⟨owned.numbered, List.pairwise_singleton _ _,
        fun c old d new => ?_⟩
      rw [List.mem_singleton.mp new, number]
      exact Nat.ne_of_lt (owned.fewer c old)
    case fewer =>
      intro c here
      show c.addr < s.nextChunk + 1
      rcases List.mem_append.mp here with old | new
      · exact Nat.lt_succ_of_lt (owned.fewer c old)
      · rw [List.mem_singleton.mp new, number]
        exact Nat.lt_succ_self _
  case busy =>
    intro a c has here other
    have apart : a ≠ addr := fun same => other (congrArg some same.symm)
    rcases put_some (s := s) has with ⟨same, -⟩ | ⟨-, old⟩
    · exact absurd same apart
    · refine owned.busy a c old here ?_
      rw [writes]
      exact other

theorem release (owned : s.Owned) (addr : Nat) {t : Input}
    (released : s.vdecInputReleaseChunk addr = some t) : t.Owned := by
  unfold vdecInputReleaseChunk at released
  cases listed : s.vframeChunkList.find? fun c => c.addr = addr with
  | none =>
    rw [listed] at released
    cases released
    exact owned
  | some chunk =>
    rw [listed] at released
    have mem := List.mem_of_find?_eq_some listed
    obtain ⟨b, found⟩ := Option.ne_none_iff_exists'.mp (owned.lodged chunk mem)
    dsimp only at released
    rw [found, Option.bind_eq_bind, Option.bind_some] at released
    cases released
    refine Held.recycle ?_ ?_ put_self
    · exact owned.toHeld.remove mem found _ rfl rfl
    · intro a apart c has here other
      have same : (s.put chunk.block _).block a = some c := has
      rw [put_other apart] at same
      exact owned.busy a c same here other

end Owned

theorem lookAtWrBlock_fill {count : Nat} (look : s.lookAtWrBlock count = some (.fill addr)) :
    s.wrBlock = some addr := by
  unfold lookAtWrBlock at look
  split_ifs at look
  · cases look
  · cases writes : s.wrBlock with
    | none =>
      rw [writes] at look
      cases look
    | some first =>
      rw [writes] at look
      obtain ⟨b, -, look⟩ := Option.bind_eq_some_iff.mp look
      split_ifs at look
      all_goals cases look
      rfl

theorem release_frame {t : Input} (released : s.vdecInputReleaseChunk addr = some t) :
    t.wrBlock = s.wrBlock ∧ t.secure = s.secure := by
  unfold vdecInputReleaseChunk at released
  cases listed : s.vframeChunkList.find? fun c => c.addr = addr with
  | none =>
    rw [listed] at released
    cases released
    exact ⟨rfl, rfl⟩
  | some chunk =>
    rw [listed] at released
    obtain ⟨b, -, released⟩ := Option.bind_eq_some_iff.mp released
    cases released
    unfold recycle
    split_ifs
    exacts [⟨rfl, rfl⟩, ⟨rfl, rfl⟩, ⟨rfl, rfl⟩, ⟨rfl, rfl⟩]

theorem allocNewBlock_owned (owned : s.Owned) (outcome : Outcome) (phyAddr : Nat) (size : Int)
    (secure : phyAddr ≠ 0 → s.secure = true) :
    (∃ noMemErrCnt, s.allocNewBlock outcome phyAddr size = ({ s with noMemErrCnt }, none)) ∨
      ∃ t addr, s.allocNewBlock outcome phyAddr size = (t, some addr) ∧ t.wrBlock = some addr ∧
        t.vframeChunkList = s.vframeChunkList ∧ (Sharing.InUse s → t.Owned) := by
  unfold allocNewBlock
  by_cases noBlock : outcome.blockStruct = true
  · rw [noBlock, Bool.not_true, if_neg Bool.false_ne_true]
    cases stored : s.initAllocStorage outcome phyAddr size with
    | none => exact Or.inl ⟨_, rfl⟩
    | some b =>
      refine Or.inr ⟨_, _, rfl, rfl, rfl, fun inUse => owned.addBlock inUse ?_ ?_⟩
      · intro plain
        unfold initAllocStorage at stored
        split_ifs at stored with out
        · rw [secure out] at plain
          cases plain
        · cases stored
          rfl
      · unfold initAllocStorage at stored
        split_ifs at stored
        · cases stored
          rfl
        · cases stored
          rfl
  · rw [Bool.eq_false_iff.mpr noBlock, Bool.not_false, if_pos rfl]
    exact Or.inl ⟨_, rfl⟩

end Input

namespace Sharing

structure Sound (s : Sharing) : Prop where
  owned : s.input.Owned
  secure : ∀ call, s.pc = .secure call → s.input.secure = true
  plain : ∀ call, s.pc = .takeFree call → s.input.secure = false
  given : ∀ call addr, s.pc = .giveUp call addr → s.input.secure = false
  finish : ∀ call addr, s.pc = .finish call addr → s.input.wrBlock = some addr

variable {s : Sharing}

theorem Sound.reachable (sound : s.Sound) : s.Reachable := by
  intro _ addr mem other
  obtain ⟨b, found⟩ := sound.owned.get (List.mem_append_left _ mem)
  exact ⟨b, found, sound.owned.busy addr b found mem other⟩

def Stands (input : Input) : AddAt → Prop
  | .secure _ => input.secure = true
  | .takeFree _ | .giveUp _ _ => input.secure = false
  | .finish _ addr => input.wrBlock = some addr
  | _ => True

theorem Sound.of_stands {input : Input} {pc : AddAt} (owned : input.Owned)
    (stands : Stands input pc) : Sound ⟨input, pc⟩ where
  owned := owned
  secure := by
    rintro call rfl
    exact stands
  plain := by
    rintro call rfl
    exact stands
  given := by
    rintro call addr rfl
    exact stands
  finish := by
    rintro call addr rfl
    exact stands

theorem Sound.idle {input : Input} (owned : input.Owned) : Sound ⟨input, .idle⟩ :=
  Sound.of_stands owned trivial

theorem Sound.call (sound : s.Sound) (call : AddCall) : (s.step (.call call)).Sound := by
  show (if (s.pc matches .idle) then (s.begin_ call).getD s else s).Sound
  by_cases idle : (s.pc matches .idle) = true
  · rw [if_pos idle]
    unfold begin_
    by_cases secure : s.input.secure = true
    · rw [if_pos secure]
      exact Sound.of_stands sound.owned secure
    · rw [if_neg secure]
      have plain := Bool.eq_false_iff.mpr secure
      cases look : s.input.lookAtWrBlock call.count.toNat with
      | none => exact sound
      | some way =>
        cases way with
        | fill addr => exact Sound.of_stands sound.owned (lookAtWrBlock_fill look)
        | giveUp addr => exact Sound.of_stands sound.owned plain
        | fresh => exact Sound.of_stands sound.owned plain
        | back code => exact sound
  · rw [if_neg idle]
    exact sound

theorem Sound.release (sound : s.Sound) (addr : Nat) : (s.step (.release addr)).Sound := by
  show (((s.input.vdecInputReleaseChunk addr).map fun input => { s with input }).getD s).Sound
  cases released : s.input.vdecInputReleaseChunk addr with
  | none => exact sound
  | some t =>
    obtain ⟨wrBlock, secure⟩ := release_frame released
    exact ⟨sound.owned.release addr released, fun call at_ => secure.trans (sound.secure call at_),
      fun call at_ => secure.trans (sound.plain call at_),
      fun call a at_ => secure.trans (sound.given call a at_),
        fun call a at_ => wrBlock.trans (sound.finish call a at_)⟩

theorem Sound.goOn (sound : s.Sound) (fits : s.GoesOn) : (s.step .goOn).Sound := by
  obtain ⟨input, pc⟩ := s
  have owned : input.Owned := sound.owned
  show ((Sharing.goOn ⟨input, pc⟩).getD ⟨input, pc⟩).Sound
  unfold GoesOn at fits
  cases pc with
  | idle => exact sound
  | secure call =>
    have secure := sound.secure call rfl
    show (Sharing.chosen call _).Sound
    dsimp only at fits
    unfold secureBlock at fits ⊢
    rcases allocNewBlock_owned owned call.outcome call.buf.pointer
        (s32 (pageAlign (u64 (call.count.toNat + hevcPaddingSize + 1)))) (fun _ => secure) with
      ⟨n, done⟩ | ⟨t, addr, done, writes, -, kept⟩
    · rw [done]
      exact Sound.idle { owned with }
    · rw [done] at fits ⊢
      exact Sound.of_stands (kept (fits nofun)) writes
  | giveUp call addr =>
    have plain := sound.given call addr rfl
    unfold Sharing.goOn Input.giveUp
    dsimp only
    cases found : input.block addr with
    | none => exact sound
    | some b =>
      rw [Option.bind_eq_bind, Option.bind_some]
      by_cases empty : input.wrBlock = some addr ∧ b.chunkCount = 0
      · rw [if_pos empty]
        refine Sound.of_stands ?_ plain
        refine owned.toHeld.toFreeList (fun a _ => owned.busy a) found { b with rp := 0, wp := 0 } rfl rfl
          none nofun (fun a writes => Or.inl ?_) fun _ => ⟨empty.2, nofun⟩
        exact Option.some.inj (writes.symm.trans empty.1)
      · rw [if_neg empty]
        exact Sound.of_stands owned plain
  | takeFree call =>
    unfold Sharing.goOn
    dsimp only at fits ⊢
    unfold takeFreeBlock at fits ⊢
    cases free : input.vframeBlockFreeList with
    | nil => exact Sound.of_stands owned trivial
    | cons addr rest =>
      have mem : addr ∈ input.vframeBlockFreeList := free ▸ List.mem_cons_self
      obtain ⟨b, found⟩ := owned.get (List.mem_append_right _ mem)
      rw [free] at fits
      dsimp only at fits ⊢
      rw [found, Option.bind_eq_bind, Option.bind_some] at fits ⊢
      by_cases short : b.size < u32 (frameSize call.count.toNat)
      · rw [if_pos short]
        obtain ⟨notWr, empty⟩ := owned.idle (sound.plain call rfl) addr mem
        exact Sound.of_stands
          (owned.toHeld.freed (fun a _ => owned.busy a) found (empty b found) notWr) trivial
      · rw [if_neg short] at fits ⊢
        exact Sound.of_stands (owned.taken mem (fits _ addr rfl)) rfl
  | passLimits call =>
    unfold Sharing.goOn
    dsimp only
    unfold passLimits
    by_cases refused : input.haveBlocksEnough > 13 ∨ input.noMemErrCnt > 3
    · rw [if_pos refused]
      exact Sound.idle owned
    · rw [if_neg refused]
      cases grown : grownBlockSize input.defaultBlockSize (frameSize call.count.toNat) with
      | none => exact sound
      | some d => exact Sound.of_stands { owned with } trivial
  | allocate call =>
    show (Sharing.chosen call _).Sound
    dsimp only at fits
    unfold allocate at fits ⊢
    rcases allocNewBlock_owned owned call.outcome 0 0 (fun none_ => absurd rfl none_) with
      ⟨n, done⟩ | ⟨t, addr, done, writes, -, kept⟩
    · rw [done]
      exact Sound.idle { owned with }
    · rw [done] at fits ⊢
      exact Sound.of_stands { kept (fits nofun) with } writes
  | finish call addr =>
    have writes := sound.finish call addr rfl
    show Sound (Option.getD (Option.map _
      (input.finish call.outcome call.stamp call.buf call.count.toNat addr)) _)
    unfold Input.finish
    by_cases noChunk : call.outcome.chunkStruct = true
    · rw [noChunk, Bool.not_true, if_neg Bool.false_ne_true]
      obtain ⟨d, same⟩ := noteDuration_same input call.stamp
      obtain ⟨b, found⟩ := Option.ne_none_iff_exists'.mp (owned.wr addr writes)
      have kept : ({ input with lastDuration := d } : Input).Owned := { owned with }
      dsimp only
      rw [same]
      show Sound (Option.getD (Option.map _ (Option.bind (input.block addr) _)) _)
      rw [found, Option.bind_some]
      cases filled : ({ input with lastDuration := d } : Input).fillChunk call.outcome
          (({ input with lastDuration := d } : Input).newChunk call.stamp call.count.toNat addr b)
            call.buf
          call.count.toNat b with
      | none => exact sound
      | some parts =>
        exact Sound.idle (kept.addChunk found writes (fits b found) rfl rfl call.count.toNat _)
    · rw [Bool.eq_false_iff.mpr noChunk, Bool.not_false, if_pos rfl]
      exact Sound.idle owned

theorem Sound.step (sound : s.Sound) (act : SharingAct) (fits : s.Fits act) : (s.step act).Sound := by
  cases act with
  | call call => exact sound.call call
  | goOn => exact sound.goOn fits
  | release addr => exact sound.release addr

end Sharing

namespace Input

def opened (secure : Bool) (type : VdecType) (frameWidth frameHeight : Int)
    (outcomes : Fin 3 → Outcome) :
    Input :=
  ((vdecInputInit secure).vdecInputSetType type).vdecInputPrepareBufs frameWidth frameHeight outcomes

theorem prepareBlocks_owned (outcomes : List Outcome) {s : Input} (owned : s.Owned)
    (empty : s.vframeChunkList = []) (none_ : s.wrBlock = none) : (s.prepareBlocks outcomes).Owned := by
  induction outcomes generalizing s with
  | nil => exact owned
  | cons outcome rest ih =>
    unfold prepareBlocks
    have inUse : Sharing.InUse s := fun addr b writes => by
      rw [none_] at writes
      cases writes
    rcases allocNewBlock_owned owned outcome 0 0 (fun zero => absurd rfl zero) with
      ⟨n, done⟩ | ⟨t, addr, done, writes, chunks, kept⟩
    · rw [done]
      exact { owned with }
    · rw [done]
      have fresh := kept inUse
      obtain ⟨b, found⟩ := Option.ne_none_iff_exists'.mp (fresh.wr addr writes)
      have unused : b.chunkCount = 0 := by
        rw [(fresh.counted addr b found).1]
        unfold chunksOf
        rw [chunks, empty]
        rfl
      have moved := fresh.toHeld.toFreeList (fun a _ => fresh.busy a) found b rfl rfl none
        (fun _ other => by cases other)
        (fun a other => Or.inl (Option.some.inj (other.symm.trans writes)))
        fun _ => ⟨unused, Option.some_ne_none addr ∘ Eq.symm⟩
      rw [put_same found] at moved
      exact ih moved (chunks.trans empty) rfl

theorem Owned.start (secure : Bool) (type : VdecType) (defaultBlockSize : Int) :
    ({ vdecInputInit secure with type, defaultBlockSize } : Input).Owned where
  nodup := List.nodup_nil
  held _ := iff_of_false (fun given => given rfl) List.not_mem_nil
  fresh _ has := absurd rfl has
  wr := nofun
  plain := nofun
  idle := nofun
  counted := nofun
  lodged := nofun
  numbered := List.Pairwise.nil
  fewer := nofun
  busy := nofun

theorem opened_owned (secure : Bool) (type : VdecType) (frameWidth frameHeight : Int)
    (outcomes : Fin 3 → Outcome) : (opened secure type frameWidth frameHeight outcomes).Owned := by
  unfold opened vdecInputPrepareBufs
  dsimp only
  split_ifs
  · exact Owned.start secure type _
  · exact prepareBlocks_owned _ (Owned.start secure type _) rfl rfl
  · exact prepareBlocks_owned _ (Owned.start secure type _) rfl rfl

end Input

open Sharing

theorem blocks_reachable_along_fitting_runs (secure : Bool) (type : VdecType)
    (frameWidth frameHeight : Int) (outcomes : Fin 3 → Outcome) (acts : List SharingAct)
    (fits : Along Sharing.step Sharing.Fits ⟨opened secure type frameWidth frameHeight outcomes, .idle⟩
      acts) :
    (run Sharing.step ⟨opened secure type frameWidth frameHeight outcomes, .idle⟩ acts).Reachable :=
  Sound.reachable (run_invariant Sharing.step Sharing.Fits Sound
    (fun _ act sound fits => sound.step act fits) _
    (Sound.idle (opened_owned secure type frameWidth frameHeight outcomes)) acts fits)

def halfBlock : AddCall := { buf := ramp, count := 500000 }

def twoFrames : List SharingAct :=
  [.call halfBlock, .goOn, .goOn, .call halfBlock, .goOn, .goOn, .goOn]

theorem twoFrames_reachable :
    (run Sharing.step ⟨opened false .frameBlock 720 576 fun _ => {}, .idle⟩ twoFrames).Reachable ∧
      (run Sharing.step ⟨opened false .frameBlock 720 576 fun _ => {}, .idle⟩
        twoFrames).input.vframeBlockList = [0, 1] ∧
      ((run Sharing.step ⟨opened false .frameBlock 720 576 fun _ => {}, .idle⟩
        twoFrames).pc matches .idle) := by
  refine ⟨blocks_reachable_along_fitting_runs false .frameBlock 720 576 (fun _ => {}) twoFrames ?_,
    ?_, ?_⟩
  · decide +kernel
  · decide +kernel
  · decide +kernel

def releasedBetween : List SharingAct :=
  [.call halfBlock, .goOn, .goOn, .call halfBlock, .goOn, .release 0, .goOn, .goOn]

def stranded (s : Sharing) : Bool :=
  (s.pc matches .idle) && s.input.vframeBlockList.any fun addr =>
    s.input.wrBlock ≠ some addr ∧ (s.input.block addr).all fun b => b.chunkCount = 0

theorem block_stranded_by_release :
    ¬∀ (secure : Bool) (type : VdecType) (frameWidth frameHeight : Int) (outcomes : Fin 3 → Outcome)
      (acts : List SharingAct),
      (run Sharing.step ⟨opened secure type frameWidth frameHeight outcomes,
        .idle⟩ acts).Reachable := by
  intro reachable
  have lost : stranded (run Sharing.step ⟨opened false .frameBlock 720 576 fun _ => {}, .idle⟩
      releasedBetween) = true := by decide +kernel
  have never := reachable false .frameBlock 720 576 (fun _ => {}) releasedBetween
  generalize run Sharing.step ⟨opened false .frameBlock 720 576 fun _ => {}, .idle⟩ releasedBetween = s
    at lost never
  obtain ⟨idle, lost⟩ := Bool.and_eq_true_iff.mp lost
  obtain ⟨addr, mem, lost⟩ := List.any_eq_true.mp lost
  obtain ⟨other, empty⟩ := of_decide_eq_true lost
  have rest : s.pc = .idle := by
    cases at_ : s.pc with
    | idle => rfl
    | _ =>
      rw [at_] at idle
      cases idle
  obtain ⟨b, found, used⟩ := never rest addr mem other
  rw [found, Option.all_some] at empty
  have none_ := of_decide_eq_true empty
  omega

end UnionpiTiger.Vdec
