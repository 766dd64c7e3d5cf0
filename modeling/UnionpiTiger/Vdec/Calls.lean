import UnionpiTiger.Vdec.Chunks
import UnionpiTiger.Lib.Run

set_option autoImplicit false

namespace UnionpiTiger.Vdec

open Lib

namespace Input

-- What the records of an input and its blocks say of the chunks that are there.
structure Coherent (s : Input) : Prop where
  inside : ∀ c ∈ s.vframeChunkList, ∃ b, s.block c.block = some b ∧ c.offset + c.extent ≤ b.size
  disjoint : s.vframeChunkList.Pairwise fun c d => c.block = d.block → c.after d ∨ d.after c
  blocks : ∀ addr b, s.block addr = some b →
    b.chunkCount = (s.chunksOf addr).length ∧ b.dataSize = bytes (s.chunksOf addr)
  dataSize : s.dataSize = bytes s.vframeChunkList
  haveFrameNum : s.haveFrameNum = s.vframeChunkList.length
  totals : u64 (s.totalWrCount - s.totalRdCount) = bytes s.vframeChunkList

-- The sections in which a call may come to want a block of the free list, or to allocate one.
structure FindsRoom (s : Input) (count : Nat) : Prop where
  found : ∀ t addr, s.takeFreeBlock (frameSize count) = some (t, some addr) →
    s.dataSize + count < 2147483648
  allocates : ∀ t, s.takeFreeBlock (frameSize count) = some (t, none) →
    ¬(t.haveBlocksEnough > 13 ∨ t.noMemErrCnt > 3) →
      s.dataSize + count < 2147483648 ∧ t.Grows count

structure Fits (s : Input) (count : Nat) : Prop where
  fill : ∀ addr, s.lookAtWrBlock count = some (.fill addr) → s.dataSize + count < 2147483648
  giveUp : ∀ addr t, s.lookAtWrBlock count = some (.giveUp addr) → s.giveUp addr = some t →
    t.FindsRoom count
  fresh : s.lookAtWrBlock count = some .fresh → s.FindsRoom count

end Input

namespace Input

theorem taken_iff {A B : Type} (taken : Option (A × Option B)) (p : Prop) :
    ((taken.bind Prod.snd).isSome = true → p) ↔ ∀ a b, taken = some (a, some b) → p := by
  constructor
  · rintro holds a b rfl
    exact holds rfl
  · intro all some_
    obtain ⟨b, found⟩ := Option.isSome_iff_exists.mp some_
    obtain ⟨⟨a, _⟩, rfl, rfl⟩ := Option.bind_eq_some_iff.mp found
    exact all a b rfl

instance Grows.decidable (s : Input) (count : Nat) : Decidable (s.Grows count) :=
  decidable_of_iff (_ ∧ _ ∧ _) ⟨fun ⟨small, doubles, holds⟩ => ⟨small, doubles, holds⟩,
    fun grows => ⟨grows.small, grows.doubles, grows.holds⟩⟩

instance FindsRoom.decidable (s : Input) (count : Nat) : Decidable (s.FindsRoom count) :=
  decidable_of_iff ((_ → _) ∧ ∀ taken ∈ s.takeFreeBlock (frameSize count), taken.2 = none →
      ¬(taken.1.haveBlocksEnough > 13 ∨ taken.1.noMemErrCnt > 3) →
        s.dataSize + count < 2147483648 ∧ taken.1.Grows count)
    ⟨fun ⟨found, allocates⟩ => ⟨(taken_iff _ _).mp found, fun t taken => allocates (t, none) taken rfl⟩,
      fun finds => ⟨(taken_iff _ _).mpr finds.found, fun ⟨t, _⟩ taken none_ => by
        cases none_
        exact finds.allocates t taken⟩⟩

def FitsWay (s : Input) (count : Nat) : Option Way → Prop
  | some (.fill _) => s.dataSize + count < 2147483648
  | some (.giveUp addr) => ∀ t ∈ s.giveUp addr, t.FindsRoom count
  | some .fresh => s.FindsRoom count
  | some (.back _) | none => True

instance FitsWay.decidable (s : Input) (count : Nat) : DecidablePred (s.FitsWay count)
  | some (.fill _) => inferInstanceAs (Decidable (_ < _))
  | some (.giveUp addr) => inferInstanceAs (Decidable (∀ t ∈ s.giveUp addr, t.FindsRoom count))
  | some .fresh => inferInstanceAs (Decidable (s.FindsRoom count))
  | some (.back _) | none => isTrue trivial

theorem fitsWay_iff (s : Input) (count : Nat) :
    s.FitsWay count (s.lookAtWrBlock count) ↔ s.Fits count := by
  constructor
  · intro fits
    constructor
    case fill =>
      intro addr look
      rw [look] at fits
      exact fits
    case giveUp =>
      intro addr t look given
      rw [look] at fits
      exact fits t given
    case fresh =>
      intro look
      rw [look] at fits
      exact fits
  · intro fits
    cases look : s.lookAtWrBlock count with
    | none => trivial
    | some way =>
      cases way with
      | fill addr => exact fits.fill addr look
      | giveUp addr => exact fun t given => fits.giveUp addr t look given
      | fresh => exact fits.fresh look
      | back => trivial

instance Fits.decidable (s : Input) (count : Nat) : Decidable (s.Fits count) :=
  decidable_of_iff _ (s.fitsWay_iff count)

end Input

inductive InputCall where
  | add (outcome : Outcome) (stamp : Stamp) (buf : UserBuf) (count : UInt64)
  | release (addr : Nat)

def Input.call (s : Input) : InputCall → Option (Input × Int)
  | .add outcome stamp buf count =>
    (s.vdecInputAddChunk outcome stamp buf count).map fun done => (done.1, done.2.1)
  | .release addr => (s.vdecInputReleaseChunk addr).map fun t => (t, 0)

def Input.step (s : Input) (call : InputCall) : Input := ((s.call call).map Prod.fst).getD s

def InputCall.Fits (s : Input) : InputCall → Prop
  | .add _ _ _ count => s.Fits count.toNat
  | .release _ => True

instance InputCall.Fits.decidable (s : Input) : (call : InputCall) → Decidable (call.Fits s)
  | .add _ _ _ count => inferInstanceAs (Decidable (s.Fits count.toNat))
  | .release _ => isTrue trivial

def InputCall.Keeps (s : Input) (call : InputCall) : Prop :=
  ∃ t code, s.call call = some (t, code) ∧ t.Coherent ∧ (code < 0 → s.Unchanged t)

theorem space_frameBlock {b : Block} (type : b.type = .frameBlock) :
    vframeBlockSpace b = u32 (b.size - b.wp) := by
  unfold vframeBlockSpace
  rw [type]

namespace Input

variable {s t : Input} {addr : Nat} {b : Block}

theorem Tidy.coherent (tidy : s.Tidy) : s.Coherent where
  inside c mem := by
    obtain ⟨b, found⟩ := Option.ne_none_iff_exists'.mp (tidy.lodged c mem)
    have filled := tidy.filled _ b found
    exact ⟨b, found, Nat.le_trans (filled.behind c (mem_chunksOf.mpr ⟨mem, rfl⟩))
      (Nat.le_of_lt filled.room)⟩
  disjoint := tidy.apart.imp fun after same => Or.inr (after same)
  blocks addr b found := ⟨(tidy.filled addr b found).chunkCount, (tidy.filled addr b found).dataSize⟩
  dataSize := tidy.counted.dataSize
  haveFrameNum := tidy.counted.haveFrameNum
  totals := tidy.counted.totals

structure Opens (s : Input) (addr count : Nat) : Prop where
  mem : addr ∈ s.vframeBlockList
  room : ∃ b, s.block addr = some b ∧ b.wp + count + padding count < b.size

theorem giveUp_tidy (tidy : s.Tidy) (wr : s.wrBlock = some addr) :
    ∃ t, s.giveUp addr = some t ∧ t.Tidy ∧ s.Unchanged t := by
  obtain ⟨b, found⟩ := tidy.get (List.mem_append_left _ (tidy.wr addr wr))
  unfold giveUp
  rw [found, Option.bind_eq_bind, Option.bind_some]
  by_cases empty : b.chunkCount = 0
  · rw [if_pos ⟨wr, empty⟩]
    exact ⟨_, rfl, tidy.emptied found ((tidy.empty_iff found).mp empty) none nofun,
      Tidy.emptied_unchanged found none⟩
  · rw [if_neg fun both => empty both.2]
    exact ⟨s, rfl, tidy, Unchanged.refl s⟩

theorem takeFreeBlock_tidy (tidy : s.Tidy) (size : Int) :
    ∃ t found, s.takeFreeBlock size = some (t, found) ∧ t.Tidy ∧ s.Unchanged t ∧
      ∀ addr, found = some addr → addr ∈ t.vframeBlockList ∧
        ∃ b, t.block addr = some b ∧ b.wp = 0 ∧ u32 size ≤ b.size := by
  unfold takeFreeBlock
  cases free : s.vframeBlockFreeList with
  | nil => exact ⟨s, none, rfl, tidy, Unchanged.refl s, nofun⟩
  | cons addr rest =>
    have mem : addr ∈ s.vframeBlockFreeList := free ▸ List.mem_cons_self
    obtain ⟨b, found⟩ := tidy.get (List.mem_append_right _ mem)
    have empty := tidy.free_empty mem
    dsimp only
    rw [found, Option.bind_eq_bind, Option.bind_some]
    by_cases short : b.size < u32 size
    · rw [if_pos short]
      refine ⟨_, none, rfl, tidy.freed found empty ?_, tidy.freed_unchanged found empty, nofun⟩
      intro wr
      exact (List.nodup_append.mp tidy.nodup).2.2 addr (tidy.wr addr wr) addr mem rfl
    · rw [if_neg short]
      refine ⟨_, some addr, rfl, tidy.taken mem, ⟨rfl, rfl, rfl, rfl, rfl, fun _ => rfl⟩, ?_⟩
      rintro a ⟨⟩
      exact ⟨List.mem_append_right _ (List.mem_singleton_self _), b, found, tidy.free addr mem b found,
        Nat.le_of_not_lt short⟩

theorem Tidy.noMem (tidy : s.Tidy) (noMemErrCnt : Int) : ({ s with noMemErrCnt } : Input).Tidy :=
  { tidy with counted := { tidy.counted with } }

theorem Tidy.resized (tidy : s.Tidy) {defaultBlockSize : Int} (sized : Sized defaultBlockSize) :
    ({ s with defaultBlockSize } : Input).Tidy :=
  { tidy with
    counted := { tidy.counted with }
    default := ⟨sized.positive, sized.upper, sized.multiple⟩ }

theorem Tidy.sized (tidy : s.Tidy) : Sized s.defaultBlockSize :=
  ⟨tidy.default.1, tidy.default.2.1, tidy.default.2.2⟩

theorem Tidy.addBlock (tidy : s.Tidy) (small : s.size + b.size < 2164264960)
    (type : b.type = .frameBlock) (own : b.isOutBuf = false) (positive : 0 < b.size)
    (chunkCount : b.chunkCount = 0) (dataSize : b.dataSize = 0) :
    (s.addBlock b).Tidy ∧ s.Unchanged (s.addBlock b) := by
  have none_ := tidy.absent
  have empty : s.chunksOf s.nextBlock = [] := List.eq_nil_iff_forall_not_mem.mpr fun c mem => by
    obtain ⟨here, same⟩ := mem_chunksOf.mp mem
    exact tidy.lodged c here (same ▸ none_)
  have placed := tidy.toPlaced.addBlock small
  refine ⟨tidy.relaid placed ?wr ?free ?filled ?lodged, rfl, rfl, rfl, rfl, rfl,
    counts_update _ ?counts⟩
  case wr =>
    intro a writes
    cases writes
    exact List.mem_append_right _ (List.mem_singleton_self _)
  case free =>
    intro a mem c has
    rcases put_some (s := s) has with ⟨-, rfl⟩ | ⟨-, old⟩
    · rfl
    · exact tidy.free a mem c old
  case filled =>
    intro a c has
    show c.Filled (s.chunksOf a)
    rcases put_some (s := s) has with ⟨rfl, rfl⟩ | ⟨-, old⟩
    · rw [empty]
      exact ⟨type, own, positive, nofun, Nat.le_refl _, chunkCount, dataSize⟩
    · exact tidy.filled a c old
  case lodged =>
    intro c mem
    exact put_keeps fun _ => tidy.lodged c mem
  case counts =>
    unfold counts
    rw [none_]
    show (b.chunkCount, b.dataSize) = _
    rw [chunkCount, dataSize]
    rfl

-- What an allocation leaves: a fresh write block of the default size, or nothing new.
theorem allocNewBlock_tidy (tidy : s.Tidy) (small : s.size < 16777216) (outcome : Outcome) :
    (∃ t, s.allocNewBlock outcome 0 0 = (t, none) ∧ t.Tidy ∧ s.Unchanged t) ∨
      ∃ t addr b, s.allocNewBlock outcome 0 0 = (t, some addr) ∧ t.Tidy ∧ s.Unchanged t ∧
        addr ∈ t.vframeBlockList ∧ t.block addr = some b ∧ b.wp = 0 ∧
        (b.size : Int) = s.defaultBlockSize ∧ (t.size : Int) = s.size + s.defaultBlockSize ∧
        t.defaultBlockSize = s.defaultBlockSize := by
  unfold allocNewBlock initAllocStorage
  by_cases noBlock : outcome.blockStruct = true
  · rw [noBlock, Bool.not_true, if_neg Bool.false_ne_true, if_neg (not_not.mpr rfl)]
    by_cases noStorage : outcome.storage = true
    · have storage := tidy.sized.storage
      have lower := tidy.sized.positive
      have upper := tidy.sized.upper
      obtain ⟨added, unchanged⟩ := tidy.addBlock (b := {
        type := s.type
        isOutBuf := false
        isMapped := outcome.mapped
        size := u32 (pageAlign (u32 s.defaultBlockSize))
        mem := outcome.mem }) (by dsimp only; omega) tidy.type rfl (by dsimp only; omega) rfl rfl
      rw [if_pos noStorage]
      refine Or.inr ⟨_, _, _, rfl, added, unchanged,
        List.mem_append_right _ (List.mem_singleton_self _),
        put_self, rfl, storage, ?_, rfl⟩
      show (u32 (s.size + u32 (pageAlign (u32 s.defaultBlockSize))) : Int) = _
      rw [u32_eq (by omega) (by omega), storage]
    · rw [if_neg noStorage]
      exact Or.inl ⟨s, rfl, tidy, Unchanged.refl s⟩
  · rw [Bool.eq_false_iff.mpr noBlock, Bool.not_false, if_pos rfl]
    exact Or.inl ⟨_, rfl, tidy.noMem _, ⟨rfl, rfl, rfl, rfl, rfl, fun _ => rfl⟩⟩

theorem allocate_tidy (tidy : s.Tidy) (small : s.size < 16777216) (outcome : Outcome) :
    (∃ t, s.allocate outcome = (t, .error (-eAgain)) ∧ t.Tidy ∧ s.Unchanged t) ∨
      ∃ t addr b, s.allocate outcome = (t, .ok addr) ∧ t.Tidy ∧ s.Unchanged t ∧
        addr ∈ t.vframeBlockList ∧ t.block addr = some b ∧ b.wp = 0 ∧
        (b.size : Int) = s.defaultBlockSize := by
  unfold allocate
  rcases allocNewBlock_tidy tidy small outcome with ⟨t, done, kept, unchanged⟩ |
    ⟨t, addr, b, done, kept, unchanged, mem, found, start, size, -⟩
  · rw [done]
    exact Or.inl ⟨_, rfl, kept.noMem _, unchanged.trans ⟨rfl, rfl, rfl, rfl, rfl, fun _ => rfl⟩⟩
  · rw [done]
    exact Or.inr ⟨_, addr, b, rfl, kept.noMem _,
      unchanged.trans ⟨rfl, rfl, rfl, rfl, rfl, fun _ => rfl⟩, mem, found, start, size⟩

def Chosen (s : Input) (count : Nat) (result : Option (Input × Except Int Nat)) : Prop :=
  ∃ t, t.Tidy ∧ s.Unchanged t ∧ ((∃ code, result = some (t, .error code)) ∨
    ∃ addr, result = some (t, .ok addr) ∧ t.Opens addr count ∧ s.dataSize + count < 2147483648)

theorem getFreeBlock_chosen (tidy : s.Tidy) (outcome : Outcome) {count : Nat}
    (finds : s.FindsRoom count) :
    s.Chosen count (s.getFreeBlock outcome (frameSize count)) := by
  have pad := padding_bounds count
  have data := tidy.counted.dataSize
  obtain ⟨t, found, taken, kept, unchanged, block⟩ := takeFreeBlock_tidy tidy (frameSize count)
  unfold getFreeBlock
  rw [taken, Option.bind_eq_bind, Option.bind_some]
  cases found with
  | some addr =>
    obtain ⟨mem, b, has, start, enough⟩ := block addr rfl
    have small := finds.found t addr taken
    refine ⟨t, kept, unchanged, Or.inr ⟨addr, rfl, ⟨mem, b, has, ?_⟩, small⟩⟩
    -- As an unsigned number the size that was asked for has not wrapped.
    unfold frameSize extraPaddingSize s32 u32 at enough
    omega
  | none =>
    dsimp only
    unfold passLimits
    by_cases refused : t.haveBlocksEnough > 13 ∨ t.noMemErrCnt > 3
    · rw [if_pos refused]
      exact ⟨t, kept, unchanged, Or.inl ⟨_, rfl⟩⟩
    · rw [if_neg refused]
      obtain ⟨small, grows⟩ := finds.allocates t taken refused
      obtain ⟨d, grown, sized, wide⟩ := grownBlockSize_spec kept.sized grows
      rw [grown, Option.map_some]
      show s.Chosen count (some (({ t with defaultBlockSize := d } : Input).allocate outcome))
      have same : t.Unchanged { t with defaultBlockSize := d } :=
        ⟨rfl, rfl, rfl, rfl, rfl, fun _ => rfl⟩
      rcases allocate_tidy (kept.resized sized)
          (size_of_admitted fun enough => refused (Or.inl enough)) outcome with
        ⟨u, done, uTidy, uSame⟩ | ⟨u, addr, b, done, uTidy, uSame, mem, has, start, size⟩
      · rw [done]
        exact ⟨u, uTidy, unchanged.trans (same.trans uSame), Or.inl ⟨_, rfl⟩⟩
      · rw [done]
        refine ⟨u, uTidy, unchanged.trans (same.trans uSame),
          Or.inr ⟨addr, rfl, ⟨mem, b, has, ?_⟩, small⟩⟩
        dsimp only at size
        omega

theorem chooseBlock_chosen (tidy : s.Tidy) (outcome : Outcome) {count : Nat} (fits : s.Fits count) :
    s.Chosen count (s.chooseBlock outcome count) := by
  have pad := padding_bounds count
  have plain : ¬(s.type = .single ∨ s.type = .streamParser) := by
    rw [tidy.type]
    exact fun either => either.elim nofun nofun
  unfold chooseBlock
  cases wr : s.wrBlock with
  | none =>
    have look : s.lookAtWrBlock count = some .fresh := by
      unfold lookAtWrBlock
      rw [if_neg plain, wr]
    rw [look, Option.bind_eq_bind, Option.bind_some]
    exact getFreeBlock_chosen tidy outcome (fits.fresh look)
  | some addr =>
    have mem := tidy.wr addr wr
    obtain ⟨b, found⟩ := tidy.get (List.mem_append_left _ mem)
    have filled := tidy.filled addr b found
    have limit := tidy.small_block found
    by_cases room : b.hasRoom count = true
    · have look : s.lookAtWrBlock count = some (.fill addr) := by
        simp [lookAtWrBlock, plain, wr, found, room]
      rw [look, Option.bind_eq_bind, Option.bind_some]
      have small := fits.fill addr look
      refine ⟨s, tidy, Unchanged.refl s, Or.inr ⟨addr, rfl, ⟨mem, b, found, ?_⟩, small⟩⟩
      have data := tidy.counted.dataSize
      have inside := filled.room
      unfold Block.hasRoom at room
      rw [space_frameBlock filled.type] at room
      replace room := of_decide_eq_true room
      unfold u32 u64 at room
      omega
    · have look : s.lookAtWrBlock count = some (.giveUp addr) := by
        simp [lookAtWrBlock, plain, wr, found, room, filled.type]
      rw [look, Option.bind_eq_bind, Option.bind_some]
      obtain ⟨t, given, kept, unchanged⟩ := giveUp_tidy tidy wr
      dsimp only
      rw [given]
      show s.Chosen count (t.getFreeBlock outcome (frameSize count))
      obtain ⟨u, uTidy, uSame, result⟩ :=
        getFreeBlock_chosen kept outcome (fits.giveUp addr t look given)
      refine ⟨u, uTidy, unchanged.trans uSame, ?_⟩
      rw [← unchanged.dataSize]
      exact result

theorem noteDuration_same (s : Input) (stamp : Stamp) :
    ∃ lastDuration, s.noteDuration stamp = { s with lastDuration } := by
  unfold noteDuration
  dsimp only
  split_ifs
  exacts [⟨_, rfl⟩, ⟨_, rfl⟩, ⟨_, rfl⟩]

theorem fillChunk_frameBlock (outcome : Outcome) (chunk : Chunk) (buf : UserBuf) (count : Nat)
    (plain : s.secure = false) (type : b.type = .frameBlock) :
    s.fillChunk outcome chunk buf count b = some (copyFromUserToPhyaddr outcome b.wp buf 0 (u32 count)
      b.wp chunk.padingSize b.isMapped) := by
  unfold fillChunk vframeChunkFill
  rw [plain, if_neg Bool.false_ne_true, type]

theorem newChunk_plain (stamp : Stamp) (count addr : Nat) (b : Block) (plain : s.secure = false) :
    (s.newChunk stamp count addr b).offset = b.wp ∧
      (s.newChunk stamp count addr b).padingSize = padding count := by
  unfold newChunk
  rw [plain]
  exact ⟨rfl, rfl⟩

theorem finish_tidy (tidy : s.Tidy) (outcome : Outcome) (stamp : Stamp) (buf : UserBuf) {count : Nat}
    (opens : s.Opens addr count) (small : s.dataSize + count < 2147483648) :
    ∃ t code writes, s.finish outcome stamp buf count addr = some (t, code, writes) ∧ t.Tidy ∧
      (code < 0 → s.Unchanged t) := by
  have data := tidy.counted.dataSize
  have pad := padding_bounds count
  unfold finish
  by_cases noChunk : outcome.chunkStruct = true
  · rw [noChunk, Bool.not_true, if_neg Bool.false_ne_true]
    obtain ⟨d, same⟩ := noteDuration_same s stamp
    obtain ⟨b, found, room⟩ := opens.room
    have kept : ({ s with lastDuration := d } : Input).Tidy :=
      { tidy with counted := { tidy.counted with } }
    have filled := tidy.filled addr b found
    have fill := fun chunk => fillChunk_frameBlock outcome chunk buf count kept.plain filled.type
    dsimp only
    rw [same]
    show ∃ t code writes, ((s.block addr).bind _) = some (t, code, writes) ∧ _
    rw [found, Option.bind_some, fill, Option.bind_eq_bind, Option.bind_some]
    have pads := newChunk_plain stamp count addr b kept.plain
    have chunkSize : (({ s with lastDuration := d } : Input).newChunk stamp count addr b).size =
        count :=
      u32_natCast (by omega)
    refine ⟨_, _, _, rfl, ?_, fun negative => ?_⟩
    · refine kept.add found opens.mem chunkSize rfl rfl pads.1 ?_ ?_ ?_ _
      · unfold Chunk.extent
        rw [chunkSize, pads.2]
        omega
      · unfold Chunk.extent
        rw [chunkSize, pads.2]
        omega
      · rw [chunkSize]
        exact small
    · rw [s32_eq (by omega) (by omega)] at negative
      omega
  · rw [Bool.eq_false_iff.mpr noChunk, Bool.not_false, if_pos rfl]
    exact ⟨s, _, _, rfl, tidy, fun _ => Unchanged.refl s⟩

theorem recycle_tidy (tidy : s.Tidy) (found : s.block addr = some b) : (s.recycle addr b).Tidy := by
  have filled := tidy.filled addr b found
  unfold recycle
  rw [if_neg (by rw [filled.own]; exact Bool.false_ne_true)]
  by_cases idle : b.chunkCount = 0 ∧ s.wrBlock ≠ some addr
  · have empty := (tidy.empty_iff found).mp idle.1
    rw [if_pos idle]
    by_cases small : (b.size : Int) < u32 s.defaultBlockSize
    · rw [if_pos small]
      exact tidy.freed found empty idle.2
    · rw [if_neg small]
      refine tidy.emptied found empty s.wrBlock fun a writes => ⟨tidy.wr a writes, ?_⟩
      rintro rfl
      exact idle.2 writes
  · rw [if_neg idle]
    exact tidy

theorem release_tidy (tidy : s.Tidy) (addr : Nat) :
    ∃ t, s.vdecInputReleaseChunk addr = some t ∧ t.Tidy := by
  unfold vdecInputReleaseChunk
  cases listed : s.vframeChunkList.find? fun c => c.addr = addr with
  | none => exact ⟨s, rfl, tidy⟩
  | some chunk =>
    have mem := List.mem_of_find?_eq_some listed
    obtain ⟨b, found⟩ := Option.ne_none_iff_exists'.mp (tidy.lodged chunk mem)
    dsimp only
    rw [found, Option.bind_eq_bind, Option.bind_some]
    exact ⟨_, rfl, recycle_tidy (tidy.remove mem found _) put_self⟩

theorem call_tidy (tidy : s.Tidy) (call : InputCall) (fits : call.Fits s) :
    ∃ t code, s.call call = some (t, code) ∧ t.Tidy ∧ (code < 0 → s.Unchanged t) := by
  cases call with
  | release addr =>
    obtain ⟨t, released, kept⟩ := release_tidy tidy addr
    refine ⟨t, 0, ?_, kept, fun negative => absurd negative (by decide)⟩
    show (s.vdecInputReleaseChunk addr).map _ = _
    rw [released, Option.map_some]
  | add outcome stamp buf count =>
    show ∃ t code, (s.vdecInputAddChunk outcome stamp buf count).map _ = some (t, code) ∧ _
    unfold vdecInputAddChunk
    rw [tidy.plain, if_neg Bool.false_ne_true]
    obtain ⟨t, kept, unchanged, ⟨code, refused⟩ | ⟨addr, chosen, opens, small⟩⟩ :=
      chooseBlock_chosen tidy outcome fits
    · rw [refused]
      exact ⟨t, code, rfl, kept, fun _ => unchanged⟩
    · rw [chosen, Option.bind_eq_bind, Option.bind_some]
      rw [← unchanged.dataSize] at small
      obtain ⟨u, code, writes, done, uTidy, uSame⟩ :=
        finish_tidy kept outcome stamp buf opens small
      dsimp only
      rw [done, Option.map_some]
      exact ⟨u, code, rfl, uTidy, fun negative => unchanged.trans (uSame negative)⟩

theorem Tidy.start (defaultBlockSize : Int) (sized : Sized defaultBlockSize) :
    ({ vdecInputInit false with type := .frameBlock, defaultBlockSize } : Input).Tidy where
  nodup := List.nodup_nil
  held _ := iff_of_false (fun given => given rfl) List.not_mem_nil
  fresh _ has := absurd rfl has
  size := rfl
  bounded := Nat.zero_lt_succ _
  plain := rfl
  type := rfl
  wr := nofun
  free := nofun
  filled := nofun
  lodged := nofun
  wide := nofun
  apart := List.Pairwise.nil
  numbered := List.Pairwise.nil
  fewer := nofun
  default := ⟨sized.positive, sized.upper, sized.multiple⟩
  counted := ⟨rfl, rfl, rfl, Nat.zero_lt_succ _⟩

theorem prepareBlocks_tidy (outcomes : List Outcome) (tidy : s.Tidy)
    (small : s.size + s.defaultBlockSize * outcomes.length < 16777216) :
    (s.prepareBlocks outcomes).Tidy := by
  induction outcomes generalizing s with
  | nil => exact tidy
  | cons outcome rest ih =>
    have positive := tidy.sized.positive
    rw [List.length_cons] at small
    push_cast [mul_add] at small
    have others : 0 ≤ s.defaultBlockSize * rest.length :=
      Int.mul_nonneg (Int.le_of_lt positive) (Int.natCast_nonneg _)
    unfold prepareBlocks
    rcases allocNewBlock_tidy tidy (by omega) outcome with ⟨t, done, kept, -⟩ |
      ⟨t, addr, b, done, kept, -, mem, found, start, -, size, default⟩
    · rw [done]
      exact kept
    · rw [done]
      refine ih (kept.toFreeList found start none nofun) ?_
      show (t.size : Int) + t.defaultBlockSize * rest.length < 16777216
      rw [default]
      omega

-- An input of frames that are put into blocks, as vdec_init leaves it.
def prepared (frameWidth frameHeight : Int) (outcomes : Fin 3 → Outcome) : Input :=
  ((vdecInputInit false).vdecInputSetType .frameBlock).vdecInputPrepareBufs frameWidth
    frameHeight outcomes

theorem prepared_tidy (frameWidth frameHeight : Int) (outcomes : Fin 3 → Outcome) :
    (prepared frameWidth frameHeight outcomes).Tidy := by
  unfold prepared vdecInputPrepareBufs
  rw [if_neg (by decide)]
  dsimp only
  by_cases large : s32 (frameWidth * frameHeight) ≥ 1920 * 1088
  · rw [if_pos large]
    refine prepareBlocks_tidy _ (Tidy.start vframeBlockSize4k ⟨by decide, by decide, by decide⟩) ?_
    show (0 : Int) + vframeBlockSize4k * 3 < 16777216
    decide
  · rw [if_neg large]
    refine prepareBlocks_tidy _ (Tidy.start vframeBlockSize ⟨by decide, by decide, by decide⟩) ?_
    show (0 : Int) + vframeBlockSize * 3 < 16777216
    decide

end Input

open Input

theorem input_kept_along_fitting_runs (frameWidth frameHeight : Int) (outcomes : Fin 3 → Outcome)
    (calls : List InputCall)
    (fits : Along Input.step (fun s call => call.Fits s)
      (prepared frameWidth frameHeight outcomes) calls) :
    Along Input.step (fun s call => call.Keeps s) (prepared frameWidth frameHeight outcomes) calls := by
  have tidy := prepared_tidy frameWidth frameHeight outcomes
  revert fits tidy
  generalize prepared frameWidth frameHeight outcomes = s
  intro fits tidy
  induction calls generalizing s with
  | nil => trivial
  | cons call rest ih =>
    obtain ⟨t, code, done, kept, unchanged⟩ := call_tidy tidy call fits.1
    have next : s.step call = t := by
      unfold Input.step
      rw [done]
      rfl
    refine ⟨⟨t, code, done, kept.coherent, unchanged⟩, ?_⟩
    rw [next]
    exact ih t (next ▸ fits.2) kept

def ramp : UserBuf := { byte := fun i => UInt8.ofNat (i + 1), readable := 4294967296 }

def smooth : Input := prepared 720 576 fun _ => {}

-- The third frame finds no room behind the first two in their block, which stays until both are
-- released.
def threeFrames : List InputCall :=
  [.add {} {} ramp 100, .add {} {} ramp 60, .add {} {} ramp 786000, .release 0,
    .add { mapped := false } {} ramp 30,
    .release 1, .release 2, .release 3]

theorem frames_kept : Along Input.step (fun s call => call.Keeps s) smooth threeFrames :=
  input_kept_along_fitting_runs 720 576 (fun _ => {}) threeFrames (by decide +kernel)

def contained (s : Input) : Bool :=
  s.vframeChunkList.all fun c => (s.block c.block).any fun b => c.offset + c.extent ≤ b.size

theorem long_frame_leaves_block :
    ¬∀ (frameWidth frameHeight : Int) (outcomes : Fin 3 → Outcome) (calls : List InputCall),
      Along Input.step (fun s call => call.Keeps s)
        (prepared frameWidth frameHeight outcomes) calls := by
  intro keeps
  obtain ⟨⟨t, code, done, coherent, -⟩, -⟩ :=
    keeps 720 576 (fun _ => {}) [.add {} {} ramp 0x7ffff000]
  have inside : contained t = true := by
    refine List.all_eq_true.mpr fun c mem => ?_
    obtain ⟨b, found, within⟩ := coherent.inside c mem
    rw [found]
    exact decide_eq_true within
  have outside : (smooth.call (.add {} {} ramp 0x7ffff000)).map (fun r => contained r.1) =
      some false := by decide +kernel
  unfold smooth at outside
  rw [done, Option.map_some, inside] at outside
  cases outside

end UnionpiTiger.Vdec
