import UnionpiTiger.Vdec.Circular
import UnionpiTiger.Vdec.Producer

set_option autoImplicit false

namespace UnionpiTiger.Vdec

open Lib

structure Block.Holds (b : Block) (frame : Nat → UInt8) (c : Chunk) : Prop where
  bytes : ∀ k < c.size, b.mem ((c.offset + k) % b.size) = frame k
  padding : ∀ k < c.padingSize, b.mem ((c.offset + c.size + k) % b.size) = 0

structure Noted where
  input : Input
  frame : Nat → Nat → UInt8 := fun _ _ => 0

def Input.written (s : Input) : InputCall → List Write
  | .add outcome stamp buf count =>
    ((s.vdecInputAddChunk outcome stamp buf count).map fun done => done.2.2).getD []
  | .release _ => []

def Noted.step (s : Noted) (call : InputCall) : Noted where
  input := s.input.step call
  frame := match call with
    | .add _ _ buf _ => Function.update s.frame s.input.nextChunk buf.byte
    | .release _ => s.frame

namespace InputCall

def Accepted (s : Input) : InputCall → Prop
  | .add outcome stamp buf count => ∃ t code ws,
    s.vdecInputAddChunk outcome stamp buf count = some (t, code, ws) ∧ 0 ≤ code
  | .release addr => s.vframeChunkList.head?.map Chunk.addr = some addr

def Served (s : Input) : InputCall → Prop
  | .add outcome _ buf count =>
    Complete outcome buf count.toNat ∧ (s.wrBlock = none → s.FindsRoom count.toNat)
  | .release _ => True

def EndsBefore (s : Input) : InputCall → Prop
  | .add _ _ _ count => ∀ addr b, s.wrBlock = some addr → s.block addr = some b →
    b.isMapped = true → b.wp + count.toNat < b.size
  | .release _ => True

instance Accepted.decidable (s : Input) : (call : InputCall) → Decidable (call.Accepted s)
  | .add outcome stamp buf count =>
    decidable_of_iff (∃ done ∈ s.vdecInputAddChunk outcome stamp buf count, 0 ≤ done.2.1)
      ⟨fun ⟨(t, code, ws), done, positive⟩ => ⟨t, code, ws, done, positive⟩,
        fun ⟨t, code, ws, done, positive⟩ => ⟨(t, code, ws), done, positive⟩⟩
  | .release addr => inferInstanceAs (Decidable (s.vframeChunkList.head?.map Chunk.addr = some addr))

instance EndsBefore.decidable (s : Input) : (call : InputCall) → Decidable (call.EndsBefore s)
  | .add _ _ _ count =>
    decidable_of_iff (∀ addr ∈ s.wrBlock, ∀ b ∈ s.block addr, b.isMapped = true →
      b.wp + count.toNat < b.size)
      ⟨fun all addr b writes found => all addr writes b found,
        fun ends addr writes b found => ends addr b writes found⟩
  | .release _ => isTrue trivial

def isRelease : InputCall → Bool
  | .add .. => false
  | .release _ => true

end InputCall

-- After a call every chunk is where it should be, and the call has written to the block only, and
-- not over a chunk that was there.
structure Noted.Stores (s : Noted) (call : InputCall) : Prop where
  held : ∀ c ∈ (s.step call).input.vframeChunkList, ∃ b,
    (s.step call).input.block c.block = some b ∧ b.Holds ((s.step call).frame c.addr) c
  inside : ∃ addr b, (s.step call).input.wrBlock = some addr ∧
    (s.step call).input.block addr = some b ∧ ∀ w ∈ s.input.written call, w.offset < b.size
  apart : ∀ c ∈ s.input.vframeChunkList, ∀ b, (s.step call).input.wrBlock = some c.block →
    (s.step call).input.block c.block = some b →
      ∀ w ∈ s.input.written call, ∀ k < c.extent, w.offset ≠ (c.offset + k) % b.size

def Noted.Accounts (s : Noted) (call : InputCall) : Prop :=
  ∃ addr b, (s.step call).input.wrBlock = some addr ∧ (s.step call).input.block addr = some b ∧
    vframeBlockSpace b + extents ((s.step call).input.chunksOf addr) = b.size

-- A block that nothing has been put into.
structure Block.Blank (b : Block) : Prop extends b.Round where
  wp : b.wp = 0
  rp : b.rp = 0

namespace Input

structure Lined (s : Input) (addr : Nat) (b : Block) (r a w : Nat) : Prop where
  plain : s.secure = false
  type : s.type = .frameCircular
  found : s.block addr = some b
  lodged : ∀ c ∈ s.vframeChunkList, c.block = addr
  padded : ∀ c ∈ s.vframeChunkList, 0 < c.padingSize
  numbered : s.vframeChunkList.Pairwise fun c d => c.addr ≠ d.addr
  fewer : ∀ c ∈ s.vframeChunkList, c.addr < s.nextChunk
  ring : b.Ring s.vframeChunkList r a w

structure Turning (s : Input) (addr : Nat) (b : Block) (r a w : Nat) : Prop
    extends s.Lined addr b r a w where
  wr : s.wrBlock = some addr
  started : r < w

structure Taken (s t : Input) (outcome : Outcome) (buf : UserBuf) (count addr : Nat) (b next : Block)
    (chunk : Chunk) (ws : List Write) : Prop where
  number : chunk.addr = s.nextChunk
  offset : chunk.offset = b.wp
  size : chunk.size = count
  pading : chunk.padingSize = padding count
  filled : vframeChunkFill outcome chunk buf count b = some ws
  chunks : t.vframeChunkList = s.vframeChunkList ++ [chunk]
  mem : next.mem = ws.foldl Write.apply b.mem
  same : next.size = b.size

variable {s t : Input} {addr count : Nat} {b : Block} {r a w : Nat} {outcome : Outcome} {stamp : Stamp}
  {buf : UserBuf} {code : Int} {ws : List Write}

theorem finish_accepted (found : s.block addr = some b) (plain : s.secure = false)
    (done : s.finish outcome stamp buf count addr = some (t, code, ws)) (accepted : 0 ≤ code) :
    ∃ lastDuration, vframeChunkFill outcome (s.newChunk stamp count addr b) buf count b = some ws ∧
      t = ({ s with lastDuration } : Input).addChunk addr { b with mem := ws.foldl Write.apply b.mem }
        (s.newChunk stamp count addr b) count ∧ code = s32 count := by
  unfold finish at done
  by_cases chunkStruct : outcome.chunkStruct = true
  · rw [chunkStruct, Bool.not_true, if_neg Bool.false_ne_true] at done
    obtain ⟨d, same⟩ := noteDuration_same s stamp
    dsimp only at done
    rw [same] at done
    replace done : ((s.block addr).bind _) = some (t, code, ws) := done
    rw [found, Option.bind_some] at done
    have fill : ({ s with lastDuration := d } : Input).fillChunk outcome
        (({ s with lastDuration := d } : Input).newChunk stamp count addr b) buf count b =
          vframeChunkFill outcome (s.newChunk stamp count addr b) buf count b := by
      unfold fillChunk
      exact if_neg (by rw [plain]; exact Bool.false_ne_true)
    rw [fill] at done
    cases filled : vframeChunkFill outcome (s.newChunk stamp count addr b) buf count b with
    | none =>
      rw [filled] at done
      cases done
    | some filledWith =>
      rw [filled, Option.bind_eq_bind, Option.bind_some] at done
      obtain ⟨rfl, rest⟩ := Prod.mk.inj (Option.some.inj done)
      obtain ⟨rfl, rfl⟩ := Prod.mk.inj rest
      exact ⟨d, rfl, rfl, rfl⟩
  · rw [Bool.eq_false_iff.mpr chunkStruct, Bool.not_false, if_pos rfl] at done
    cases done
    exact absurd accepted (by decide)

theorem Lined.finish (lined : s.Lined addr b r a w)
    (done : s.finish outcome stamp buf count addr = some (t, code, ws)) (accepted : 0 ≤ code)
    (fits : w + (count + padding count) < r + b.size) :
    ∃ next chunk, s.Taken t outcome buf count addr b next chunk ws ∧
      t.Turning addr next r a (w + (count + padding count)) := by
  have upper := lined.ring.upper
  have behind := lined.ring.behind
  have end_ := lined.ring.chain.extents_eq
  have pad := (padding_bounds count).1
  obtain ⟨d, filled, rfl, -⟩ := finish_accepted lined.found lined.plain done accepted
  obtain ⟨offset, pading⟩ := newChunk_plain stamp count addr b lined.plain
  have size : (s.newChunk stamp count addr b).size = count := u32_natCast (by omega)
  have extent : (s.newChunk stamp count addr b).extent = count + padding count := by
    unfold Chunk.extent
    rw [size, pading]
  refine ⟨{ b with
    mem := ws.foldl Write.apply b.mem
    wp := advance b.wp (u32 ((s.newChunk stamp count addr b).size +
      (s.newChunk stamp count addr b).padingSize)) b.size
    dataSize := s32 (b.dataSize + (s.newChunk stamp count addr b).size)
    chunkCount := s32 (b.chunkCount + 1) }, s.newChunk stamp count addr b,
      ⟨rfl, offset, size, pading, filled, rfl, rfl, rfl⟩, ?_⟩
  rw [← extent] at fits ⊢
  constructor
  case toLined =>
    constructor
    case plain => exact lined.plain
    case type => exact lined.type
    case found => exact put_self
    case lodged =>
      intro c mem
      rcases List.mem_append.mp mem with old | new
      · exact lined.lodged c old
      · rw [List.mem_singleton.mp new]
        rfl
    case padded =>
      intro c mem
      rcases List.mem_append.mp mem with old | new
      · exact lined.padded c old
      · rw [List.mem_singleton.mp new, pading]
        omega
    case numbered =>
      refine List.pairwise_append.mpr ⟨lined.numbered, List.pairwise_singleton _ _,
        fun c old d new => ?_⟩
      rw [List.mem_singleton.mp new]
      exact Nat.ne_of_lt (lined.fewer c old)
    case fewer =>
      intro c mem
      rcases List.mem_append.mp mem with old | new
      · exact Nat.lt_succ_of_lt (lined.fewer c old)
      · rw [List.mem_singleton.mp new]
        exact Nat.lt_succ_self _
    case ring => exact lined.ring.add rfl rfl rfl rfl rfl offset fits
  case wr => rfl
  case started => omega

structure Unwritten (s : Input) : Prop where
  plain : s.secure = false
  type : s.type = .frameCircular
  wr : s.wrBlock = none
  empty : s.vframeChunkList = []
  dataSize : s.dataSize = 0
  free : ∀ addr ∈ s.vframeBlockFreeList, ∀ b, s.block addr = some b → b.Blank
  sized : Sized s.defaultBlockSize

structure Alike (s t : Input) : Prop where
  plain : t.secure = s.secure
  type : t.type = s.type
  chunks : t.vframeChunkList = s.vframeChunkList
  nextChunk : t.nextChunk = s.nextChunk

theorem takeFreeBlock_cases {size : Int} {found : Option Nat}
    (taken : s.takeFreeBlock size = some (t, found)) : s.Alike t ∧
      t.defaultBlockSize = s.defaultBlockSize ∧ ∀ addr, found = some addr →
        addr ∈ s.vframeBlockFreeList ∧ ∃ b, s.block addr = some b ∧ t.block addr = some b ∧
          u32 size ≤ b.size := by
  unfold takeFreeBlock at taken
  cases free : s.vframeBlockFreeList with
  | nil =>
    rw [free] at taken
    cases taken
    exact ⟨⟨rfl, rfl, rfl, rfl⟩, rfl, nofun⟩
  | cons first rest =>
    rw [free] at taken
    dsimp only at taken
    cases found : s.block first with
    | none =>
      rw [found] at taken
      cases taken
    | some b =>
      rw [found, Option.bind_eq_bind, Option.bind_some] at taken
      by_cases short : b.size < u32 size
      · rw [if_pos short] at taken
        cases taken
        exact ⟨⟨rfl, rfl, rfl, rfl⟩, rfl, nofun⟩
      · rw [if_neg short] at taken
        cases taken
        refine ⟨⟨rfl, rfl, rfl, rfl⟩, rfl, ?_⟩
        rintro addr ⟨⟩
        exact ⟨List.mem_cons_self, b, found, found, Nat.le_of_not_lt short⟩

theorem allocate_cases (sized : Sized s.defaultBlockSize) (type : s.type = .frameCircular)
    (got : s.allocate outcome = (t, .ok addr)) :
    s.Alike t ∧ ∃ b, t.block addr = some b ∧ b.Blank ∧ (b.size : Int) = s.defaultBlockSize := by
  have storage := sized.storage
  have lower := sized.positive
  have upper := sized.upper
  unfold allocate allocNewBlock initAllocStorage at got
  by_cases blockStruct : outcome.blockStruct = true
  · rw [blockStruct, Bool.not_true, if_neg Bool.false_ne_true, if_neg (not_not.mpr rfl)] at got
    by_cases enough : outcome.storage = true
    · rw [if_pos enough] at got
      obtain ⟨rfl, same⟩ := Prod.mk.inj got
      cases same
      exact ⟨⟨rfl, rfl, rfl, rfl⟩, _, put_self,
        ⟨⟨type, rfl, by dsimp only; omega, by dsimp only; omega⟩, rfl, rfl⟩, storage⟩
    · rw [if_neg enough] at got
      cases got
  · rw [Bool.eq_false_iff.mpr blockStruct, Bool.not_false, if_pos rfl] at got
    cases got

theorem Unwritten.lined (unwritten : s.Unwritten) (alike : s.Alike t) (found : t.block addr = some b)
    (blank : b.Blank) :
    t.Lined addr b 0 0 0 where
  plain := alike.plain.trans unwritten.plain
  type := alike.type.trans unwritten.type
  found := found
  lodged c mem := by
    rw [alike.chunks, unwritten.empty] at mem
    cases mem
  padded c mem := by
    rw [alike.chunks, unwritten.empty] at mem
    cases mem
  numbered := by
    rw [alike.chunks, unwritten.empty]
    exact List.Pairwise.nil
  fewer c mem := by
    rw [alike.chunks, unwritten.empty] at mem
    cases mem
  ring := by
    rw [alike.chunks, unwritten.empty]
    have room := blank.room
    exact ⟨blank.toRound, by rw [blank.rp, Nat.zero_mod], by rw [blank.wp, Nat.zero_mod],
      Nat.le_refl _, rfl, by omega⟩

theorem Unwritten.getFreeBlock (unwritten : s.Unwritten) (finds : s.FindsRoom count)
    (got : s.getFreeBlock outcome (frameSize count) = some (t, .ok addr)) :
    s.Alike t ∧ ∃ b, t.block addr = some b ∧ b.Blank ∧ count + padding count < b.size := by
  have pad := padding_bounds count
  have dataSize := unwritten.dataSize
  unfold Input.getFreeBlock at got
  cases taken : s.takeFreeBlock (frameSize count) with
  | none =>
    rw [taken] at got
    cases got
  | some result =>
    obtain ⟨u, found⟩ := result
    rw [taken, Option.bind_eq_bind, Option.bind_some] at got
    obtain ⟨alike, default, block⟩ := takeFreeBlock_cases taken
    cases found with
    | some first =>
      cases got
      obtain ⟨mem, b, before, after, enough⟩ := block addr rfl
      have small := finds.found t addr taken
      refine ⟨alike, b, after, unwritten.free addr mem b before, ?_⟩
      unfold frameSize extraPaddingSize s32 u32 at enough
      omega
    | none =>
      dsimp only at got
      unfold passLimits at got
      by_cases refused : u.haveBlocksEnough > 13 ∨ u.noMemErrCnt > 3
      · rw [if_pos refused] at got
        cases got
      · rw [if_neg refused] at got
        obtain ⟨-, grows⟩ := finds.allocates u taken refused
        obtain ⟨d, grown, sized, wide⟩ := grownBlockSize_spec (default ▸ unwritten.sized) grows
        rw [grown, Option.map_some] at got
        replace got : ({ u with defaultBlockSize := d } : Input).allocate outcome = (t, .ok addr) :=
          Option.some.inj got
        obtain ⟨same, b, has, blank, size⟩ :=
          allocate_cases (s := { u with defaultBlockSize := d }) sized
            (alike.type.trans unwritten.type) got
        refine ⟨⟨same.plain.trans alike.plain, same.type.trans alike.type,
          same.chunks.trans alike.chunks, same.nextChunk.trans alike.nextChunk⟩, b, has, blank, ?_⟩
        dsimp only at size
        omega

theorem Unwritten.chooseBlock (unwritten : s.Unwritten) (finds : s.FindsRoom count)
    (chosen : s.chooseBlock outcome count = some (t, .ok addr)) :
    s.Alike t ∧ ∃ b, t.block addr = some b ∧ b.Blank ∧ count + padding count < b.size := by
  have look : s.lookAtWrBlock count = some .fresh := by
    unfold lookAtWrBlock
    rw [if_neg (by rw [unwritten.type]; decide), unwritten.wr]
  unfold Input.chooseBlock at chosen
  rw [look, Option.bind_eq_bind, Option.bind_some] at chosen
  exact unwritten.getFreeBlock finds chosen

theorem Turning.chooseBlock (turning : s.Turning addr b r a w) {addr' : Nat}
    (chosen : s.chooseBlock outcome count = some (t, .ok addr')) :
    t = s ∧ addr' = addr ∧ u64 (count + padding count) < vframeBlockSpace b := by
  have plain : ¬(s.type = .single ∨ s.type = .streamParser) := by
    rw [turning.type]
    decide
  unfold Input.chooseBlock at chosen
  by_cases room : b.hasRoom count = true
  · have look : s.lookAtWrBlock count = some (.fill addr) := by
      simp [lookAtWrBlock, plain, turning.wr, turning.found, room]
    rw [look, Option.bind_eq_bind, Option.bind_some] at chosen
    cases chosen
    exact ⟨rfl, rfl, of_decide_eq_true room⟩
  · have look : s.lookAtWrBlock count = some (.back (-eAgain)) := by
      simp [lookAtWrBlock, plain, turning.wr, turning.found, room, turning.ring.type]
    rw [look, Option.bind_eq_bind, Option.bind_some] at chosen
    cases chosen

theorem Turning.release (turning : s.Turning addr b r a w) {number : Nat}
    (accepted : s.vframeChunkList.head?.map Chunk.addr = some number) :
    ∃ t c next, s.vdecInputReleaseChunk number = some t ∧ s.vframeChunkList = c :: t.vframeChunkList ∧
      t.Turning addr next (r + c.size) (a + c.extent) w ∧ next.mem = b.mem ∧ next.size = b.size := by
  cases list : s.vframeChunkList with
  | nil =>
    rw [list] at accepted
    cases accepted
  | cons c rest =>
    rw [list] at accepted
    replace accepted : c.addr = number := Option.some.inj accepted
    have here : c ∈ s.vframeChunkList := list ▸ List.mem_cons_self
    have tail : ∀ d ∈ rest, d ∈ s.vframeChunkList := fun d mem => list ▸ List.mem_cons_of_mem c mem
    have numbered := List.pairwise_cons.mp (list ▸ turning.numbered)
    have first : s.vframeChunkList.find? (fun d => d.addr = number) = some c := by
      rw [list]
      exact List.find?_cons_of_pos (decide_eq_true accepted)
    have others : s.vframeChunkList.filter (fun d => d.addr ≠ c.addr) = rest := by
      rw [list, List.filter_cons_of_neg (by simp)]
      exact List.filter_eq_self.mpr fun d mem => decide_eq_true (numbered.1 d mem).symm
    unfold vdecInputReleaseChunk
    rw [first]
    dsimp only
    rw [turning.lodged c here, turning.found, Option.bind_eq_bind, Option.bind_some]
    let next : Block := { b with
      rp := advance b.rp c.size b.size
      dataSize := s32 (b.dataSize - c.size)
      chunkCount := s32 (b.chunkCount - 1) }
    have stays : (s.removeChunk c next).recycle addr next = s.removeChunk c next := by
      have own : next.isOutBuf = false := turning.ring.own
      have writes : (s.removeChunk c next).wrBlock = some addr := turning.wr
      unfold recycle
      rw [if_neg (by rw [own]; exact Bool.false_ne_true), if_neg fun both => both.2 writes]
    refine ⟨s.removeChunk c next, c, next, congrArg some stays, ?_, ?_, rfl, rfl⟩
    · show c :: rest = c :: s.vframeChunkList.filter _
      rw [others]
    · have ring := list ▸ turning.ring
      have pads := turning.padded c here
      have bytes : c.size < c.extent := Nat.lt_add_of_pos_right pads
      have end_ := ring.chain.2.extents_eq
      have behind := ring.behind
      have left : (s.removeChunk c next).vframeChunkList = rest := others
      constructor
      case toLined =>
        constructor
        case plain => exact turning.plain
        case type => exact turning.type
        case found =>
          show (s.put c.block next).block addr = some next
          rw [turning.lodged c here]
          exact put_self
        case lodged => exact fun d mem => turning.lodged d (tail d (left ▸ mem))
        case padded => exact fun d mem => turning.padded d (tail d (left ▸ mem))
        case numbered =>
          rw [left]
          exact numbered.2
        case fewer => exact fun d mem => turning.fewer d (tail d (left ▸ mem))
        case ring =>
          rw [left]
          exact ring.release rfl rfl rfl rfl rfl
      case wr => exact turning.wr
      case started => omega

structure Landing (s : Input) (outcome : Outcome) (stamp : Stamp) (buf : UserBuf) (count : UInt64)
    (r a w addr : Nat) (b next : Block) (chunk : Chunk) : Prop where
  ring : b.Ring s.vframeChunkList r a w
  taken : s.Taken (s.step (.add outcome stamp buf count)) outcome buf count.toNat addr b next chunk
    (s.written (.add outcome stamp buf count))
  turning : (s.step (.add outcome stamp buf count)).Turning addr next r a
    (w + (count.toNat + padding count.toNat))
  fits : w + (count.toNat + padding count.toNat) < r + b.size
  ends : (InputCall.add outcome stamp buf count).EndsBefore s ↔
    (b.isMapped = true → b.wp + count.toNat < b.size)
  here : s.vframeChunkList = [] ∨ s.block addr = some b

theorem Alike.taken {u : Input} {next : Block} {chunk : Chunk} (alike : s.Alike u)
    (taken : u.Taken t outcome buf count addr b next chunk ws) :
    s.Taken t outcome buf count addr b next chunk ws where
  number := taken.number.trans alike.nextChunk
  offset := taken.offset
  size := taken.size
  pading := taken.pading
  filled := taken.filled
  chunks := alike.chunks ▸ taken.chunks
  mem := taken.mem
  same := taken.same

theorem getFreeBlock_refused {size : Int} (got : s.getFreeBlock outcome size = some (t, .error code)) :
    code < 0 := by
  unfold Input.getFreeBlock at got
  cases taken : s.takeFreeBlock size with
  | none =>
    rw [taken] at got
    cases got
  | some result =>
    obtain ⟨u, found⟩ := result
    rw [taken, Option.bind_eq_bind, Option.bind_some] at got
    cases found with
    | some addr => cases got
    | none =>
      dsimp only at got
      unfold passLimits at got
      by_cases refused : u.haveBlocksEnough > 13 ∨ u.noMemErrCnt > 3
      · rw [if_pos refused] at got
        cases got
        decide
      · rw [if_neg refused] at got
        cases grown : grownBlockSize u.defaultBlockSize size with
        | none =>
          rw [grown] at got
          cases got
        | some d =>
          rw [grown] at got
          replace got := Option.some.inj got
          unfold allocate at got
          revert got
          rcases ({ u with defaultBlockSize := d } : Input).allocNewBlock outcome 0 0 with ⟨v, _ | addr⟩
          · rintro ⟨⟩
            decide
          · rintro ⟨⟩

theorem lookAtWrBlock_refused (look : s.lookAtWrBlock count = some (.back code)) : code < 0 := by
  unfold lookAtWrBlock at look
  split_ifs at look with stream
  · cases look
    decide
  · cases writes : s.wrBlock with
    | none =>
      rw [writes] at look
      cases look
    | some addr =>
      rw [writes] at look
      dsimp only at look
      cases found : s.block addr with
      | none =>
        rw [found] at look
        cases look
      | some b =>
        rw [found, Option.bind_eq_bind, Option.bind_some] at look
        split_ifs at look
        all_goals cases look
        decide

theorem chooseBlock_refused (chosen : s.chooseBlock outcome count = some (t, .error code)) :
    code < 0 := by
  unfold Input.chooseBlock at chosen
  cases look : s.lookAtWrBlock count with
  | none =>
    rw [look] at chosen
    cases chosen
  | some way =>
    rw [look, Option.bind_eq_bind, Option.bind_some] at chosen
    cases way with
    | fill addr => cases chosen
    | back refused =>
      cases chosen
      exact lookAtWrBlock_refused look
    | fresh => exact getFreeBlock_refused chosen
    | giveUp addr =>
      dsimp only at chosen
      cases given : s.giveUp addr with
      | none =>
        rw [given] at chosen
        cases chosen
      | some u =>
        rw [given] at chosen
        exact getFreeBlock_refused (s := u) chosen

theorem accepted_chosen {count : UInt64} (plain : s.secure = false)
    (accepted : (InputCall.add outcome stamp buf count).Accepted s) :
    ∃ u addr code, s.chooseBlock outcome count.toNat = some (u, .ok addr) ∧ 0 ≤ code ∧
      u.finish outcome stamp buf count.toNat addr = some (s.step (.add outcome stamp buf count), code,
        s.written (.add outcome stamp buf count)) := by
  obtain ⟨t, code, ws, done, positive⟩ := accepted
  have next : s.step (.add outcome stamp buf count) = t := by
    simp only [step, call, done, Option.map_some, Option.getD_some]
  have writes : s.written (.add outcome stamp buf count) = ws := by
    simp only [written, done, Option.map_some, Option.getD_some]
  rw [next, writes]
  unfold vdecInputAddChunk at done
  rw [plain, if_neg Bool.false_ne_true] at done
  cases chosen : s.chooseBlock outcome count.toNat with
  | none =>
    rw [chosen] at done
    cases done
  | some result =>
    obtain ⟨u, result⟩ := result
    rw [chosen, Option.bind_eq_bind, Option.bind_some] at done
    cases result with
    | error refused =>
      have negative := chooseBlock_refused chosen
      cases done
      omega
    | ok addr => exact ⟨u, addr, code, rfl, positive, done⟩

theorem Unwritten.landing {count : UInt64} (unwritten : s.Unwritten)
    (accepted : (InputCall.add outcome stamp buf count).Accepted s)
    (served : (InputCall.add outcome stamp buf count).Served s) :
    ∃ addr b next chunk, s.Landing outcome stamp buf count 0 0 0 addr b next chunk := by
  obtain ⟨u, addr, code, chosen, positive, done⟩ := accepted_chosen unwritten.plain accepted
  obtain ⟨alike, b, found, blank, fits⟩ := unwritten.chooseBlock (served.2 unwritten.wr) chosen
  have lined := unwritten.lined alike found blank
  obtain ⟨next, chunk, taken, turning⟩ := lined.finish done positive (by omega)
  refine ⟨addr, b, next, chunk, alike.chunks ▸ lined.ring, alike.taken taken, turning, by omega, ?_,
    Or.inl unwritten.empty⟩
  refine iff_of_true (fun other block writes => ?_) fun _ => ?_
  · rw [unwritten.wr] at writes
    cases writes
  · have start := blank.wp
    omega

theorem Turning.landing {count : UInt64} (turning : s.Turning addr b r a w)
    (accepted : (InputCall.add outcome stamp buf count).Accepted s) :
    ∃ next chunk, s.Landing outcome stamp buf count r a w addr b next chunk := by
  obtain ⟨u, other, code, chosen, positive, done⟩ := accepted_chosen turning.plain accepted
  obtain ⟨rfl, rfl, room⟩ := turning.chooseBlock chosen
  have space := turning.ring.space turning.started
  have started := turning.started
  have upper := turning.ring.upper
  have pad := padding_bounds count.toNat
  have narrow := count.toNat_lt
  -- A count with which the sum wraps is negative as the result of the call.
  obtain ⟨-, -, -, result⟩ := finish_accepted turning.found turning.plain done positive
  have fits : w + (count.toNat + padding count.toNat) < r + b.size := by
    unfold s32 at result
    unfold u64 at room
    omega
  obtain ⟨next, chunk, taken, after⟩ := turning.toLined.finish done positive fits
  refine ⟨next, chunk, turning.ring, taken, after, fits, ?_, Or.inr turning.found⟩
  constructor
  · exact fun ends => ends other b turning.wr turning.found
  · intro ends addr block writes found
    cases turning.wr.symm.trans writes
    cases turning.found.symm.trans found
    exact ends

section Landing

variable {frame : Nat → Nat → UInt8} {number : UInt64} {next : Block} {chunk : Chunk}

theorem Landing.laid_chunk (landing : s.Landing outcome stamp buf number r a w addr b next chunk)
    (filled : s.written (.add outcome stamp buf number) =
      laid b.place (number.toNat + padding number.toNat) (framed buf number.toNat)) {i : Nat}
    (below : i < number.toNat + padding number.toNat) :
    next.mem (b.place i) = framed buf number.toNat i := by
  have fits := landing.fits
  rw [landing.taken.mem, filled]
  exact laid_here _ _ (fun j less apart => landing.ring.place_ne apart (by omega) (by omega)) below

theorem Landing.laid_apart (landing : s.Landing outcome stamp buf number r a w addr b next chunk)
    (filled : s.written (.add outcome stamp buf number) =
      laid b.place (number.toNat + padding number.toNat) (framed buf number.toNat)) {c : Chunk}
    (mem : c ∈ s.vframeChunkList) {k : Nat} (within : k < c.extent) :
    next.mem ((c.offset + k) % b.size) = b.mem ((c.offset + k) % b.size) := by
  have fits := landing.fits
  rw [landing.taken.mem, filled]
  exact laid_other _ _ fun i less => landing.ring.place_ne_chunk mem (by omega) within

theorem Landing.holds_old (landing : s.Landing outcome stamp buf number r a w addr b next chunk)
    (filled : s.written (.add outcome stamp buf number) =
      laid b.place (number.toNat + padding number.toNat) (framed buf number.toNat)) {c : Chunk}
    (mem : c ∈ s.vframeChunkList) {held : Nat →
      UInt8} (holds : b.Holds held c) : next.Holds held c where
  bytes k below := by
    rw [landing.taken.same, landing.laid_apart filled mem (Nat.lt_add_right _ below)]
    exact holds.bytes k below
  padding k below := by
    have within : c.size + k < c.extent := Nat.add_lt_add_left below _
    have same := landing.laid_apart filled mem within
    rw [← Nat.add_assoc] at same
    rw [landing.taken.same, same]
    exact holds.padding k below

theorem Landing.holds_new (landing : s.Landing outcome stamp buf number r a w addr b next chunk)
    (filled : s.written (.add outcome stamp buf number) =
      laid b.place (number.toNat + padding number.toNat) (framed buf number.toNat)) :
    next.Holds buf.byte chunk where
  bytes k below := by
    rw [landing.taken.size] at below
    have here := landing.laid_chunk filled (i := k) (by omega)
    rw [landing.taken.same, landing.taken.offset]
    exact here.trans (if_pos below)
  padding k below := by
    rw [landing.taken.pading] at below
    have here := landing.laid_chunk filled (i := number.toNat + k) (by omega)
    rw [landing.taken.same, landing.taken.offset, landing.taken.size, Nat.add_assoc]
    exact here.trans (if_neg (by omega))

theorem Landing.stores (landing : s.Landing outcome stamp buf number r a w addr b next chunk)
    (complete : Complete outcome buf number.toNat)
    (held : ∀ c ∈ s.vframeChunkList, ∃ b, s.block c.block = some b ∧ b.Holds (frame c.addr) c) :
    (InputCall.add outcome stamp buf number).EndsBefore s ↔
      (⟨s, frame⟩ : Noted).Stores (.add outcome stamp buf number) := by
  have after := landing.turning
  have chunks := landing.taken.chunks
  have fits := landing.fits
  have end_ := landing.ring.chain.extents_eq
  have behind := landing.ring.behind
  have pad := padding_bounds number.toNat
  constructor
  · intro ends
    have fill := vframeChunkFill_circular chunk landing.ring.toRound complete
      (by rw [landing.taken.pading]; omega) (landing.ends.mp ends)
    have filled := Option.some.inj (landing.taken.filled.symm.trans fill)
    rw [landing.taken.pading] at filled
    constructor
    case held =>
      intro c mem
      refine ⟨next, by rw [after.lodged c mem]; exact after.found, ?_⟩
      have numbered := List.pairwise_append.mp (chunks ▸ after.numbered)
      rcases List.mem_append.mp (chunks ▸ mem) with old | new
      · have other := numbered.2.2 c old chunk (List.mem_singleton_self _)
        rw [landing.taken.number] at other
        show next.Holds (Function.update frame s.nextChunk buf.byte c.addr) c
        rw [Function.update_of_ne other]
        obtain ⟨kept, found, holds⟩ := held c old
        rcases landing.here with empty | here
        · rw [empty] at old
          cases old
        · rw [after.lodged c mem] at found
          cases found.symm.trans here
          exact landing.holds_old filled old holds
      · rw [List.mem_singleton.mp new]
        show next.Holds (Function.update frame s.nextChunk buf.byte chunk.addr) chunk
        rw [landing.taken.number, Function.update_self]
        exact landing.holds_new filled
    case inside =>
      refine ⟨addr, next, after.wr, after.found, fun w mem => ?_⟩
      replace mem : w ∈ s.written (.add outcome stamp buf number) := mem
      rw [filled] at mem
      obtain ⟨i, -, rfl⟩ := mem_laid.mp mem
      rw [landing.taken.same]
      exact Nat.mod_lt _ (Nat.zero_lt_of_lt landing.ring.room)
    case apart =>
      intro c old other writes found w mem k within
      cases Option.some.inj (after.wr.symm.trans writes)
      cases after.found.symm.trans found
      replace mem : w ∈ s.written (.add outcome stamp buf number) := mem
      rw [filled] at mem
      obtain ⟨i, less, rfl⟩ := mem_laid.mp mem
      rw [landing.taken.same]
      exact landing.ring.place_ne_chunk old (by omega) within
  · intro stores
    obtain ⟨other, block, writes, found, inside⟩ := stores.inside
    cases Option.some.inj (after.wr.symm.trans writes)
    cases after.found.symm.trans found
    refine landing.ends.mpr fun mapped => ?_
    by_contra reaches
    obtain ⟨write, mem, outside⟩ :=
      vframeChunkFill_behind landing.ring.toRound landing.taken.filled (by omega)
      (by rw [landing.taken.pading]; omega) mapped (by omega)
    have within := inside write mem
    rw [landing.taken.same] at within
    omega

end Landing

theorem step_release {number : Nat} (released : s.vdecInputReleaseChunk number = some t) :
    s.step (.release number) = t := by
  simp only [step, call, released, Option.map_some, Option.getD_some]

theorem Turning.release_stores (turning : s.Turning addr b r a w) {number : Nat}
    (accepted : (InputCall.release number).Accepted s) (frame : Nat → Nat → UInt8)
    (held : ∀ c ∈ s.vframeChunkList, ∃ b, s.block c.block = some b ∧ b.Holds (frame c.addr) c) :
    (⟨s, frame⟩ : Noted).Stores (.release number) := by
  obtain ⟨t, c, next, released, chunks, after, mem, same⟩ := turning.release accepted
  have step := step_release released
  constructor
  case held =>
    intro d left
    replace left : d ∈ (s.step (.release number)).vframeChunkList := left
    show ∃ b, (s.step (.release number)).block d.block = some b ∧ b.Holds (frame d.addr) d
    rw [step] at left ⊢
    obtain ⟨kept, found, holds⟩ := held d (chunks ▸ List.mem_cons_of_mem c left)
    rw [turning.lodged d (chunks ▸ List.mem_cons_of_mem c left)] at found
    cases turning.found.symm.trans found
    refine ⟨next, by rw [after.lodged d left]; exact after.found, ?_⟩
    exact ⟨fun k below => by rw [mem, same]; exact holds.bytes k below,
      fun k below => by rw [mem, same]; exact holds.padding k below⟩
  case inside =>
    show ∃ addr b, (s.step (.release number)).wrBlock = some addr ∧
      (s.step (.release number)).block addr = some b ∧ _
    rw [step]
    exact ⟨addr, next, after.wr, after.found, nofun⟩
  case apart => exact fun _ _ _ _ _ => nofun

theorem Turning.extents_eq (turning : s.Turning addr b r a w) :
    a + extents (s.chunksOf addr) = w := by
  have all : s.chunksOf addr = s.vframeChunkList :=
    List.filter_eq_self.mpr fun c mem => decide_eq_true (turning.lodged c mem)
  rw [all]
  exact turning.ring.chain.extents_eq

theorem Turning.space (turning : s.Turning addr b r a w) :
    vframeBlockSpace b + extents (s.chunksOf addr) + (a - r) = b.size := by
  have space := turning.ring.space turning.started
  have end_ := turning.extents_eq
  have behind := turning.ring.behind
  omega

theorem Turning.accounts_iff {s : Noted} {call : InputCall}
    (turning : (s.step call).input.Turning addr b r a w) :
    s.Accounts call ↔ a = r := by
  have space := turning.space
  have behind := turning.ring.behind
  constructor
  · rintro ⟨other, block, writes, found, sum⟩
    cases Option.some.inj (turning.wr.symm.trans writes)
    cases turning.found.symm.trans found
    omega
  · exact fun same => ⟨addr, b, turning.wr, turning.found, by omega⟩

end Input

open Input

structure Noted.Going (s : Noted) : Prop where
  phase : s.input.Unwritten ∨ ∃ addr b r a w, s.input.Turning addr b r a w
  held : ∀ c ∈ s.input.vframeChunkList, ∃ b, s.input.block c.block = some b ∧ b.Holds (s.frame c.addr) c

theorem Input.Unwritten.refuses {s : Input} (unwritten : s.Unwritten) {number : Nat}
    (accepted : (InputCall.release number).Accepted s) : False := by
  replace accepted : s.vframeChunkList.head?.map Chunk.addr = some number := accepted
  rw [unwritten.empty] at accepted
  cases accepted

theorem Noted.Going.step {s : Noted} {call : InputCall} (going : s.Going)
    (accepted : call.Accepted s.input) (served : call.Served s.input) :
    (∃ addr b r a w, (s.step call).input.Turning addr b r a w) ∧
      (call.EndsBefore s.input ↔ s.Stores call) := by
  cases call with
  | add outcome stamp buf count =>
    rcases going.phase with unwritten | ⟨addr, b, r, a, w, turning⟩
    · obtain ⟨addr, b, next, chunk, landing⟩ := unwritten.landing accepted served
      exact ⟨⟨_, _, _, _, _, landing.turning⟩, landing.stores served.1 going.held⟩
    · obtain ⟨next, chunk, landing⟩ := turning.landing accepted
      exact ⟨⟨_, _, _, _, _, landing.turning⟩, landing.stores served.1 going.held⟩
  | release number =>
    rcases going.phase with unwritten | ⟨addr, b, r, a, w, turning⟩
    · exact (unwritten.refuses accepted).elim
    · have stores := turning.release_stores accepted s.frame going.held
      obtain ⟨t, c, next, released, -, after, -⟩ := turning.release accepted
      rw [← step_release released] at after
      exact ⟨⟨_, _, _, _, _, after⟩, iff_of_true trivial stores⟩

def Noted.Level (s : Noted) : Prop :=
  s.input.Unwritten ∨ ∃ addr b a w, s.input.Turning addr b a a w

theorem Noted.Level.step {s : Noted} {call : InputCall} (level : s.Level)
    (accepted : call.Accepted s.input) (served : call.Served s.input) :
    (call.isRelease = false → (s.step call).Level) ∧ (call.isRelease = false ↔ s.Accounts call) := by
  cases call with
  | add outcome stamp buf count =>
    rcases level with unwritten | ⟨addr, b, a, w, turning⟩
    · obtain ⟨addr, b, next, chunk, landing⟩ := unwritten.landing accepted served
      exact ⟨fun _ => Or.inr ⟨_, _, _, _, landing.turning⟩,
        iff_of_true rfl ((Turning.accounts_iff (s := s) landing.turning).mpr rfl)⟩
    · obtain ⟨next, chunk, landing⟩ := turning.landing accepted
      exact ⟨fun _ => Or.inr ⟨_, _, _, _, landing.turning⟩,
        iff_of_true rfl ((Turning.accounts_iff (s := s) landing.turning).mpr rfl)⟩
  | release number =>
    rcases level with unwritten | ⟨addr, b, a, w, turning⟩
    · exact (unwritten.refuses accepted).elim
    · obtain ⟨t, c, next, released, chunks, after, -⟩ := turning.release accepted
      have pads := turning.padded c (chunks ▸ List.mem_cons_self)
      rw [← step_release released] at after
      refine ⟨nofun, iff_of_false nofun fun accounts => ?_⟩
      have level := (Turning.accounts_iff (s := s) after).mp accounts
      unfold Chunk.extent at level
      omega

theorem circular_kept_exactly (s : Input) (start : s.Unwritten) (calls : List InputCall)
    (along : Along Noted.step (fun s call => call.Accepted s.input ∧
      call.Served s.input) ⟨s, fun _ _ => 0⟩
      calls) :
    (Along Noted.step (fun s call => call.EndsBefore s.input) ⟨s, fun _ _ => 0⟩ calls ↔
        Along Noted.step Noted.Stores ⟨s, fun _ _ => 0⟩ calls) ∧
      ((∀ call ∈ calls, call.isRelease = false) ↔
        Along Noted.step Noted.Accounts ⟨s, fun _ _ => 0⟩ calls) := by
  have going : (⟨s, fun _ _ => 0⟩ : Noted).Going := ⟨Or.inl start, fun c mem => by
    replace mem : c ∈ s.vframeChunkList := mem
    rw [start.empty] at mem
    cases mem⟩
  constructor
  · refine along_iff_along Noted.step _ _ _ Noted.Going (fun _ _ going met =>
      (going.step met.1 met.2).2)
      (fun _ _ going met ends => ?_) _ going calls along
    obtain ⟨turning, same⟩ := going.step met.1 met.2
    exact ⟨Or.inr turning, (same.mp ends).held⟩
  · rw [← along_iff_forall Noted.step _ ⟨s, fun _ _ => 0⟩]
    exact along_iff_along Noted.step _ _ _ Noted.Level (fun _ _ level met => (level.step met.1 met.2).2)
      (fun _ _ level met => (level.step met.1 met.2).1) _ (Or.inl start) calls along

theorem Input.Unwritten.prepareBlocks {s : Input} (outcomes : List Outcome) (unwritten : s.Unwritten) :
    (s.prepareBlocks outcomes).Unwritten := by
  induction outcomes generalizing s with
  | nil => exact unwritten
  | cons outcome rest ih =>
    have storage := unwritten.sized.storage
    have lower := unwritten.sized.positive
    have upper := unwritten.sized.upper
    unfold Input.prepareBlocks allocNewBlock initAllocStorage
    by_cases blockStruct : outcome.blockStruct = true
    · rw [blockStruct, Bool.not_true, if_neg Bool.false_ne_true, if_neg (not_not.mpr rfl)]
      by_cases enough : outcome.storage = true
      · rw [if_pos enough]
        refine ih { unwritten with wr := rfl, free := fun addr mem b found => ?_ }
        rcases put_some (s := s) found with ⟨-, rfl⟩ | ⟨other, old⟩
        · exact ⟨⟨unwritten.type, rfl, by dsimp only; omega, by dsimp only; omega⟩, rfl, rfl⟩
        · rcases List.mem_append.mp mem with before | new
          · exact unwritten.free addr (List.mem_of_mem_erase before) b old
          · exact absurd (List.mem_singleton.mp new) other
      · rw [if_neg enough]
        exact unwritten
    · rw [Bool.eq_false_iff.mpr blockStruct, Bool.not_false, if_pos rfl]
      exact { unwritten with }

theorem opened_unwritten (frameWidth frameHeight : Int) (outcomes : Fin 3 → Outcome) :
    (opened false .frameCircular frameWidth frameHeight outcomes).Unwritten := by
  have start : ∀ defaultBlockSize, Sized defaultBlockSize →
      ({ vdecInputInit false with type := .frameCircular, defaultBlockSize } : Input).Unwritten :=
    fun _ sized => ⟨rfl, rfl, rfl, rfl, rfl, nofun, sized⟩
  unfold opened vdecInputPrepareBufs
  rw [if_neg (by decide)]
  dsimp only
  split_ifs
  · exact Unwritten.prepareBlocks _ (start vframeBlockSize4k ⟨by decide, by decide, by decide⟩)
  · exact Unwritten.prepareBlocks _ (start vframeBlockSizeMax ⟨by decide, by decide, by decide⟩)

def round : Noted where
  input := opened false .frameCircular 720 576 fun _ => {}

def through : List InputCall :=
  [.add {} {} ramp 100, .add {} {} ramp 60, .release 0, .add {} {} ramp 30, .release 1]

theorem ramp_served {s : Input} {count : UInt64} (small : count.toNat ≤ 4294967296)
    (finds : s.wrBlock = none → s.FindsRoom count.toNat) : (InputCall.add {} {} ramp count).Served s :=
  ⟨⟨small, fun _ _ => rfl⟩, finds⟩

theorem through_served : Along Noted.step (fun s call => call.Served s.input) round through :=
  ⟨ramp_served (by decide) (by decide +kernel), ramp_served (by decide) (by decide +kernel), trivial,
    ramp_served (by decide) (by decide +kernel), trivial, trivial⟩

theorem round_stores : Along Noted.step Noted.Stores round through := by
  have unwritten := opened_unwritten 720 576 fun _ => {}
  have accepted : Along Noted.step (fun s call => call.Accepted s.input) round through := by
    decide +kernel
  exact (circular_kept_exactly round.input unwritten through (accepted.and through_served)).1.mp
    (by decide +kernel)

def accounted (s : Input) : Bool :=
  s.wrBlock.all fun addr => (s.block addr).all fun b =>
    vframeBlockSpace b + extents (s.chunksOf addr) = b.size

theorem circular_space_short :
    ¬∀ (s : Input) (_ : s.Unwritten) (calls : List InputCall),
      Along Noted.step (fun s call => call.Accepted s.input) ⟨s, fun _ _ => 0⟩ calls →
        Along Noted.step (fun s call => s.Stores call ∧ s.Accounts call) ⟨s, fun _ _ => 0⟩ calls := by
  intro kept
  obtain ⟨-, ⟨-, addr, b, writes, found, sum⟩, -⟩ :=
    kept round.input (opened_unwritten 720 576 fun _ => {}) [.add {} {} ramp 100,
      .release 0] (by decide +kernel)
  have short : accounted ((round.step (.add {} {} ramp 100)).step (.release 0)).input = false := by
    decide +kernel
  have whole : accounted ((round.step (.add {} {} ramp 100)).step (.release 0)).input = true := by
    unfold accounted
    rw [show ((round.step (.add {} {} ramp 100)).step (.release 0)).input.wrBlock =
      some addr from writes,
      Option.all_some,
      show ((round.step (.add {} {} ramp 100)).step (.release 0)).input.block addr = some b from found,
      Option.all_some]
    exact decide_eq_true sum
  exact Bool.false_ne_true (short.symm.trans whole)

end UnionpiTiger.Vdec
