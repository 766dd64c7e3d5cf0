import UnionpiTiger.Amports.Queued
import UnionpiTiger.Lib.Run

set_option autoImplicit false

namespace UnionpiTiger.Amports

open Lib Vdec ThreadrwWriteTask

-- A task, the bytes that threadrw_write has reported as written, and those that task->write took.
structure ByteStream where
  task : ThreadrwWriteTask
  reported : List UInt8 := []
  accepted : List UInt8 := []

inductive StreamAct where
  | write (nonblock : Bool) (buf : UserBuf) (count : UInt64)
  | work (ret : Int)

namespace ByteStream

def step (s : ByteStream) : StreamAct → ByteStream
  | .write nonblock buf count =>
    match s.task.threadrwWriteIn nonblock buf count.toNat with
    | none => s
    | some (task, ret) =>
      { s with task, reported := s.reported ++ (List.range ret.toNat).map buf.byte }
  | .work ret =>
    match s.task.doWriteWorkIn ret with
    | none => s
    | some (task, _) => { s with task, accepted := s.accepted ++ s.task.taken ret }

def held (s : ByteStream) : List UInt8 := s.task.datafifo.flatMap s.task.offered

structure Right (s : ByteStream) : Prop where
  owned : s.task.Owned
  order : s.accepted <+: s.reported
  held : s32 (s.task.dataOffset - s.task.passedDataLen) = s.held.length

def Readable (s : ByteStream) : StreamAct → Prop
  | .write _ buf count => min (s.task.room s.task.freefifo) (u32 count.toNat) ≤ buf.readable
  | .work _ => True

structure Started (task : ThreadrwWriteTask) : Prop where
  owned : task.Owned
  sized : task.Sized
  empty : task.datafifo = []
  errors : task.errors = 0
  totals : task.dataOffset = 0 ∧ task.passedDataLen = 0

structure Sound (s : ByteStream) : Prop where
  owned : s.task.Owned
  sized : s.task.Sized
  errors : s.task.errors ≤ 0
  bounds : ∀ index, .buf index ∈ s.task.datafifo → (s.task.buf index).Bounded
  order : s.reported = s.accepted ++ s.held
  totals : 4294967296 ∣ s.task.dataOffset - s.task.passedDataLen - s.held.length

theorem Sound.started {task : ThreadrwWriteTask} (started : Started task) : Sound { task } where
  owned := started.owned
  sized := started.sized
  errors := Int.le_of_eq started.errors
  bounds index mem := by
    rw [started.empty] at mem
    cases mem
  order := by
    unfold held
    rw [started.empty]
    rfl
  totals := by
    unfold held
    rw [started.empty, started.totals.1, started.totals.2]
    exact Int.dvd_zero _

theorem flatMap_length_le {task : ThreadrwWriteTask} {fifo : List Pointer}
    (bounds : ∀ index, .buf index ∈ fifo → (task.buf index).Bounded) :
    (fifo.flatMap task.offered).length ≤ task.room fifo := by
  induction fifo with
  | nil => exact Nat.le_refl _
  | cons pointer rest ih =>
    have tail := ih fun index mem => bounds index (List.mem_cons_of_mem _ mem)
    have split : task.room (pointer :: rest) = task.sizeOf pointer + task.room rest := List.sum_cons
    rw [List.flatMap_cons, List.length_append, split]
    refine Nat.add_le_add ?_ tail
    cases pointer with
    | user address => exact Nat.zero_le _
    | buf index =>
      obtain ⟨size, off, inside⟩ := bounds index List.mem_cons_self
      rw [offered_length, sizeOf_buf]
      omega

theorem Sound.right {s : ByteStream} (sound : s.Sound) : s.Right where
  owned := sound.owned
  order := ⟨s.held, sound.order.symm⟩
  held := by
    have short := flatMap_length_le sound.bounds
    have sum := sound.owned.room
    have small := sound.sized.small
    have totals := sound.totals
    unfold held at *
    unfold s32
    omega

variable {s : ByteStream}

theorem held_queued {t : ThreadrwWriteTask} {buf : UserBuf} {off : Nat} {front : List Pointer}
    (owned : s.task.Owned) (queued : Queued s.task t buf off front) :
    t.datafifo.flatMap t.offered = s.held ++ (List.range off).map buf.byte := by
  rw [queued.data, List.flatMap_append, queued.held]
  refine congrArg (· ++ _) (flatMap_offered_congr fun index mem => queued.others index fun here => ?_)
  refine (List.nodup_append.mp owned.nodup).2.2 _ ?_ _ mem rfl
  rw [queued.free]
  exact List.mem_append_left _ here

theorem Sound.queued {t : ThreadrwWriteTask} {buf : UserBuf} {off : Nat} {front : List Pointer}
    (sound : s.Sound) (queued : Queued s.task t buf off front) (bufferedDataSize dataOffset : Int)
    (total : 4294967296 ∣ dataOffset - (s.task.dataOffset + off)) :
    Sound { s with
      task := { t with bufferedDataSize, dataOffset }
      reported := s.reported ++ (List.range off).map buf.byte } := by
  have held := held_queued sound.owned queued
  have rest := queued.rest
  constructor
  case owned => exact queued.owned sound.owned
  case sized =>
    have same : t.pointers = s.task.pointers ∧ t.bufsNum = s.task.bufsNum ∧
        t.capacity = s.task.capacity := by
      rw [rest]
      exact ⟨rfl, rfl, rfl⟩
    refine ⟨fun index => ?_, ?_, ?_⟩
    · exact queued.sizes index ▸ sound.sized.positive index
    · show t.room t.pointers < _
      rw [same.1, queued.room_eq]
      exact sound.sized.small
    · show t.bufsNum ≤ t.capacity
      rw [same.2.1, same.2.2]
      exact sound.sized.capacity
  case errors =>
    have same : t.errors = s.task.errors := by rw [rest]
    exact same ▸ sound.errors
  case bounds =>
    intro index mem
    by_cases here : .buf index ∈ front
    · exact queued.bounds index here
    · replace mem : .buf index ∈ t.datafifo := mem
      rw [queued.data] at mem
      have old := sound.bounds index ((List.mem_append.mp mem).resolve_right here)
      rw [← queued.others index here] at old
      exact old
  case order =>
    show s.reported ++ _ = s.accepted ++ t.datafifo.flatMap t.offered
    rw [held, sound.order, List.append_assoc]
  case totals =>
    have passed : t.passedDataLen = s.task.passedDataLen := by rw [rest]
    have before := sound.totals
    show 4294967296 ∣ dataOffset - t.passedDataLen - (t.datafifo.flatMap t.offered).length
    rw [held, passed, List.length_append, List.length_map, List.length_range]
    omega

theorem Sound.write (sound : s.Sound) (nonblock : Bool) (buf : UserBuf) (count : UInt64) :
    (s.Readable (.write nonblock buf count) → (s.step (.write nonblock buf count)).Sound) ∧
      ((s.step (.write nonblock buf count)).Right → s.Readable (.write nonblock buf count)) := by
  have ends := writeLoop_ends sound.owned sound.sized sound.errors nonblock buf count.toNat
    (s.task.freefifo.length + 11) s.task 0 0 count.toNat 0 [] (queued_none s.task buf)
      (Or.inr (Int.le_refl 0))
    (Nat.zero_add _) (by decide) (by omega)
  rw [Nat.zero_add] at ends
  unfold step threadrwWriteIn Readable
  dsimp only
  revert ends
  rw [Nat.cast_zero]
  generalize writeLoop nonblock buf count.toNat (s.task.freefifo.length + 11) s.task 0 0
    count.toNat 0 = result
  intro ends
  cases ends with
  | queued t ret off front queued some_ read =>
    rw [Option.bind_eq_bind, Option.bind_some]
    dsimp only
    refine ⟨fun _ => ?_, fun _ => read⟩
    by_cases positive : (off : Int) > 0
    · rw [if_pos positive]
      have same : t.dataOffset = s.task.dataOffset := by rw [queued.rest]
      refine sound.queued queued _ _ ?_
      rw [same]
      unfold s32
      omega
    · have none_ : off = 0 := by omega
      have back : ret.toNat = 0 := by omega
      have same : t.dataOffset = s.task.dataOffset := by rw [queued.rest]
      rw [if_neg positive]
      have kept := sound.queued queued t.bufferedDataSize t.dataOffset (by rw [same]; omega)
      rw [none_] at kept
      show Sound { s with task := t, reported := s.reported ++ (List.range ret.toNat).map buf.byte }
      rw [back]
      exact kept
  | failed t ret off address mem unread =>
    rw [Option.bind_eq_bind, Option.bind_some]
    dsimp only
    refine ⟨fun read => absurd read (by omega), fun right => ?_⟩
    have lost := right.owned.is_buf (.user address)
    split_ifs at lost
    all_goals
      obtain ⟨index, same⟩ := lost (List.mem_append_left _ mem)
      cases same

theorem offered_advanced {task : ThreadrwWriteTask} {index n : Nat} (bounded : (task.buf index).Bounded)
    (part : n ≤ (task.buf index).dataSize.toNat) :
    task.offered (.buf index) = (task.offered (.buf index)).take n ++
      ({ task with buf := Function.update task.buf index { task.buf index with
          dataSize := (task.buf index).dataSize - n
          writeOff := (task.buf index).writeOff + n } } : ThreadrwWriteTask).offered (.buf index) := by
  obtain ⟨size, off, -⟩ := bounded
  refine Eq.trans (List.take_append_drop n _).symm (congrArg (List.take n _ ++ ·) ?_)
  have split : (task.buf index).dataSize.toNat = n + ((task.buf index).dataSize - n).toNat := by omega
  simp only [offered, Function.update_self]
  rw [split, List.range_add, List.map_append, List.drop_append_of_le_length (by simp),
    List.drop_of_length_le (by simp), List.nil_append, List.map_map]
  refine List.map_congr_left fun i _ => congrArg (task.buf index).vbuffer ?_
  show (task.buf index).writeOff.toNat + (n + i) = _
  omega

theorem Sound.passed {t : ThreadrwWriteTask} {out : List UInt8} (sound : s.Sound) (owned : t.Owned)
    (sizes : ∀ index, (t.buf index).bufferSize = (s.task.buf index).bufferSize)
    (bufsNum : t.bufsNum = s.task.bufsNum) (capacity : t.capacity = s.task.capacity)
    (errors : t.errors ≤ 0) (bounds : ∀ index, .buf index ∈ t.datafifo → (t.buf index).Bounded)
    (held : s.held = out ++ t.datafifo.flatMap t.offered)
    (dataOffset : t.dataOffset = s.task.dataOffset)
    (passed : 4294967296 ∣ t.passedDataLen - (s.task.passedDataLen + out.length)) :
    Sound { s with task := t, accepted := s.accepted ++ out } := by
  constructor
  case owned => exact owned
  case sized =>
    have pointers : t.pointers = s.task.pointers := by
      unfold pointers
      rw [bufsNum]
    refine ⟨fun index => sizes index ▸ sound.sized.positive index, ?_, ?_⟩
    · have same : t.room t.pointers = s.task.room s.task.pointers := by
        rw [pointers]
        refine congrArg List.sum (List.map_congr_left fun pointer _ => ?_)
        cases pointer with
        | buf index => exact congrArg Int.toNat (sizes index)
        | user address => rfl
      exact same ▸ sound.sized.small
    · show t.bufsNum ≤ t.capacity
      rw [bufsNum, capacity]
      exact sound.sized.capacity
  case errors => exact errors
  case bounds => exact bounds
  case order =>
    show s.reported = s.accepted ++ out ++ t.datafifo.flatMap t.offered
    rw [sound.order, held, List.append_assoc]
  case totals =>
    have before := sound.totals
    rw [held, List.length_append] at before
    show 4294967296 ∣ t.dataOffset - t.passedDataLen - (t.datafifo.flatMap t.offered).length
    rw [dataOffset]
    omega

theorem Sound.work (sound : s.Sound) (ret : Int) : (s.step (.work ret)).Sound := by
  have owned := sound.owned
  unfold step doWriteWorkIn taken
  dsimp only
  cases first : s.task.datafifo with
  | nil =>
    dsimp only
    rw [List.append_nil]
    exact sound
  | cons pointer rest =>
    obtain ⟨index, rfl⟩ := owned.is_buf pointer
      (List.mem_append_right _ (first ▸ List.mem_cons_self))
    have bounded := sound.bounds index (first ▸ List.mem_cons_self)
    have fresh : .buf index ∉ rest := by
      have nodup := (List.nodup_append.mp owned.nodup).2.1
      rw [first] at nodup
      exact (List.nodup_cons.mp nodup).1
    have others : ∀ other, .buf other ∈ rest → other ≠ index := by
      rintro other mem rfl
      exact fresh mem
    have held : s.held = s.task.offered (.buf index) ++ rest.flatMap s.task.offered := by
      unfold ByteStream.held
      rw [first, List.flatMap_cons]
    have length := offered_length s.task index
    dsimp only
    by_cases again : ret = -eAgain
    · rw [if_pos again, again]
      show Sound { s with accepted := s.accepted ++ [] }
      rw [List.append_nil]
      exact sound
    · rw [if_neg again]
      by_cases all : ret ≥ (s.task.buf index).dataSize
      · have whole : (s.task.offered (.buf index)).take ret.toNat = s.task.offered (.buf index) :=
          List.take_of_length_le (by omega)
        rw [if_pos all]
        dsimp only
        rw [whole]
        refine sound.passed ?_ ?_ rfl rfl sound.errors ?_ ?_ rfl ?_
        · have sum := owned.length
          have enough := sound.sized.capacity
          rw [first, List.length_cons] at sum
          show (kfifoPut s.task.capacity s.task.freefifo _ ++ rest).Perm s.task.pointers
          rw [kfifoPut_room (by omega), List.append_assoc]
          have same : s.task.freefifo ++ s.task.datafifo = s.task.freefifo ++ .buf index :: rest := by
            rw [first]
          exact same ▸ owned
        · intro other
          by_cases here : other = index
          · simp only [here, Function.update_self]
          · simp only [Function.update_of_ne here]
        · intro other mem
          simp only [Function.update_of_ne (others other mem)]
          exact sound.bounds other (first ▸ List.mem_cons_of_mem _ mem)
        · rw [held]
          refine congrArg (_ ++ ·) (flatMap_offered_congr fun other mem => ?_).symm
          exact Function.update_of_ne (others other mem) _ _
        · have size := bounded.size
          rw [length]
          dsimp only
          unfold s32
          split_ifs <;> omega
      · rw [if_neg all]
        by_cases some_ : ret > 0
        · have listed : s.task.sizeOf (.buf index) ≤ s.task.room s.task.pointers :=
            le_room (owned.mem_iff.mp (List.mem_append_right _ (first ▸ List.mem_cons_self)))
          have small := sound.sized.small
          obtain ⟨size, off, inside⟩ := bounded
          rw [sizeOf_buf] at listed
          have left : s32 ((s.task.buf index).dataSize - ret) =
              (s.task.buf index).dataSize - ret.toNat := by
            rw [s32_eq (by omega) (by omega)]
            omega
          have next : s32 ((s.task.buf index).writeOff + ret) =
              (s.task.buf index).writeOff + ret.toNat := by
            rw [s32_eq (by omega) (by omega)]
            omega
          have parts := offered_advanced (n := ret.toNat)
            (sound.bounds index (first ▸ List.mem_cons_self))
            (by omega)
          rw [if_pos some_, left, next]
          refine sound.passed ?_ ?_ rfl rfl sound.errors ?_ ?_ rfl ?_
          · exact first ▸ owned
          · intro other
            by_cases here : other = index
            · simp only [here, Function.update_self]
            · simp only [Function.update_of_ne here]
          · intro other mem
            rcases List.mem_cons.mp mem with same | later
            · rw [Pointer.buf.inj same]
              simp only [Function.update_self]
              exact ⟨by dsimp only; omega, by dsimp only; omega, by dsimp only; omega⟩
            · simp only [Function.update_of_ne (others other later)]
              exact sound.bounds other (first ▸ List.mem_cons_of_mem _ later)
          · rw [held, List.flatMap_cons, ← List.append_assoc]
            refine congrArg₂ (· ++ ·) parts (flatMap_offered_congr fun other mem => ?_).symm
            exact Function.update_of_ne (others other mem) _ _
          · have short : ((s.task.offered (.buf index)).take ret.toNat).length = ret.toNat := by
              rw [List.length_take, length]
              omega
            rw [short]
            unfold s32
            dsimp only
            omega
        · have none_ : ret.toNat = 0 := by omega
          rw [if_neg some_]
          dsimp only
          rw [none_, List.take_zero]
          refine sound.passed ?_ (fun _ => rfl) rfl rfl (Int.not_lt.mp some_) ?_ ?_ rfl ?_
          · exact first ▸ owned
          · exact fun other mem => sound.bounds other (first ▸ mem)
          · exact held
          · simp

theorem stream_kept_exactly (task : ThreadrwWriteTask) (started : Started task)
    (acts : List StreamAct) :
    Along step Readable { task } acts ↔ ∀ first, first <+: acts → (run step { task } first).Right :=
  along_iff_always step Readable Sound Right (fun _ sound => sound.right)
    (fun _ act sound readable => match act with
      | .write nonblock buf count => (sound.write nonblock buf count).1 readable
      | .work ret => sound.work ret)
    (fun _ act sound right => match act with
      | .write nonblock buf count => (sound.write nonblock buf count).2 right
      | .work _ => trivial)
    { task } (Sound.started started) acts

-- What threadrw_alloc leaves when every block has been allocated.
def allocated (num : Nat) (blockSize : Int) : ThreadrwWriteTask where
  buf _ := { vbuffer := fun _ => 0, writeOff := 0, dataSize := 0, bufferSize := blockSize }
  bufsNum := num
  capacity := num
  datafifo := []
  freefifo := (List.range num).map .buf
  errors := 0
  bufferedDataSize := 0
  passedDataLen := 0
  dataOffset := 0

theorem allocated_started (num : Nat) (blockSize : Int) (positive : 0 ≤ blockSize)
    (small : num * blockSize.toNat < 2147483648) : Started (allocated num blockSize) where
  owned := by
    show ((List.range num).map Pointer.buf ++ []).Perm ((List.range num).map Pointer.buf)
    rw [List.append_nil]
  sized := by
    refine ⟨fun _ => positive, ?_, Nat.le_refl num⟩
    have sum : (allocated num blockSize).room (allocated num blockSize).pointers =
        num * blockSize.toNat := by
      show (((List.range num).map Pointer.buf).map _).sum = _
      rw [List.map_map]
      refine (congrArg List.sum (List.map_congr_left (g := fun _ => blockSize.toNat) fun _ _ =>
        rfl)).trans ?_
      rw [List.map_const', List.sum_replicate, List.length_range]
      rfl
    rw [sum]
    exact small
  empty := rfl
  errors := rfl
  totals := ⟨rfl, rfl⟩

def frame (readable : Nat) : UserBuf := { byte := fun i => UInt8.ofNat i, readable }

theorem frame_streamed :
    (run step { task := allocated 20 4096 } [.write false (frame 5000) 5000, .work 4096,
      .work 500]).Right :=
  (stream_kept_exactly (allocated 20 4096) (allocated_started 20 4096 (by decide) (by decide))
    [.write false (frame 5000) 5000, .work 4096, .work 500]).mp ⟨by
      show min _ (u32 5000) ≤ 5000
      exact Nat.min_le_right _ _, trivial, trivial, trivial⟩ _ (List.prefix_refl _)

theorem address_put_back :
    ¬∀ (task : ThreadrwWriteTask) (_ : Started task) (acts : List StreamAct), ∀ first, first <+: acts →
      (run step { task } first).Right := by
  intro right
  have started := allocated_started 20 4096 (by decide) (by decide)
  have read := ((Sound.started started).write false (frame 0) 1).2
    (right _ started [.write false (frame 0) 1] _ (List.prefix_refl _))
  have unread : ¬min ((allocated 20 4096).room (allocated 20 4096).freefifo)
      (u32 (1 : UInt64).toNat) ≤ 0 := by
    decide +kernel
  exact unread read

end ByteStream

end UnionpiTiger.Amports
