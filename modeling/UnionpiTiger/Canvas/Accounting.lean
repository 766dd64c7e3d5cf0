import UnionpiTiger.Canvas.Groups
import UnionpiTiger.Lib.Run
import UnionpiTiger.Lib.Numbered

set_option autoImplicit false

namespace UnionpiTiger.Canvas

open Lib

structure Table where
  id : Nat
  type : CanvasMapType
  tab : List Nat

def Table.indices (table : Table) : List Nat := table.tab.flatMap table.type.indices

structure Before where
  table : Nat
  canvasMap : Finset Nat
  freeNum : Int

structure CanvasUse where
  pool : CanvasPool
  singles : List Nat := []
  tables : List Table := []
  nextTable : Nat := 0
  before : Option Before := none

inductive CanvasCall where
  | alloc (owner : String)
  | free (index : Nat)
  | allocTable (owner : String) (size : Nat) (type : CanvasMapType)
  | freeTable (id : Nat)

namespace CanvasUse

def held (s : CanvasUse) : List Nat := s.singles ++ s.tables.flatMap Table.indices

def step (s : CanvasUse) : CanvasCall → CanvasUse
  | .alloc owner =>
    match s.pool.mapAllocCanvas owner with
    | (pool, index) =>
      { s with pool, singles := if 0 ≤ index then s.singles ++ [index.toNat]
        else s.singles, before := none }
  | .free index =>
    { s with pool := s.pool.mapFreeCanvas index, singles := s.singles.erase index, before := none }
  | .allocTable owner size type =>
    match s.pool.allocCanvasTable owner size type with
    | (pool, none) => { s with pool, before := none }
    | (pool, some tab) => { s with
        pool
        tables := s.tables ++ [{ id := s.nextTable, type, tab }]
        nextTable := s.nextTable + 1
        before := some { table := s.nextTable, canvasMap := s.pool.canvasMap, freeNum := s.pool.freeNum } }
  | .freeTable id =>
    match s.tables.find? fun t => t.id = id with
    | none => s
    | some table => { s with
        pool := s.pool.freeCanvasTable table.tab
        tables := s.tables.filter fun t => t.id ≠ id
        before := none }

def Allowed (s : CanvasUse) : CanvasCall → Prop
  | .free index => index ∈ s.singles
  | .freeTable id => ∃ table ∈ s.tables, table.id = id
  | _ => True

def Clean (s : CanvasUse) : CanvasCall → Prop
  | .allocTable owner size type => type = .type4 ∨
    (CanvasPool.fillTable owner type size s.pool).2.1 = [] ∨
      (CanvasPool.fillTable owner type size s.pool).2.2 = true
  | .freeTable id => ∀ table ∈ s.tables, table.id = id → table.type = .type4 ∨ table.tab = []
  | _ => True

def Restored (s : CanvasUse) : CanvasCall → Prop
  | .allocTable owner size type => (s.pool.allocCanvasTable owner size type).2 = none →
    (s.step (.allocTable owner size type)).pool.canvasMap = s.pool.canvasMap ∧
      (s.step (.allocTable owner size type)).pool.freeNum = s.pool.freeNum
  | .freeTable id => ∀ before, s.before = some before → before.table = id →
    (s.step (.freeTable id)).pool.canvasMap = before.canvasMap ∧
      (s.step (.freeTable id)).pool.freeNum = before.freeNum
  | _ => True

structure Accounted (s : CanvasUse) (call : CanvasCall) : Prop where
  once : (s.step call).held.Nodup
  zero : 0 ∉ (s.step call).held ∧ 0 ∉ (s.step call).pool.freed
  count : (s.step call).pool.freeNum + (s.step call).pool.canvasMap.card =
    s.pool.freeNum + s.pool.canvasMap.card
  restored : s.Restored call

structure Sound (s : CanvasUse) : Prop where
  ready : s.pool.Ready
  some_ : 0 < s.pool.canvasMax
  once : s.held.Nodup
  mapped : ∀ c ∈ s.held, c ∈ s.pool.canvasMap ∧ 1 ≤ c ∧ c < s.pool.canvasMax
  unfreed : 0 ∉ s.pool.freed
  packs : ∀ table ∈ s.tables, ∀ canvas ∈ table.tab, table.type.Packs canvas
  numbered : s.tables.Pairwise fun t u => t.id ≠ u.id
  fewer : ∀ table ∈ s.tables, table.id < s.nextTable
  before : ∀ before, s.before = some before → ∃ table ∈ s.tables, table.id = before.table ∧
    (∀ c ∈ table.indices, c ∉ before.canvasMap) ∧
    (∀ c, c ∈ s.pool.canvasMap ↔ c ∈ before.canvasMap ∨ c ∈ table.indices) ∧
    s.pool.freeNum = before.freeNum - table.indices.length

end CanvasUse

namespace CanvasPool

variable {p q : CanvasPool} {got freed : List Nat}

theorem Took.card (took : Took p q got) : q.canvasMap.card = p.canvasMap.card + got.length := by
  have union : q.canvasMap = p.canvasMap ∪ got.toFinset := by
    ext c
    rw [took.map, Finset.mem_union, List.mem_toFinset]
  have apart : Disjoint p.canvasMap got.toFinset :=
    Finset.disjoint_left.mpr fun c old new => (took.fresh c (List.mem_toFinset.mp new)).1 old
  rw [union, Finset.card_union_of_disjoint apart, List.toFinset_card_of_nodup took.nodup]

theorem Took.count (took : Took p q got) :
    q.freeNum + q.canvasMap.card = p.freeNum + p.canvasMap.card := by
  have card := took.card
  have num := took.num
  omega

theorem Took.same (took : Took p q []) : q.canvasMap = p.canvasMap ∧ q.freeNum = p.freeNum := by
  refine ⟨Finset.ext fun c => ?_, ?_⟩
  · rw [took.map]
    exact or_iff_left (List.not_mem_nil)
  · have num := took.num
    rw [List.length_nil] at num
    omega

theorem Gave.count (gave : Gave q p freed) (nodup : freed.Nodup)
    (mapped : ∀ c ∈ freed, c ∈ q.canvasMap) :
    p.freeNum + p.canvasMap.card = q.freeNum + q.canvasMap.card := by
  have left : p.canvasMap = q.canvasMap \ freed.toFinset := by
    ext c
    rw [gave.map, Finset.mem_sdiff, List.mem_toFinset]
  have within : freed.toFinset ⊆ q.canvasMap := fun c mem => mapped c (List.mem_toFinset.mp mem)
  have card := Finset.card_sdiff_add_card_eq_card within
  rw [← left, List.toFinset_card_of_nodup nodup] at card
  have num := gave.num
  omega

end CanvasPool

namespace CanvasUse

open CanvasPool

variable {s t : CanvasUse} {q : CanvasPool} {got : List Nat}

theorem Sound.accounted {call : CanvasCall} (sound : (s.step call).Sound)
    (count : (s.step call).pool.freeNum + (s.step call).pool.canvasMap.card =
      s.pool.freeNum + s.pool.canvasMap.card) (restored : s.Restored call) : s.Accounted call where
  once := sound.once
  zero := ⟨fun mem => Nat.not_succ_le_zero 0 (sound.mapped 0 mem).2.1, sound.unfreed⟩
  count := count
  restored := restored

theorem Sound.take (sound : s.Sound) (took : Took s.pool q got) :
    (s.held ++ got).Nodup ∧ ∀ c ∈ s.held ++ got, c ∈ q.canvasMap ∧ 1 ≤ c ∧ c < q.canvasMax := by
  constructor
  · refine List.nodup_append.mpr ⟨sound.once, took.nodup, ?_⟩
    rintro c mem d other rfl
    exact (took.fresh c other).1 (sound.mapped c mem).1
  · intro c mem
    rw [took.map, took.max]
    rcases List.mem_append.mp mem with old | new
    · exact ⟨Or.inl (sound.mapped c old).1, (sound.mapped c old).2⟩
    · exact ⟨Or.inr new, (took.fresh c new).2⟩

theorem Sound.singles (sound : s.Sound) (took : Took s.pool q got) :
    Sound { s with pool := q, singles := s.singles ++ got, before := none } := by
  obtain ⟨nodup, mapped⟩ := sound.take took
  have perm : (s.singles ++ got ++ s.tables.flatMap Table.indices).Perm (s.held ++ got) := by
    unfold held
    rw [List.append_assoc, List.append_assoc]
    exact List.Perm.append_left _ List.perm_append_comm
  exact {
    ready := took.ready sound.ready
    some_ := took.max ▸ sound.some_
    once := perm.nodup_iff.mpr nodup
    mapped := fun c mem => mapped c (perm.mem_iff.mp mem)
    unfreed := fun mem => sound.unfreed (took.freed.mp mem)
    packs := sound.packs
    numbered := sound.numbered
    fewer := sound.fewer
    before := nofun }

theorem Sound.alloc (sound : s.Sound) (owner : String) :
    (s.step (.alloc owner)).Sound ∧ s.Accounted (.alloc owner) := by
  have next : ∃ q got, Took s.pool q got ∧
      s.step (.alloc owner) = { s with pool := q, singles := s.singles ++ got, before := none } := by
    rcases mapAllocCanvas_took sound.ready owner with fails | ⟨q, index, done, took⟩
    · refine ⟨s.pool, [], Took.none sound.ready.next, ?_⟩
      simp only [step, fails, List.append_nil]
      rfl
    · refine ⟨q, [index], took, ?_⟩
      simp only [step, done, Int.natCast_nonneg, if_true, Int.toNat_natCast]
  obtain ⟨q, got, took, next⟩ := next
  have after := sound.singles took
  rw [← next] at after
  refine ⟨after, after.accounted ?_ trivial⟩
  rw [next]
  exact took.count

theorem Sound.give (sound : s.Sound) {freed rest : List Nat} (perm : s.held.Perm (freed ++ rest)) :
    Gave s.pool (freed.foldl mapFreeCanvas s.pool) freed ∧ freed.Nodup ∧
      (∀ c ∈ freed, c ∈ s.pool.canvasMap) ∧
      rest.Nodup ∧ ∀ c ∈ rest, c ∈ (freed.foldl mapFreeCanvas s.pool).canvasMap ∧ 1 ≤ c ∧
        c < s.pool.canvasMax := by
  obtain ⟨nodup, later, apart⟩ := List.nodup_append.mp (perm.nodup_iff.mp sound.once)
  have mapped : ∀ c ∈ freed ++ rest, c ∈ s.pool.canvasMap ∧ 1 ≤ c ∧ c < s.pool.canvasMax :=
    fun c mem => sound.mapped c (perm.mem_iff.mpr mem)
  have gave := foldl_gave nodup fun c mem => (mapped c (List.mem_append_left _ mem)).2
  refine ⟨gave, nodup, fun c mem => (mapped c (List.mem_append_left _ mem)).1, later, fun c mem => ?_⟩
  obtain ⟨here, valid⟩ := mapped c (List.mem_append_right _ mem)
  exact ⟨(gave.map c).mpr ⟨here, fun other => apart c other c mem rfl⟩, valid⟩

theorem Sound.free (sound : s.Sound) {index : Nat} (holds : index ∈ s.singles) :
    (s.step (.free index)).Sound ∧ s.Accounted (.free index) := by
  have perm : s.held.Perm ([index] ++ (s.singles.erase index ++ s.tables.flatMap Table.indices)) :=
    List.Perm.append_right _ (List.perm_cons_erase holds)
  obtain ⟨gave, nodup, mapped, later, left⟩ := sound.give perm
  have after : (s.step (.free index)).Sound := {
    ready := ⟨gave.next ▸ sound.ready.next, gave.max ▸ sound.ready.bytes⟩
    some_ := gave.max ▸ sound.some_
    once := later
    mapped := fun c mem => gave.max ▸ left c mem
    unfreed := fun mem => sound.unfreed (gave.freed.mp mem)
    packs := sound.packs
    numbered := sound.numbered
    fewer := sound.fewer
    before := nofun }
  exact ⟨after, after.accounted (gave.count nodup mapped) trivial⟩

theorem mem_freed {p : CanvasPool} {freed : List Nat} (some_ : 0 < p.canvasMax) (mem : 0 ∈ freed) :
    0 ∈ (freed.foldl mapFreeCanvas p).freed := by
  rw [foldl_freed]
  exact List.mem_append_right _ (List.mem_filter.mpr ⟨mem, decide_eq_true some_⟩)

theorem Sound.addTable (sound : s.Sound) {tab : List Nat} {type : CanvasMapType}
    (took : Took s.pool q (tab.flatMap type.indices)) (packs : ∀ canvas ∈ tab, type.Packs canvas) :
    Sound { s with
      pool := q
      tables := s.tables ++ [{ id := s.nextTable, type, tab }]
      nextTable := s.nextTable + 1
      before := some { table := s.nextTable, canvasMap := s.pool.canvasMap, freeNum := s.pool.freeNum } } := by
  obtain ⟨nodup, mapped⟩ := sound.take took
  have same : s.singles ++ (s.tables ++ [({ id := s.nextTable, type, tab } : Table)]).flatMap
      Table.indices =
      s.held ++ tab.flatMap type.indices := by
    unfold held
    rw [List.flatMap_append, List.flatMap_singleton, List.append_assoc]
    rfl
  constructor
  case ready => exact took.ready sound.ready
  case some_ => exact took.max ▸ sound.some_
  case once =>
    show (s.singles ++ (s.tables ++ [_]).flatMap Table.indices).Nodup
    rw [same]
    exact nodup
  case mapped =>
    intro c mem
    replace mem : c ∈ s.singles ++ (s.tables ++ [_]).flatMap Table.indices := mem
    rw [same] at mem
    exact mapped c mem
  case unfreed => exact fun mem => sound.unfreed (took.freed.mp mem)
  case packs =>
    intro table mem
    rcases List.mem_append.mp mem with old | new
    · exact sound.packs table old
    · rw [List.mem_singleton.mp new]
      exact packs
  case numbered =>
    refine List.pairwise_append.mpr ⟨sound.numbered, List.pairwise_singleton _ _,
      fun table mem other new => ?_⟩
    rw [List.mem_singleton.mp new]
    exact Nat.ne_of_lt (sound.fewer table mem)
  case fewer =>
    intro table mem
    rcases List.mem_append.mp mem with old | new
    · exact Nat.lt_succ_of_lt (sound.fewer table old)
    · rw [List.mem_singleton.mp new]
      exact Nat.lt_succ_self _
  case before =>
    rintro before ⟨⟩
    exact ⟨_, List.mem_append_right _ (List.mem_singleton_self _), rfl,
      fun c mem => (took.fresh c mem).1,
      took.map, took.num⟩

theorem Sound.allocTable (sound : s.Sound) (owner : String) (size : Nat) (type : CanvasMapType) :
    (s.Clean (.allocTable owner size type) →
      (s.step (.allocTable owner size type)).Sound ∧ s.Accounted (.allocTable owner size type)) ∧
      (s.Accounted (.allocTable owner size type) → s.Clean (.allocTable owner size type)) := by
  obtain ⟨took, packs⟩ := fillTable_took sound.ready owner type size
  cases all : (fillTable owner type size s.pool).2.2 with
  | true =>
    refine ⟨fun _ => ?_, fun _ => Or.inr (Or.inr all)⟩
    have moved := took.moved (n := if s.pool.nextAllocedIndex + 1 ≥
      (fillTable owner type size s.pool).1.canvasMax
      then 1 else s.pool.nextAllocedIndex + 1) (by split_ifs <;> omega)
    have done : s.pool.allocCanvasTable owner size type = ({ (fillTable owner type size s.pool).1 with
        nextAllocedIndex := if s.pool.nextAllocedIndex + 1 ≥
          (fillTable owner type size s.pool).1.canvasMax
          then 1 else s.pool.nextAllocedIndex + 1 }, some (fillTable owner type size s.pool).2.1) := by
      unfold allocCanvasTable
      dsimp only
      rw [all, if_pos rfl]
    have next : (s.step (.allocTable owner size type)).Sound := by
      simp only [step, done]
      exact sound.addTable moved packs
    refine ⟨next, next.accounted ?_ fun fails => ?_⟩
    · simp only [step, done]
      exact moved.count
    · rw [done] at fails
      cases fails
  | false =>
    have done : s.pool.allocCanvasTable owner size type =
        (if (fillTable owner type size s.pool).2.1 ≠ [] then
          (fillTable owner type size s.pool).1.freeCanvasTable (fillTable owner type size s.pool).2.1
        else (fillTable owner type size s.pool).1, none) := by
      unfold allocCanvasTable
      dsimp only
      rw [all, if_neg Bool.false_ne_true]
    have undone : ∀ r, Took s.pool r [] → s.step (.allocTable owner size type) =
        { s with pool := r, before := none } → (s.step (.allocTable owner size type)).Sound ∧
          s.Accounted (.allocTable owner size type) := by
      intro r back next
      have after := sound.singles back
      rw [List.append_nil, ← next] at after
      refine ⟨after, after.accounted ?_ fun _ => ?_⟩
      · rw [next]
        exact back.count
      · rw [next]
        exact back.same
    rcases flatMap_canvasesOf packs with ⟨four, same⟩ | none_ | ⟨other, zero⟩
    · refine ⟨fun _ => ?_, fun _ => Or.inl four⟩
      by_cases none_ : (fillTable owner type size s.pool).2.1 = []
      · rw [none_] at took
        refine undone _ took ?_
        simp only [step, done, none_, ne_eq, not_true_eq_false, if_false]
      · have back := took.back
        rw [← same] at back
        refine undone _ back ?_
        simp only [step, done, none_, ne_eq, not_false_eq_true, if_true]
        rfl
    · refine ⟨fun _ => ?_, fun _ => Or.inr (Or.inl none_)⟩
      rw [none_] at took
      refine undone _ took ?_
      simp only [step, done, none_, ne_eq, not_true_eq_false, if_false]
    · have some_ : (fillTable owner type size s.pool).2.1 ≠ [] := by
        intro none_
        rw [none_] at zero
        cases zero
      refine ⟨fun clean => ?_, fun accounted => ?_⟩
      · rcases clean with four | none_ | full
        · exact absurd four other
        · exact absurd none_ some_
        · exact absurd (all.symm.trans full) (by decide)
      · refine absurd ?_ accounted.zero.2
        simp only [step, done, some_, ne_eq, not_false_eq_true, if_true]
        exact mem_freed (took.max ▸ sound.some_) zero

theorem step_freeTable (sound : s.Sound) {table : Table} (mem : table ∈ s.tables) :
    s.step (.freeTable table.id) = { s with
      pool := (table.tab.flatMap canvasesOf).foldl mapFreeCanvas s.pool
      tables := s.tables.filter fun t => t.id ≠ table.id
      before := none } := by
  simp only [step, find?_key Table.id sound.numbered mem]
  rfl

theorem Sound.removeTable (sound : s.Sound) {table : Table} (mem : table ∈ s.tables)
    (frees : table.tab.flatMap canvasesOf = table.indices) :
    (s.step (.freeTable table.id)).Sound ∧ s.Accounted (.freeTable table.id) := by
  have next := step_freeTable sound mem
  have perm : s.held.Perm
      (table.indices ++ (s.singles ++ (s.tables.filter fun t => t.id ≠ table.id).flatMap
        Table.indices)) := by
    unfold held
    refine (List.Perm.append_left _
      ((perm_remove_key Table.id sound.numbered mem).flatMap_right _)).trans ?_
    rw [List.flatMap_cons, ← List.append_assoc, ← List.append_assoc]
    exact List.Perm.append_right _ List.perm_append_comm
  obtain ⟨gave, nodup, mapped, later, left⟩ := sound.give perm
  have kept : ∀ t ∈ s.tables.filter (fun t => t.id ≠ table.id), t ∈ s.tables := fun t here =>
    (List.mem_filter.mp here).1
  rw [frees] at next
  have after : (s.step (.freeTable table.id)).Sound := by
    rw [next]
    exact {
      ready := ⟨gave.next ▸ sound.ready.next, gave.max ▸ sound.ready.bytes⟩
      some_ := gave.max ▸ sound.some_
      once := later
      mapped := fun c mem => gave.max ▸ left c mem
      unfreed := fun mem => sound.unfreed (gave.freed.mp mem)
      packs := fun t here => sound.packs t (kept t here)
      numbered := sound.numbered.filter _
      fewer := fun t here => sound.fewer t (kept t here)
      before := nofun }
  refine ⟨after, after.accounted ?_ fun before given same => ?_⟩
  · rw [next]
    exact gave.count nodup mapped
  · obtain ⟨other, here, number, fresh, map, num⟩ := sound.before before given
    have this_ : other = table := by
      have found := find?_key Table.id sound.numbered mem
      rw [← same, ← number] at found
      exact Option.some.inj ((find?_key Table.id sound.numbered here).symm.trans found)
    subst this_
    rw [next]
    constructor
    · ext c
      rw [gave.map, map]
      constructor
      · rintro ⟨old | taken, free⟩
        · exact old
        · exact absurd taken free
      · exact fun old => ⟨Or.inl old, fun taken => fresh c taken old⟩
    · have back := gave.num
      dsimp only
      omega

theorem Sound.freeTable (sound : s.Sound) {id : Nat} (holds : ∃ table ∈ s.tables, table.id = id) :
    (s.Clean (.freeTable id) → (s.step (.freeTable id)).Sound ∧ s.Accounted (.freeTable id)) ∧
      (s.Accounted (.freeTable id) → s.Clean (.freeTable id)) := by
  obtain ⟨table, mem, rfl⟩ := holds
  have only : ∀ t ∈ s.tables, t.id = table.id → t = table := by
    intro t here same
    have found := find?_key Table.id sound.numbered mem
    rw [← same] at found
    exact Option.some.inj ((find?_key Table.id sound.numbered here).symm.trans found)
  rcases flatMap_canvasesOf (sound.packs table mem) with ⟨four, same⟩ | none_ | ⟨other, zero⟩
  · refine ⟨fun _ => sound.removeTable mem same, fun _ t here number => Or.inl ?_⟩
    rw [only t here number]
    exact four
  · refine ⟨fun _ => sound.removeTable mem ?_, fun _ t here number => Or.inr ?_⟩
    · unfold Table.indices
      rw [none_]
      rfl
    · rw [only t here number]
      exact none_
  · refine ⟨fun clean => ?_, fun accounted => ?_⟩
    · rcases clean table mem rfl with four | none_
      · exact absurd four other
      · rw [none_] at zero
        cases zero
    · refine absurd ?_ accounted.zero.2
      rw [step_freeTable sound mem]
      exact mem_freed sound.some_ zero

theorem Sound.exact {call : CanvasCall} (sound : s.Sound) (allowed : s.Allowed call) :
    (s.Clean call → (s.step call).Sound ∧ s.Accounted call) ∧ (s.Accounted call → s.Clean call) := by
  cases call with
  | alloc owner => exact ⟨fun _ => sound.alloc owner, fun _ => trivial⟩
  | free index => exact ⟨fun _ => sound.free allowed, fun _ => trivial⟩
  | allocTable owner size type => exact sound.allocTable owner size type
  | freeTable id => exact sound.freeTable allowed

theorem Sound.config (oldCpu : Bool) : Sound { pool := .config oldCpu } where
  ready := by cases oldCpu <;> exact ⟨by decide, by decide⟩
  some_ := by cases oldCpu <;> decide
  once := List.nodup_nil
  mapped := nofun
  unfreed := nofun
  packs := nofun
  numbered := List.Pairwise.nil
  fewer := nofun
  before := nofun

theorem accounted_exactly (oldCpu : Bool) (calls : List CanvasCall)
    (allowed : Along step Allowed { pool := .config oldCpu } calls) :
    Along step Clean { pool := .config oldCpu } calls ↔
      Along step Accounted { pool := .config oldCpu } calls :=
  along_iff_along step Allowed Clean Accounted Sound
    (fun _ _ sound allowed => ⟨fun clean => ((sound.exact allowed).1 clean).2, (sound.exact allowed).2⟩)
    (fun _ _ sound allowed clean => ((sound.exact allowed).1 clean).1) { pool := .config oldCpu }
    (Sound.config oldCpu) calls allowed

def decoder (type : CanvasMapType) : List CanvasCall :=
  [.allocTable "vdec" 1 type, .freeTable 0]

theorem decoder_allowed (type : CanvasMapType)
    (there : ((step { pool := .config false } (.allocTable "vdec" 1 type)).tables.any fun t => t.id = 0) = true) :
    Along step Allowed { pool := .config false } (decoder type) := by
  obtain ⟨table, mem, same⟩ := List.any_eq_true.mp there
  exact ⟨trivial, ⟨table, mem, of_decide_eq_true same⟩, trivial⟩

theorem four_accounted : Along step Accounted { pool := .config false } (decoder .type4) := by
  refine (accounted_exactly false (decoder .type4) (decoder_allowed .type4 (by decide +kernel))).mp
    ⟨Or.inl rfl, fun table mem _ => Or.inl ?_, trivial⟩
  have all : (step { pool := .config false } (.allocTable "vdec" 1 .type4)).tables.all (fun t => t.type = .type4) =
      true := by decide +kernel
  exact of_decide_eq_true (List.all_eq_true.mp all table mem)

theorem zero_freed :
    ¬∀ (oldCpu : Bool) (calls : List CanvasCall), Along step Allowed { pool := .config oldCpu } calls →
      Along step Accounted { pool := .config oldCpu } calls := by
  intro accounted
  obtain ⟨-, last, -⟩ := accounted false (decoder .type1) (decoder_allowed .type1 (by decide +kernel))
  have freed : 0 ∈ ((step { pool := .config false } (.allocTable "vdec" 1 .type1)).step
      (.freeTable 0)).pool.freed := by decide +kernel
  exact last.zero.2 freed

end CanvasUse

end UnionpiTiger.Canvas
