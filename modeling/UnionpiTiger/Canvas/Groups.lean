import Mathlib.Data.Finset.Card
import Mathlib.Data.List.Chain
import Mathlib.Data.List.Perm.Basic
import Mathlib.Data.List.Range
import UnionpiTiger.Lib.Words

set_option autoImplicit false

namespace UnionpiTiger.Canvas

inductive CanvasMapType where
  | type1
  | nv21
  | yuv
  | type4
  | other (value : Int)
deriving DecidableEq, Repr

def CanvasMapType.value : CanvasMapType → Int
  | .type1 => 1
  | .nv21 => 2
  | .yuv => 3
  | .type4 => 4
  | .other value => value

def CanvasMapType.num : CanvasMapType → Nat
  | .type1 => 1
  | .nv21 => 2
  | .yuv => 3
  | .type4 => 4
  | .other _ => 0

structure CanvasInfo where
  owner : Option String := none
  oldowner : Option String := none
  fixedOwner : Bool := false
deriving DecidableEq, Repr

structure CanvasPool where
  canvasMax : Nat
  freeNum : Int := 0
  canvasMap : Finset Nat := ∅
  nextAllocedIndex : Nat
  info : Nat → CanvasInfo := fun _ => {}
  freed : List Nat := []

def findNextZeroBit (map : Finset Nat) (size offset : Nat) : Nat :=
  ((List.range' offset (size - offset)).find? fun i => i ∉ map).getD size

def found : List Int → Bool
  | [] => false
  | canvas :: rest => 0 < canvas ∧ (canvas :: rest).IsChain fun c d => d = c + 1

def canvasval (type : CanvasMapType) (canvases : List Int) : Nat :=
  match type, canvases with
  | .type1, [canvas4] => canvas4.toNat
  | .nv21, [canvas3, canvas4] => canvas3.toNat + canvas4.toNat * 256 + canvas4.toNat * 65536
  | .yuv, [canvas2, canvas3, canvas4] =>
    canvas2.toNat + canvas3.toNat * 256 + canvas4.toNat * 65536
  | .type4, [canvas1, canvas2, canvas3, canvas4] =>
    canvas1.toNat + canvas2.toNat * 256 + canvas3.toNat * 65536 + canvas4.toNat * 16777216
  | _, _ => 0

-- The bytes of an entry that canvas_pool_free_canvas_table frees. All of them are at least zero.
def canvasesOf (canvas : Nat) : List Nat :=
  let canvas1 := canvas % 256
  let canvas2 := canvas / 256 % 256
  let canvas3 := canvas / 65536 % 256
  let canvas4 := canvas / 16777216 % 256
  [canvas1] ++ (if canvas2 ≠ canvas1 then [canvas2] else []) ++
    (if canvas3 ≠ canvas2 ∧ canvas3 ≠ canvas1 then [canvas3] else []) ++
    (if canvas4 ≠ canvas3 ∧ canvas4 ≠ canvas2 ∧ canvas4 ≠ canvas1 then [canvas4] else [])

namespace CanvasPool

def search (pool : CanvasPool) : Option Nat :=
  let i := findNextZeroBit pool.canvasMap pool.canvasMax pool.nextAllocedIndex
  if i < pool.canvasMax then some i
  else if pool.nextAllocedIndex ≤ 1 then none
  else
    let i := findNextZeroBit pool.canvasMap pool.canvasMax 1
    if i < pool.canvasMax then some i else none

def mapAllocCanvas (pool : CanvasPool) (owner : String) : CanvasPool × Int :=
  match pool.search with
  | none => (pool, -1)
  | some index =>
    let pool := { pool with
      canvasMap := insert index pool.canvasMap
      info := Function.update pool.info index { pool.info index with
        oldowner := some owner
        owner := some owner } }
    if index > 0 then
      ({ pool with
        nextAllocedIndex := if index + 1 < pool.canvasMax then index + 1 else 1
        freeNum := pool.freeNum - 1 }, index)
    else (pool, index)

def mapFreeCanvas (pool : CanvasPool) (index : Nat) : CanvasPool :=
  if index < pool.canvasMax then
    { pool with
      canvasMap := pool.canvasMap.erase index
      info := Function.update pool.info index { pool.info index with
        oldowner := (pool.info index).owner
        owner := none }
      freeNum := pool.freeNum + 1
      freed := pool.freed ++ [index] }
  else pool

def allocs (owner : String) : Nat → CanvasPool → CanvasPool × List Int
  | 0, pool => (pool, [])
  | n + 1, pool =>
    let (pool, canvas) := pool.mapAllocCanvas owner
    let (pool, rest) := allocs owner n pool
    (pool, canvas :: rest)

-- The tries of canvas_pool_map_alloc_canvas_continue_set. All but the first start at the same place.
def allocCanvasContinueSet (owner : String) (type : CanvasMapType) (start : Nat) :
    Nat → CanvasPool → CanvasPool × Option Nat
  | 0, pool => (pool, none)
  | tries + 1, pool =>
    let (pool, canvases) := allocs owner type.num pool
    if found canvases then (pool, some (canvasval type canvases))
    else
      let pool := ((canvases.filter fun c => 0 < c).map Int.toNat).foldl mapFreeCanvas pool
      allocCanvasContinueSet owner type start tries { pool with
        nextAllocedIndex := if start + 1 < Lib.u32 (pool.canvasMax - type.value) then start + 1 else 1 }

def fillTable (owner : String) (type : CanvasMapType) : Nat → CanvasPool → CanvasPool × List Nat × Bool
  | 0, pool => (pool, [], true)
  | size + 1, pool =>
    match allocCanvasContinueSet owner type pool.nextAllocedIndex (pool.canvasMax + 1) pool with
    | (pool, none) => (pool, [], false)
    | (pool, some canvas) =>
      let (pool, tab, all) := fillTable owner type size pool
      (pool, canvas :: tab, all)

def freeCanvasTable (pool : CanvasPool) (tab : List Nat) : CanvasPool :=
  (tab.flatMap canvasesOf).foldl mapFreeCanvas pool

def allocCanvasTable (pool : CanvasPool) (owner : String) (size : Nat) (type : CanvasMapType) :
    CanvasPool × Option (List Nat) :=
  let oldstart := pool.nextAllocedIndex
  let (pool, tab, all) := fillTable owner type size pool
  if all then
    ({ pool with nextAllocedIndex := if oldstart + 1 ≥ pool.canvasMax then 1
      else oldstart + 1 }, some tab)
  else (if tab ≠ [] then pool.freeCanvasTable tab else pool, none)

-- canvas_pool_config: the canvases of the encoder are set aside. Old processors have fewer.
def config (oldCpu : Bool) : CanvasPool :=
  let canvasMax := if oldCpu then 192 else 256
  { canvasMax
    nextAllocedIndex := canvasMax / 2
    canvasMap := (List.range' 0xe4 12).toFinset
    info := fun i => if 0xe4 ≤ i ∧ i ≤ 0xef then { owner := some "encoder", fixedOwner := true } else {} }

end CanvasPool

theorem findNextZeroBit_spec {map : Finset Nat} {size offset : Nat}
    (inside : findNextZeroBit map size offset < size) :
    offset ≤ findNextZeroBit map size offset ∧ findNextZeroBit map size offset ∉ map := by
  unfold findNextZeroBit at *
  cases first : (List.range' offset (size - offset)).find? fun i => i ∉ map with
  | none =>
    rw [first] at inside
    exact absurd inside (Nat.lt_irrefl _)
  | some i =>
    have mem := List.mem_range'_1.mp (List.mem_of_find?_eq_some first)
    have free := List.find?_some first
    rw [Option.getD_some]
    exact ⟨mem.1, of_decide_eq_true free⟩

namespace CanvasPool

variable {p q r : CanvasPool} {got more : List Nat}

-- What the code keeps of the pool: canvas 0 is passed over.
structure Ready (p : CanvasPool) : Prop where
  next : 1 ≤ p.nextAllocedIndex
  bytes : p.canvasMax ≤ 256

structure Took (p q : CanvasPool) (got : List Nat) : Prop where
  max : q.canvasMax = p.canvasMax
  next : 1 ≤ q.nextAllocedIndex
  nodup : got.Nodup
  fresh : ∀ c ∈ got, c ∉ p.canvasMap ∧ 1 ≤ c ∧ c < p.canvasMax
  map : ∀ c, c ∈ q.canvasMap ↔ c ∈ p.canvasMap ∨ c ∈ got
  num : q.freeNum = p.freeNum - got.length
  freed : 0 ∈ q.freed ↔ 0 ∈ p.freed

theorem Took.none (next : 1 ≤ p.nextAllocedIndex) : Took p p [] where
  max := rfl
  next := next
  nodup := List.nodup_nil
  fresh := nofun
  map c := by simp
  num := by simp
  freed := Iff.rfl

theorem Took.ready (took : Took p q got) (ready : p.Ready) : q.Ready :=
  ⟨took.next, took.max ▸ ready.bytes⟩

theorem Took.append (first : Took p q got) (second : Took q r more) : Took p r (got ++ more) where
  max := second.max.trans first.max
  next := second.next
  nodup := List.nodup_append.mpr ⟨first.nodup, second.nodup, by
    rintro c mem d other rfl
    exact (second.fresh c other).1 ((first.map c).mpr (Or.inr mem))⟩
  fresh c mem := by
    rcases List.mem_append.mp mem with here | here
    · exact first.fresh c here
    · obtain ⟨free, rest⟩ := second.fresh c here
      exact ⟨fun old => free ((first.map c).mpr (Or.inl old)), first.max ▸ rest⟩
  map c := by
    rw [second.map, first.map, List.mem_append, or_assoc]
  num := by
    have one := first.num
    have two := second.num
    rw [List.length_append]
    omega
  freed := second.freed.trans first.freed

theorem search_spec (ready : p.Ready) {index : Nat} (searched : p.search = some index) :
    index ∉ p.canvasMap ∧ 1 ≤ index ∧ index < p.canvasMax := by
  have next := ready.next
  unfold search at searched
  dsimp only at searched
  split_ifs at searched with first looped second
  · obtain ⟨after, free⟩ := findNextZeroBit_spec first
    cases searched
    exact ⟨free, Nat.le_trans next after, first⟩
  · obtain ⟨after, free⟩ := findNextZeroBit_spec second
    cases searched
    exact ⟨free, after, second⟩

theorem mapAllocCanvas_took (ready : p.Ready) (owner : String) :
    (p.mapAllocCanvas owner = (p, -1)) ∨
      ∃ q, ∃ index : Nat, p.mapAllocCanvas owner = (q, (index : Int)) ∧ Took p q [index] := by
  unfold mapAllocCanvas
  cases searched : p.search with
  | none => exact Or.inl rfl
  | some index =>
    obtain ⟨free, positive, below⟩ := search_spec ready searched
    refine Or.inr ⟨_, index, if_pos positive, ?_⟩
    constructor
    case max => rfl
    case next =>
      dsimp only
      split_ifs <;> omega
    case nodup => exact List.nodup_singleton _
    case fresh =>
      intro c mem
      rw [List.mem_singleton.mp mem]
      exact ⟨free, positive, below⟩
    case map =>
      intro c
      rw [Finset.mem_insert, List.mem_singleton, or_comm]
    case num => rfl
    case freed => exact Iff.rfl

theorem foldl_freed (freed : List Nat) (q : CanvasPool) :
    (freed.foldl mapFreeCanvas q).freed = q.freed ++ freed.filter fun c => c < q.canvasMax := by
  induction freed generalizing q with
  | nil => exact (List.append_nil _).symm
  | cons c rest ih =>
    rw [List.foldl_cons, ih]
    by_cases below : c < q.canvasMax
    · have kept : (c :: rest).filter (fun c => c < q.canvasMax) =
          c :: rest.filter fun c => c < q.canvasMax := List.filter_cons_of_pos (decide_eq_true below)
      unfold mapFreeCanvas
      rw [if_pos below, kept]
      exact List.append_assoc _ _ _
    · have kept : (c :: rest).filter (fun c => c < q.canvasMax) = rest.filter fun c => c <
        q.canvasMax :=
        List.filter_cons_of_neg (by simpa using below)
      unfold mapFreeCanvas
      rw [if_neg below, kept]

structure Gave (q r : CanvasPool) (freed : List Nat) : Prop where
  max : r.canvasMax = q.canvasMax
  next : r.nextAllocedIndex = q.nextAllocedIndex
  map : ∀ c, c ∈ r.canvasMap ↔ c ∈ q.canvasMap ∧ c ∉ freed
  num : r.freeNum = q.freeNum + freed.length
  freed : 0 ∈ r.freed ↔ 0 ∈ q.freed

theorem foldl_gave {freed : List Nat} (nodup : freed.Nodup)
    (valid : ∀ c ∈ freed, 1 ≤ c ∧ c < q.canvasMax) : Gave q (freed.foldl mapFreeCanvas q) freed := by
  induction freed generalizing q with
  | nil => exact ⟨rfl, rfl, by simp, by simp, Iff.rfl⟩
  | cons c rest ih =>
    obtain ⟨other, later⟩ := List.nodup_cons.mp nodup
    obtain ⟨positive, below⟩ := valid c List.mem_cons_self
    have one : Gave q (q.mapFreeCanvas c) [c] := by
      unfold mapFreeCanvas
      rw [if_pos below]
      refine ⟨rfl, rfl, fun d => ?_, rfl, ?_⟩
      · rw [Finset.mem_erase, List.mem_singleton, and_comm]
      · rw [List.mem_append, List.mem_singleton]
        exact or_iff_left (by omega)
    have tail := ih (q := q.mapFreeCanvas c) later fun d mem =>
      one.max ▸ valid d (List.mem_cons_of_mem c mem)
    rw [List.foldl_cons]
    constructor
    case max => exact tail.max.trans one.max
    case next => exact tail.next.trans one.next
    case map =>
      intro d
      rw [tail.map, one.map, List.mem_singleton, List.mem_cons, not_or, and_assoc]
    case num =>
      have first := one.num
      have second := tail.num
      rw [List.length_cons]
      rw [List.length_singleton] at first
      omega
    case freed => exact tail.freed.trans one.freed

theorem Took.back (took : Took p q got) : Took p (got.foldl mapFreeCanvas q) [] := by
  have gave : Gave q (got.foldl mapFreeCanvas q) got :=
    foldl_gave took.nodup fun c mem => ⟨(took.fresh c mem).2.1, took.max ▸ (took.fresh c mem).2.2⟩
  constructor
  case max => exact gave.max.trans took.max
  case next => exact gave.next ▸ took.next
  case nodup => exact List.nodup_nil
  case fresh => nofun
  case map =>
    intro c
    rw [gave.map, took.map]
    constructor
    · rintro ⟨old | new, left⟩
      · exact Or.inl old
      · exact absurd new left
    · rintro (old | ⟨⟨⟩⟩)
      exact ⟨Or.inl old, fun mem => (took.fresh c mem).1 old⟩
  case num =>
    have one := took.num
    have two := gave.num
    rw [List.length_nil]
    omega
  case freed => exact gave.freed.trans took.freed

theorem Took.moved (took : Took p q got) {n : Nat} (positive : 1 ≤ n) :
    Took p { q with nextAllocedIndex := n } got := { took with next := positive }

theorem allocs_took (ready : p.Ready) (owner : String) (n : Nat) :
    Took p (allocs owner n p).1 (((allocs owner n p).2.filter fun c => 0 < c).map Int.toNat) ∧
      (allocs owner n p).2.length = n := by
  induction n generalizing p with
  | zero => exact ⟨Took.none ready.next, rfl⟩
  | succ n ih =>
    unfold allocs
    rcases mapAllocCanvas_took ready owner with fails | ⟨q, index, done, took⟩
    · obtain ⟨tail, length⟩ := ih ready
      rw [fails]
      exact ⟨tail, congrArg (· + 1) length⟩
    · obtain ⟨tail, length⟩ := ih (took.ready ready)
      have positive := (took.fresh index (List.mem_singleton_self _)).2.1
      rw [done]
      refine ⟨?_, congrArg (· + 1) length⟩
      show Took p _ ((((index : Int) :: (allocs owner n q).2).filter fun c => 0 < c).map Int.toNat)
      rw [List.filter_cons_of_pos (by simp; omega), List.map_cons, Int.toNat_natCast]
      exact took.append tail

end CanvasPool

def fields (canvas : Nat) : List Nat :=
  [canvas % 256, canvas / 256 % 256, canvas / 65536 % 256, canvas / 16777216 % 256]

def CanvasMapType.indices (type : CanvasMapType) (canvas : Nat) : List Nat :=
  (fields canvas).take type.num

theorem chain_eq {n : Nat} {rest : List Int}
    (chain : ((n : Int) :: rest).IsChain fun c d => d = c + 1) :
    (n : Int) :: rest = (List.range' n (rest.length + 1)).map Int.ofNat := by
  induction rest generalizing n with
  | nil => rfl
  | cons d rest ih =>
    obtain ⟨next, tail⟩ := List.isChain_cons_cons.mp chain
    have same : d = ((n + 1 : Nat) : Int) := next
    rw [same] at tail ⊢
    rw [List.range'_succ, List.map_cons]
    exact congrArg _ (ih tail)

theorem found_eq {canvases : List Int} (group : found canvases = true) :
    ∃ n, 1 ≤ n ∧ canvases = (List.range' n canvases.length).map Int.ofNat := by
  cases canvases with
  | nil => cases group
  | cons c rest =>
    obtain ⟨positive, chain⟩ := of_decide_eq_true group
    obtain ⟨n, rfl⟩ := Int.eq_ofNat_of_zero_le (Int.le_of_lt positive)
    exact ⟨n, by omega, chain_eq chain⟩

theorem positives_range {n : Nat} (positive : 1 ≤ n) (k : Nat) :
    (((List.range' n k).map Int.ofNat).filter fun c => 0 < c).map Int.toNat = List.range' n k := by
  have all : ((List.range' n k).map Int.ofNat).filter (fun c => 0 < c) =
      (List.range' n k).map Int.ofNat := by
    refine List.filter_eq_self.mpr fun c mem => decide_eq_true ?_
    obtain ⟨i, here, rfl⟩ := List.mem_map.mp mem
    have after := (List.mem_range'_1.mp here).1
    show (0 : Int) < (i : Int)
    omega
  rw [all, List.map_map]
  exact List.map_id _

theorem fields_packed {a b c d : Nat} (one : a < 256) (two : b < 256) (three : c < 256)
    (four : d < 256) :
    fields (a + b * 256 + c * 65536 + d * 16777216) = [a, b, c, d] := by
  have first : (a + b * 256 + c * 65536 + d * 16777216) % 256 = a := by omega
  have second : (a + b * 256 + c * 65536 + d * 16777216) / 256 % 256 = b := by omega
  have third : (a + b * 256 + c * 65536 + d * 16777216) / 65536 % 256 = c := by omega
  have fourth : (a + b * 256 + c * 65536 + d * 16777216) / 16777216 % 256 = d := by omega
  unfold fields
  rw [first, second, third, fourth]

theorem canvasesOf_fields {canvas canvas1 canvas2 canvas3 canvas4 : Nat}
    (bytes : fields canvas = [canvas1, canvas2, canvas3, canvas4]) :
    canvasesOf canvas = [canvas1] ++ (if canvas2 ≠ canvas1 then [canvas2] else []) ++
      (if canvas3 ≠ canvas2 ∧ canvas3 ≠ canvas1 then [canvas3] else []) ++
      (if canvas4 ≠ canvas3 ∧ canvas4 ≠ canvas2 ∧ canvas4 ≠ canvas1 then [canvas4] else []) := by
  unfold fields at bytes
  injection bytes with one rest
  injection rest with two rest
  injection rest with three rest
  injection rest with four rest
  unfold canvasesOf
  rw [one, two, three, four]

theorem canvasesOf_group (type : CanvasMapType) {n : Nat} (positive : 1 ≤ n) (some_ : type.num ≠ 0)
    (below : ∀ c ∈ List.range' n type.num, c < 256) :
    type.indices (canvasval type ((List.range' n type.num).map Int.ofNat)) = List.range' n type.num ∧
      canvasesOf (canvasval type ((List.range' n type.num).map Int.ofNat)) =
        List.range' n type.num ++ if type = .type4 then [] else [0] := by
  cases type with
  | other value => exact absurd rfl some_
  | type1 =>
    have small : n < 256 := below n (by simp [CanvasMapType.num])
    have bytes : fields n = [n, 0, 0, 0] := by
      have packed := fields_packed (b := 0) (c := 0) (d := 0) small (by decide) (by decide) (by decide)
      simpa only [Nat.zero_mul, Nat.add_zero] using packed
    constructor
    · exact congrArg (List.take 1) bytes
    · show canvasesOf n = [n] ++ [0]
      rw [canvasesOf_fields bytes, if_pos (by omega), if_neg (by omega), if_neg (by omega)]
      rfl
  | nv21 =>
    have small : n + 1 < 256 := below (n + 1) (by simp [CanvasMapType.num])
    have bytes : fields (n + (n + 1) * 256 + (n + 1) * 65536) = [n, n + 1, n + 1, 0] := by
      have packed := fields_packed (a := n) (d := 0) (by omega) small small (by decide)
      rwa [Nat.zero_mul, Nat.add_zero] at packed
    constructor
    · exact congrArg (List.take 2) bytes
    · show canvasesOf (n + (n + 1) * 256 + (n + 1) * 65536) = [n, n + 1] ++ [0]
      rw [canvasesOf_fields bytes, if_pos (by omega), if_neg (by omega), if_pos (by omega)]
      rfl
  | yuv =>
    have small : n + 1 + 1 < 256 := below (n + 2) (List.mem_range'_1.mpr ⟨by omega, Nat.lt_succ_self _⟩)
    have bytes : fields (n + (n + 1) * 256 + (n + 1 + 1) * 65536) = [n, n + 1, n + 1 + 1, 0] := by
      have packed := fields_packed (a := n) (b := n + 1) (d := 0) (by omega) (by omega)
        small (by decide)
      rwa [Nat.zero_mul, Nat.add_zero] at packed
    constructor
    · exact congrArg (List.take 3) bytes
    · show canvasesOf (n + (n + 1) * 256 + (n + 1 + 1) * 65536) = [n, n + 1, n + 1 + 1] ++ [0]
      rw [canvasesOf_fields bytes, if_pos (by omega), if_pos (by omega), if_pos (by omega)]
      rfl
  | type4 =>
    have small : n + 1 + 1 + 1 < 256 :=
      below (n + 3) (List.mem_range'_1.mpr ⟨by omega, Nat.lt_succ_self _⟩)
    have bytes : fields (n + (n + 1) * 256 + (n + 1 + 1) * 65536 + (n + 1 + 1 + 1) * 16777216) =
        [n, n + 1, n + 1 + 1, n + 1 + 1 + 1] :=
      fields_packed (by omega) (by omega) (by omega) small
    constructor
    · exact congrArg (List.take 4) bytes
    · show canvasesOf (n + (n + 1) * 256 + (n + 1 + 1) * 65536 + (n + 1 + 1 + 1) * 16777216) =
        [n, n + 1, n + 1 + 1, n + 1 + 1 + 1] ++ []
      rw [canvasesOf_fields bytes, if_pos (by omega), if_pos (by omega), if_pos (by omega)]
      rfl

def CanvasMapType.Packs (type : CanvasMapType) (canvas : Nat) : Prop :=
  canvasesOf canvas = type.indices canvas ++ if type = .type4 then [] else [0]

namespace CanvasPool

variable {p q : CanvasPool} {type : CanvasMapType}

theorem allocs_packs (ready : p.Ready) (owner : String)
    (group : found (allocs owner type.num p).2 = true) :
    Took p (allocs owner type.num p).1 (type.indices (canvasval type (allocs owner type.num p).2)) ∧
      type.Packs (canvasval type (allocs owner type.num p).2) := by
  obtain ⟨took, length⟩ := allocs_took ready owner type.num
  obtain ⟨n, positive, shape⟩ := found_eq group
  have some_ : type.num ≠ 0 := by
    intro none_
    rw [List.eq_nil_of_length_eq_zero (length.trans none_)] at group
    cases group
  rw [length] at shape
  rw [shape] at took ⊢
  rw [positives_range positive] at took
  obtain ⟨indices, frees⟩ := canvasesOf_group type positive some_ fun c mem =>
    Nat.lt_of_lt_of_le (took.fresh c mem).2.2 ready.bytes
  refine ⟨indices.symm ▸ took, ?_⟩
  unfold CanvasMapType.Packs
  rw [indices, frees]

theorem continueSet_took (ready : p.Ready) (owner : String) (type : CanvasMapType) (start tries : Nat) :
    match allocCanvasContinueSet owner type start tries p with
    | (q, none) => Took p q []
    | (q, some canvas) => Took p q (type.indices canvas) ∧ type.Packs canvas := by
  induction tries generalizing p with
  | zero => exact Took.none ready.next
  | succ tries ih =>
    unfold allocCanvasContinueSet
    dsimp only
    by_cases group : found (allocs owner type.num p).2 = true
    · rw [if_pos group]
      exact allocs_packs ready owner group
    · rw [if_neg group]
      have undone := ((allocs_took ready owner type.num).1.back).moved (n :=
        if start + 1 < Lib.u32
          ((((((allocs owner type.num p).2.filter fun c => 0 < c).map Int.toNat).foldl
          mapFreeCanvas (allocs owner type.num p).1).canvasMax : Int) - type.value) then start + 1
            else 1)
        (by split_ifs <;> omega)
      have rest := ih (undone.ready ready)
      revert rest
      generalize allocCanvasContinueSet owner type start tries _ = result
      obtain ⟨q, _ | canvas⟩ := result
      · exact fun none_ => undone.append none_
      · exact fun some_ => ⟨undone.append some_.1, some_.2⟩

theorem fillTable_took (ready : p.Ready) (owner : String) (type : CanvasMapType) (size : Nat) :
    Took p (fillTable owner type size p).1 ((fillTable owner type size p).2.1.flatMap type.indices) ∧
      ∀ canvas ∈ (fillTable owner type size p).2.1, type.Packs canvas := by
  induction size generalizing p with
  | zero => exact ⟨Took.none ready.next, nofun⟩
  | succ size ih =>
    have entry := continueSet_took ready owner type p.nextAllocedIndex (p.canvasMax + 1)
    unfold fillTable
    revert entry
    generalize allocCanvasContinueSet owner type p.nextAllocedIndex (p.canvasMax + 1) p = result
    obtain ⟨q, _ | canvas⟩ := result
    · exact fun none_ => ⟨none_, nofun⟩
    · rintro ⟨took, packs⟩
      obtain ⟨tail, rest⟩ := ih (took.ready ready)
      refine ⟨?_, fun other mem => ?_⟩
      · show Took p _ ((canvas :: (fillTable owner type size q).2.1).flatMap type.indices)
        rw [List.flatMap_cons]
        exact took.append tail
      · rcases List.mem_cons.mp mem with rfl | later
        · exact packs
        · exact rest other later

theorem flatMap_canvasesOf {tab : List Nat} (packs : ∀ canvas ∈ tab, type.Packs canvas) :
    type = .type4 ∧ tab.flatMap canvasesOf = tab.flatMap type.indices ∨ tab = [] ∨
      type ≠ .type4 ∧ 0 ∈ tab.flatMap canvasesOf := by
  by_cases four : type = .type4
  · refine Or.inl ⟨four, List.flatMap_congr fun canvas mem => ?_⟩
    rw [packs canvas mem, if_pos four, List.append_nil]
  · cases tab with
    | nil => exact Or.inr (Or.inl rfl)
    | cons canvas rest =>
      refine Or.inr (Or.inr ⟨four, List.mem_flatMap.mpr ⟨canvas, List.mem_cons_self, ?_⟩⟩)
      rw [packs canvas List.mem_cons_self, if_neg four]
      exact List.mem_append_right _ (List.mem_singleton_self 0)

end CanvasPool

end UnionpiTiger.Canvas
