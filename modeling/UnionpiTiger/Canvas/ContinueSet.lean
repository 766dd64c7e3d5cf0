import UnionpiTiger.Lib.Around
import UnionpiTiger.Canvas.Groups

set_option autoImplicit false

namespace UnionpiTiger.Canvas

open Lib

namespace CanvasPool

variable {p q : CanvasPool} {owner : String} {type : CanvasMapType}

def freeFrom (p : CanvasPool) (start : Nat) : List Nat :=
  (around p.canvasMax start).filter fun i => i ∉ p.canvasMap

def InOrder (p : CanvasPool) (start k : Nat) : Prop := ∃ n, (p.freeFrom start).take k = List.range' n k

def retryStart (p : CanvasPool) (type : CanvasMapType) : Nat :=
  if p.nextAllocedIndex + 1 < u32 (p.canvasMax - type.value) then p.nextAllocedIndex + 1 else 1

-- The pool as `canvas_pool_config` sets it up, with anything allocated.
structure Sized (p : CanvasPool) : Prop where
  max : p.canvasMax = 192 ∨ p.canvasMax = 256
  next : 1 ≤ p.nextAllocedIndex ∧ p.nextAllocedIndex < p.canvasMax

theorem Sized.ready (sized : p.Sized) : p.Ready :=
  ⟨sized.next.1, by rcases sized.max with max | max <;> omega⟩

theorem findNextZeroBit_eq (map : Finset Nat) (size offset : Nat) :
    (if findNextZeroBit map size offset < size then some (findNextZeroBit map size offset) else none) =
      (List.range' offset (size - offset)).find? fun i => i ∉ map := by
  unfold findNextZeroBit
  cases first : (List.range' offset (size - offset)).find? fun i => i ∉ map with
  | none => simp
  | some i =>
    have mem := List.mem_range'_1.mp (List.mem_of_find?_eq_some first)
    simp only [Option.getD_some]
    rw [if_pos (by omega)]

theorem search_eq (below : p.nextAllocedIndex < p.canvasMax) :
    p.search = (p.freeFrom p.nextAllocedIndex).head? := by
  have first := findNextZeroBit_eq p.canvasMap p.canvasMax p.nextAllocedIndex
  have again := findNextZeroBit_eq p.canvasMap p.canvasMax 1
  rw [freeFrom, List.head?_filter, around, List.find?_append, ← first, search]
  by_cases found : findNextZeroBit p.canvasMap p.canvasMax p.nextAllocedIndex < p.canvasMax
  · simp [found]
  · simp only [found, if_false, Option.none_or]
    rw [if_neg found] at first
    by_cases looped : p.nextAllocedIndex ≤ 1
    · simp [looped]
    · -- The whole range is searched, but the part behind the start is known to be taken.
      have split : List.range' 1 (p.canvasMax - 1) =
          List.range' 1 (p.nextAllocedIndex - 1) ++
            List.range' p.nextAllocedIndex (p.canvasMax - p.nextAllocedIndex) := by
        have joined := List.range'_append_1 (s := 1) (m := p.nextAllocedIndex - 1)
          (n := p.canvasMax - p.nextAllocedIndex)
        rw [show 1 + (p.nextAllocedIndex - 1) = p.nextAllocedIndex by omega,
          show p.nextAllocedIndex - 1 + (p.canvasMax - p.nextAllocedIndex) = p.canvasMax - 1 by
            omega] at joined
        exact joined.symm
      rw [if_neg looped, again, split, List.find?_append, ← first, Option.or_none]

theorem mapAllocCanvas_free (sized : p.Sized) (owner : String) :
    (p.freeFrom p.nextAllocedIndex = [] ∧ p.mapAllocCanvas owner = (p, -1)) ∨
      ∃ q, ∃ i rest, p.freeFrom p.nextAllocedIndex = i :: rest ∧
        p.mapAllocCanvas owner = (q, (i : Int)) ∧ q.Sized ∧
        q.canvasMax = p.canvasMax ∧ q.freeFrom q.nextAllocedIndex = rest := by
  obtain ⟨positive, below⟩ := sized.next
  have searched := search_eq below
  cases free : p.freeFrom p.nextAllocedIndex with
  | nil =>
    rw [free] at searched
    exact .inl ⟨rfl, by simp [mapAllocCanvas, searched]⟩
  | cons i rest =>
    rw [free] at searched
    obtain ⟨before, after, split, taken, found, others⟩ := List.filter_eq_cons_iff.mp free
    have range := (mem_around positive below).mp (show i ∈
      around p.canvasMax p.nextAllocedIndex by simp [split])
    have turned := around_behind positive below split
    have bounds := behind_bounds range.2 (by omega)
    have done : p.mapAllocCanvas owner = ({ p with
        canvasMap := insert i p.canvasMap
        info := Function.update p.info i { p.info i with oldowner := some owner, owner := some owner }
        nextAllocedIndex := behind p.canvasMax i
        freeNum := p.freeNum - 1 }, (i : Int)) := by
      simp [mapAllocCanvas, searched, behind, show 0 < i from range.1]
    refine .inr ⟨_, i, rest, rfl, done, ⟨sized.max, bounds⟩, rfl, ?_⟩
    have none_before : before.filter (fun c => c ∉ insert i p.canvasMap) = [] := by
      rw [List.filter_eq_nil_iff]
      intro c mem free
      exact taken c mem (by simpa using fun isTaken => of_decide_eq_true free (Finset.mem_insert_of_mem isTaken))
    have same_after : after.filter (fun c => c ∉ insert i p.canvasMap) = after.filter fun c => c ∉ p.canvasMap := by
      refine List.filter_congr fun c mem => ?_
      have apart : c ≠ i := by
        rintro rfl
        have nodup := (around_perm positive below).nodup_iff.mpr List.nodup_range'
        rw [split] at nodup
        exact (List.nodup_cons.mp (List.nodup_append.mp nodup).2.1).1 mem
      simp [apart]
    simp only [freeFrom, turned, List.filter_append, none_before, same_after, others]
    simp

theorem allocs_free (sized : p.Sized) (owner : String) (k : Nat) :
    (allocs owner k p).2 = ((p.freeFrom p.nextAllocedIndex).take k).map Int.ofNat ++
      List.replicate (k - (p.freeFrom p.nextAllocedIndex).length) (-1) := by
  induction k generalizing p with
  | zero => simp [allocs]
  | succ k ih =>
    rcases mapAllocCanvas_free sized owner with ⟨nothing, fails⟩ | ⟨q, i, rest, free, done,
      same, max, left⟩
    · have later := ih sized
      rw [nothing] at later
      simp [allocs, fails, later, nothing, List.replicate_succ]
    · have later := ih same
      rw [left] at later
      simp [allocs, done, later, free]

theorem found_range {n k : Nat} (positive : 1 ≤ n) (some_ : k ≠ 0) :
    found ((List.range' n k).map Int.ofNat) = true := by
  obtain ⟨k, rfl⟩ := Nat.exists_eq_succ_of_ne_zero some_
  have chain (n k : Nat) : ((List.range' n k).map Int.ofNat).IsChain fun c d => d = c + 1 := by
    rw [List.isChain_map]
    induction k generalizing n with
    | zero => exact .nil
    | succ k ih =>
      cases k with
      | zero => exact .singleton _
      | succ k => exact .cons_cons rfl (ih (n + 1))
  exact decide_eq_true ⟨by simp; omega, chain n (k + 1)⟩

theorem mem_freeFrom (sized : p.Sized) {i : Nat} :
    i ∈ p.freeFrom p.nextAllocedIndex ↔ i ∉ p.canvasMap ∧ 1 ≤ i ∧ i < p.canvasMax := by
  simp [freeFrom, mem_around sized.next.1 sized.next.2, and_comm]

theorem found_iff (sized : p.Sized) (owner : String) {k : Nat} (some_ : k ≠ 0) :
    found (allocs owner k p).2 = true ↔ p.InOrder p.nextAllocedIndex k := by
  rw [allocs_free sized]
  constructor
  · intro group
    obtain ⟨n, -, shape⟩ := found_eq group
    have enough : k ≤ (p.freeFrom p.nextAllocedIndex).length := by
      by_contra short
      have failed : (-1 : Int) ∈
          (List.range' n ((((p.freeFrom p.nextAllocedIndex).take k).map Int.ofNat) ++
          List.replicate (k - (p.freeFrom p.nextAllocedIndex).length) (-1)).length).map Int.ofNat := by
        rw [← shape]
        simp
        omega
      obtain ⟨i, -, negative⟩ := List.mem_map.mp failed
      cases negative
    rw [Nat.sub_eq_zero_of_le enough, List.replicate_zero, List.append_nil, List.length_map] at shape
    have same := List.map_injective_iff.mpr (fun _ _ => Int.ofNat.inj) shape
    exact ⟨n, by simpa [enough] using same⟩
  · rintro ⟨n, first⟩
    have length := congrArg List.length first
    rw [List.length_take, List.length_range'] at length
    have inside : n ∈ p.freeFrom p.nextAllocedIndex := by
      apply List.mem_of_mem_take (i := k)
      rw [first, List.mem_range'_1]
      omega
    rw [Nat.sub_eq_zero_of_le (by omega), List.replicate_zero, List.append_nil, first]
    exact found_range ((mem_freeFrom sized).mp inside).2.1 some_

theorem Took.sized (sized : p.Sized) (took : Took p q [])
    (next : 1 ≤ q.nextAllocedIndex ∧ q.nextAllocedIndex < q.canvasMax) :
    q.Sized := ⟨took.max ▸ sized.max, next⟩

theorem Took.unchanged (took : Took p q []) : q.canvasMap = p.canvasMap := by
  ext c
  simpa using took.map c

theorem Took.freeFrom (took : Took p q []) (start : Nat) : q.freeFrom start = p.freeFrom start := by
  simp [CanvasPool.freeFrom, took.max, took.unchanged]

structure Handed (p q : CanvasPool) (type : CanvasMapType) (canvas n : Nat) : Prop where
  took : Took p q (List.range' n type.num)
  value : canvas = canvasval type ((List.range' n type.num).map Int.ofNat)

theorem continueSet_try (sized : p.Sized) (owner : String) (some_ : type.num ≠ 0) (start tries : Nat) :
    (p.InOrder p.nextAllocedIndex type.num → ∃ q canvas n,
      allocCanvasContinueSet owner type start (tries + 1) p = (q, some canvas) ∧
        Handed p q type canvas n) ∧
    (¬p.InOrder p.nextAllocedIndex type.num → ∃ q, Took p q [] ∧
      q.nextAllocedIndex = (if start + 1 < u32 (p.canvasMax - type.value) then start + 1 else 1) ∧
      allocCanvasContinueSet owner type start (tries + 1) p =
        allocCanvasContinueSet owner type start tries q) := by
  obtain ⟨took, length⟩ := allocs_took sized.ready owner type.num
  rw [allocCanvasContinueSet]
  dsimp only
  by_cases group : found (allocs owner type.num p).2 = true
  · refine ⟨fun _ => ?_, fun out => absurd ((found_iff sized owner some_).mp group) out⟩
    obtain ⟨n, positive, shape⟩ := found_eq group
    rw [length] at shape
    rw [shape, positives_range positive] at took
    rw [if_pos group, shape]
    exact ⟨_, _, n, rfl, took, rfl⟩
  · refine ⟨fun inOrder => absurd ((found_iff sized owner some_).mpr inOrder) group, fun _ => ?_⟩
    rw [if_neg group]
    have back := took.back
    generalize ((allocs owner type.num p).2.filter fun c => 0 < c).map Int.toNat = got at back ⊢
    generalize got.foldl mapFreeCanvas (allocs owner type.num p).1 = freed at back ⊢
    have moved := back.moved (n := if start + 1 <
      u32 (freed.canvasMax - type.value) then start + 1 else 1)
      (by split_ifs <;> omega)
    exact ⟨_, moved, by simp only [back.max], rfl⟩

theorem value_small (some_ : type.num ≠ 0) : 0 ≤ type.value ∧ type.value ≤ 4 := by
  cases type <;> first | decide | exact absurd rfl some_

theorem retryStart_bounds (sized : p.Sized) (some_ : type.num ≠ 0) :
    1 ≤ p.retryStart type ∧ p.retryStart type < p.canvasMax := by
  have value := value_small some_
  have range := sized.next
  have limit : (u32 (p.canvasMax - type.value) : Int) = p.canvasMax - type.value := by
    have max := sized.max
    exact u32_eq (by omega) (by omega)
  unfold retryStart
  split_ifs <;> omega

theorem continueSet_retries (sized : p.Sized) (owner : String) (some_ : type.num ≠ 0)
    (start tries : Nat)
    (next : p.nextAllocedIndex = if start + 1 < u32 (p.canvasMax - type.value) then start + 1 else 1) :
    (p.InOrder p.nextAllocedIndex type.num → tries ≠ 0 → ∃ q canvas n,
      allocCanvasContinueSet owner type start tries p = (q, some canvas) ∧ Handed p q type canvas n) ∧
    (¬p.InOrder p.nextAllocedIndex type.num →
      ∃ q, Took p q [] ∧ allocCanvasContinueSet owner type start tries p = (q, none)) := by
  induction tries generalizing p with
  | zero => exact ⟨fun _ none_ => absurd rfl none_, fun _ => ⟨p, Took.none sized.next.1, rfl⟩⟩
  | succ tries ih =>
    obtain ⟨succeeds, fails⟩ := continueSet_try sized owner some_ start tries
    refine ⟨fun inOrder _ => succeeds inOrder, fun out => ?_⟩
    obtain ⟨q, took, same, again⟩ := fails out
    have stays : q.nextAllocedIndex = p.nextAllocedIndex := same.trans next.symm
    have qSized : q.Sized := Took.sized sized took (by rw [stays, took.max]; exact sized.next)
    have stillOut : ¬q.InOrder q.nextAllocedIndex type.num := by
      unfold InOrder
      rw [stays, took.freeFrom]
      exact out
    obtain ⟨r, rTook, done⟩ := (ih qSized (by rw [stays, took.max]; exact next)).2 stillOut
    exact ⟨r, took.append rTook, again.trans done⟩

def HasRun (p : CanvasPool) (k : Nat) : Prop :=
  ∃ n, 1 ≤ n ∧ n + k ≤ p.canvasMax ∧ ∀ i, n ≤ i → i < n + k → i ∉ p.canvasMap

def continueSet (p : CanvasPool) (owner : String) (type : CanvasMapType) : CanvasPool × Option Nat :=
  allocCanvasContinueSet owner type p.nextAllocedIndex (p.canvasMax + 1) p

-- Canvases in a row are handed out whenever there are enough, and nothing is taken otherwise.
structure Contiguous (p : CanvasPool) (owner : String) (type : CanvasMapType) : Prop where
  finds : p.HasRun type.num → (p.continueSet owner type).2.isSome = true
  gives : ∀ canvas ∈ (p.continueSet owner type).2, ∃ n,
    canvas = canvasval type ((List.range' n type.num).map Int.ofNat) ∧
    1 ≤ n ∧ n + type.num ≤ p.canvasMax ∧ (∀ i, n ≤ i → i < n + type.num → i ∉ p.canvasMap) ∧
    ∀ i, i ∈ (p.continueSet owner type).1.canvasMap ↔ i ∈ p.canvasMap ∨ n ≤ i ∧ i < n + type.num
  restores : (p.continueSet owner type).2 = none → (p.continueSet owner type).1.canvasMap = p.canvasMap

theorem continueSet_cases (sized : p.Sized) (owner : String) (some_ : type.num ≠ 0) :
    (p.InOrder p.nextAllocedIndex type.num ∨ p.InOrder (p.retryStart type) type.num → ∃ q canvas n,
      p.continueSet owner type = (q, some canvas) ∧ Handed p q type canvas n) ∧
    (¬(p.InOrder p.nextAllocedIndex type.num ∨ p.InOrder (p.retryStart type) type.num) →
      ∃ q, Took p q [] ∧ p.continueSet owner type = (q, none)) := by
  obtain ⟨succeeds, fails⟩ := continueSet_try sized owner some_ p.nextAllocedIndex p.canvasMax
  by_cases first : p.InOrder p.nextAllocedIndex type.num
  · exact ⟨fun _ => succeeds first, fun out => absurd (.inl first) out⟩
  · obtain ⟨q, took, next, again⟩ := fails first
    have start : q.nextAllocedIndex = p.retryStart type := next
    have qSized : q.Sized :=
      Took.sized sized took (by rw [start, took.max]; exact retryStart_bounds sized some_)
    have same : q.InOrder q.nextAllocedIndex type.num ↔ p.InOrder (p.retryStart type) type.num := by
      unfold InOrder
      rw [start, took.freeFrom]
    obtain ⟨found, none_⟩ := continueSet_retries qSized owner some_ p.nextAllocedIndex p.canvasMax
      (by rw [took.max]; exact next)
    constructor
    · intro either
      have tries : p.canvasMax ≠ 0 := by have := sized.next; omega
      obtain ⟨r, canvas, n, done, handed⟩ := found (same.mpr (either.resolve_left first)) tries
      exact ⟨r, canvas, n, again.trans done, took.append handed.took, handed.value⟩
    · intro out
      obtain ⟨r, rTook, done⟩ := none_ (same.not.mpr fun retry => out (.inr retry))
      exact ⟨r, took.append rTook, again.trans done⟩

theorem Handed.bounds {canvas n : Nat} (handed : Handed p q type canvas n) (some_ : type.num ≠ 0) :
    1 ≤ n ∧ n + type.num ≤ p.canvasMax ∧ ∀ i, n ≤ i → i < n + type.num → i ∉ p.canvasMap := by
  have fresh := handed.took.fresh
  simp only [List.mem_range'_1] at fresh
  have first := fresh n ⟨Nat.le_refl _, by omega⟩
  have last := fresh (n + type.num - 1) (by omega)
  exact ⟨first.2.1, by omega, fun i after before => (fresh i ⟨after, before⟩).1⟩

theorem contiguous_iff (sized : p.Sized) (owner : String) (some_ : type.num ≠ 0) :
    Contiguous p owner type ↔ (p.HasRun type.num →
      p.InOrder p.nextAllocedIndex type.num ∨ p.InOrder (p.retryStart type) type.num) := by
  obtain ⟨succeeds, fails⟩ := continueSet_cases sized owner some_
  constructor
  · intro contiguous run
    by_contra out
    obtain ⟨q, -, done⟩ := fails out
    have found := contiguous.finds run
    rw [done] at found
    cases found
  · intro found
    by_cases either : p.InOrder p.nextAllocedIndex type.num ∨ p.InOrder (p.retryStart type) type.num
    · obtain ⟨q, canvas, n, done, handed⟩ := succeeds either
      obtain ⟨positive, inside, free⟩ := handed.bounds some_
      constructor
      · simp [done]
      · rintro _ mem
        simp only [done, Option.mem_def, Option.some.injEq] at mem
        rw [done]
        exact ⟨n, mem ▸ handed.value, positive, inside, free,
          fun i => by rw [handed.took.map, List.mem_range'_1]⟩
      · simp [done]
    · obtain ⟨q, took, done⟩ := fails either
      constructor
      · exact fun run => absurd (found run) either
      · simp [done]
      · simp [done, took.unchanged]

theorem contiguous_of_config : Contiguous (config false) "decoder" .type4 :=
  (contiguous_iff ⟨.inr rfl, by decide⟩ "decoder" (by decide)).mpr fun _ => .inl ⟨128, by decide +kernel⟩

def fragmented : CanvasPool where
  canvasMax := 256
  nextAllocedIndex := 5
  canvasMap := (Finset.range 256).filter fun i => i ∉ [5, 7, 100, 101]

theorem free_run_not_found :
    fragmented.HasRun 2 ∧ (fragmented.continueSet "decoder" .nv21).2 = none ∧ ¬Contiguous fragmented "decoder" .nv21 := by
  have sized : fragmented.Sized := ⟨.inr rfl, by decide⟩
  have run : fragmented.HasRun 2 := by
    refine ⟨100, by decide, by decide, fun i after before => ?_⟩
    have cases_ : i = 100 ∨ i = 101 := by omega
    rcases cases_ with rfl | rfl <;> simp [fragmented]
  have apart (first second n : Nat) (gap : second ≠ first + 1) : [first, second] ≠ List.range' n 2 := by
    intro same
    simp [List.range'_succ] at same
    omega
  have out : ¬(fragmented.InOrder 5 2 ∨ fragmented.InOrder (fragmented.retryStart .nv21) 2) := by
    have five : (fragmented.freeFrom 5).take 2 = [5, 7] := by decide +kernel
    have six : (fragmented.freeFrom (fragmented.retryStart .nv21)).take 2 = [7, 100] := by
      decide +kernel
    rintro (⟨n, same⟩ | ⟨n, same⟩)
    · exact apart 5 7 n (by decide) (five.symm.trans same)
    · exact apart 7 100 n (by decide) (six.symm.trans same)
  obtain ⟨q, -, done⟩ := (@continueSet_cases _ .nv21 sized "decoder" (by decide)).2 out
  have none_ : (fragmented.continueSet "decoder" .nv21).2 = none := by rw [done]
  refine ⟨run, none_, fun contiguous => ?_⟩
  have found := contiguous.finds run
  rw [none_] at found
  cases found

end CanvasPool

end UnionpiTiger.Canvas
