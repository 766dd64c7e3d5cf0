import Mathlib.Algebra.Order.BigOperators.Group.Finset
import UnionpiTiger.Boxes.Box
import UnionpiTiger.Lib.Run

set_option autoImplicit false

namespace UnionpiTiger.Boxes

open Lib

variable {A : Type} {n : Nat}

@[simp] theorem one_some (a : A) : one ((some a).isSome = true) = 1 := if_pos rfl

@[simp] theorem one_none : one ((none : Option A).isSome = true) = 0 := if_neg Bool.false_ne_true

namespace Box

variable {box : Box A n} {i : Fin n} {entry : Option A}

theorem mem_occupied : i ∈ box.occupied ↔ (box.list i).isSome = true := mem_entries

theorem occupied_put (box : Box A n) (i : Fin n) (entry : Option A) :
    ((box.put i entry).occupied.card : Int) =
    box.occupied.card - one ((box.list i).isSome = true) + one (entry.isSome = true) :=
  card_entries_update box.list (fun entry => entry.isSome = true) i entry

theorem counted_put (counted : box.Counted) (i : Fin n) (entry : Option A) (cnt : Int) :
    Counted { box.put i entry with boxRefCnt := box.boxRefCnt + cnt } ↔
      cnt = one (entry.isSome = true) - one ((box.list i).isSome = true) := by
  have after := occupied_put box i entry
  have before : box.boxRefCnt = box.occupied.card := counted
  change box.boxRefCnt + cnt = (box.put i entry).occupied.card ↔ _
  omega

theorem occupied_eq_empty : box.occupied = ∅ ↔ ∀ i, box.list i = none := by
  rw [Finset.eq_empty_iff_forall_notMem]
  refine forall_congr' fun i => ?_
  rw [mem_occupied, Option.not_isSome_iff_eq_none]

theorem release_iff (counted : box.Counted) (live : box.live = true) :
    box.tryToRelease.live = false ↔ box.occupied = ∅ := by
  unfold tryToRelease
  by_cases empty : box.occupied = ∅
  · have none_ : box.boxRefCnt = 0 := by
      unfold Counted at counted
      rw [counted, empty]
      rfl
    rw [if_neg (not_not.mpr none_), if_pos empty]
    exact iff_of_true rfl empty
  · rw [if_neg empty, ite_self, live]
    exact iff_of_false Bool.noConfusion empty

theorem release_same (box : Box A n) :
    box.tryToRelease.list = box.list ∧ box.tryToRelease.boxRefCnt = box.boxRefCnt := by
  unfold tryToRelease
  split
  · exact ⟨rfl, rfl⟩
  split <;> exact ⟨rfl, rfl⟩

theorem counted_release (counted : box.Counted) : box.tryToRelease.Counted := by
  unfold Counted occupied at counted ⊢
  rw [(release_same box).1, (release_same box).2]
  exact counted

end Box

namespace BmmuBox

variable {box : BmmuBox n} {i : Fin n} {act : BmmuAct}

structure Exact (box : BmmuBox n) (act : BmmuAct) : Prop where
  counted : (box.step act).Counted
  totalSize : (box.step act).totalSize = (box.step act).sizes
  freed : ∀ idx i, act = .freeIdx idx → index n idx = some i → box.live = true →
    (box.step act).list i = none
  released : act = .tryToRelease → box.live = true → ((box.step act).live = false ↔ box.occupied = ∅)

def Fits (box : BmmuBox n) : BmmuAct → Prop
  | .allocIdx idx size aligned2n keeped got => box.live = true → ∀ i, index n idx = some i →
    (∀ mm, box.list i = some mm → box.unfit mm size aligned2n keeped = false) ∧
      ∀ mm, box.list i = none → got = some mm → box.sizes + mm.bufferSize < 2147483648
  | .freeIdx _ | .tryToRelease => True

structure Sound (box : BmmuBox n) : Prop where
  counted : box.Counted
  totalSize : box.totalSize = box.sizes
  int : box.sizes < 2147483648

theorem sizes_put (box : BmmuBox n) (i : Fin n) (entry : Option Mm) (after : BmmuBox n)
    (list : after.list = Function.update box.list i entry) :
    (after.sizes : Int) = box.sizes - (box.list i).elim 0 Mm.bufferSize +
      entry.elim 0 Mm.bufferSize := by
  have sum := sum_table_update box.list (fun entry =>
    ((entry.elim 0 Mm.bufferSize : Nat) : Int)) i entry
  unfold sizes
  rw [list]
  push_cast
  exact sum

theorem bufferSize_le {mm : Mm} (here : box.list i = some mm) : mm.bufferSize ≤ box.sizes := by
  have le : (box.list i).elim 0 Mm.bufferSize ≤ box.sizes :=
    Finset.single_le_sum (f := fun i => (box.list i).elim 0 Mm.bufferSize) (fun _ _ => Nat.zero_le _)
      (Finset.mem_univ i)
  rw [here] at le
  exact le

theorem Sound.unchanged (sound : box.Sound) (same : box.step act = box)
    (freed : ∀ idx i, act = .freeIdx idx → index n idx = some i → box.live = true → box.list i = none)
    (released : act = .tryToRelease → box.live = true → (box.live = false ↔ box.occupied = ∅)) :
    (box.step act).Sound ∧ box.Exact act := by
  refine ⟨same.symm ▸ sound, ?_⟩
  exact
    { counted := same.symm ▸ sound.counted
      totalSize := same.symm ▸ sound.totalSize
      freed := same.symm ▸ freed
      released := same.symm ▸ released }

theorem Sound.replaced (sound : box.Sound) {mm : Mm} (here : box.list i = some mm)
    {size aligned2n : Int} {keeped : Bool} (unfit : box.unfit mm size aligned2n keeped = true)
    (got : Option Mm) :
    ¬ (box.allocIdx i size aligned2n keeped got).Counted := by
  have cleared : box.clear i size aligned2n keeped = box.drop i mm := by
    unfold clear
    rw [here]
    exact if_pos unfit
  have empty : (box.drop i mm).list i = none := Function.update_self ..
  unfold allocIdx
  rw [cleared]
  dsimp only
  rw [empty]
  cases got with
  | none =>
    intro counted
    have wrong := (Box.counted_put sound.counted i none 0).mp (by
      rw [Int.add_zero]
      exact counted)
    rw [here, one_none, one_some] at wrong
    cases wrong
  | some new =>
    intro counted
    have wrong := (Box.counted_put sound.counted i (some new) 1).mp (by
      have list : Function.update (Function.update box.list i none) i (some new) =
          Function.update box.list i (some new) :=
        Function.update_idem ..
      unfold Box.Counted Box.occupied Box.put
      rw [← list]
      exact counted)
    rw [here, one_some, one_some] at wrong
    cases wrong

theorem Sound.fills (sound : box.Sound) (empty : box.list i = none) (mm : Mm) :
    (box.take i mm).Counted ∧ (box.take i mm).sizes = box.sizes + mm.bufferSize := by
  constructor
  · refine (Box.counted_put sound.counted i (some mm) 1).mpr ?_
    rw [empty, one_some, one_none]
    rfl
  · have sizes := sizes_put box i (some mm) (box.take i mm) rfl
    rw [empty] at sizes
    change ((box.take i mm).sizes : Int) = box.sizes - 0 + mm.bufferSize at sizes
    omega

theorem allocIdx_of_fit {mm : Mm} (here : box.list i = some mm) {size aligned2n : Int} {keeped : Bool}
    (fit : box.unfit mm size aligned2n keeped = false) (got : Option Mm) :
    box.allocIdx i size aligned2n keeped got = box := by
  have cleared : box.clear i size aligned2n keeped = box := by
    unfold clear
    rw [here]
    exact if_neg (by rw [fit]; exact Bool.false_ne_true)
  unfold allocIdx
  rw [cleared]
  dsimp only
  rw [here]

theorem allocIdx_of_empty (empty : box.list i = none) (size aligned2n : Int) (keeped : Bool)
    (got : Option Mm) :
    box.allocIdx i size aligned2n keeped got = got.elim box (box.take i) := by
  have cleared : box.clear i size aligned2n keeped = box := by
    unfold clear
    rw [empty]
  unfold allocIdx
  rw [cleared]
  dsimp only
  rw [empty]
  cases got <;> rfl

theorem step_of_dead (dead : box.live = false) (act : BmmuAct) : box.step act = box :=
  if_neg (by rw [dead]; exact Bool.false_ne_true)

theorem step_allocIdx (live : box.live = true) (idx size aligned2n : Int) (keeped : Bool)
    (got : Option Mm) :
    box.step (.allocIdx idx size aligned2n keeped got) =
      (index n idx).elim box fun i => box.allocIdx i size aligned2n keeped got := if_pos live

theorem step_freeIdx (live : box.live = true) (idx : Int) :
    box.step (.freeIdx idx) = (index n idx).elim box box.freeIdx := if_pos live

theorem step_tryToRelease (live : box.live = true) :
    box.step .tryToRelease = { box with toBox := box.tryToRelease } := if_pos live

theorem Sound.allocIdx (sound : box.Sound) (size aligned2n : Int) (keeped : Bool) (got : Option Mm) :
    ((box.allocIdx i size aligned2n keeped got).Sound ↔
      (box.allocIdx i size aligned2n keeped got).Counted ∧
        (box.allocIdx i size aligned2n keeped got).totalSize =
          (box.allocIdx i size aligned2n keeped got).sizes) ∧
      ((box.allocIdx i size aligned2n keeped got).Sound ↔
        (∀ mm, box.list i = some mm → box.unfit mm size aligned2n keeped = false) ∧
          ∀ mm, box.list i = none → got = some mm → box.sizes + mm.bufferSize < 2147483648) := by
  cases here : box.list i with
  | some mm =>
    cases unfit : box.unfit mm size aligned2n keeped with
    | true =>
      have wrong := sound.replaced here unfit got
      refine ⟨iff_of_false (fun sound => wrong sound.counted) (fun right => wrong right.1),
        iff_of_false (fun sound => wrong sound.counted) fun fits => ?_⟩
      have fit := fits.1 mm rfl
      rw [unfit] at fit
      cases fit
    | false =>
      rw [allocIdx_of_fit here unfit]
      refine ⟨iff_of_true sound ⟨sound.counted, sound.totalSize⟩,
        iff_of_true sound ⟨fun other same => ?_, nofun⟩⟩
      cases same
      exact unfit
  | none =>
    rw [allocIdx_of_empty here]
    cases got with
    | none => exact ⟨iff_of_true sound ⟨sound.counted, sound.totalSize⟩,
        iff_of_true sound ⟨nofun, nofun⟩⟩
    | some mm =>
      obtain ⟨counted, sizes⟩ := sound.fills here mm
      have total : (box.take i mm).totalSize = s32 (box.sizes + mm.bufferSize) := by
        change s32 (box.totalSize + mm.bufferSize) = _
        rw [sound.totalSize]
      have range : ((box.take i mm).totalSize = (box.take i mm).sizes ↔
          box.sizes + mm.bufferSize < 2147483648) := by
        rw [total, sizes]
        have below := s32_lt (box.sizes + mm.bufferSize)
        constructor
        · intro same
          push_cast at same
          omega
        · intro fits
          push_cast
          exact s32_eq (by omega) (by omega)
      change ((box.take i mm).Sound ↔ (box.take i mm).Counted ∧ _) ∧ ((box.take i mm).Sound ↔ _)
      have exact_ : (box.take i mm).Sound ↔ box.sizes + mm.bufferSize < 2147483648 :=
        ⟨fun sound => range.mp sound.totalSize, fun fits =>
          { counted, totalSize := range.mpr fits, int := sizes ▸ fits }⟩
      refine ⟨exact_.trans ⟨fun fits => ⟨counted, range.mpr fits⟩, fun right => range.mp right.2⟩,
        exact_.trans ⟨fun fits => ⟨nofun, fun other _ same => ?_⟩, fun fits => fits.2 mm rfl rfl⟩⟩
      cases same
      exact fits

theorem Sound.freeIdx (sound : box.Sound) (i : Fin n) :
    (box.freeIdx i).Sound ∧ (box.freeIdx i).list i = none := by
  unfold BmmuBox.freeIdx
  split
  next mm here =>
    have counted : (box.free i).Counted := (Box.counted_put sound.counted i none (-1)).mpr (by
      rw [here, one_some, one_none]
      rfl)
    let after : BmmuBox n :=
      { box with toBox := box.free i, totalSize := s32 (box.totalSize - mm.bufferSize) }
    have sizes : (after.sizes : Int) = box.sizes - mm.bufferSize := by
      have sizes := sizes_put box i none after rfl
      rw [here] at sizes
      exact sizes.trans (Int.add_zero _)
    have int := sound.int
    have le := bufferSize_le here
    have total : after.totalSize = after.sizes := by
      change s32 (box.totalSize - mm.bufferSize) = _
      rw [sound.totalSize, sizes]
      exact s32_eq (by omega) (by omega)
    have small : after.sizes < 2147483648 := by omega
    exact ⟨{ counted, totalSize := total, int := small }, Function.update_self ..⟩
  next empty => exact ⟨sound, empty⟩

theorem Sound.tryToRelease (sound : box.Sound) : Sound { box with toBox := box.tryToRelease } where
  counted := Box.counted_release sound.counted
  totalSize := by
    unfold sizes
    rw [(Box.release_same box.toBox).1]
    exact sound.totalSize
  int := by
    unfold sizes
    rw [(Box.release_same box.toBox).1]
    exact sound.int

theorem Sound.step (sound : box.Sound) (act : BmmuAct) :
    (box.Exact act ↔ box.Fits act) ∧ (box.Exact act → (box.step act).Sound) := by
  cases live : box.live with
  | false =>
    have same := step_of_dead live act
    have right := sound.unchanged same (fun _ _ _ _ alive => by rw [live] at alive; cases alive)
      (fun _ alive => by rw [live] at alive; cases alive)
    refine ⟨iff_of_true right.2 ?_, fun _ => right.1⟩
    cases act with
    | allocIdx => exact fun alive => by rw [live] at alive; cases alive
    | freeIdx | tryToRelease => trivial
  | true =>
    cases act with
    | allocIdx idx size aligned2n keeped got =>
      have step := step_allocIdx live idx size aligned2n keeped got
      cases at_ : index n idx with
      | none =>
        rw [at_] at step
        have right := sound.unchanged step nofun nofun
        refine ⟨iff_of_true right.2 fun _ i other => ?_, fun _ => right.1⟩
        rw [at_] at other
        cases other
      | some i =>
        rw [at_] at step
        have step : box.step (.allocIdx idx size aligned2n keeped got) =
            box.allocIdx i size aligned2n keeped got := step
        obtain ⟨right, fits⟩ := sound.allocIdx (i := i) size aligned2n keeped got
        have exact_ : box.Exact (.allocIdx idx size aligned2n keeped got) ↔
            (box.allocIdx i size aligned2n keeped got).Sound := by
          rw [right]
          constructor
          · rintro ⟨counted, total, -, -⟩
            rw [step] at counted total
            exact ⟨counted, total⟩
          · rintro ⟨counted, total⟩
            exact { counted := step ▸ counted, totalSize := step ▸ total, freed := nofun, released := nofun }
        refine ⟨(exact_.trans fits).trans ⟨fun fits _ j other => ?_, fun fits => fits live i at_⟩,
          fun exact' => ?_⟩
        · rw [at_] at other
          cases other
          exact fits
        · rw [step]
          exact exact_.mp exact'
    | freeIdx idx =>
      have step := step_freeIdx live idx
      cases at_ : index n idx with
      | none =>
        rw [at_] at step
        have right := sound.unchanged step (fun _ i same other =>
          by cases same; rw [at_] at other; cases other) nofun
        exact ⟨iff_of_true right.2 trivial, fun _ => right.1⟩
      | some i =>
        rw [at_] at step
        have step : box.step (.freeIdx idx) = box.freeIdx i := step
        obtain ⟨after, empty⟩ := sound.freeIdx i
        refine ⟨iff_of_true ?_ trivial, fun _ => step ▸ after⟩
        exact
          { counted := step ▸ after.counted
            totalSize := step ▸ after.totalSize
            freed := fun _ j same other _ => by
              cases same
              rw [at_] at other
              cases other
              rw [step]
              exact empty
            released := nofun }
    | tryToRelease =>
      have step := step_tryToRelease live
      have after := sound.tryToRelease
      refine ⟨iff_of_true ?_ trivial, fun _ => step ▸ after⟩
      exact
        { counted := step ▸ after.counted
          totalSize := step ▸ after.totalSize
          freed := nofun
          released := fun _ _ => by
            rw [step]
            exact Box.release_iff sound.counted live }

end BmmuBox

namespace MmuBox

variable {box : MmuBox n} {i : Fin n} {act : MmuAct}

structure Exact (box : MmuBox n) (act : MmuAct) : Prop where
  counted : (step box act).Counted
  freed : ∀ idx i, act = .freeIdx idx → index n idx = some i → box.live = true →
    (step box act).list i = none
  released : act = .tryToRelease → box.live = true → ((step box act).live = false ↔ box.occupied = ∅)

def Fits (box : MmuBox n) : MmuAct → Prop
  | .allocIdx idx numPages _ _ => box.live = true → ∀ i sc, index n idx = some i →
      box.list i = some sc →
    numPages ≤ sc.pageMaxCnt
  | .freeIdx idx => box.live = true → ∀ i sc, index n idx = some i → box.list i = some sc →
      0 < sc.pageCnt
  | .freeIdxTail .. | .pages .. | .tryToRelease => True

theorem counted_setCnt (counted : box.Counted) (i : Fin n) (cnt : Int) :
    (setCnt box i cnt).Counted := by
  have put := (Box.counted_put counted i ((box.list i).map fun sc =>
    { sc with pageCnt := cnt }) 0).mpr (by
    cases box.list i <;> rfl)
  rw [Int.add_zero] at put
  exact put

theorem counted_allocIdx (counted : box.Counted) (i : Fin n) (numPages cnt : Int) (got : Option Sc) :
    (allocIdx box i numPages cnt got).Counted ↔ ∀ sc, box.list i = some sc →
      numPages ≤ sc.pageMaxCnt := by
  unfold allocIdx reuse
  cases here : box.list i with
  | none =>
    dsimp only
    rw [here]
    cases got with
    | none => exact iff_of_true counted nofun
    | some sc =>
      refine iff_of_true ((Box.counted_put counted i (some sc) 1).mpr ?_) nofun
      rw [here, one_some, one_none]
      rfl
  | some sc =>
    dsimp only
    by_cases fits : sc.pageMaxCnt ≥ numPages
    · have kept : (setCnt box i cnt).list i = some { sc with pageCnt := cnt } := by
        change Function.update box.list i ((box.list i).map _) i = _
        rw [Function.update_self, here]
        rfl
      rw [if_pos fits, kept]
      refine iff_of_true (counted_setCnt counted i cnt) fun other same => ?_
      cases same
      exact fits
    · have empty : (box.put i none).list i = none := Function.update_self ..
      rw [if_neg fits, empty]
      refine iff_of_false (fun wrong => ?_) fun all => fits (all sc rfl)
      cases got with
      | none =>
        have wrong := (Box.counted_put counted i none 0).mp (by
          rw [Int.add_zero]
          exact wrong)
        rw [here, one_none, one_some] at wrong
        cases wrong
      | some new =>
        have wrong := (Box.counted_put counted i (some new) 1).mp (by
          have list : Function.update (Function.update box.list i none) i (some new) =
              Function.update box.list i (some new) := Function.update_idem ..
          unfold Box.Counted Box.occupied Box.put
          rw [← list]
          exact wrong)
        rw [here, one_some, one_some] at wrong
        cases wrong

theorem counted_freeIdxTail (counted : box.Counted) (i : Fin n) (start cnt : Int) :
    (freeIdxTail box i start cnt).Counted := by
  unfold freeIdxTail
  split
  · split
    · exact counted_setCnt counted i cnt
    · exact counted
  · exact counted

theorem counted_freeIdx (counted : box.Counted) (i : Fin n) : (freeIdx box i).Counted := by
  unfold freeIdx
  split
  next sc here =>
    split
    · refine (Box.counted_put counted i none (-1)).mpr ?_
      rw [here, one_some, one_none]
      rfl
    · exact counted
  · exact counted

theorem freed_iff (box : MmuBox n) (i : Fin n) :
    (freeIdx box i).list i = none ↔ ∀ sc, box.list i = some sc → 0 < sc.pageCnt := by
  unfold freeIdx
  cases here : box.list i with
  | none => exact iff_of_true here nofun
  | some sc =>
    dsimp only
    by_cases some_ : sc.pageCnt > 0
    · rw [if_pos some_]
      refine iff_of_true (Function.update_self ..) fun other same => ?_
      cases same
      exact some_
    · rw [if_neg some_, here]
      exact iff_of_false nofun fun all => some_ (all sc rfl)

theorem step_exact (counted : box.Counted) (act : MmuAct) :
    (Exact box act ↔ Fits box act) ∧ (Exact box act → (step box act).Counted) := by
  refine ⟨?_, Exact.counted⟩
  cases live : box.live with
  | false =>
    have same : step box act = box := if_neg (by rw [live]; exact Bool.false_ne_true)
    refine iff_of_true ?_ ?_
    · exact
        { counted := same.symm ▸ counted
          freed := fun _ _ _ _ alive => by rw [live] at alive; cases alive
          released := fun _ alive => by rw [live] at alive; cases alive }
    · cases act with
      | allocIdx | freeIdx => exact fun alive => by rw [live] at alive; cases alive
      | freeIdxTail | pages | tryToRelease => trivial
  | true =>
    have plain : (step box act).Counted → (∀ idx, act ≠ .freeIdx idx) → act ≠ .tryToRelease →
        Exact box act :=
      fun after free release =>
        { counted := after, freed := fun idx _ same => absurd same (free idx),
          released := fun same => absurd same release }
    cases act with
    | allocIdx idx numPages cnt got =>
      have step_ : step box (.allocIdx idx numPages cnt got) =
        (index n idx).elim box fun i => allocIdx box i numPages cnt got := if_pos live
      cases at_ : index n idx with
      | none =>
        rw [at_] at step_
        refine iff_of_true (plain (step_.symm ▸ counted) nofun nofun) fun _ i sc other => ?_
        rw [at_] at other
        cases other
      | some i =>
        rw [at_] at step_
        have step_ : step box (.allocIdx idx numPages cnt got) =
            allocIdx box i numPages cnt got := step_
        have after := counted_allocIdx counted i numPages cnt got
        constructor
        · intro exact_ _ j sc other here
          rw [at_] at other
          cases other
          exact after.mp (step_ ▸ exact_.counted) sc here
        · exact fun fits => plain (step_ ▸ after.mpr fun sc here => fits live i sc at_ here) nofun nofun
    | freeIdx idx =>
      have step_ : step box (.freeIdx idx) = (index n idx).elim box (freeIdx box) := if_pos live
      cases at_ : index n idx with
      | none =>
        rw [at_] at step_
        refine iff_of_true ?_ fun _ i sc other => ?_
        · exact
            { counted := step_.symm ▸ counted
              freed := fun _ i same other => by cases same; rw [at_] at other; cases other
              released := nofun }
        · rw [at_] at other
          cases other
      | some i =>
        rw [at_] at step_
        have step_ : step box (.freeIdx idx) = freeIdx box i := step_
        have freed := freed_iff box i
        rw [← step_] at freed
        constructor
        · intro exact_ _ j sc other here
          rw [at_] at other
          cases other
          exact freed.mp (exact_.freed idx i rfl at_ live) sc here
        · intro fits
          exact
            { counted := step_ ▸ counted_freeIdx counted i
              freed := fun _ j same other _ => by
                cases same
                rw [at_] at other
                cases other
                exact freed.mpr fun sc here => fits live i sc at_ here
              released := nofun }
    | freeIdxTail idx start cnt =>
      have step_ : step box (.freeIdxTail idx start cnt) =
        (index n idx).elim box fun i => freeIdxTail box i start cnt := if_pos live
      refine iff_of_true (plain ?_ nofun nofun) trivial
      rw [step_]
      cases index n idx with
      | none => exact counted
      | some i => exact counted_freeIdxTail counted i start cnt
    | pages idx cnt =>
      have step_ : step box (.pages idx cnt) = (index n idx).elim box fun i =>
          setCnt box i cnt := if_pos live
      refine iff_of_true (plain ?_ nofun nofun) trivial
      rw [step_]
      cases index n idx with
      | none => exact counted
      | some i => exact counted_setCnt counted i cnt
    | tryToRelease =>
      have step_ : step box .tryToRelease = box.tryToRelease := if_pos live
      refine iff_of_true ?_ trivial
      exact
        { counted := step_ ▸ Box.counted_release counted
          freed := nofun
          released := fun _ _ => by
            rw [step_]
            exact Box.release_iff counted live }

end MmuBox

theorem boxes_counted_exactly (n m : Nat) (changeSizeOnNeedSmaller : Bool) (align2n : Int)
    (acts : List BmmuAct) (mmuActs : List MmuAct) :
    (Along BmmuBox.step BmmuBox.Exact ({ changeSizeOnNeedSmaller, align2n } : BmmuBox n) acts ↔
      Along BmmuBox.step BmmuBox.Fits ({ changeSizeOnNeedSmaller, align2n } : BmmuBox n) acts) ∧
      (Along MmuBox.step MmuBox.Exact ({} : MmuBox m) mmuActs ↔
        Along MmuBox.step MmuBox.Fits ({} : MmuBox m) mmuActs) := by
  have empty : ∀ {A : Type} {n : Nat}, ({} : Box A n).Counted := fun {A n} => by
    have none_ : ({} : Box A n).occupied = ∅ := Box.occupied_eq_empty.mpr fun _ => rfl
    unfold Box.Counted
    rw [none_]
    rfl
  constructor
  · refine along_iff_along BmmuBox.step (fun _ _ => True) BmmuBox.Exact BmmuBox.Fits BmmuBox.Sound
      (fun box act sound _ => (sound.step act).1) (fun box act sound _ => (sound.step act).2) _ ?_ acts
      ((along_iff_forall BmmuBox.step (fun _ => True) _ acts).mpr fun _ _ => trivial)
    have none_ : ({ changeSizeOnNeedSmaller, align2n } : BmmuBox n).sizes = 0 :=
      Finset.sum_eq_zero fun _ _ => rfl
    exact { counted := empty, totalSize := by rw [none_]; rfl, int := by rw [none_]; decide }
  · exact along_iff_along MmuBox.step (fun _ _ => True) MmuBox.Exact MmuBox.Fits Box.Counted
      (fun box act counted _ => (MmuBox.step_exact counted act).1)
      (fun box act counted _ => (MmuBox.step_exact counted act).2) _ empty mmuActs
      ((along_iff_forall MmuBox.step (fun _ => True) _ mmuActs).mpr fun _ _ => trivial)

theorem boxes_miscounted :
    ¬ Along BmmuBox.step BmmuBox.Exact ({} : BmmuBox 1)
      [.allocIdx 0 4096 (-1) false (some ⟨1, 4096, 0⟩),
        .allocIdx 0 8192 (-1) false (some ⟨2, 8192, 4096⟩)] ∧
    ¬ Along MmuBox.step MmuBox.Exact ({} : MmuBox 1) [.allocIdx 0 8 8 (some ⟨72, 8⟩),
      .allocIdx 0 80 80 none] ∧
    ¬ Along MmuBox.step MmuBox.Exact ({} : MmuBox 1)
      [.allocIdx 0 8 8 (some ⟨72, 8⟩), .freeIdxTail 0 0 0, .freeIdx 0] := by
  refine ⟨fun along => ?_, fun along => ?_, fun along => ?_⟩
  · have counted := along.2.1.counted
    revert counted
    unfold Box.Counted
    decide +kernel
  · have counted := along.2.1.counted
    revert counted
    unfold Box.Counted
    decide +kernel
  · have freed := along.2.2.1.freed 0 0 rfl rfl rfl
    revert freed
    decide +kernel

end UnionpiTiger.Boxes
