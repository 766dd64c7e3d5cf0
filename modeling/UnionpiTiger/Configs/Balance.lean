import UnionpiTiger.Configs.Refs
import UnionpiTiger.Lib.Run

set_option autoImplicit false

namespace UnionpiTiger.Configs

namespace Tree

variable {t : Tree}

def itemWay (t : Tree) (start : Option Nat) (path : Str) : Way :=
  t.follow (start.getD rootNode) (if (components path).2 then (components path).1.dropLast
    else (components path).1)

def usable (t : Tree) (x : Nat) (path : Str) (set : Bool) : Bool :=
  t.permits x set && t.hasConfig x ((components path).1.getLastD [])

def UseFits (t : Tree) (start : Option Nat) (path : Str) (set : Bool) : Prop :=
  let way := t.itemWay start path
  if way.all = false then way.refusal = none
  else if (components path).2 = false then way.taken = []
  else way.taken ≠ [] ∧ (start ≠ none ∨ t.usable way.last path set = false)

def useDelta (t : Tree) (start : Option Nat) (path : Str) (set : Bool) : Nat → BitVec 32 :=
  let way := t.itemWay start path
  if way.all = false then tally way.refusal.toList
  else if (components path).2 = false then tally way.taken
  else if way.taken ≠ [] ∧ (start ≠ none ∨ t.usable way.last path set = false) then 0
  else -tally (t.ups (start.getD rootNode))

theorem Wf.give_back (wf : t.Wf) {way : Way} {x : Nat} (goes : way.From t x) (moved : way.taken ≠ []) :
    (t.shift way.counted).putNode (some way.last) true (some x) =
      t.shift (tally way.refusal.toList) := by
  have back : tally way.taken.reverse = tally way.taken := tally_perm (List.reverse_perm _)
  rw [putNode_eq, putFrom_shift, goes.putFrom_start wf moved, shift_shift, back]
  unfold Way.counted
  rw [add_comm (tally way.taken), add_assoc, add_neg_cancel, add_zero]

theorem Wf.give_start (wf : t.Wf) {way : Way} {x : Nat} (goes : way.From t x)
    (still : way.taken = []) (clear : way.refusal = none) :
    (t.shift way.counted).putNode (some way.last) true (some x) = t.shift (-tally (t.ups x)) := by
  rw [putNode_eq, putFrom_shift, goes.still wf still, wf.putFrom_self, shift_shift]
  unfold Way.counted
  rw [still, clear, tally_nil, Option.toList_none, tally_nil, add_zero, zero_add]

theorem Wf.give_all (wf : t.Wf) {way : Way} {x : Nat} (goes : way.From t x)
    (clear : way.refusal = none) :
    (t.shift way.counted).putNode (some way.last) true none = t.shift (-tally (t.ups x)) := by
  have back : tally way.taken.reverse = tally way.taken := tally_perm (List.reverse_perm _)
  rw [putNode_eq, putFrom_shift, wf.putFrom_none, goes.ups, shift_shift, tally_append, back]
  unfold Way.counted
  rw [clear, Option.toList_none, tally_nil, add_zero, neg_add, ← add_assoc, add_neg_cancel, zero_add]

theorem held_once (t : Tree) (x : Nat) (stop : Option Nat) :
    (t.addRef x 1).putNode (some x) false stop = t := by
  change (t.addRef x 1).addRef x (-1) = t
  rw [addRef_one, addRef_neg, shift_shift, add_neg_cancel, shift_zero]

theorem Wf.useConfig_eq (wf : t.Wf) (start : Option Nat) (path : Str) (set : Bool) :
    t.useConfig start (some path) set = t.shift (t.useDelta start path set) := by
  have goes : (t.itemWay start path).From t (start.getD rootNode) := wf.follow_from ..
  have down : t.descend (start.getD rootNode)
      (if (components path).2 then (components path).1.dropLast else (components path).1) =
        (t.shift (t.itemWay start path).counted, (t.itemWay start path).last,
          (t.itemWay start path).all) :=
    wf.descend_eq ..
  unfold useConfig getNodePathConfig useDelta
  dsimp only
  rw [down]
  generalize t.itemWay start path = way at goes
  cases all : way.all with
  | false =>
    dsimp only
    rw [if_pos rfl]
    by_cases still : way.last = start.getD rootNode
    · rw [if_neg (not_not.mpr still)]
      unfold Way.counted
      rw [(goes.still_iff wf).mp still, tally_nil, zero_add]
    · rw [if_pos still]
      exact wf.give_back goes fun none => still (goes.still wf none)
  | true =>
    have clear := goes.clear all
    dsimp only
    rw [if_neg (Bool.true_eq_false.mp)]
    by_cases read : (components path).2 = true
    · have reads : ¬ (components path).2 = false := by simp [read]
      rw [if_neg (not_not.mpr read), if_neg reads]
      have same : ((t.shift way.counted).permits way.last set &&
          (t.shift way.counted).hasConfig way.last ((components path).1.getLastD [])) =
            t.usable way.last path set := rfl
      rw [same]
      cases usable : t.usable way.last path set with
      | false =>
        rw [if_neg Bool.false_ne_true]
        dsimp only
        by_cases moved : way.taken = []
        · rw [if_neg fun both => both.1 moved]
          exact wf.give_start goes moved clear
        · rw [if_pos ⟨moved, .inr rfl⟩, wf.give_back goes moved, clear]
          rfl
      | true =>
        rw [if_pos rfl]
        dsimp only
        rw [held_once]
        cases start with
        | none =>
          rw [if_neg (by simp)]
          exact wf.give_all goes clear
        | some x =>
          by_cases moved : way.taken = []
          · rw [if_neg fun both => both.1 moved]
            exact wf.give_start goes moved clear
          · rw [if_pos ⟨moved, .inl (by simp)⟩]
            exact (wf.give_back goes moved).trans (by rw [clear]; rfl)
    · rw [if_pos read, if_pos (Bool.eq_false_of_not_eq_true read)]
      dsimp only
      unfold Way.counted
      rw [clear, Option.toList_none, tally_nil, add_zero]

theorem Wf.tally_ups (wf : t.Wf) (x : Nat) : -tally (t.ups x) ≠ 0 := by
  intro none
  have empty := (tally_eq_zero (wf.ups_nodup x)).mp (neg_eq_zero.mp none)
  rw [wf.ups_eq] at empty
  cases empty

theorem Wf.useDelta_zero (wf : t.Wf) (start : Option Nat) (path : Str) (set : Bool) :
    t.useDelta start path set = 0 ↔ t.UseFits start path set := by
  have goes : (t.itemWay start path).From t (start.getD rootNode) := wf.follow_from ..
  unfold useDelta UseFits
  generalize t.itemWay start path = way at goes
  have nodup := (goes.nodup wf).1
  dsimp only
  split
  next =>
    rw [tally_eq_zero nodup.of_append_right]
    cases way.refusal <;> simp
  next =>
    split
    next => exact tally_eq_zero nodup.of_append_left
    next =>
      split
      next fits => exact iff_of_true rfl fits
      next unfit => exact iff_of_false (wf.tally_ups _) unfit

theorem Wf.ups_root (wf : t.Wf) : t.ups rootNode = [rootNode] := by
  rw [wf.ups_eq, wf.root]
  rfl

theorem Wf.useDelta_root (wf : t.Wf) (start : Option Nat) (path : Str) (set : Bool)
    (reach : rootNode ∈ t.ups (start.getD rootNode)) :
    t.useDelta start path set rootNode = 0 ∨ t.useDelta start path set rootNode = -1 := by
  have goes : (t.itemWay start path).From t (start.getD rootNode) := wf.follow_from ..
  unfold useDelta
  generalize t.itemWay start path = way at goes
  have apart : ∀ y ∈ way.taken ++ way.refusal.toList, y ≠ rootNode := fun y there same =>
    (goes.nodup wf).2 y there (by rw [same]; exact reach)
  split
  next => exact .inl (tally_of_notMem fun there => apart _ (List.mem_append_right _ there) rfl)
  next =>
    split
    next => exact .inl (tally_of_notMem fun there => apart _ (List.mem_append_left _ there) rfl)
    next =>
      split
      next => exact .inl rfl
      next => exact .inr (congrArg Neg.neg (tally_of_mem (wf.ups_nodup _) reach))

def endWay (t : Tree) (path : Str) : Way :=
  if (components path).2 && t.isRootPath (components path).1 then ⟨[], rootNode, true, none⟩
  else { t.follow rootNode (components path).1 with
    all := (t.follow rootNode (components path).1).all && (components path).2 }

theorem Wf.endWay_from (wf : t.Wf) (path : Str) : (t.endWay path).From t rootNode := by
  have goes := wf.follow_from (components path).1 rootNode
  unfold endWay
  split
  next => exact ⟨rfl, nofun, fun _ => rfl, nofun⟩
  next => exact ⟨goes.ups, goes.refused, fun all => goes.clear (Bool.and_elim_left all), goes.listed⟩

theorem Wf.getNodePathEndNode_eq (wf : t.Wf) (path : Str) :
    t.getNodePathEndNode path =
      (t.shift (t.endWay path).counted, if (t.endWay path).all then some (t.endWay path).last
        else none) := by
  unfold getNodePathEndNode endWay
  dsimp only
  rw [wf.descend_eq]
  split
  next =>
    have none : (⟨[], rootNode, true, none⟩ : Way).counted = 0 := rfl
    rw [none, shift_zero]
    rfl
  next =>
    change _ = (t.shift (t.follow rootNode (components path).1).counted, _)
    dsimp only
    cases (t.follow rootNode (components path).1).all <;> cases (components path).2 <;> rfl

theorem Wf.counted_zero (wf : t.Wf) {way : Way} {x : Nat} (goes : way.From t x) :
    way.counted = 0 ↔ way.taken = [] ∧ way.refusal = none := by
  rw [Way.counted_eq, tally_eq_zero (goes.nodup wf).1, List.append_eq_nil_iff]
  cases way.refusal <;> simp

def counts (t : Tree) : Nat → BitVec 32 := fun x => (t.node x).refCnt

theorem counts_shift (t : Tree) (δ : Nat → BitVec 32) : (t.shift δ).counts = t.counts + δ := rfl

def endUse (t : Tree) (path : Str) (inner : Tree → Nat → Tree) : Tree :=
  match t.getNodePathEndNode path with
  | (t, none) => t
  | (t, some x) => (inner t x).putNode (some x) true none

def Idle (t : Tree) (path : Str) : Prop :=
  (t.endWay path).all = false ∧ (t.endWay path).taken = [] ∧ (t.endWay path).refusal = none

theorem Wf.endUse_eq (wf : t.Wf) (path : Str) (inner : Tree → Nat → Tree) :
    t.endUse path inner = if (t.endWay path).all
      then (inner (t.shift (t.endWay path).counted) (t.endWay path).last).putNode
        (some (t.endWay path).last) true none
      else t.shift (t.endWay path).counted := by
  unfold endUse
  rw [wf.getNodePathEndNode_eq]
  cases (t.endWay path).all <;> rfl

theorem Wf.endUse_balanced (wf : t.Wf) (path : Str) (inner : Tree → Nat → Tree)
    (keeps : ∀ t' : Tree, t' = inner (t.shift (t.endWay path).counted) (t.endWay path).last →
      t'.Wf ∧ t'.ups (t.endWay path).last = t.ups (t.endWay path).last ∧
        t'.counts rootNode ≠ t.counts rootNode + 1) :
    (t.endUse path inner).counts = t.counts ↔ t.Idle path := by
  have goes := wf.endWay_from path
  rw [wf.endUse_eq]
  unfold Idle
  cases all : (t.endWay path).all with
  | false =>
    rw [if_neg Bool.false_ne_true, counts_shift, add_eq_left, wf.counted_zero goes]
    exact (and_iff_right rfl).symm
  | true =>
    obtain ⟨wf', ups, root⟩ := keeps _ rfl
    rw [if_pos rfl, putNode_eq, counts_shift, wf'.putFrom_none, ups]
    refine iff_of_false (fun balanced => root ?_) nofun
    have there : rootNode ∈ t.ups (t.endWay path).last := by
      rw [goes.ups, wf.ups_root]
      exact List.mem_append_right _ (List.mem_singleton.mpr rfl)
    have back := congrFun balanced rootNode
    rw [Pi.add_apply, Pi.neg_apply, tally_of_mem (wf.ups_nodup _) there] at back
    exact eq_add_of_add_neg_eq back

theorem Wf.endUse_wf (wf : t.Wf) (path : Str) (inner : Tree → Nat → Tree)
    (keeps : (inner (t.shift (t.endWay path).counted) (t.endWay path).last).Wf) :
    (t.endUse path inner).Wf := by
  rw [wf.endUse_eq]
  cases (t.endWay path).all with
  | false => exact wf.shift _
  | true =>
    rw [if_pos rfl, putNode_eq]
    exact keeps.shift _

theorem Wf.counts_root (wf : t.Wf) (path : Str) :
    (t.shift (t.endWay path).counted).counts rootNode = t.counts rootNode := by
  have apart := (wf.endWay_from path).counted_above wf (y := rootNode) (by
    rw [wf.ups_root]
    exact List.mem_singleton.mpr rfl)
  rw [counts_shift, Pi.add_apply, apart, add_zero]

end Tree

end UnionpiTiger.Configs
