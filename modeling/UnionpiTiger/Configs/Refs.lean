import Mathlib.Algebra.Group.Pi.Basic
import Mathlib.Data.List.Count
import Mathlib.Data.List.Nodup
import Mathlib.Data.List.TakeWhile
import UnionpiTiger.Configs.Tree

set_option autoImplicit false

namespace UnionpiTiger.Configs

def tally (nodes : List Nat) : Nat → BitVec 32 := fun x => (nodes.count x : BitVec 32)

@[simp] theorem tally_nil : tally [] = 0 := rfl

theorem tally_append (first second : List Nat) :
    tally (first ++ second) = tally first + tally second := by
  funext x
  change ((first ++ second).count x : BitVec 32) = first.count x + second.count x
  rw [List.count_append, Nat.cast_add]

theorem tally_cons (a : Nat) (nodes : List Nat) : tally (a :: nodes) = tally [a] + tally nodes :=
  tally_append [a] nodes

theorem tally_perm {first second : List Nat} (perm : first.Perm second) : tally first = tally second :=
  funext fun x => congrArg Nat.cast (perm.count_eq x)

theorem tally_of_notMem {nodes : List Nat} {x : Nat} (apart : x ∉ nodes) : tally nodes x = 0 := by
  change (nodes.count x : BitVec 32) = 0
  rw [List.count_eq_zero_of_not_mem apart]
  rfl

theorem tally_of_mem {nodes : List Nat} {x : Nat} (nodup : nodes.Nodup) (there : x ∈ nodes) :
    tally nodes x = 1 := by
  change (nodes.count x : BitVec 32) = 1
  rw [List.count_eq_one_of_mem nodup there]
  rfl

theorem one_ne_zero_ref : (1 : BitVec 32) ≠ 0 := by decide

namespace Tree

variable {t : Tree} {x y p : Nat} {δ ε : Nat → BitVec 32}

def shift (t : Tree) (δ : Nat → BitVec 32) : Tree :=
  { t with node := fun x => { t.node x with refCnt := (t.node x).refCnt + δ x } }

theorem shift_zero (t : Tree) : t.shift 0 = t := by
  refine congrArg (fun node => Tree.mk node t.height) (funext fun x => ?_)
  change { t.node x with refCnt := (t.node x).refCnt + 0 } = t.node x
  rw [add_zero]

theorem shift_shift (t : Tree) (δ ε : Nat → BitVec 32) : (t.shift δ).shift ε = t.shift (δ + ε) := by
  refine congrArg (fun node => Tree.mk node t.height) (funext fun x => ?_)
  change { t.node x with refCnt := (t.node x).refCnt + δ x + ε x } =
    { t.node x with refCnt := (t.node x).refCnt + (δ x + ε x) }
  rw [add_assoc]

theorem addRef_eq (t : Tree) (x : Nat) (cnt : BitVec 32) :
    t.addRef x cnt = t.shift fun y => cnt * tally [x] y := by
  refine congrArg (fun node => Tree.mk node t.height) (funext fun y => ?_)
  change _ = { t.node y with refCnt := (t.node y).refCnt + cnt * tally [x] y }
  by_cases here : y = x
  · rw [here, Function.update_self,
      tally_of_mem (List.nodup_singleton x) (List.mem_singleton.mpr rfl), mul_one]
  · rw [Function.update_of_ne here,
      tally_of_notMem (fun there => here (List.mem_singleton.mp there)), mul_zero, add_zero]

theorem addRef_one (t : Tree) (x : Nat) : t.addRef x 1 = t.shift (tally [x]) := by
  rw [addRef_eq]
  exact congrArg t.shift (funext fun y => one_mul _)

theorem addRef_neg (t : Tree) (x : Nat) : t.addRef x (-1) = t.shift (-tally [x]) := by
  rw [addRef_eq]
  exact congrArg t.shift (funext fun y => neg_one_mul _)

@[simp] theorem shift_height (t : Tree) (δ : Nat → BitVec 32) : (t.shift δ).height = t.height := rfl

@[simp] theorem shift_parentNode (t : Tree) (δ : Nat → BitVec 32) (x : Nat) :
    ((t.shift δ).node x).parentNode = (t.node x).parentNode := rfl

@[simp] theorem shift_look (t : Tree) (δ : Nat → BitVec 32) (x : Nat) (name : Str) :
    (t.shift δ).look x name = t.look x name := rfl

@[simp] theorem shift_refCnt (t : Tree) (δ : Nat → BitVec 32) (x : Nat) :
    ((t.shift δ).node x).refCnt = (t.node x).refCnt + δ x := rfl

structure Wf (t : Tree) : Prop where
  root : (t.node rootNode).parentNode = none
  sons : ∀ p, ∀ x ∈ (t.node p).sonNodeList, (t.node x).parentNode = some p
  up : ∃ rank : Nat → Nat, (∀ x, rank x ≤ t.height) ∧ ∀ x p, (t.node x).parentNode = some p →
    rank p < rank x

theorem Wf.shift (wf : t.Wf) (δ : Nat → BitVec 32) : (t.shift δ).Wf where
  root := wf.root
  sons := wf.sons
  up := wf.up

def above (t : Tree) : Nat → Option Nat → List Nat
  | 0, _ => []
  | _ + 1, none => []
  | fuel + 1, some x => x :: above t fuel (t.node x).parentNode

def ups (t : Tree) (x : Nat) : List Nat := t.above (t.height + 1) (some x)

theorem above_enough {rank : Nat → Nat}
    (up : ∀ x p, (t.node x).parentNode = some p → rank p < rank x) (x : Nat) {fuel : Nat}
    (enough : rank x < fuel) : t.above fuel (some x) = t.above (rank x + 1) (some x) := by
  induction fuel using Nat.strongRecOn generalizing x with
  | ind fuel ih =>
    cases fuel with
    | zero => exact absurd enough (Nat.not_lt_zero _)
    | succ fuel =>
      change x :: t.above fuel (t.node x).parentNode = x :: t.above (rank x) (t.node x).parentNode
      refine congrArg (x :: ·) ?_
      cases parent : (t.node x).parentNode with
      | none => cases fuel <;> cases rank x <;> rfl
      | some p =>
        have lower := up x p parent
        rw [ih fuel (Nat.lt_succ_self fuel) p (by omega)]
        by_cases same : rank x < fuel + 1 ∧ rank x ≠ fuel
        · exact (ih (rank x) (by omega) p lower).symm
        · have eq : rank x = fuel := by omega
          rw [eq]
          exact (ih fuel (Nat.lt_succ_self fuel) p (by omega)).symm

theorem Wf.above_eq (wf : t.Wf) {fuel : Nat} (x : Nat) (enough : t.height ≤ fuel)
    (under : fuel = t.height → ∃ son, (t.node son).parentNode = some x) :
    t.above fuel (some x) = t.ups x := by
  obtain ⟨rank, bound, up⟩ := wf.up
  have small : rank x < fuel := by
    have bounded := bound x
    by_cases full : fuel = t.height
    · obtain ⟨son, parent⟩ := under full
      have lower := up son x parent
      have bounded := bound son
      omega
    · omega
  unfold ups
  rw [above_enough up x small, above_enough up x (Nat.lt_succ_of_le (bound x))]

theorem Wf.ups_eq (wf : t.Wf) (x : Nat) : t.ups x = x :: (t.node x).parentNode.elim [] t.ups := by
  change x :: t.above t.height (t.node x).parentNode = _
  refine congrArg (x :: ·) ?_
  cases parent : (t.node x).parentNode with
  | none => cases t.height <;> rfl
  | some p => exact wf.above_eq p (Nat.le_refl _) fun _ => ⟨x, parent⟩

theorem Wf.ups_nodup (wf : t.Wf) (x : Nat) : (t.ups x).Nodup := by
  obtain ⟨rank, bound, up⟩ := wf.up
  have lower : ∀ k x, rank x ≤ k → (∀ y ∈ t.ups x, y = x ∨ rank y < rank x) ∧ (t.ups x).Nodup := by
    intro k
    induction k with
    | zero =>
      intro x small
      rw [wf.ups_eq]
      cases parent : (t.node x).parentNode with
      | none => exact ⟨fun y there => .inl (List.mem_singleton.mp there), List.nodup_singleton x⟩
      | some p =>
        have lower := up x p parent
        omega
    | succ k ih =>
      intro x small
      rw [wf.ups_eq]
      cases parent : (t.node x).parentNode with
      | none => exact ⟨fun y there => .inl (List.mem_singleton.mp there), List.nodup_singleton x⟩
      | some p =>
        have less := up x p parent
        obtain ⟨below, nodup⟩ := ih p (by omega)
        have under : ∀ y ∈ t.ups p, rank y < rank x := fun y there => by
          rcases below y there with same | lower
          · rw [same]
            exact less
          · omega
        refine ⟨fun y there => ?_,
          List.nodup_cons.mpr ⟨fun there => Nat.lt_irrefl _ (under x there), nodup⟩⟩
        rcases List.mem_cons.mp there with same | there
        · exact .inl same
        · exact .inr (under y there)
  exact (lower (rank x) x (Nat.le_refl _)).2

def putFrom (t : Tree) (x : Nat) (stop : Option Nat) : List Nat :=
  x :: (t.ups x).tail.takeWhile fun y => stop ≠ some y

theorem above_shift (δ : Nat → BitVec 32) (fuel : Nat) (x : Option Nat) :
    (t.shift δ).above fuel x = t.above fuel x := by
  induction fuel generalizing x with
  | zero => rfl
  | succ fuel ih =>
    cases x with
    | none => rfl
    | some x => exact congrArg (x :: ·) (ih _)

theorem ups_shift (δ : Nat → BitVec 32) (x : Nat) : (t.shift δ).ups x = t.ups x := above_shift δ _ _

theorem putParents_eq (stop : Option Nat) (fuel : Nat) (t : Tree) (x : Option Nat) :
    putParents stop fuel t x =
      t.shift (-tally ((t.above fuel x).takeWhile fun y => stop ≠ some y)) := by
  induction fuel generalizing t x with
  | zero =>
    change t = t.shift (-tally [])
    rw [tally_nil, neg_zero, shift_zero]
  | succ fuel ih =>
    cases x with
    | none =>
      change t = t.shift (-tally [])
      rw [tally_nil, neg_zero, shift_zero]
    | some x =>
      change (if stop = some x then t
        else putParents stop fuel (t.addRef x (-1)) (t.node x).parentNode) =
        t.shift (-tally ((x :: t.above fuel (t.node x).parentNode).takeWhile fun y => stop ≠ some y))
      by_cases here : stop = some x
      · rw [if_pos here, List.takeWhile_cons_of_neg (by simp [here]), tally_nil, neg_zero, shift_zero]
      · rw [if_neg here, List.takeWhile_cons_of_pos (by simp [here]), tally_cons, neg_add,
          ← shift_shift, addRef_neg, ih, above_shift]

theorem putNode_eq (t : Tree) (x : Nat) (stop : Option Nat) :
    t.putNode (some x) true stop = t.shift (-tally (t.putFrom x stop)) := by
  change putParents stop t.height (t.addRef x (-1)) (t.node x).parentNode = _
  rw [addRef_neg, putParents_eq, above_shift, shift_shift, ← neg_add, ← tally_cons]
  rfl

theorem Wf.putFrom_none (wf : t.Wf) (x : Nat) : t.putFrom x none = t.ups x := by
  unfold putFrom
  rw [List.takeWhile_eq_self_iff.mpr fun y _ => by simp]
  rw [wf.ups_eq, List.tail_cons]

theorem Wf.putFrom_self (wf : t.Wf) (x : Nat) : t.putFrom x (some x) = t.ups x := by
  have apart : ∀ y ∈ (t.ups x).tail, decide (some x ≠ some y) = true :=
    fun y there => decide_eq_true fun same => by
    have nodup := wf.ups_nodup x
    rw [wf.ups_eq] at nodup there
    rw [← Option.some.inj same] at there
    exact (List.nodup_cons.mp nodup).1 there
  unfold putFrom
  rw [List.takeWhile_eq_self_iff.mpr apart]
  rw [wf.ups_eq, List.tail_cons]

theorem putFrom_shift (δ : Nat → BitVec 32) (x : Nat) (stop : Option Nat) :
    (t.shift δ).putFrom x stop = t.putFrom x stop := by
  unfold putFrom
  rw [ups_shift]

end Tree

structure Way where
  taken : List Nat
  last : Nat
  all : Bool
  refusal : Option Nat

def Way.counted (way : Way) : Nat → BitVec 32 := tally way.taken + tally way.refusal.toList

namespace Tree

variable {t : Tree} {x y p : Nat} {δ ε : Nat → BitVec 32}

def follow (t : Tree) : Nat → List Str → Way
  | x, [] => ⟨[], x, true, none⟩
  | x, name :: names =>
    match t.look x name with
    | none => ⟨[], x, false, none⟩
    | some son =>
      if t.refused son then ⟨[], x, false, some son⟩
      else { t.follow son names with taken := son :: (t.follow son names).taken }

theorem Wf.look_parent (wf : t.Wf) {name : Str} {son : Nat} (found : t.look x name = some son) :
    (t.node son).parentNode = some x := by
  unfold look at found
  exact wf.sons x son (List.mem_of_find?_eq_some (Option.eq_some_of_filter_eq_some found))

theorem follow_shift {rank : Nat → Nat} (wf : t.Wf)
    (up : ∀ x p, (t.node x).parentNode = some p → rank p < rank x) (names : List Str) (x : Nat)
    (above : ∀ y, rank x < rank y → δ y = 0) : (t.shift δ).follow x names = t.follow x names := by
  induction names generalizing x with
  | nil => rfl
  | cons name names ih =>
    unfold follow
    rw [shift_look]
    cases found : t.look x name with
    | none => rfl
    | some son =>
      have lower := up son x (wf.look_parent found)
      have same : (t.shift δ).refused son = t.refused son := by
        unfold refused
        rw [shift_refCnt, above son lower, add_zero]
      dsimp only
      rw [same, ih son fun y under => above y (Nat.lt_trans lower under)]

theorem Wf.descend_eq (wf : t.Wf) (names : List Str) (x : Nat) :
    t.descend x names = (t.shift (t.follow x names).counted, (t.follow x names).last,
      (t.follow x names).all) := by
  induction names generalizing t x with
  | nil => exact congrArg (fun tree => (tree, x, true)) (shift_zero t).symm
  | cons name names ih =>
    unfold descend follow getNodeWithName
    cases found : t.look x name with
    | none => exact congrArg (fun tree => (tree, x, false)) (shift_zero t).symm
    | some son =>
      obtain ⟨rank, bound, up⟩ := wf.up
      dsimp only
      rw [addRef_one]
      by_cases refused : t.refused son = true
      · rw [if_pos refused, if_pos refused]
        exact congrArg (fun δ => (t.shift δ, x, false)) (zero_add _).symm
      · rw [if_neg refused, if_neg refused]
        dsimp only
        have apart : ∀ y, rank son < rank y → tally [son] y = 0 := fun y lower =>
          tally_of_notMem fun same => by
            rw [List.mem_singleton.mp same] at lower
            exact Nat.lt_irrefl _ lower
        rw [ih (wf.shift _) son, shift_shift, follow_shift wf up names son apart]
        have sum : tally [son] + (t.follow son names).counted =
            tally (son :: (t.follow son names).taken) + tally (t.follow son names).refusal.toList := by
          rw [tally_cons son (t.follow son names).taken, add_assoc]
          rfl
        rw [sum]
        rfl

theorem Wf.follow_ups (wf : t.Wf) (names : List Str) (x : Nat) :
    t.ups (t.follow x names).last = (t.follow x names).taken.reverse ++ t.ups x := by
  induction names generalizing x with
  | nil => rfl
  | cons name names ih =>
    unfold follow
    cases found : t.look x name with
    | none => rfl
    | some son =>
      dsimp only
      by_cases refused : t.refused son = true
      · rw [if_pos refused]
        rfl
      · rw [if_neg refused]
        change t.ups (t.follow son names).last = (son :: (t.follow son names).taken).reverse ++ t.ups x
        rw [ih, List.reverse_cons, List.append_assoc, wf.ups_eq son, wf.look_parent found]
        rfl

theorem follow_refusal (names : List Str) (x : Nat) (all : (t.follow x names).all = true) :
    (t.follow x names).refusal = none := by
  induction names generalizing x with
  | nil => rfl
  | cons name names ih =>
    unfold follow at all ⊢
    cases found : t.look x name with
    | none => rfl
    | some son =>
      rw [found] at all
      dsimp only at all ⊢
      by_cases refused : t.refused son = true
      · rw [if_pos refused] at all
        cases all
      · rw [if_neg refused] at all ⊢
        exact ih son all

theorem Wf.follow_refused (wf : t.Wf) (names : List Str) (x : Nat) {son : Nat}
    (refused : (t.follow x names).refusal = some son) :
    (t.node son).parentNode = some (t.follow x names).last := by
  induction names generalizing x with
  | nil => cases refused
  | cons name names ih =>
    unfold follow at refused ⊢
    cases found : t.look x name with
    | none =>
      rw [found] at refused
      cases refused
    | some first =>
      rw [found] at refused
      dsimp only at refused ⊢
      by_cases stops : t.refused first = true
      · rw [if_pos stops] at refused ⊢
        cases refused
        exact wf.look_parent found
      · rw [if_neg stops] at refused ⊢
        exact ih first refused

theorem follow_listed (names : List Str) (x y : Nat) (there : y ∈ (t.follow x names).taken) :
    ∃ p, y ∈ (t.node p).sonNodeList := by
  induction names generalizing x with
  | nil => cases there
  | cons name names ih =>
    unfold follow at there
    cases found : t.look x name with
    | none =>
      rw [found] at there
      cases there
    | some son =>
      rw [found] at there
      dsimp only at there
      by_cases stops : t.refused son = true
      · rw [if_pos stops] at there
        cases there
      · rw [if_neg stops] at there
        rcases List.mem_cons.mp there with same | there
        · rw [same]
          unfold look at found
          exact ⟨x, List.mem_of_find?_eq_some (Option.eq_some_of_filter_eq_some found)⟩
        · exact ih son there

end Tree

structure Way.From (way : Way) (t : Tree) (x : Nat) : Prop where
  ups : t.ups way.last = way.taken.reverse ++ t.ups x
  refused : ∀ son, way.refusal = some son → (t.node son).parentNode = some way.last
  clear : way.all = true → way.refusal = none
  listed : ∀ y ∈ way.taken, ∃ p, y ∈ (t.node p).sonNodeList

theorem Tree.Wf.follow_from {t : Tree} (wf : t.Wf) (names : List Str) (x : Nat) :
    (t.follow x names).From t x where
  ups := wf.follow_ups names x
  refused _ := wf.follow_refused names x
  clear := Tree.follow_refusal names x
  listed := Tree.follow_listed names x

namespace Way

variable {way : Way} {t : Tree} {x : Nat}

theorem From.nodup (goes : way.From t x) (wf : t.Wf) : (way.taken ++ way.refusal.toList).Nodup ∧
    ∀ y ∈ way.taken ++ way.refusal.toList, y ∉ t.ups x := by
  have below : (way.taken.reverse ++ t.ups x).Nodup := by
    rw [← goes.ups]
    exact wf.ups_nodup way.last
  cases refusal : way.refusal with
  | none =>
    rw [Option.toList_none, List.append_nil]
    exact ⟨List.nodup_reverse.mp below.of_append_left, fun y there up =>
      List.disjoint_of_nodup_append below (List.mem_reverse.mpr there) up⟩
  | some son =>
    have whole : (son :: (way.taken.reverse ++ t.ups x)).Nodup := by
      have nodup := wf.ups_nodup son
      rw [wf.ups_eq, goes.refused son refusal, Option.elim_some, goes.ups] at nodup
      exact nodup
    have list : son :: (way.taken.reverse ++ t.ups x) = (way.taken ++ [son]).reverse ++ t.ups x := by
      rw [List.reverse_append]
      rfl
    rw [list] at whole
    exact ⟨List.nodup_reverse.mp whole.of_append_left, fun y there up =>
      List.disjoint_of_nodup_append whole (List.mem_reverse.mpr there) up⟩

theorem counted_eq (way : Way) : way.counted = tally (way.taken ++ way.refusal.toList) :=
  (tally_append _ _).symm

theorem From.counted_above (goes : way.From t x) (wf : t.Wf) {y : Nat} (there : y ∈ t.ups x) :
    way.counted y = 0 := by
  rw [counted_eq]
  exact tally_of_notMem fun taken => (goes.nodup wf).2 y taken there

theorem From.putFrom_start (goes : way.From t x) (wf : t.Wf) (moved : way.taken ≠ []) :
    t.putFrom way.last (some x) = way.taken.reverse := by
  have apart : x ∉ way.taken := fun taken =>
    (goes.nodup wf).2 x (List.mem_append_left _ taken) (by rw [wf.ups_eq]; exact List.mem_cons_self)
  have list := goes.ups
  cases reverse : way.taken.reverse with
  | nil => exact absurd (List.reverse_eq_nil_iff.mp reverse) moved
  | cons first rest =>
    rw [reverse, wf.ups_eq way.last, wf.ups_eq x, List.cons_append] at list
    obtain ⟨head, tail⟩ := List.cons.inj list
    unfold Tree.putFrom
    rw [wf.ups_eq way.last, List.tail_cons, tail, head]
    refine congrArg (first :: ·) ?_
    have all : ∀ y ∈ rest, decide (some x ≠ some y) = true :=
      fun y there => decide_eq_true fun same => apart <| by
      rw [Option.some.inj same, ← List.mem_reverse, reverse]
      exact List.mem_cons_of_mem first there
    rw [List.takeWhile_append_of_pos all, List.takeWhile_cons_of_neg (by simp), List.append_nil]

theorem From.still (goes : way.From t x) (wf : t.Wf) (still : way.taken = []) : way.last = x := by
  have same := goes.ups
  rw [still, wf.ups_eq way.last, wf.ups_eq x] at same
  exact (List.cons.inj same).1

theorem From.still_iff (goes : way.From t x) (wf : t.Wf) : way.last = x ↔ way.taken = [] := by
  refine ⟨fun same => ?_, goes.still wf⟩
  have lengths := congrArg List.length goes.ups
  rw [same, List.length_append, List.length_reverse] at lengths
  exact List.eq_nil_of_length_eq_zero (by omega)

end Way

theorem tally_eq_zero {nodes : List Nat} (nodup : nodes.Nodup) : tally nodes = 0 ↔ nodes = [] := by
  constructor
  · intro none
    cases nodes with
    | nil => rfl
    | cons x rest =>
      have one := tally_of_mem nodup (List.mem_cons_self (a := x))
      rw [none] at one
      exact absurd one.symm one_ne_zero_ref
  · intro none
    rw [none, tally_nil]

end UnionpiTiger.Configs
