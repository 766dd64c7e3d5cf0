import UnionpiTiger.Configs.Balance

set_option autoImplicit false

namespace UnionpiTiger.Configs

namespace Tree

variable {t : Tree} {p new : Nat}

theorem attach_parentNode (t : Tree) {p new : Nat} (apart : new ≠ p) (x : Nat) :
    ((t.attach p new).node x).parentNode = if x = new then some p else (t.node x).parentNode := by
  unfold attach put
  dsimp only
  rw [Function.update_apply, Function.update_apply, Function.update_apply]
  by_cases here : x = p
  · rw [if_pos here, if_neg apart.symm, here, if_neg apart.symm]
  · rw [if_neg here]
    split <;> rfl

theorem attach_sons (t : Tree) {p new : Nat} (apart : new ≠ p) (x : Nat) :
    ((t.attach p new).node x).sonNodeList = if x = p then (t.node p).sonNodeList ++ [new]
      else (t.node x).sonNodeList := by
  unfold attach put
  dsimp only
  rw [Function.update_apply, Function.update_apply, Function.update_apply]
  by_cases here : x = p
  · rw [if_pos here, if_neg apart.symm, if_pos here]
  · rw [if_neg here, if_neg here]
    split
    next same => rw [same]
    next => rfl

theorem attach_counts (t : Tree) {p new : Nat} (apart : new ≠ p) :
    (t.attach p new).counts = t.counts := by
  funext x
  unfold counts attach put
  dsimp only
  rw [Function.update_apply, Function.update_apply, Function.update_apply]
  by_cases here : x = p
  · rw [if_pos here, if_neg apart.symm, here]
  · rw [if_neg here]
    split
    next same => rw [same]
    next => rfl

structure Fresh (t : Tree) (p new : Nat) : Prop where
  root : new ≠ rootNode
  unlisted : ∀ q, new ∉ (t.node q).sonNodeList
  aside : new ∉ t.ups p

theorem Wf.attach (wf : t.Wf) (fresh : t.Fresh p new) : (t.attach p new).Wf := by
  have apart : new ≠ p := fun same => fresh.aside (by
    rw [wf.ups_eq, same]
    exact List.mem_cons_self)
  constructor
  case root =>
    rw [attach_parentNode t apart, if_neg fresh.root.symm]
    exact wf.root
  case sons =>
    intro q x there
    rw [attach_sons t apart] at there
    rw [attach_parentNode t apart]
    by_cases same : x = new
    · rw [if_pos same]
      by_cases here : q = p
      · rw [here]
      · rw [if_neg here, same] at there
        exact absurd there (fresh.unlisted q)
    · rw [if_neg same]
      by_cases here : q = p
      · rw [if_pos here] at there
        rw [here]
        rcases List.mem_append.mp there with old | added
        · exact wf.sons p x old
        · exact absurd (List.mem_singleton.mp added) same
      · rw [if_neg here] at there
        exact wf.sons q x there
  case up =>
    obtain ⟨rank, bound, up⟩ := wf.up
    refine ⟨fun x => rank x + if new ∈ t.ups x then rank p + 1
      else 0, fun x => ?_, fun x q parent => ?_⟩
    · have least := bound x
      have most := bound p
      change _ ≤ 2 * t.height + 1
      dsimp only
      split <;> omega
    · rw [attach_parentNode t apart] at parent
      dsimp only
      by_cases same : x = new
      · rw [if_pos same] at parent
        cases parent
        rw [if_neg fresh.aside, same, if_pos (by rw [wf.ups_eq]; exact List.mem_cons_self)]
        omega
      · rw [if_neg same] at parent
        have lower := up x q parent
        have above : new ∈ t.ups x ↔ new ∈ t.ups q := by
          rw [wf.ups_eq x, parent, Option.elim_some, List.mem_cons]
          exact or_iff_right fun eq => same eq.symm
        rw [if_congr above rfl rfl]
        omega

theorem Wf.ups_congr {t' : Tree} (wf : t.Wf) (wf' : t'.Wf) (x : Nat)
    (same : ∀ y ∈ t.ups x, (t'.node y).parentNode = (t.node y).parentNode) : t'.ups x = t.ups x := by
  generalize list : t.ups x = nodes at same
  induction nodes generalizing x with
  | nil =>
    rw [wf.ups_eq] at list
    cases list
  | cons first rest ih =>
    rw [wf.ups_eq] at list
    obtain ⟨head, tail⟩ := List.cons.inj list
    rw [wf'.ups_eq, same x (by rw [← head]; exact List.mem_cons_self), ← list]
    refine congrArg (x :: ·) ?_
    cases parent : (t.node x).parentNode with
    | none => rfl
    | some q =>
      rw [parent, Option.elim_some] at tail
      exact (ih q tail fun y there => same y (List.mem_cons_of_mem _ there)).trans tail.symm

theorem Wf.attach_ups (wf : t.Wf) (fresh : t.Fresh p new) : (t.attach p new).ups p = t.ups p := by
  have apart : new ≠ p := fun same => fresh.aside (by
    rw [wf.ups_eq, same]
    exact List.mem_cons_self)
  refine wf.ups_congr (wf.attach fresh) p fun y there => ?_
  rw [attach_parentNode t apart, if_neg fun same => fresh.aside (by rw [← same]; exact there)]

theorem Fresh.shift (fresh : t.Fresh p new) (δ : Nat → BitVec 32) : (t.shift δ).Fresh p new where
  root := fresh.root
  unlisted := fresh.unlisted
  aside := by
    rw [ups_shift]
    exact fresh.aside

def kept (t : Tree) (p new : Nat) : List Nat :=
  if t.barred p new then [] else (t.look p (t.node new).name).toList

theorem Wf.registerNode_spec (wf : t.Wf) (parent : Option Nat)
    (fresh : t.Fresh (parent.getD rootNode) new) :
    (t.registerNode parent new).Wf ∧
      (t.registerNode parent new).ups (parent.getD rootNode) = t.ups (parent.getD rootNode) ∧
      (t.registerNode parent new).counts = t.counts + tally (t.kept (parent.getD rootNode) new) := by
  unfold registerNode kept
  generalize parent.getD rootNode = p at fresh
  dsimp only
  by_cases barred : t.barred p new = true
  · rw [if_pos barred, if_pos barred]
    exact ⟨wf, rfl, (add_zero _).symm⟩
  · have apart : new ≠ p := fun same => barred (by
      unfold Tree.barred
      rw [decide_eq_true same]
      rfl)
    rw [if_neg barred, if_neg barred]
    unfold getNodeWithName
    cases found : t.look p (t.node new).name with
    | none => exact ⟨wf.attach fresh, wf.attach_ups fresh,
        (attach_counts t apart).trans (add_zero _).symm⟩
    | some son =>
      dsimp only
      rw [addRef_one]
      by_cases refused : t.refused son = true
      · rw [if_pos refused]
        refine ⟨(wf.shift _).attach (fresh.shift _), ?_, attach_counts _ apart⟩
        exact ((wf.shift _).attach_ups (fresh.shift _)).trans (ups_shift _ _)
      · rw [if_neg refused]
        exact ⟨wf.shift _, ups_shift _ _, rfl⟩

theorem Wf.kept_root (wf : t.Wf) (p new : Nat) : tally (t.kept p new) rootNode = 0 := by
  refine tally_of_notMem fun there => ?_
  unfold kept at there
  split at there
  next => cases there
  next =>
    have parent := wf.look_parent (Option.mem_toList.mp there)
    rw [wf.root] at parent
    cases parent

theorem Wf.registerConfigs_spec (wf : t.Wf) (x : Nat) (configs : List Str) :
    (t.registerConfigs x configs).Wf ∧ (∀ y, (t.registerConfigs x configs).ups y = t.ups y) ∧
      (t.registerConfigs x configs).counts = t.counts := by
  unfold registerConfigs
  split
  next =>
    have parents : ∀ y, ((t.put x { t.node x with configs := some configs }).node y).parentNode =
        (t.node y).parentNode := by
      intro y
      unfold put
      dsimp only
      rw [Function.update_apply]
      split
      next same => rw [same]
      next => rfl
    have sons : ∀ y, ((t.put x { t.node x with configs := some configs }).node y).sonNodeList =
        (t.node y).sonNodeList := by
      intro y
      unfold put
      dsimp only
      rw [Function.update_apply]
      split
      next same => rw [same]
      next => rfl
    have wf' : (t.put x { t.node x with configs := some configs }).Wf := by
      refine ⟨(parents rootNode).trans wf.root, fun p y there => ?_, ?_⟩
      · rw [sons] at there
        exact (parents y).trans (wf.sons p y there)
      · obtain ⟨rank, bound, up⟩ := wf.up
        exact ⟨rank, bound, fun y p parent => up y p ((parents y).symm.trans parent)⟩
    refine ⟨wf', fun y => wf.ups_congr wf' y fun z _ => parents z, funext fun y => ?_⟩
    unfold counts put
    dsimp only
    rw [Function.update_apply]
    split
    next same => rw [same]
    next => rfl
  next => exact ⟨wf, fun _ => rfl, rfl⟩

def Proper (t : Tree) : PathOp → Prop
  | .registerNode _ new => new ≠ rootNode ∧ ∀ q, new ∉ (t.node q).sonNodeList
  | _ => True

def Balanced (t : Tree) (op : PathOp) : Prop := (t.step op).counts = t.counts

def ValueFits (t : Tree) (topnode : Option Nat) (path : Option Str) (set : Bool) : Prop :=
  match path with
  | none => True
  | some path => t.UseFits topnode path set

def StrFits (t : Tree) (topnode : Option Nat) (path val : Option Str) : Prop :=
  if given path && given val then t.ValueFits topnode path true else True

def PrefixFits (t : Tree) (pref path val : Option Str) : Prop :=
  match pref.filter fun pref => pref ≠ [] with
  | none => t.StrFits none path val
  | some pref => t.Idle pref

def Fits (t : Tree) : PathOp → Prop
  | .setgetValue topnode path set => t.ValueFits topnode path set
  | .setStr topnode path val => t.StrFits topnode path val
  | .getStr topnode path => if given path then t.ValueFits topnode path false else True
  | .setValonpath topnode path => t.StrFits topnode (some path) (valstr path)
  | .setPrefixStr pref path val => t.PrefixFits pref path val
  | .setPrefixValonpath pref path => t.PrefixFits pref (some path) (valstr path)
  | .listNodes path =>
    match path with
    | none => True
    | some path => t.Idle path
  | .registerNode path new =>
    match path.filter fun path => path ≠ [] with
    | none => t.kept rootNode new = []
    | some path => t.Idle path
  | .registerConfigs path _ =>
    match path.filter fun path => path ≠ [] with
    | none => True
    | some path => t.Idle path

def Right (t t' : Tree) (fits : Prop) : Prop := t'.Wf ∧ (t'.counts = t.counts ↔ fits)

theorem Wf.right_same (wf : t.Wf) : t.Right t True := ⟨wf, iff_of_true rfl trivial⟩

theorem Wf.value_right (wf : t.Wf) (topnode : Option Nat) (path : Option Str) (set : Bool) :
    t.Right (t.useConfig topnode path set) (t.ValueFits topnode path set) := by
  cases path with
  | none => exact wf.right_same
  | some path =>
    rw [wf.useConfig_eq]
    refine ⟨wf.shift _, ?_⟩
    rw [counts_shift, add_eq_left]
    exact wf.useDelta_zero topnode path set

theorem Wf.str_right (wf : t.Wf) (topnode : Option Nat) (path val : Option Str) :
    t.Right (t.setNodePathStr topnode path val) (t.StrFits topnode path val) := by
  unfold setNodePathStr StrFits
  split
  next => exact wf.value_right topnode path true
  next => exact wf.right_same

theorem Wf.getStr_right (wf : t.Wf) (topnode : Option Nat) (path : Option Str) :
    t.Right (t.getNodePathStr topnode path) (if given path then t.ValueFits topnode path false
      else True) := by
  unfold getNodePathStr
  split
  next => exact wf.value_right topnode path false
  next => exact wf.right_same

theorem Wf.end_right (wf : t.Wf) (path : Str) (inner : Tree → Nat → Tree)
    (keeps : ∀ t' : Tree, t' = inner (t.shift (t.endWay path).counted) (t.endWay path).last →
      t'.Wf ∧ t'.ups (t.endWay path).last = t.ups (t.endWay path).last ∧
        t'.counts rootNode ≠ t.counts rootNode + 1) :
    t.Right (t.endUse path inner) (t.Idle path) :=
  ⟨wf.endUse_wf path inner (keeps _ rfl).1, wf.endUse_balanced path inner keeps⟩

theorem ne_add_one (cnt : BitVec 32) : cnt ≠ cnt + 1 :=
  fun same => one_ne_zero_ref (left_eq_add.mp same)

theorem Wf.list_right (wf : t.Wf) (path : Str) :
    t.Right (t.listPathNodes (some path)) (t.Idle path) := by
  refine wf.end_right path (fun t _ => t) fun t' eq => ?_
  rw [eq]
  refine ⟨wf.shift _, ups_shift _ _, ?_⟩
  rw [wf.counts_root]
  exact ne_add_one _

theorem Wf.configs_right (wf : t.Wf) (path : Str) (configs : List Str) :
    t.Right (t.endUse path fun t x => t.registerConfigs x configs) (t.Idle path) := by
  refine wf.end_right path _ fun t' eq => ?_
  obtain ⟨wf', ups, counts⟩ :=
    (wf.shift (t.endWay path).counted).registerConfigs_spec (t.endWay path).last configs
  rw [eq, ups, ups_shift, counts, wf.counts_root]
  exact ⟨wf', rfl, ne_add_one _⟩

theorem Wf.fresh_end (wf : t.Wf) (path : Str) {new : Nat} (root : new ≠ rootNode)
    (unlisted : ∀ q, new ∉ (t.node q).sonNodeList) : t.Fresh (t.endWay path).last new := by
  refine ⟨root, unlisted, fun there => ?_⟩
  rw [(wf.endWay_from path).ups, wf.ups_root] at there
  rcases List.mem_append.mp there with taken | top
  · obtain ⟨q, listed⟩ := (wf.endWay_from path).listed new (List.mem_reverse.mp taken)
    exact unlisted q listed
  · exact root (List.mem_singleton.mp top)

theorem Wf.node_right (wf : t.Wf) (path : Str) {new : Nat} (root : new ≠ rootNode)
    (unlisted : ∀ q, new ∉ (t.node q).sonNodeList) :
    t.Right (t.endUse path fun t x => t.registerNode (some x) new) (t.Idle path) := by
  refine wf.end_right path _ fun t' eq => ?_
  obtain ⟨wf', ups, counts⟩ :=
    (wf.shift (t.endWay path).counted).registerNode_spec (some (t.endWay path).last)
    ((wf.fresh_end path root unlisted).shift _)
  rw [Option.getD_some, ups_shift] at ups
  rw [eq, ups, counts, Pi.add_apply, (wf.shift _).kept_root, add_zero, wf.counts_root]
  exact ⟨wf', rfl, ne_add_one _⟩

theorem Wf.registerTop_right (wf : t.Wf) {new : Nat} (root : new ≠ rootNode)
    (unlisted : ∀ q, new ∉ (t.node q).sonNodeList) :
    t.Right (t.registerNode none new) (t.kept rootNode new = []) := by
  have fresh : t.Fresh rootNode new := ⟨root, unlisted, fun there => root (by
    rw [wf.ups_root] at there
    exact List.mem_singleton.mp there)⟩
  obtain ⟨wf', -, counts⟩ := wf.registerNode_spec none fresh
  refine ⟨wf', ?_⟩
  rw [counts, add_eq_left]
  refine tally_eq_zero ?_
  unfold kept
  split
  next => exact List.nodup_nil
  next => cases t.look _ _ <;> simp

theorem Wf.prefix_right (wf : t.Wf) (pref path val : Option Str) :
    t.Right (t.setPrefixPathStr pref path val) (t.PrefixFits pref path val) := by
  unfold setPrefixPathStr PrefixFits
  cases pref.filter fun pref => pref ≠ [] with
  | none => exact wf.str_right none path val
  | some pref =>
    refine wf.end_right pref (fun t x => t.setNodePathStr (some x) path val) fun t' eq => ?_
    have above : rootNode ∈ (t.shift (t.endWay pref).counted).ups (t.endWay pref).last := by
      rw [ups_shift, (wf.endWay_from pref).ups, wf.ups_root]
      exact List.mem_append_right _ (List.mem_singleton.mpr rfl)
    rw [eq]
    unfold setNodePathStr
    split
    next =>
      cases path with
      | none => exact ⟨wf.shift _, ups_shift _ _, by rw [← wf.counts_root pref]; exact ne_add_one _⟩
      | some path =>
        rw [(wf.shift _).useConfig_eq]
        refine ⟨(wf.shift _).shift _, (ups_shift _ _).trans (ups_shift _ _), ?_⟩
        rw [counts_shift, Pi.add_apply, wf.counts_root]
        rcases (wf.shift _).useDelta_root (some (t.endWay pref).last) path true above with none | less
        · rw [none, add_zero]
          exact ne_add_one _
        · rw [less]
          intro same
          exact absurd (add_left_cancel same) (by decide)
    next => exact ⟨wf.shift _, ups_shift _ _, by rw [wf.counts_root]; exact ne_add_one _⟩

theorem Wf.step_right (wf : t.Wf) {op : PathOp} (proper : t.Proper op) :
    t.Right (t.step op) (t.Fits op) := by
  cases op with
  | setgetValue topnode path set => exact wf.value_right topnode path set
  | setStr topnode path val => exact wf.str_right topnode path val
  | getStr topnode path => exact wf.getStr_right topnode path
  | setValonpath topnode path => exact wf.str_right topnode (some path) (valstr path)
  | setPrefixStr pref path val => exact wf.prefix_right pref path val
  | setPrefixValonpath pref path => exact wf.prefix_right pref (some path) (valstr path)
  | listNodes path =>
    cases path with
    | none => exact wf.right_same
    | some path => exact wf.list_right path
  | registerNode path new =>
    unfold step registerPathNode Fits
    dsimp only
    cases path.filter fun path => path ≠ [] with
    | none => exact wf.registerTop_right proper.1 proper.2
    | some path => exact wf.node_right path proper.1 proper.2
  | registerConfigs path configs =>
    unfold step registerPathConfigs Fits
    dsimp only
    cases path.filter fun path => path ≠ [] with
    | none => exact wf.right_same
    | some path => exact wf.configs_right path configs

theorem Wf.run (wf : t.Wf) {ops : List PathOp} (proper : Lib.Along step Proper t ops) :
    (Lib.run step t ops).Wf :=
  Lib.run_invariant step Proper Wf (fun _ _ wf proper => (wf.step_right proper).1) t wf ops proper

theorem counts_kept (wf : t.Wf) (ops : List PathOp) (proper : Lib.Along step Proper t ops) :
    (Lib.Along step Balanced t ops ↔ Lib.Along step Fits t ops) ∧
      (Lib.Along step Fits t ops → (Lib.run step t ops).counts = t.counts ∧
        ((∀ x, (t.node x).refCnt = 0) → ∀ x, (Lib.run step t ops).refused x = false ∧
          ((Lib.run step t ops).node x).refCnt = 0)) := by
  have exact : Lib.Along step Balanced t ops ↔ Lib.Along step Fits t ops :=
    Lib.along_iff_along step Proper Balanced Fits Wf (fun _ _ wf proper => (wf.step_right proper).2)
      (fun _ _ wf proper _ => (wf.step_right proper).1) t wf ops proper
  refine ⟨exact, fun fits => ?_⟩
  have counts : (Lib.run step t ops).counts = t.counts :=
    Lib.run_invariant step Balanced (fun t' => t'.counts = t.counts) (fun _ _ same balanced =>
      balanced.trans same)
      t rfl ops (exact.mpr fits)
  refine ⟨counts, fun none x => ?_⟩
  have zero : ((Lib.run step t ops).node x).refCnt = 0 := (congrFun counts x).trans (none x)
  refine ⟨?_, zero⟩
  unfold refused
  rw [zero]
  rfl

end Tree

def smallTree : Tree where
  node x := if x = 0 then { name := ['r'], sonNodeList := [1] }
    else if x = 1 then { name := ['m'], depth := 1, parentNode := some 0, configs := some [['v']] }
    else {}
  height := 1

theorem smallTree_wf : smallTree.Wf where
  root := rfl
  sons p x there := by
    unfold smallTree at there ⊢
    dsimp only at there ⊢
    split at there
    next here =>
      rw [List.mem_singleton.mp there, here]
      rfl
    next =>
      split at there <;> cases there
  up := by
    refine ⟨fun x => if x = 1 then 1 else 0, fun x => ?_, fun x p parent => ?_⟩
    · change (if x = 1 then 1 else 0) ≤ 1
      split <;> omega
    · unfold smallTree at parent
      dsimp only at parent ⊢
      split at parent
      next => cases parent
      next =>
        split at parent
        next here =>
          cases parent
          rw [if_pos here]
          decide
        next => cases parent

open UnionpiTiger.Configs.Tree in
theorem counts_kept_small :
    Lib.Along step Proper smallTree [.getStr (some 0) (some ['m', '.', 'v']),
      .listNodes (some ['x', '.', 'y'])] ∧
      (Lib.run step smallTree [.getStr (some 0) (some ['m', '.', 'v']),
        .listNodes (some ['x', '.', 'y'])]).counts =
        smallTree.counts := by
  have proper : Lib.Along step Proper smallTree
      [.getStr (some 0) (some ['m', '.', 'v']), .listNodes (some ['x', '.', 'y'])] :=
        ⟨trivial, trivial, trivial⟩
  refine ⟨proper, ((counts_kept smallTree_wf _ proper).2 ⟨?_, ?_, trivial⟩).1⟩
  · unfold Fits ValueFits UseFits
    decide +kernel
  · unfold Fits Idle
    decide +kernel

theorem counts_lost :
    smallTree.Wf ∧ (smallTree.node 0).refCnt = 0 ∧ (smallTree.node 1).refCnt = 0 ∧
      ((smallTree.step (.listNodes (some ['m']))).node 0).refCnt = -1 ∧
      ((smallTree.step (.listNodes (some ['m', '.', 'x']))).node 1).refCnt = 1 ∧
      ((smallTree.step (.setStr none (some ['m', '.', 'v']) (some ['1']))).node 0).refCnt = -1 ∧
      (Lib.run Tree.step smallTree [.listNodes (some ['r']), .listNodes (some ['r'])]).refused 0 =
        true :=
  ⟨smallTree_wf, rfl, rfl, by decide +kernel⟩

end UnionpiTiger.Configs
