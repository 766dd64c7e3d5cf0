import UnionpiTiger.Configs.Refs

set_option autoImplicit false

namespace UnionpiTiger.Configs

structure Component (name : Str) : Prop where
  nonempty : name ≠ []
  short : name.length < maxItemName - 1
  noDot : '.' ∉ name
  noEquals : '=' ∉ name
  noSpace : ∀ c ∈ name, c ≠ ' ' ∧ c ≠ '\r' ∧ c ≠ '\n'

def dotted : List Str → Str
  | [] => []
  | [name] => name
  | name :: rest => name ++ '.' :: dotted rest

section Parsing

variable {name a b value : Str} {c : Char} {names : List Str} {fuel : Nat}

theorem findIdx_append_cons (other : c ∉ a) : ((a ++ c :: b).findIdx fun d => d = c) = a.length := by
  rw [List.findIdx_append, List.findIdx_eq_length_of_false fun d member => by
    simpa using fun same => other (by rw [← same]; exact member)]
  simp [List.findIdx_cons]

theorem findIdx_not_mem (other : c ∉ a) : (a.findIdx fun d => d = c) = a.length :=
  List.findIdx_eq_length_of_false fun d member => by
    simpa using fun same => other (by rw [← same]; exact member)

theorem Component.takeWhile (component : Component name) :
    (name.takeWhile fun c => c ≠ ' ' ∧ c ≠ '\r' ∧ c ≠ '\n') = name :=
  List.takeWhile_eq_self_iff.mpr fun c member => by simpa using component.noSpace c member

theorem Component.firstNode_dot (component : Component name) :
    firstNode (name ++ '.' :: b) = some (name, name.length, false) := by
  have short : ¬name.length ≥ maxItemName - 1 := not_le.mpr component.short
  have inside : name.length < (name ++ '.' :: b).length := by simp
  simp only [firstNode, findIdx_append_cons component.noDot, inside, if_true, short, if_false,
    List.take_left, component.takeWhile, List.length_eq_zero_iff, component.nonempty, or_self]

theorem Component.firstNode_last {path : Str} (component : Component name) (noDot : '.' ∉ path)
    (equals : (path.findIdx fun c => c = '=') = name.length) (begins : path.take name.length = name) :
    firstNode path = some (name, name.length, true) := by
  have short : ¬name.length ≥ maxItemName - 1 := not_le.mpr component.short
  simp only [firstNode, findIdx_not_mem noDot, lt_irrefl, if_false, equals, short, begins,
    component.takeWhile, List.length_eq_zero_iff, component.nonempty, or_self]

theorem Component.firstNode_end (component : Component name) :
    firstNode name = some (name, name.length, true) :=
  component.firstNode_last component.noDot (findIdx_not_mem component.noEquals) List.take_length

theorem Component.firstNode_equals (component : Component name) (noDot : '.' ∉ value) :
    firstNode (name ++ '=' :: value) = some (name, name.length, true) :=
  component.firstNode_last (by simp [component.noDot, noDot])
    (findIdx_append_cons component.noEquals) List.take_left

theorem componentsOf_dotted {last tail : Str} (before : ∀ name ∈ names, Component name) :
    componentsOf (names.length + fuel) (dotted (names ++ [last]) ++ tail) =
      (names ++ (componentsOf fuel (last ++ tail)).1, (componentsOf fuel (last ++ tail)).2) := by
  induction names with
  | nil => simp [dotted]
  | cons name names ih =>
    obtain ⟨next, rest, more⟩ : ∃ next rest, names ++ [last] = next :: rest := by
      cases names with
      | nil => exact ⟨_, _, rfl⟩
      | cons next rest => exact ⟨_, _, rfl⟩
    have rest_ := ih fun name member => before name (List.mem_cons_of_mem _ member)
    have first := (before name List.mem_cons_self).firstNode_dot (b := dotted (names ++ [last]) ++ tail)
    have whole : dotted (name :: names ++ [last]) ++ tail =
        name ++ '.' :: (dotted (names ++ [last]) ++ tail) := by
      rw [List.cons_append, more, dotted, List.append_assoc, List.cons_append]
      simp
    rw [whole, List.length_cons, Nat.add_right_comm]
    simp [componentsOf, first, rest_]

theorem componentsOf_read {path : Str} (read : (componentsOf fuel path).2 = true) :
    (componentsOf fuel path).1 ≠ [] := by
  cases fuel with
  | zero => simp [componentsOf] at read
  | succ fuel =>
    unfold componentsOf at read ⊢
    split at read <;> simp_all

theorem componentsOf_dot {path : Str} (dot : '.' ∈ path) (read : (componentsOf fuel path).2 = true) :
    2 ≤ (componentsOf fuel path).1.length := by
  cases fuel with
  | zero => simp [componentsOf] at read
  | succ fuel =>
    have more {name : Str} {size : Nat} : firstNode path ≠ some (name, size, true) := by
      have inside : (path.findIdx fun c => c = '.') < path.length :=
        List.findIdx_lt_length.mpr ⟨'.', dot, by simp⟩
      simp only [firstNode, inside, if_true]
      split_ifs <;> simp
    unfold componentsOf at read ⊢
    split at read
    · simp at read
    · rename_i found
      exact absurd found more
    · rename_i found
      have rest := componentsOf_read read
      have long := List.length_pos_iff.mpr rest
      simp only [List.length_cons]
      omega

theorem length_dotted {last : Str} (before : ∀ name ∈ names, Component name) :
    names.length ≤ (dotted (names ++ [last])).length := by
  induction names with
  | nil => simp
  | cons name names ih =>
    have rest := ih fun name member => before name (List.mem_cons_of_mem _ member)
    cases names with
    | nil =>
      simp [dotted]
      omega
    | cons next names =>
      simp only [List.cons_append, dotted, List.length_append, List.length_cons] at rest ⊢
      omega

end Parsing

namespace Tree

def leadsTo (t : Tree) (root : Nat) (names : List Str) (set : Bool) : Option (Nat × Str) :=
  let way := t.follow root names.dropLast
  if way.all && (t.permits way.last set && t.hasConfig way.last (names.getLastD [])) then
    some (way.last, names.getLastD [])
  else none

def resolve (t : Tree) (start : Option Nat) (path : Str) (set : Bool) : Option (Nat × Str) :=
  (t.getNodePathConfig start (some path) set).2.map fun x => (x, (components path).1.getLastD [])

-- The value behind a path does not matter for what is found, and it is what is read as the value.
structure ValueIgnored (t : Tree) (start : Option Nat) (set : Bool) (names : List Str)
    (value : Str) : Prop where
  same : t.resolve start (dotted names ++ '=' :: value) set = t.resolve start (dotted names) set
  named : t.resolve start (dotted names) set = t.leadsTo (start.getD rootNode) names set
  value : valstr (dotted names ++ '=' :: value) = some value

def Lost (t : Tree) (start : Option Nat) (set : Bool) (names : List Str) (value : Str) : Prop :=
  t.leadsTo (start.getD rootNode) names set = none ∧
    ((components (dotted names ++ '=' :: value)).2 = true →
    t.leadsTo (start.getD rootNode) (components (dotted names ++ '=' :: value)).1 set = none)

variable {t : Tree} {names more : List Str} {x : Nat}

theorem follow_cons {name : Str} (all : (t.follow x (name :: names)).all = true) : ∃ son, ∀ names,
    t.follow x (name :: names) =
      { t.follow son names with taken := son :: (t.follow son names).taken } := by
  unfold follow at all
  cases found : t.look x name with
  | none => simp [found] at all
  | some son =>
    simp only [found] at all
    split_ifs at all with refused
    exact ⟨son, fun names => by rw [follow, found]; simp [refused]⟩

theorem follow_append (names more : List Str) (x : Nat)
    (all : (t.follow x (names ++ more)).all = true) :
    (t.follow (t.follow x names).last more).all = true ∧
      (t.follow x (names ++ more)).last = (t.follow (t.follow x names).last more).last := by
  induction names generalizing x with
  | nil => exact ⟨all, rfl⟩
  | cons name names ih =>
    rw [List.cons_append] at all ⊢
    obtain ⟨son, down⟩ := follow_cons all
    simp only [down] at all ⊢
    exact ih son all

theorem follow_taken (names : List Str) (x : Nat) (all : (t.follow x names).all = true) :
    (t.follow x names).taken.length = names.length := by
  induction names generalizing x with
  | nil => rfl
  | cons name names ih =>
    obtain ⟨son, down⟩ := follow_cons all
    rw [down] at all ⊢
    simp only [List.length_cons, ih son all]

theorem Wf.resolve_eq (wf : t.Wf) (start : Option Nat) (path : Str) (set : Bool) :
    t.resolve start path set =
    if (components path).2 then t.leadsTo (start.getD rootNode) (components path).1 set else none := by
  unfold resolve getNodePathConfig leadsTo
  dsimp only
  rw [wf.descend_eq]
  cases read : (components path).2 with
  | false => cases all : (t.follow (start.getD rootNode) (components path).1).all <;> simp [all]
  | true =>
    simp only [if_true]
    cases all : (t.follow (start.getD rootNode) (components path).1.dropLast).all with
    | false => simp
    | true =>
      have same (way : Way) : ((t.shift way.counted).permits way.last set &&
          (t.shift way.counted).hasConfig way.last ((components path).1.getLastD [])) =
            (t.permits way.last set && t.hasConfig way.last ((components path).1.getLastD [])) := rfl
      simp only [same, not_true, if_false, Bool.true_and]
      split_ifs <;> rfl

theorem Wf.leadsTo_deeper (wf : t.Wf) {set : Bool} {last : Str} (longer : 2 ≤ more.length)
    (first : t.leadsTo x (names ++ [last]) set ≠ none) :
    t.leadsTo x (names ++ more) set ≠ t.leadsTo x (names ++ [last]) set := by
  intro same
  obtain ⟨found, at_⟩ := Option.ne_none_iff_exists'.mp first
  rw [at_] at same
  have some_ : more ≠ [] := List.length_pos_iff.mp (by omega)
  simp only [leadsTo, List.dropLast_append_of_ne_nil some_] at same
  simp only [leadsTo, List.dropLast_concat] at at_
  split_ifs at same with allowed
  split_ifs at at_ with allowed'
  have all : (t.follow x (names ++ more.dropLast)).all = true := by
    simp only [Bool.and_eq_true] at allowed
    exact allowed.1
  obtain ⟨rest, deeper⟩ := follow_append names more.dropLast x all
  have node : (t.follow x (names ++ more.dropLast)).last = (t.follow x names).last :=
    congrArg Prod.fst (Option.some.inj (same.trans at_.symm))
  have ups := wf.follow_ups more.dropLast (t.follow x names).last
  rw [← deeper, node] at ups
  have length := congrArg List.length ups
  rw [List.length_append, List.length_reverse, follow_taken _ _ rest, List.length_dropLast] at length
  omega

theorem valstr_dotted (noEquals : '=' ∉ dotted names) (value : Str) :
    valstr (dotted names ++ '=' :: value) = some value := by
  have plain : ∀ c ∈ dotted names, (decide (c ≠ '=')) = true := fun c member => by
    simpa using fun same : c = '=' => noEquals (same ▸ member)
  rw [valstr, if_pos (by simp), List.dropWhile_append_of_pos plain]
  simp

theorem dotted_noEquals (valid : ∀ name ∈ names, Component name) : '=' ∉ dotted names := by
  induction names with
  | nil => simp [dotted]
  | cons name names ih =>
    have first := (valid name List.mem_cons_self).noEquals
    have rest := ih fun name member => valid name (List.mem_cons_of_mem _ member)
    cases names with
    | nil => simpa [dotted] using first
    | cons next names => simp [dotted, first, rest]

theorem path_value_iff (wf : t.Wf) (start : Option Nat) (set : Bool) (names : List Str)
    (some_ : names ≠ []) (valid : ∀ name ∈ names, Component name) (value : Str) :
    t.ValueIgnored start set names value ↔ '.' ∉ value ∨ t.Lost start set names value := by
  obtain ⟨before, last, rfl⟩ : ∃ before last, names = before ++ [last] :=
    ⟨names.dropLast, names.getLast some_, (List.dropLast_append_getLast some_).symm⟩
  have component := valid last (by simp)
  have before_ : ∀ name ∈ before, Component name :=
    fun name member => valid name (List.mem_append_left _ member)
  have cut (tail : Str) : ∃ fuel, components (dotted (before ++ [last]) ++ tail) =
      (before ++ (componentsOf (fuel + 1) (last ++ tail)).1,
        (componentsOf (fuel + 1) (last ++ tail)).2) := by
    have long := (@length_dotted _ last) before_
    obtain ⟨fuel, enough⟩ := Nat.exists_eq_add_of_le long
    refine ⟨fuel + tail.length, ?_⟩
    rw [components, List.length_append, enough, show before.length + fuel + tail.length + 1 =
      before.length + (fuel + tail.length + 1) by omega, componentsOf_dotted before_]
  have plain : components (dotted (before ++ [last])) = (before ++ [last], true) := by
    obtain ⟨fuel, read⟩ := cut []
    simpa [componentsOf, component.firstNode_end] using read
  have named : t.resolve start (dotted (before ++ [last])) set =
      t.leadsTo (start.getD rootNode) (before ++ [last]) set := by
    rw [wf.resolve_eq, plain]
    rfl
  have valued := valstr_dotted (dotted_noEquals valid) value
  by_cases dot : '.' ∈ value
  · obtain ⟨fuel, read⟩ := cut ('=' :: value)
    have inside : '.' ∈ last ++ '=' :: value := by simp [dot]
    constructor
    · rintro ⟨same, -, -⟩
      rw [named, wf.resolve_eq] at same
      have none_ : t.leadsTo (start.getD rootNode) (before ++ [last]) set = none := by
        by_contra found
        split_ifs at same with whole
        · rw [read] at same whole
          exact wf.leadsTo_deeper (componentsOf_dot inside whole) found same
        · exact found same.symm
      refine .inr ⟨none_, fun whole => ?_⟩
      rwa [if_pos whole, none_] at same
    · rintro (noDot | ⟨none_, lost⟩)
      · exact absurd dot noDot
      · refine ⟨?_, named, valued⟩
        rw [named, none_, wf.resolve_eq]
        split_ifs with whole
        · exact lost whole
        · rfl
  · obtain ⟨fuel, read⟩ := cut ('=' :: value)
    have whole : components (dotted (before ++ [last]) ++ '=' :: value) = (before ++ [last], true) := by
      simpa [componentsOf, component.firstNode_equals dot] using read
    refine iff_of_true ⟨?_, named, valued⟩ (.inl dot)
    rw [named, wf.resolve_eq, whole]
    rfl

section Sample

def sampleTree : Tree where
  node x := if x = 0 then { name := ['r'], sonNodeList := [1] }
    else if x = 1 then { name := ['m'], parentNode := some 0, depth := 1, configs := some [['c']] }
      else {}
  height := 1

theorem sampleTree_wf : sampleTree.Wf where
  root := rfl
  sons p x there := by
    simp only [sampleTree] at there ⊢
    split_ifs at there with root first <;> simp_all
  up := by
    refine ⟨fun x => if x = 1 then 1 else 0, fun x => ?_, fun x p above => ?_⟩
    · simp only [sampleTree]
      split_ifs <;> omega
    · simp only [sampleTree] at above
      split_ifs at above with root first
      simp_all

theorem component_letter (c : Char) (plain : c ≠ '.' ∧ c ≠ '=' ∧ c ≠ ' ' ∧ c ≠ '\r' ∧ c ≠ '\n') :
    Component [c] where
  nonempty := by simp
  short := by simp [maxItemName]
  noDot := by simpa using plain.1.symm
  noEquals := by simpa using plain.2.1.symm
  noSpace := by simpa using plain.2.2

theorem sample_components : ∀ name ∈ [['m'], ['c']], Component name := by
  simp only [List.mem_cons, List.not_mem_nil, or_false, forall_eq_or_imp, forall_eq]
  exact ⟨component_letter 'm' (by decide), component_letter 'c' (by decide)⟩

theorem path_value_plain : sampleTree.ValueIgnored none true [['m'], ['c']] ['7'] :=
  (path_value_iff sampleTree_wf none true [['m'], ['c']] (by simp) sample_components ['7']).mpr
    (.inl (by decide))

theorem path_value_dot :
    ¬∀ (t : Tree), t.Wf → ∀ start set names, names ≠ [] → (∀ name ∈ names, Component name) →
    ∀ value, t.ValueIgnored start set names value := by
  intro claim
  have ignored := claim sampleTree sampleTree_wf none true [['m'],
    ['c']] (by simp) sample_components ['1', '.', '5']
  have found : (sampleTree.getNodePathConfig none (some (dotted [['m'], ['c']])) true).2 =
      some 1 := by rfl
  have lost : (sampleTree.getNodePathConfig none
      (some (dotted [['m'], ['c']] ++ '=' :: ['1', '.', '5'])) true).2 = none := by rfl
  have same := ignored.same
  simp [resolve, found, lost] at same

end Sample

end Tree

end UnionpiTiger.Configs
