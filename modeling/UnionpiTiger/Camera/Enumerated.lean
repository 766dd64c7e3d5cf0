import UnionpiTiger.Camera.ControlWalk

set_option autoImplicit false

namespace UnionpiTiger.Camera

open Lib

namespace Driver

variable (driver : Driver)

def enabled : List DriverControl := driver.controls.filter fun control => !control.disabled

def ownMenu (control : DriverControl) : List V4l2Menu :=
  if control.type = v4l2CtrlTypeMenu ∨ control.type = v4l2CtrlTypeIntegerMenu
    then driver.menuItems control else []

def record (value : Int32) (menu : List V4l2Menu) (control : DriverControl) : DeviceControl where
  id := control.id
  ctrlClass := v4l2CtrlId2Class control.id
  type := control.type
  flags := control.flags
  minimum := control.minimum
  maximum := control.maximum
  step := control.step
  defaultValue := control.defaultValue
  value := value
  name := control.name
  menu := menu

-- What enumeration is meant to return for a control; zero stands for a value that cannot be read.
def own (control : DriverControl) : DeviceControl :=
  record (control.value.getD 0) (driver.ownMenu control) control

structure EnumeratesRight (fd : Nat) : Prop where
  once : ∃ list, driver.v4l2GetControls true fd = (.ok, some list) ∧
    list.Perm (driver.enabled.map driver.own)
  same : driver.v4l2GetControls true fd = driver.v4l2GetControls false fd

structure Plain : Prop where
  noClass : ∀ control ∈ driver.enabled, control.type ≠ v4l2CtrlTypeCtrlClass
  contiguous : ∀ control ∈ driver.enabled, ∀ id, v4l2CidBase ≤ id ∧ control.id < driver.lastP1 ∨
    v4l2CidPrivateBase ≤ id →
    id < control.id → ∃ other ∈ driver.controls, other.id = id
  menus : ∀ front control back, driver.enabled = front ++ control :: back →
    driver.ownMenu control ≠ [] →
    control.type = v4l2CtrlTypeMenu ∧ back = []
  values : ∀ front control back, driver.enabled = front ++ control :: back → control.value = none →
    ∀ value ∈ (front.filterMap DriverControl.value).getLast?, value = 0

variable {driver} {control : DriverControl}

def taken (driver : Driver) (control : DriverControl) : List V4l2Menu :=
  if control.type = v4l2CtrlTypeMenu then driver.menuItems control else []

theorem visit_plain (mem : control ∈ driver.controls) (plain : control.type ≠ v4l2CtrlTypeCtrlClass)
    (ctrl : DeviceControl) :
    driver.visit ctrl control =
      ([record (control.value.getD ctrl.value) (ctrl.menu ++ driver.taken control) control],
        record (control.value.getD ctrl.value) (ctrl.menu ++ driver.taken control) control) := by
  have value : driver.v4l2GetCtrl control.id = control.value := by
    rw [v4l2GetCtrl, find_self mem]
    rfl
  simp only [visit, v4l2SetValue, if_neg plain, value]
  cases control.value <;> by_cases menu : control.type = v4l2CtrlTypeMenu <;>
    simp [addMenu, taken, menu, record]

theorem visit_length (ctrl : DeviceControl) (control : DriverControl) :
    (driver.visit ctrl control).1.length = if control.type = v4l2CtrlTypeCtrlClass then 2 else 1 := by
  simp only [visit, v4l2SetValue]
  split_ifs
  · rfl
  · cases driver.v4l2GetCtrl control.id <;> rfl

theorem visitAll_length (ctrl : DeviceControl) (rest : List DriverControl) :
    (driver.visitAll ctrl rest).length = (rest.filter fun control => !control.disabled).length +
      (rest.filter fun control => !control.disabled).countP fun control => control.type =
        v4l2CtrlTypeCtrlClass := by
  induction rest generalizing ctrl with
  | nil => rfl
  | cons control rest ih =>
    rw [visitAll, List.filter_cons]
    cases control.disabled with
    | true => simpa using ih ctrl
    | false =>
      simp only [Bool.false_eq_true, if_false, Bool.not_false, if_true]
      rw [List.length_append, visit_length, ih, List.length_cons, List.countP_cons]
      simp only [decide_eq_true_eq]
      split_ifs <;> omega

def stacked (driver : Driver) : Int32 → List V4l2Menu → List DriverControl → List DeviceControl
  | _, _, [] => []
  | value, menu, control :: rest =>
    record (control.value.getD value) (menu ++ driver.taken control) control ::
      stacked driver (control.value.getD value) (menu ++ driver.taken control) rest

theorem visitAll_stacked {rest : List DriverControl}
    (within : ∀ control ∈ rest, control ∈ driver.controls)
    (plain : ∀ control ∈ rest, control.disabled = false → control.type ≠ v4l2CtrlTypeCtrlClass)
    (ctrl : DeviceControl) :
    driver.visitAll ctrl rest =
      driver.stacked ctrl.value ctrl.menu (rest.filter fun control => !control.disabled) := by
  induction rest generalizing ctrl with
  | nil => rfl
  | cons control rest ih =>
    have later := ih (fun other there => within other (List.mem_cons_of_mem control there))
      (fun other there => plain other (List.mem_cons_of_mem control there))
    have here := plain control List.mem_cons_self
    rw [visitAll, List.filter_cons]
    cases disabled : control.disabled with
    | true => simpa using later ctrl
    | false =>
      simp only [Bool.false_eq_true, if_false, Bool.not_false, if_true]
      rw [visit_plain (within control List.mem_cons_self) (here disabled), later, stacked]
      rfl

theorem fresh_plain (mem : control ∈ driver.controls)
    (plain : control.disabled = false → control.type ≠ v4l2CtrlTypeCtrlClass) :
    driver.fresh control =
      if control.disabled then []
        else [record (control.value.getD 0) (driver.taken control) control] := by
  rw [fresh]
  cases disabled : control.disabled with
  | true => rfl
  | false =>
    rw [visit_plain mem (plain disabled)]
    rfl

theorem stacked_ids (value : Int32) (menu : List V4l2Menu) (controls : List DriverControl) :
    (driver.stacked value menu controls).map DeviceControl.id = controls.map DriverControl.id := by
  induction controls generalizing value menu with
  | nil => rfl
  | cons control rest ih => rw [stacked, List.map_cons, List.map_cons, ih, record]

def Unstacked (driver : Driver) : Int32 → List V4l2Menu → List DriverControl → Prop
  | _, _, [] => True
  | value, menu, control :: rest =>
    (control.value = none → value = 0) ∧ menu ++ driver.taken control = driver.ownMenu control ∧
      Unstacked driver (control.value.getD value) (menu ++ driver.taken control) rest

theorem stacked_eq_iff (value : Int32) (menu : List V4l2Menu) (controls : List DriverControl) :
    driver.stacked value menu controls = controls.map driver.own ↔
      driver.Unstacked value menu controls := by
  induction controls generalizing value menu with
  | nil => exact iff_of_true rfl trivial
  | cons control rest ih =>
    have value_iff : control.value.getD value = control.value.getD 0 ↔
        (control.value = none → value = 0) := by
      cases control.value <;> simp
    rw [stacked, List.map_cons, List.cons.injEq, ih, Unstacked, ← value_iff, own, record, record]
    simp [and_assoc]

theorem menuItems_id : ∀ item ∈ driver.menuItems control, item.id = control.id := by
  intro item there
  obtain ⟨index, -, mapped⟩ := List.mem_filterMap.mp there
  obtain ⟨answer, -, rfl⟩ := Option.map_eq_some_iff.mp mapped
  rfl

theorem taken_menu (menu : control.type = v4l2CtrlTypeMenu) :
    driver.taken control = driver.ownMenu control := by
  rw [taken, ownMenu, if_pos menu, if_pos (.inl menu)]

theorem taken_other (other : control.type ≠ v4l2CtrlTypeMenu) :
    driver.taken control = [] := if_neg other

theorem taken_eq_iff : driver.taken control = driver.ownMenu control ↔
    (driver.ownMenu control ≠ [] → control.type = v4l2CtrlTypeMenu) := by
  by_cases menu : control.type = v4l2CtrlTypeMenu
  · exact iff_of_true (taken_menu menu) fun _ => menu
  · rw [taken_other menu]
    constructor
    · exact fun none some => absurd none.symm some
    · intro only
      by_contra some
      exact menu (only fun none => some none.symm)

theorem taken_ids : ∀ item ∈ driver.taken control, item.id = control.id := by
  unfold taken
  split_ifs
  · exact menuItems_id
  · exact nofun

theorem own_ids : ∀ item ∈ driver.ownMenu control, item.id = control.id := by
  unfold ownMenu
  split_ifs
  · exact menuItems_id
  · exact nofun

theorem carried_iff {menu : List V4l2Menu} (apart : ∀ item ∈ menu, item.id ≠ control.id) :
    menu ++ driver.taken control = driver.ownMenu control ↔
      menu = [] ∧ (driver.ownMenu control ≠ [] → control.type = v4l2CtrlTypeMenu) := by
  rw [← taken_eq_iff]
  constructor
  · intro same
    have none : menu = [] := by
      refine List.eq_nil_iff_forall_not_mem.mpr fun item there => ?_
      have owned : item ∈ driver.ownMenu control := same ▸ List.mem_append_left _ there
      exact apart item there (own_ids item owned)
    rw [none, List.nil_append] at same
    exact ⟨none, same⟩
  · rintro ⟨rfl, same⟩
    exact same

def ValuesFit (value : Int32) (controls : List DriverControl) : Prop :=
  ∀ front control back, controls = front ++ control :: back → control.value = none →
    (front.filterMap DriverControl.value).getLast?.getD value = 0

def MenusFit (driver : Driver) (menu : List V4l2Menu) (controls : List DriverControl) : Prop :=
  (menu = [] ∨ controls = []) ∧ ∀ front control back, controls = front ++ control :: back →
    driver.ownMenu control ≠ [] →
    control.type = v4l2CtrlTypeMenu ∧ back = []

theorem valuesFit_cons (value : Int32) (control : DriverControl) (rest : List DriverControl) :
    ValuesFit value (control :: rest) ↔
      (control.value = none → value = 0) ∧ ValuesFit (control.value.getD value) rest := by
  rw [ValuesFit, forall_split_cons fun front control _ => control.value = none →
    (front.filterMap DriverControl.value).getLast?.getD value = 0, ValuesFit]
  refine and_congr Iff.rfl (forall₃_congr fun front other back => ?_)
  have carried : ((control :: front).filterMap DriverControl.value).getLast?.getD value =
      (front.filterMap DriverControl.value).getLast?.getD (control.value.getD value) := by
    cases read : control.value with
    | none => rw [List.filterMap_cons_none read]; rfl
    | some current =>
      rw [List.filterMap_cons_some read, List.getLast?_cons]
      rfl
  rw [carried]

theorem menusFit_cons {menu : List V4l2Menu} {rest : List DriverControl}
    (apart : ∀ item ∈ menu, item.id ≠ control.id) :
    driver.MenusFit menu (control :: rest) ↔
      menu ++ driver.taken control = driver.ownMenu control ∧
        driver.MenusFit (menu ++ driver.taken control) rest := by
  rw [MenusFit, forall_split_cons fun _ control back => driver.ownMenu control ≠ [] →
    control.type = v4l2CtrlTypeMenu ∧ back = [], MenusFit, carried_iff apart]
  constructor
  · rintro ⟨none | ended, here, later⟩
    · refine ⟨⟨none, fun some => (here some).1⟩, ?_, later⟩
      by_cases some : driver.ownMenu control = []
      · rw [none, List.nil_append, taken_eq_iff.mpr fun other => absurd some other, some]
        exact .inl rfl
      · exact .inr (here some).2
    · cases ended
  · rintro ⟨⟨none, only⟩, ended, later⟩
    refine ⟨.inl none, fun some => ⟨only some, ?_⟩, later⟩
    rcases ended with empty | ended
    · rw [none, List.nil_append, taken_eq_iff.mpr only] at empty
      exact absurd empty some
    · exact ended

theorem unstacked_iff {value : Int32} {menu : List V4l2Menu} {controls : List DriverControl}
    (rising : controls.Pairwise fun a b => a.id < b.id)
    (apart : ∀ item ∈ menu, ∀ control ∈ controls, item.id ≠ control.id) :
    driver.Unstacked value menu controls ↔ ValuesFit value controls ∧
      driver.MenusFit menu controls := by
  induction controls generalizing value menu with
  | nil => simp [Unstacked, ValuesFit, MenusFit]
  | cons control rest ih =>
    obtain ⟨before, later⟩ := List.pairwise_cons.mp rising
    have carried : ∀ item ∈ menu ++ driver.taken control, ∀ other ∈ rest, item.id ≠ other.id := by
      intro item there other behind
      rcases List.mem_append.mp there with old | new
      · exact apart item old other (List.mem_cons_of_mem control behind)
      · rw [taken_ids item new]
        exact UInt32.ne_of_lt (before other behind)
    rw [Unstacked, ih later carried, valuesFit_cons,
      menusFit_cons fun item there => apart item there control List.mem_cons_self]
    tauto

theorem enabled_rising : driver.enabled.Pairwise fun a b => a.id < b.id :=
  driver.rising.sublist List.filter_sublist

theorem mem_enabled :
    control ∈ driver.enabled ↔ control ∈ driver.controls ∧ control.disabled = false := by
  simp [enabled]

theorem eq_of_perm_own {list : List DeviceControl}
    (ids : list.map DeviceControl.id = driver.enabled.map DriverControl.id)
    (perm : list.Perm (driver.enabled.map driver.own)) : list = driver.enabled.map driver.own := by
  have rising : (driver.enabled.map DriverControl.id).Pairwise (· < ·) :=
    List.pairwise_map.mpr enabled_rising
  have first : list.Pairwise fun a b => a.id < b.id := by
    rw [← ids] at rising
    exact List.pairwise_map.mp rising
  have second : (driver.enabled.map driver.own).Pairwise fun a b => a.id < b.id :=
    List.pairwise_map.mpr enabled_rising
  exact perm.eq_of_pairwise (fun _ _ _ _ up down => absurd down (UInt32.lt_asymm up)) first second

theorem plain_enabled (noClass : ∀ control ∈ driver.enabled, control.type ≠ v4l2CtrlTypeCtrlClass)
    (mem : control ∈ driver.controls) (disabled : control.disabled = false) :
    control.type ≠ v4l2CtrlTypeCtrlClass :=
  noClass control (mem_enabled.mpr ⟨mem, disabled⟩)

theorem noClass_of_perm
    (perm : (driver.visitAll {} driver.controls).Perm (driver.enabled.map driver.own)) :
    ∀ control ∈ driver.enabled, control.type ≠ v4l2CtrlTypeCtrlClass := by
  have lengths := perm.length_eq
  rw [visitAll_length, List.length_map, enabled] at lengths
  have none := List.countP_eq_zero.mp (Nat.left_eq_add.mp lengths.symm)
  exact fun control there => by simpa using none control there

theorem fit_iff : driver.Unstacked 0 [] driver.enabled ↔
    (∀ front control back, driver.enabled = front ++ control :: back → driver.ownMenu control ≠ [] →
      control.type = v4l2CtrlTypeMenu ∧ back = []) ∧
    ∀ front control back, driver.enabled = front ++ control :: back → control.value = none →
      ∀ value ∈ (front.filterMap DriverControl.value).getLast?, value = 0 := by
  have last (list : List Int32) : list.getLast?.getD 0 = 0 ↔ ∀ value ∈ list.getLast?, value = 0 := by
    cases list.getLast? <;> simp
  have empty : ∀ item ∈ ([] : List V4l2Menu), ∀ control ∈ driver.enabled, item.id ≠ control.id :=
    fun _ there => nomatch there
  have start : ([] : List V4l2Menu) = [] ∨ driver.enabled = [] := .inl rfl
  rw [unstacked_iff enabled_rising empty, ValuesFit, MenusFit, and_iff_right start, and_comm]
  simp only [last]

theorem flatMap_enabled (list : List DriverControl) :
    (list.flatMap fun control => if control.disabled then [] else [driver.own control]) =
      (list.filter fun control => !control.disabled).map driver.own := by
  induction list with
  | nil => rfl
  | cons control rest ih =>
    rw [List.flatMap_cons, ih, List.filter_cons]
    cases control.disabled <;> rfl

theorem fresh_eq_iff (noClass : ∀ control ∈ driver.enabled, control.type ≠ v4l2CtrlTypeCtrlClass)
    (own : ∀ control ∈ driver.enabled, driver.taken control = driver.ownMenu control) :
    driver.reachable.flatMap driver.fresh = driver.enabled.map driver.own ↔
      ∀ control ∈ driver.enabled, control ∈ driver.reachable := by
  have members {other : DriverControl} (there : other ∈ driver.reachable) : other ∈ driver.controls :=
    (mem_reachable_iff.mp there).1
  have each : ∀ other ∈ driver.reachable,
      driver.fresh other = if other.disabled then [] else [driver.own other] := by
    intro other there
    rw [fresh_plain (members there) (plain_enabled noClass (members there))]
    cases disabled : other.disabled with
    | true => rfl
    | false =>
      rw [own other (mem_enabled.mpr ⟨members there, disabled⟩)]
      rfl
  rw [List.flatMap_congr each, flatMap_enabled]
  constructor
  · intro same control there
    have mapped : driver.own control ∈
        (driver.reachable.filter fun control => !control.disabled).map driver.own := by
      rw [same]
      exact List.mem_map_of_mem there
    obtain ⟨other, filtered, equal⟩ := List.mem_map.mp mapped
    have reached := List.mem_of_mem_filter filtered
    have id : other.id = control.id := congrArg DeviceControl.id equal
    rwa [← same_of_id (members reached) (mem_enabled.mp there).1 id]
  · intro all
    have rising : (driver.reachable.filter fun control => !control.disabled).Pairwise fun a b =>
        a.id < b.id :=
      reachable_rising.sublist List.filter_sublist
    have distinct {list : List DriverControl} (rising : list.Pairwise fun a b => a.id < b.id) :
        list.Nodup := by
      refine rising.imp fun {a b} less same => ?_
      rw [same] at less
      exact UInt32.lt_irrefl _ less
    have perm : (driver.reachable.filter fun control => !control.disabled).Perm driver.enabled := by
      refine (List.perm_ext_iff_of_nodup (distinct rising) (distinct enabled_rising)).mpr
        fun other => ?_
      rw [List.mem_filter, mem_enabled, Bool.not_eq_true']
      constructor
      · rintro ⟨reached, enabled⟩
        exact ⟨members reached, enabled⟩
      · rintro ⟨member, enabled⟩
        exact ⟨all other (mem_enabled.mpr ⟨member, enabled⟩), enabled⟩
    rw [perm.eq_of_pairwise (fun _ _ _ _ up down => absurd down (UInt32.lt_asymm up)) rising
      enabled_rising]

theorem enumeratesRight_iff (driver : Driver) (fd : Nat) :
    driver.EnumeratesRight fd ↔ driver.Plain := by
  have within : ∀ control ∈ driver.controls, control ∈ driver.controls := fun _ there => there
  have once : (∃ list, driver.v4l2GetControls true fd = (.ok, some list) ∧
      list.Perm (driver.enabled.map driver.own)) ↔
      (driver.visitAll {} driver.controls).Perm (driver.enabled.map driver.own) := by
    rw [getControls_supported]
    simp
  have same : driver.v4l2GetControls true fd = driver.v4l2GetControls false fd ↔
      driver.visitAll {} driver.controls = driver.reachable.flatMap driver.fresh := by
    rw [getControls_supported, getControls_unsupported]
    simp
  have contiguous : (∀ control ∈ driver.enabled, control ∈ driver.reachable) ↔
      ∀ control ∈ driver.enabled, ∀ id,
      v4l2CidBase ≤ id ∧ control.id < driver.lastP1 ∨ v4l2CidPrivateBase ≤ id → id < control.id →
        ∃ other ∈ driver.controls, other.id = id :=
    forall₂_congr fun control there => mem_reachable_iff.trans (and_iff_right (mem_enabled.mp there).1)
  have stack (noClass : ∀ control ∈ driver.enabled, control.type ≠ v4l2CtrlTypeCtrlClass) :
      driver.visitAll {} driver.controls = driver.stacked 0 [] driver.enabled :=
    visitAll_stacked within (fun control there enabled => plain_enabled noClass there enabled) {}
  have own (menus : ∀ front control back, driver.enabled = front ++ control :: back →
      driver.ownMenu control ≠ [] →
      control.type = v4l2CtrlTypeMenu ∧ back = []) :
      ∀ control ∈ driver.enabled, driver.taken control = driver.ownMenu control := by
    intro control there
    obtain ⟨front, back, split⟩ := List.append_of_mem there
    exact taken_eq_iff.mpr fun some => (menus front control back split some).1
  constructor
  · rintro ⟨right, equal⟩
    have perm := once.mp right
    have noClass := noClass_of_perm perm
    have basic := same.mp equal
    rw [stack noClass] at perm basic
    have exact := eq_of_perm_own (stacked_ids 0 [] driver.enabled) perm
    obtain ⟨menus, values⟩ := fit_iff.mp ((stacked_eq_iff 0 [] driver.enabled).mp exact)
    rw [exact] at basic
    exact ⟨noClass, contiguous.mp ((fresh_eq_iff noClass (own menus)).mp basic.symm), menus, values⟩
  · intro plain
    have exact := (stacked_eq_iff 0 [] driver.enabled).mpr (fit_iff.mpr ⟨plain.menus, plain.values⟩)
    have basic := (fresh_eq_iff plain.noClass (own plain.menus)).mpr (contiguous.mpr plain.contiguous)
    have ext := (stack plain.noClass).trans exact
    exact ⟨once.mpr (ext ▸ .refl _), same.mpr (ext.trans basic.symm)⟩

def webcam : Driver where
  controls := [{ id := 0x00980900, type := 1, name := "Brightness".toList, maximum := 255, step := 1, value := some 128 },
    { id := 0x00980918, type := 3, name := "Power Line Frequency".toList, maximum := 2, step := 1, value := some 1,
      item := fun index => [{ value := 0, name := "Disabled".toList }, { value := 0, name := "50 Hz".toList },
        { value := 0, name := "60 Hz".toList }][index.toNat]? },
    { id := 0x0098091B, type := 1, name := "Sharpness".toList, maximum := 7, step := 1, value := some 3 }]
  rising := by simp
  ranged := by decide

theorem webcam_wrong : ¬ webcam.EnumeratesRight 0 := by
  intro right
  exact absurd right.same (by decide +kernel)

end Driver

end UnionpiTiger.Camera
