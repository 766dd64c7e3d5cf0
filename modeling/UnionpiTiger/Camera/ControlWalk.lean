import Mathlib.Algebra.Order.Ring.Nat
import UnionpiTiger.Camera.Control
import UnionpiTiger.Lib.Numbered

set_option autoImplicit false

namespace UnionpiTiger.Camera

open Lib

namespace Driver

variable {driver : Driver} {control : DriverControl}

theorem find_self (mem : control ∈ driver.controls) : driver.find control.id = some control :=
  find?_key DriverControl.id (driver.rising.imp fun less => (UInt32.ne_of_lt less)) mem

theorem same_of_id {other : DriverControl} (first : control ∈ driver.controls)
    (second : other ∈ driver.controls) (same : control.id = other.id) : control = other := by
  have found := find_self first
  rw [same, find_self second] at found
  exact (Option.some.inj found).symm

theorem find_mem {id : UInt32} (found : driver.find id = some control) :
    control ∈ driver.controls ∧ control.id = id :=
  ⟨List.mem_of_find?_eq_some found, by simpa using List.find?_some found⟩

theorem id_bounds (mem : control ∈ driver.controls) :
    0 < control.id.toNat ∧ control.id.toNat < 2 ^ 31 := by
  have below := UInt32.le_iff_toNat_le.mp driver.below
  have base : v4l2CidBase.toNat = 0x00980900 := rfl
  have privateBase : v4l2CidPrivateBase.toNat = 0x08000000 := rfl
  have last : (v4l2CidPrivateBase + 100).toNat = 0x08000064 := rfl
  rcases driver.ranged control mem with ⟨low, high⟩ | ⟨low, high⟩
  · have low := UInt32.le_iff_toNat_le.mp low
    have high := UInt32.lt_iff_toNat_lt.mp high
    omega
  · have low := UInt32.le_iff_toNat_le.mp low
    have high := UInt32.lt_iff_toNat_lt.mp high
    omega

def unflagged (id : UInt32) : UInt32 := id &&& ~~~ v4l2CtrlFlagNextCtrl

theorem unflagged_id (mem : control ∈ driver.controls) : unflagged control.id = control.id := by
  have small := (id_bounds mem).2
  have mask : ~~~ v4l2CtrlFlagNextCtrl = 0x7FFFFFFF := by decide
  rw [unflagged, mask, ← UInt32.toNat_inj, UInt32.toNat_and]
  exact (Nat.and_two_pow_sub_one_eq_mod _ 31).trans (Nat.mod_eq_of_lt small)

theorem flagged (id : UInt32) : (id ||| v4l2CtrlFlagNextCtrl) &&& v4l2CtrlFlagNextCtrl ≠ 0 := by
  have absorbed : (id ||| v4l2CtrlFlagNextCtrl) &&& v4l2CtrlFlagNextCtrl = v4l2CtrlFlagNextCtrl := by
    apply UInt32.eq_of_toBitVec_eq
    ext i
    simp only [UInt32.toBitVec_and, UInt32.toBitVec_or, BitVec.getElem_and, BitVec.getElem_or]
    cases v4l2CtrlFlagNextCtrl.toBitVec[i] <;> simp
  rw [absorbed]
  decide

theorem or_and_not (a b : UInt32) : (a ||| b) &&& ~~~ b = a &&& ~~~ b := by
  apply UInt32.eq_of_toBitVec_eq
  ext i
  simp only [UInt32.toBitVec_and, UInt32.toBitVec_or, UInt32.toBitVec_not, BitVec.getElem_and,
    BitVec.getElem_or, BitVec.getElem_not]
  rw [Bool.and_or_distrib_right, Bool.and_not_self, Bool.or_false]

theorem extControl_supported (id : UInt32) :
    driver.extControl true id = driver.controls.find? fun control => unflagged id < control.id := by
  have rest : (id ||| v4l2CtrlFlagNextCtrl) &&& ~~~ v4l2CtrlFlagNextCtrl = unflagged id :=
    or_and_not id _
  rw [extControl, queryCtrl, if_pos (flagged id), if_pos rfl, rest]

theorem extControl_unsupported (id : UInt32) : driver.extControl false id = none := by
  rw [extControl, queryCtrl, if_pos (flagged id), if_neg Bool.false_ne_true]

def visit (driver : Driver) (ctrl : DeviceControl) (control : DriverControl) :
    List DeviceControl × DeviceControl :=
  let set := driver.v4l2SetValue [] ctrl control
  let ctrl := driver.addMenu set.2 control
  (set.1 ++ [ctrl], ctrl)

def visitAll (driver : Driver) : DeviceControl → List DriverControl → List DeviceControl
  | _, [] => []
  | ctrl, control :: rest =>
    if control.disabled then visitAll driver ctrl rest
    else (driver.visit ctrl control).1 ++ visitAll driver (driver.visit ctrl control).2 rest

theorem v4l2SetValue_append (list : List DeviceControl) (ctrl : DeviceControl)
    (control : DriverControl) :
    driver.v4l2SetValue list ctrl control =
      (list ++ (driver.v4l2SetValue [] ctrl control).1, (driver.v4l2SetValue [] ctrl control).2) := by
  simp only [v4l2SetValue]
  split_ifs
  · simp
  · cases driver.v4l2GetCtrl control.id <;> simp

theorem find?_rising {front rest : List DriverControl} {id : UInt32}
    (behind : ∀ control ∈ front, control.id ≤ id) (before : ∀ control ∈ rest, id < control.id) :
    ((front ++ rest).find? fun control => id < control.id) = rest.head? := by
  have none : (front.find? fun control => id < control.id) = none := by
    refine List.find?_eq_none.mpr fun control there => ?_
    simpa using behind control there
  rw [List.find?_append, none, Option.none_or]
  cases rest with
  | nil => rfl
  | cons control rest => exact List.find?_cons_of_pos (by simpa using before control List.mem_cons_self)

theorem enumExtLoop_eq {front rest : List DriverControl} (split : driver.controls = front ++ rest)
    {id : UInt32} (behind : ∀ control ∈ front, control.id ≤ unflagged id)
    (before : ∀ control ∈ rest, unflagged id < control.id) {fuel : Nat}
    (enough : rest.length < fuel) (ctrl : DeviceControl) (list : List DeviceControl) :
    driver.enumExtLoop true fuel id ctrl list = some (list ++ driver.visitAll ctrl rest) := by
  induction rest generalizing front id fuel ctrl list with
  | nil =>
    cases fuel with
    | zero => exact absurd enough (Nat.not_lt_zero _)
    | succ fuel =>
      rw [enumExtLoop, extControl_supported, split, find?_rising behind before]
      simp [visitAll]
  | cons control rest ih =>
    cases fuel with
    | zero => exact absurd enough (Nat.not_lt_zero _)
    | succ fuel =>
      have member : control ∈ driver.controls := by simp [split]
      have rising := driver.rising
      rw [split, List.pairwise_append] at rising
      obtain ⟨-, later, across⟩ := rising
      have next : driver.controls = (front ++ [control]) ++ rest := by simp [split]
      have nextBehind : ∀ other ∈ front ++ [control], other.id ≤ unflagged control.id := by
        intro other there
        rw [unflagged_id member]
        rcases List.mem_append.mp there with old | new
        · exact UInt32.le_of_lt (across other old control List.mem_cons_self)
        · rw [List.mem_singleton.mp new]
          exact UInt32.le_refl _
      have nextBefore : ∀ other ∈ rest, unflagged control.id < other.id := by
        intro other there
        rw [unflagged_id member]
        exact (List.pairwise_cons.mp later).1 other there
      have room : rest.length < fuel := by simpa using enough
      rw [enumExtLoop, extControl_supported, split, find?_rising behind before]
      simp only [List.head?_cons, visitAll]
      split_ifs
      · exact ih next nextBehind nextBefore room ctrl list
      · rw [v4l2SetValue_append]
        dsimp only
        rw [ih next nextBehind nextBefore room, visit]
        simp

theorem v4l2EnumExtControls_eq :
    driver.v4l2EnumExtControls true [] = some (driver.visitAll {} driver.controls) := by
  have zero : unflagged v4l2CtrlFlagNextCtrl = 0 := by decide
  have split : driver.controls = [] ++ driver.controls := rfl
  refine enumExtLoop_eq split (fun _ there => nomatch there) ?_ (Nat.lt_succ_self _) {} []
  intro control there
  rw [zero, UInt32.lt_iff_toNat_lt]
  exact (id_bounds there).1

def reached (driver : Driver) : Nat → UInt32 → List DriverControl
  | 0, _ => []
  | left + 1, id =>
    match driver.find id with
    | none => []
    | some control => control :: reached driver left (id + 1)

def fresh (driver : Driver) (control : DriverControl) : List DeviceControl :=
  if control.disabled then [] else (driver.visit {} control).1

theorem enumRange_eq (left : Nat) (id : UInt32) (list : List DeviceControl) :
    driver.enumRange left id list = list ++ (driver.reached left id).flatMap driver.fresh := by
  induction left generalizing id list with
  | zero => simp [enumRange, reached]
  | succ left ih =>
    rw [enumRange, v4l2GetControl, reached]
    cases driver.find id with
    | none => simp
    | some control =>
      dsimp only
      rw [List.flatMap_cons, fresh]
      split_ifs
      · dsimp only
        rw [ih, List.nil_append]
      · rw [v4l2SetValue_append]
        dsimp only
        rw [ih, visit]
        simp

def reachable (driver : Driver) : List DriverControl :=
  driver.reached (driver.lastP1 - v4l2CidBase).toNat v4l2CidBase ++
    driver.reached 100 v4l2CidPrivateBase

theorem v4l2EnumControls_eq : driver.v4l2EnumControls [] = driver.reachable.flatMap driver.fresh := by
  rw [v4l2EnumControls, enumRange_eq, enumRange_eq, List.nil_append, reachable, List.flatMap_append]

theorem toNat_succ {id : UInt32} (fits : id.toNat + 1 < 2 ^ 32) : (id + 1).toNat = id.toNat + 1 := by
  have one : (1 : UInt32).toNat = 1 := rfl
  rw [UInt32.toNat_add, one]
  exact Nat.mod_eq_of_lt fits

theorem mem_reached_iff {left : Nat} {start : UInt32} (fits : start.toNat + left < 2 ^ 32) :
    control ∈ driver.reached left start ↔
      control ∈ driver.controls ∧ start ≤ control.id ∧ control.id.toNat < start.toNat + left ∧
        ∀ id, start ≤ id → id < control.id → ∃ other ∈ driver.controls, other.id = id := by
  induction left generalizing start with
  | zero =>
    rw [reached]
    refine iff_of_false nofun ?_
    rintro ⟨-, low, high, -⟩
    have low := UInt32.le_iff_toNat_le.mp low
    omega
  | succ left ih =>
    have next : (start + 1).toNat = start.toNat + 1 := toNat_succ (by omega)
    have cut (id : UInt32) : start ≤ id ↔ id = start ∨ start + 1 ≤ id := by
      rw [UInt32.le_iff_toNat_le, UInt32.le_iff_toNat_le, ← UInt32.toNat_inj, next]
      omega
    rw [reached]
    cases found : driver.find start with
    | none =>
      refine iff_of_false nofun ?_
      rintro ⟨member, low, -, all⟩
      have exists_start : ∃ other ∈ driver.controls, other.id = start := by
        rcases (cut control.id).mp low with same | above
        · exact ⟨control, member, same⟩
        · refine all start (UInt32.le_refl _) ?_
          rw [UInt32.le_iff_toNat_le, next] at above
          rw [UInt32.lt_iff_toNat_lt]
          omega
      obtain ⟨other, there, same⟩ := exists_start
      have self := find_self there
      rw [same, found] at self
      cases self
    | some first =>
      obtain ⟨member, same⟩ := find_mem found
      rw [List.mem_cons, ih (by omega), next]
      constructor
      · rintro (rfl | ⟨there, low, high, all⟩)
        · refine ⟨member, UInt32.le_of_eq same.symm, by rw [same]; omega, fun id low high => ?_⟩
          rw [same] at high
          exact absurd low (UInt32.not_le.mpr high)
        · refine ⟨there, (cut control.id).mpr (.inr low), by omega, fun id above below => ?_⟩
          rcases (cut id).mp above with rfl | beyond
          · exact ⟨first, member, same⟩
          · exact all id beyond below
      · rintro ⟨there, low, high, all⟩
        rcases (cut control.id).mp low with here | beyond
        · have self := find_self there
          rw [here, found] at self
          exact .inl (Option.some.inj self).symm
        · exact .inr ⟨there, beyond,
            by omega, fun id above below => all id ((cut id).mpr (.inr above)) below⟩

theorem mem_reachable_iff :
    control ∈ driver.reachable ↔ control ∈ driver.controls ∧
      ∀ id, v4l2CidBase ≤ id ∧ control.id < driver.lastP1 ∨ v4l2CidPrivateBase ≤ id → id < control.id →
        ∃ other ∈ driver.controls, other.id = id := by
  have above := UInt32.le_iff_toNat_le.mp driver.above
  have below := UInt32.le_iff_toNat_le.mp driver.below
  have length : (driver.lastP1 - v4l2CidBase).toNat = driver.lastP1.toNat - v4l2CidBase.toNat :=
    UInt32.toNat_sub_of_le _ _ driver.above
  have last := driver.lastP1.toNat_lt
  have hundred : (v4l2CidPrivateBase + 100).toNat = v4l2CidPrivateBase.toNat + 100 := rfl
  have fits : v4l2CidPrivateBase.toNat + 100 < 2 ^ 32 := by decide
  have ends : v4l2CidBase.toNat + (driver.lastP1.toNat - v4l2CidBase.toNat) =
      driver.lastP1.toNat := by omega
  rw [reachable, List.mem_append, length, mem_reached_iff (by omega), mem_reached_iff fits, ends,
    ← hundred, ← UInt32.lt_iff_toNat_lt, ← UInt32.lt_iff_toNat_lt]
  have apart {id : UInt32} (user : id < driver.lastP1) (other : v4l2CidPrivateBase ≤ id) : False :=
    UInt32.lt_irrefl _ (UInt32.lt_of_lt_of_le user (UInt32.le_trans driver.below other))
  constructor
  · rintro (⟨member, -, high, all⟩ | ⟨member, low, -, all⟩)
    · refine ⟨member, fun id range before => ?_⟩
      rcases range with ⟨base, -⟩ | beyond
      · exact all id base before
      · exact (apart high (UInt32.le_trans beyond (UInt32.le_of_lt before))).elim
    · refine ⟨member, fun id range before => ?_⟩
      rcases range with ⟨-, user⟩ | beyond
      · exact (apart user low).elim
      · exact all id beyond before
  · rintro ⟨member, all⟩
    rcases driver.ranged control member with ⟨low, high⟩ | ⟨low, high⟩
    · exact .inl ⟨member, low, high, fun id base => all id (.inl ⟨base, high⟩)⟩
    · exact .inr ⟨member, low, high, fun id beyond => all id (.inr beyond)⟩

theorem reached_rising {left : Nat} {start : UInt32} (fits : start.toNat + left < 2 ^ 32) :
    (driver.reached left start).Pairwise fun a b => a.id < b.id := by
  induction left generalizing start with
  | zero => exact .nil
  | succ left ih =>
    have next : (start + 1).toNat = start.toNat + 1 := toNat_succ (by omega)
    rw [reached]
    cases found : driver.find start with
    | none => exact .nil
    | some first =>
      refine List.pairwise_cons.mpr ⟨fun other there => ?_, ih (by omega)⟩
      have low := ((mem_reached_iff (by omega)).mp there).2.1
      rw [(find_mem found).2, UInt32.lt_iff_toNat_lt]
      rw [UInt32.le_iff_toNat_le, next] at low
      omega

theorem reachable_rising : driver.reachable.Pairwise fun a b => a.id < b.id := by
  have above := UInt32.le_iff_toNat_le.mp driver.above
  have length : (driver.lastP1 - v4l2CidBase).toNat = driver.lastP1.toNat - v4l2CidBase.toNat :=
    UInt32.toNat_sub_of_le _ _ driver.above
  have last := driver.lastP1.toNat_lt
  have fits : v4l2CidPrivateBase.toNat + 100 < 2 ^ 32 := by decide
  rw [reachable, length]
  refine List.pairwise_append.mpr ⟨reached_rising (by omega), reached_rising fits,
    fun user first other second => ?_⟩
  have high := ((mem_reached_iff (by omega)).mp first).2.2.1
  have low := UInt32.le_iff_toNat_le.mp ((mem_reached_iff fits).mp second).2.1
  have below := UInt32.le_iff_toNat_le.mp driver.below
  rw [UInt32.lt_iff_toNat_lt]
  omega

theorem getControls_supported (fd : Nat) :
    driver.v4l2GetControls true fd = (.ok, some (driver.visitAll {} driver.controls)) := by
  have zero : unflagged v4l2CtrlFlagNextCtrl = 0 := by decide
  have first : driver.extControl true v4l2CtrlFlagNextCtrl = driver.controls.head? := by
    rw [extControl_supported, zero]
    have none : ∀ control ∈ ([] : List DriverControl), control.id ≤ 0 := fun _ there => nomatch there
    refine find?_rising none fun control there => ?_
    rw [UInt32.lt_iff_toNat_lt]
    exact (id_bounds there).1
  rw [v4l2GetControls, if_neg (by omega), first]
  cases controls : driver.controls with
  | nil =>
    have none : driver.reachable = [] := by
      refine List.eq_nil_iff_forall_not_mem.mpr fun control there => ?_
      have member := (mem_reachable_iff.mp there).1
      rw [controls] at member
      cases member
    rw [List.head?_nil, Option.isNone_none, if_pos rfl, v4l2EnumControls_eq, none]
    rfl
  | cons control rest =>
    rw [List.head?_cons, Option.isNone_some, if_neg Bool.false_ne_true,
      v4l2EnumExtControls_eq, controls]

theorem getControls_unsupported (fd : Nat) :
    driver.v4l2GetControls false fd = (.ok, some (driver.reachable.flatMap driver.fresh)) := by
  rw [v4l2GetControls, if_neg (by omega), extControl_unsupported, Option.isNone_none, if_pos rfl,
    v4l2EnumControls_eq]

end Driver

end UnionpiTiger.Camera
