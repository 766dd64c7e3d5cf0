import UnionpiTiger.Camera.Control

set_option autoImplicit false

namespace UnionpiTiger.Camera

open Lib

def submitted (sent : List Ioctl) : List (UInt32 × ExtControl) :=
  sent.flatMap fun
    | .sExtCtrls ctrlClass controls => controls.map fun entry => (ctrlClass, entry)
    | _ => []

-- After a batch that fails, each of its entries is set on its own once, and nothing else ever is.
inductive Retried (ok : Outcomes) : List Ioctl → Prop where
  | nothing : Retried ok []
  | batch {sent : List Ioctl} {ctrlClass : UInt32} {controls : List ExtControl}
      (before : Retried ok sent)
      (succeeds : ok (sent ++ [.sExtCtrls ctrlClass controls]) = true) :
      Retried ok (sent ++ [.sExtCtrls ctrlClass controls])
  | retries {sent : List Ioctl} {ctrlClass : UInt32} {controls again : List ExtControl}
      (before : Retried ok sent)
      (fails : ok (sent ++ [.sExtCtrls ctrlClass controls]) = false) (each : again.Perm controls) :
      Retried ok (sent ++ .sExtCtrls ctrlClass controls :: again.map .sCtrl)

def DeviceControl.entry (control : DeviceControl) : UInt32 × ExtControl :=
  (control.ctrlClass, { id := control.id, value := control.value })

def writables (control : List DeviceControl) : List DeviceControl :=
  control.filter fun one => !one.readOnly

structure SetRight (ok : Outcomes) (control : List DeviceControl) (sent : List Ioctl) : Prop where
  retried : Retried ok sent
  exact : (submitted sent).Perm ((writables control).map DeviceControl.entry)

def written (scratch : Scratch) (controls : List DeviceControl) : List ExtControl :=
  controls.mapIdx fun i control => { id := (scratch i).id, value := control.value }

def submit (ok : Outcomes) (scratch : Scratch) (sent : List Ioctl)
    (batch : UInt32 × List DeviceControl) : List Ioctl :=
  let next := sent ++ [.sExtCtrls batch.1 (written scratch batch.2)]
  if ok next then next else next ++ (written scratch batch.2).map .sCtrl

def setBatches (control : List DeviceControl) : List (UInt32 × List DeviceControl) :=
  batches DeviceControl.readOnly DeviceControl.ctrlClass [] control

variable {ok : Outcomes} {scratch : Scratch}

theorem setEach_eq (cList : Scratch) (i count : Nat) (sent : List Ioctl) :
    setEach cList i count sent = sent ++ (List.range' i count).map fun i => .sCtrl (cList i) := by
  induction count generalizing i sent with
  | zero => simp [setEach]
  | succ count ih => simp [setEach, ih, List.range'_succ]

structure Stored (scratch : Scratch) (setting : Setting) (pending : List DeviceControl)
    (sent : List Ioctl) : Prop where
  count : setting.count = pending.length
  ids : ∀ i, (setting.cList i).id = (scratch i).id
  values : ∀ i control, pending[i]? = some control → (setting.cList i).value = control.value
  sent : setting.sent = sent

theorem Stored.first {setting : Setting} {pending : List DeviceControl} {sent : List Ioctl}
    (stored : Stored scratch setting pending sent) :
    setting.cList.first setting.count = written scratch pending := by
  apply List.ext_getElem
  · simp [Scratch.first, written, stored.count]
  · intro i here there
    have inside : i < pending.length := by simpa [written] using there
    have id := stored.ids i
    have value := stored.values i pending[i] (List.getElem?_eq_getElem inside)
    simp [Scratch.first, written, ← id, ← value]

theorem Stored.store {setting : Setting} {pending : List DeviceControl} {sent : List Ioctl}
    {numControls : Nat} (room : pending.length < numControls)
    (stored : Stored scratch setting pending sent) (control : DeviceControl) :
    Stored scratch (setting.store numControls control) (pending ++ [control]) sent := by
  have count := stored.count
  rw [Setting.store, if_pos (by omega)]
  refine ⟨by simp [count], fun i => ?_, fun i other there => ?_, stored.sent⟩
  · dsimp only
    by_cases here : i = setting.count
    · rw [here, Function.update_self]
      exact stored.ids setting.count
    · rw [Function.update_of_ne here]
      exact stored.ids i
  · dsimp only
    by_cases here : i = pending.length
    · rw [here, ← count, Function.update_self]
      rw [here, List.getElem?_concat_length] at there
      rw [Option.some.inj there]
    · rw [count, Function.update_of_ne here]
      rw [getElem?_concat_ne pending control here] at there
      exact stored.values i other there

theorem Stored.flush {setting : Setting} {pending : List DeviceControl} {sent : List Ioctl}
    (stored : Stored scratch setting pending sent) (ctrlClass : UInt32) :
    Stored scratch (setting.flush ok ctrlClass) [] (submit ok scratch sent (ctrlClass, pending)) := by
  refine ⟨rfl, stored.ids, nofun, ?_⟩
  have entries := stored.first
  simp only [Setting.flush, submit, entries, stored.sent, setEach_eq, ← List.range_eq_range']
  rw [← entries, Scratch.first, List.map_map]
  rfl

theorem v4l2SetCtrls_sent (ok : Outcomes) (scratch : Scratch) (control : List DeviceControl) :
    (v4l2SetCtrls ok scratch control control.length).2 =
      (setBatches control).foldl (submit ok scratch) [] := by
  have start : Stored scratch { cList := scratch } [] [] := ⟨rfl, fun _ => rfl, nofun, rfl⟩
  have all : Stored scratch
      (batchLoop DeviceControl.readOnly DeviceControl.ctrlClass (Setting.store control.length)
        (Setting.flush ok)
        { cList := scratch } control)
      (leftover DeviceControl.readOnly DeviceControl.ctrlClass [] control)
      ((setBatches control).foldl (submit ok scratch) []) :=
    batchLoop_simulates (fun _ _ _ one room stored => stored.store room one)
      (fun _ _ _ ctrlClass stored => stored.flush ctrlClass) start control (by simp)
  rw [v4l2SetCtrls, if_neg (by simp)]
  exact all.sent

theorem Retried.submit {sent : List Ioctl} (retried : Retried ok sent)
    (batch : UInt32 × List DeviceControl) :
    Retried ok (submit ok scratch sent batch) := by
  unfold Camera.submit
  cases outcome : ok (sent ++ [.sExtCtrls batch.1 (written scratch batch.2)]) with
  | true =>
    simp only [outcome, if_true]
    exact retried.batch outcome
  | false =>
    simp only [outcome, Bool.false_eq_true, if_false, List.append_assoc, List.singleton_append]
    exact retried.retries outcome (.refl _)

theorem retried_foldl (groups : List (UInt32 × List DeviceControl)) {sent : List Ioctl}
    (retried : Retried ok sent) :
    Retried ok (groups.foldl (submit ok scratch) sent) := by
  induction groups generalizing sent with
  | nil => exact retried
  | cons batch rest ih => exact ih (retried.submit batch)

theorem v4l2SetCtrls_mismatch {control : List DeviceControl} {numControls : Int}
    (differs : numControls ≠ control.length) :
    v4l2SetCtrls ok scratch control numControls = (.error, []) := if_pos differs

theorem v4l2SetCtrls_retried (ok : Outcomes) (scratch : Scratch) (control : List DeviceControl)
    (numControls : Int) :
    Retried ok (v4l2SetCtrls ok scratch control numControls).2 := by
  by_cases same : numControls = control.length
  · rw [same, v4l2SetCtrls_sent]
    exact retried_foldl _ .nothing
  · rw [v4l2SetCtrls_mismatch same]
    exact .nothing

theorem submitted_submit (sent : List Ioctl) (batch : UInt32 × List DeviceControl) :
    submitted (submit ok scratch sent batch) =
      submitted sent ++ (written scratch batch.2).map fun entry => (batch.1, entry) := by
  have none (controls : List ExtControl) : submitted (controls.map .sCtrl) = [] := by
    induction controls with
    | nil => rfl
    | cons control rest ih => exact ih
  have next : submitted (sent ++ [.sExtCtrls batch.1 (written scratch batch.2)]) =
      submitted sent ++ (written scratch batch.2).map fun entry => (batch.1, entry) := by
    simp [submitted]
  unfold submit
  dsimp only
  split_ifs
  · exact next
  · rw [← next]
    conv_rhs => rw [← List.append_nil (submitted _), ← none (written scratch batch.2)]
    exact List.flatMap_append

theorem submitted_foldl (groups : List (UInt32 × List DeviceControl)) (sent : List Ioctl) :
    submitted (groups.foldl (submit ok scratch) sent) =
      submitted sent ++ groups.flatMap fun batch => (written scratch batch.2).map fun entry =>
        (batch.1, entry) := by
  induction groups generalizing sent with
  | nil => simp
  | cons batch rest ih => rw [List.foldl_cons, ih, submitted_submit, List.flatMap_cons,
      List.append_assoc]

theorem submitted_ids (ids : UInt32) (control : List DeviceControl) (numControls : Int) :
    ∀ entry ∈ submitted (v4l2SetCtrls ok (fun _ => { id := ids, value := 0 }) control
      numControls).2, entry.2.id = ids := by
  intro entry there
  by_cases same : numControls = control.length
  · rw [same, v4l2SetCtrls_sent, submitted_foldl] at there
    obtain ⟨batch, -, member⟩ := List.mem_flatMap.mp there
    obtain ⟨one, written, rfl⟩ := List.mem_map.mp member
    obtain ⟨i, -, rfl⟩ := List.mem_mapIdx.mp written
    rfl
  · rw [v4l2SetCtrls_mismatch same] at there
    cases there

theorem submitted_values (ok : Outcomes) (scratch : Scratch) (control : List DeviceControl) :
    (submitted (v4l2SetCtrls ok scratch control control.length).2).map (fun entry => entry.2.value) ++
        (leftover DeviceControl.readOnly DeviceControl.ctrlClass [] control).map DeviceControl.value =
      (writables control).map DeviceControl.value := by
  have values (batch : UInt32 × List DeviceControl) :
      ((written scratch batch.2).map fun entry => (batch.1, entry)).map (fun entry => entry.2.value) =
        batch.2.map DeviceControl.value := by
    apply List.ext_getElem?
    intro i
    simp [written]
    cases batch.2[i]? <;> rfl
  have flat := congrArg (List.map DeviceControl.value)
    (batches_flatten DeviceControl.readOnly DeviceControl.ctrlClass [] control)
  rw [List.map_append, List.map_flatMap] at flat
  rw [v4l2SetCtrls_sent, submitted_foldl, writables]
  simp only [submitted, List.flatMap_nil, List.nil_append, List.map_flatMap, values]
  exact flat

theorem all_submitted_iff (ok : Outcomes) (scratch : Scratch) (control : List DeviceControl) :
    ((submitted (v4l2SetCtrls ok scratch control control.length).2).length =
      (writables control).length ↔
      ∀ front one back, control = front ++ one :: back → one.readOnly = false →
        (∀ other ∈ back, other.readOnly = true) →
        lastOfRun DeviceControl.ctrlClass one back = true) ∧
      (submitted (v4l2SetCtrls ok scratch control control.length).2).map (fun entry => entry.2.value) ++
          (leftover DeviceControl.readOnly DeviceControl.ctrlClass [] control).map DeviceControl.value =
        (writables control).map DeviceControl.value := by
  refine ⟨?_, submitted_values ok scratch control⟩
  have lengths := congrArg List.length (submitted_values ok scratch control)
  simp only [List.length_append, List.length_map] at lengths
  have none := leftover_eq_nil_iff DeviceControl.readOnly DeviceControl.ctrlClass [] control
  rw [and_iff_left (.inl rfl)] at none
  rw [← none, ← List.length_eq_zero_iff]
  omega

theorem v4l2SetCtrls_iff (ok : Outcomes) (control : List DeviceControl) (numControls : Int) :
    (∀ scratch, SetRight ok control (v4l2SetCtrls ok scratch control numControls).2) ↔
      ∀ one ∈ control, one.readOnly = true := by
  constructor
  · intro right one there
    by_contra writable
    have member : one ∈ writables control := List.mem_filter.mpr ⟨there, by simpa using writable⟩
    have exact := (right fun _ => { id := one.id + 1, value := 0 }).exact
    have entry := exact.mem_iff.mpr (List.mem_map_of_mem (f := DeviceControl.entry) member)
    have same : one.id = one.id + 1 := submitted_ids (one.id + 1) control numControls _ entry
    rw [← UInt32.toNat_inj, UInt32.toNat_add] at same
    have one_lt := one.id.toNat_lt
    change one.id.toNat = (one.id.toNat + 1) % 2 ^ 32 at same
    omega
  · intro all scratch
    have none : writables control = [] := by simpa [writables] using all
    refine ⟨v4l2SetCtrls_retried ok scratch control numControls, ?_⟩
    have sent : (v4l2SetCtrls ok scratch control numControls).2 = [] := by
      by_cases same : numControls = control.length
      · rw [same, v4l2SetCtrls_sent, setBatches, batches_of_skips [] all, List.foldl_nil]
      · rw [v4l2SetCtrls_mismatch same]
    rw [sent, none]
    rfl

theorem v4l2SetCtrls_wrong :
    ¬ SetRight (fun _ => true) [{ id := 0x00980900, ctrlClass := 0x00980000, value := 5 }]
        (v4l2SetCtrls (fun _ => true) (fun _ => { id := 0, value := 0 })
          [{ id := 0x00980900, ctrlClass := 0x00980000, value := 5 }] 1).2 ∧
      ∀ scratch, ¬ SetRight (fun _ => true)
        [{ id := 0x00980900, ctrlClass := 0x00980000, value := 5 },
          { id := 0x00980901, ctrlClass := 0x00980000, flags := 4 }]
        (v4l2SetCtrls (fun _ => true) scratch
          [{ id := 0x00980900, ctrlClass := 0x00980000, value := 5 },
            { id := 0x00980901, ctrlClass := 0x00980000, flags := 4 }] 2).2 := by
  refine ⟨fun right => absurd right.exact (by decide), fun scratch right => ?_⟩
  have exact := right.exact.length_eq
  cases exact

end UnionpiTiger.Camera
