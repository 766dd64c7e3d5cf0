import Mathlib.Data.List.Perm.Subperm
import Mathlib.Data.List.Range
import UnionpiTiger.Camera.Control

set_option autoImplicit false

namespace UnionpiTiger.Camera

open Lib

abbrev PlacedControl := DeviceControl × Nat

structure Reads where
  sent : List Ioctl := []
  got : List PlacedControl := []

def readOne (ok : Outcomes) (reads : Reads) (one : PlacedControl) : Reads :=
  let sent := reads.sent ++ [.gCtrl one.1.id]
  { sent := sent, got := if ok sent then reads.got ++ [one] else reads.got }

def readBatch (ok : Outcomes) (reads : Reads) (batch : UInt32 × List PlacedControl) : Reads :=
  let sent := reads.sent ++ [.gExtCtrls batch.1 (batch.2.map fun one => one.1.id)]
  if ok sent then { sent := sent, got := reads.got ++ batch.2 }
  else batch.2.foldl (readOne ok) { sent := sent, got := reads.got }

def getBatches (control : List DeviceControl) : List (UInt32 × List PlacedControl) :=
  batches (fun one => one.1.writeOnly) (fun one => one.1.ctrlClass) [] control.zipIdx

def readable (ok : Outcomes) (control : List DeviceControl) (numControls : Int) : List PlacedControl :=
  if numControls ≠ control.length then [] else ((getBatches control).foldl (readBatch ok) {}).got

def readPlaces (ok : Outcomes) (control : List DeviceControl) (numControls : Int) : List Nat :=
  (readable ok control numControls).map Prod.snd

def GetRight (device : UInt32 → Int32) (control : List DeviceControl) (places : List Nat)
    (after : List DeviceControl) :
    Prop :=
  after = control.mapIdx fun place one => if place ∈ places then one.setValue (device one.id) else one

def poured (device : UInt32 → Int32) (control : List DeviceControl) (got : List PlacedControl) :
    List DeviceControl :=
  control.mapIdx fun place one => (got[place]?).elim one fun source => one.setValue (device source.1.id)

variable {ok : Outcomes} {device : UInt32 → Int32} {control : List DeviceControl}

theorem poured_append (got : List PlacedControl) (one : PlacedControl) :
    (poured device control got).modify got.length (fun other => other.setValue (device one.1.id)) =
      poured device control (got ++ [one]) := by
  apply List.ext_getElem?
  intro place
  rw [List.getElem?_modify]
  simp only [poured, List.getElem?_mapIdx]
  by_cases here : place = got.length
  · subst here
    cases control[got.length]? with
    | none => rfl
    | some other => simp
  · rw [getElem?_concat_ne got one here]
    simp [Ne.symm here]

structure Gotten (device : UInt32 → Int32) (control : List DeviceControl) (getting : Getting)
    (pending : List PlacedControl) (reads : Reads) : Prop where
  count : getting.count = pending.length
  ids : ∀ i one, pending[i]? = some one → (getting.cList i).id = one.1.id
  sent : getting.sent = reads.sent
  iter : getting.iter = reads.got.length
  poured : getting.control = poured device control reads.got

theorem Gotten.store {getting : Getting} {pending : List PlacedControl} {reads : Reads}
    {numControls : Nat} (room : pending.length < numControls)
    (gotten : Gotten device control getting pending reads) (one : PlacedControl) :
    Gotten device control (getting.store numControls one.1) (pending ++ [one]) reads := by
  have count := gotten.count
  rw [Getting.store, if_pos (by omega)]
  refine ⟨by simp [count], fun i other there => ?_, gotten.sent, gotten.iter, gotten.poured⟩
  dsimp only
  by_cases here : i = pending.length
  · rw [here, ← count, Function.update_self]
    rw [here, List.getElem?_concat_length] at there
    rw [Option.some.inj there]
  · rw [count, Function.update_of_ne here]
    rw [getElem?_concat_ne pending one here] at there
    exact gotten.ids i other there

theorem Gotten.write {getting : Getting} {pending : List PlacedControl} {reads : Reads}
    (gotten : Gotten device control getting pending reads) (one : PlacedControl) :
    Gotten device control (getting.write (device one.1.id)) pending
      { reads with got := reads.got ++ [one] } where
  count := gotten.count
  ids := gotten.ids
  sent := gotten.sent
  iter := by simp [Getting.write, gotten.iter]
  poured := by
    rw [Getting.write, gotten.iter, gotten.poured]
    exact poured_append reads.got one

theorem Gotten.getEach {getting : Getting} {front rest : List PlacedControl} {reads : Reads}
    (gotten : Gotten device control getting (front ++ rest) reads) :
    Gotten device control (getEach ok device front.length rest.length getting) (front ++ rest)
      (rest.foldl (readOne ok) reads) := by
  induction rest generalizing front getting reads with
  | nil => exact gotten
  | cons one rest ih =>
    have id : (getting.cList front.length).id = one.1.id := gotten.ids _ _ (by simp)
    have same : front ++ one :: rest = (front ++ [one]) ++ rest := by simp
    have length : front.length + 1 = (front ++ [one]).length := by simp
    rw [List.length_cons, Camera.getEach, List.foldl_cons, readOne, id, gotten.sent, same, length]
    apply ih
    rw [← same]
    have asked : Gotten device control { getting with sent := reads.sent ++ [.gCtrl one.1.id] }
        (front ++ one :: rest)
        { reads with sent := reads.sent ++ [.gCtrl one.1.id] } :=
      ⟨gotten.count, gotten.ids, rfl, gotten.iter, gotten.poured⟩
    split_ifs
    · exact asked.write one
    · exact asked

theorem Gotten.takeEach {getting : Getting} {front rest : List PlacedControl} {reads : Reads}
    (gotten : Gotten device control getting (front ++ rest) reads)
    (values : ∀ i one, (front ++ rest)[i]? = some one → (getting.cList i).value = device one.1.id) :
    Gotten device control (takeEach front.length rest.length getting) (front ++ rest)
      { reads with got := reads.got ++ rest } := by
  induction rest generalizing front getting reads with
  | nil => simpa [Camera.takeEach] using gotten
  | cons one rest ih =>
    have value : (getting.cList front.length).value = device one.1.id := values _ _ (by simp)
    have same : front ++ one :: rest = (front ++ [one]) ++ rest := by simp
    have length : front.length + 1 = (front ++ [one]).length := by simp
    have more : reads.got ++ one :: rest = (reads.got ++ [one]) ++ rest := by simp
    rw [List.length_cons, Camera.takeEach, value, same, length, more]
    rw [same] at gotten values
    exact ih (gotten.write one) values

theorem Gotten.flush {getting : Getting} {pending : List PlacedControl} {reads : Reads}
    (gotten : Gotten device control getting pending reads) (ctrlClass : UInt32) :
    Gotten device control (getting.flush ok device ctrlClass) []
      (readBatch ok reads (ctrlClass, pending)) := by
  have ids : (getting.cList.first pending.length).map ExtControl.id = pending.map fun one =>
      one.1.id := by
    apply List.ext_getElem
    · simp [Scratch.first]
    · intro i here there
      have inside : i < pending.length := by simpa using there
      simpa [Scratch.first] using gotten.ids i pending[i] (List.getElem?_eq_getElem inside)
  have asked (cList : Scratch) (kept : ∀ i one, pending[i]? = some one → (cList i).id = one.1.id) :
      Gotten device control
        { getting with
          cList := cList
          count := pending.length
          sent := reads.sent ++ [.gExtCtrls ctrlClass (pending.map fun one => one.1.id)] }
            ([] ++ pending)
        { reads with sent := reads.sent ++ [.gExtCtrls ctrlClass (pending.map fun one => one.1.id)] } :=
    ⟨rfl, kept, rfl, gotten.iter, gotten.poured⟩
  have emptied {next : Getting} {after : Reads} (done : Gotten device control next pending after) :
      Gotten device control { next with count := 0 } [] after :=
        ⟨rfl, nofun, done.sent, done.iter, done.poured⟩
  simp only [Getting.flush, readBatch, gotten.sent, gotten.count, ids]
  split_ifs
  · refine emptied ((asked _ fun i one there => ?_).takeEach fun i one there => ?_)
    · have id := gotten.ids i one there
      unfold filled
      split_ifs <;> exact id
    · have inside : i < pending.length := (List.getElem?_eq_some_iff.mp there).1
      simp only [filled, if_pos inside, gotten.ids i one there]
  · exact emptied (asked getting.cList gotten.ids).getEach

theorem v4l2GetCtrls_poured (ok : Outcomes) (device : UInt32 → Int32) (scratch : Scratch)
    (control : List DeviceControl) (numControls : Int) :
    (v4l2GetCtrls ok device scratch control numControls).2 =
      poured device control (readable ok control numControls) := by
  have none : poured device control [] = control := by
    apply List.ext_getElem?
    simp [poured]
  have start : Gotten device control { cList := scratch, control := control } [] {} :=
    ⟨rfl, nofun, rfl, rfl, none.symm⟩
  have all : Gotten device control
      (batchLoop (fun one : PlacedControl => one.1.writeOnly) (fun one => one.1.ctrlClass)
        (fun getting one => getting.store control.length one.1) (Getting.flush ok device)
        { cList := scratch, control := control } control.zipIdx)
      (leftover (fun one => one.1.writeOnly) (fun one => one.1.ctrlClass) [] control.zipIdx)
      ((getBatches control).foldl (readBatch ok) {}) :=
    batchLoop_simulates (fun _ _ _ one room gotten => gotten.store room one)
      (fun _ _ _ ctrlClass gotten => gotten.flush ctrlClass) start control.zipIdx (by simp)
  rw [← batchLoop_map Prod.fst, List.zipIdx_map_fst] at all
  unfold v4l2GetCtrls readable
  by_cases same : numControls = control.length
  · rw [if_neg (by simpa using same), if_neg (by simpa using same), same]
    exact all.poured
  · rw [if_pos same, if_pos same, none]

theorem readEach_got (controls : List PlacedControl) (reads : Reads) :
    ∃ more, (controls.foldl (readOne ok) reads).got = reads.got ++ more ∧ more.Sublist controls := by
  induction controls generalizing reads with
  | nil => exact ⟨[], (List.append_nil _).symm, .slnil⟩
  | cons one rest ih =>
    obtain ⟨more, got, within⟩ := ih (readOne ok reads one)
    rw [List.foldl_cons, got, readOne]
    dsimp only
    split_ifs
    · exact ⟨one :: more, by simp, within.cons_cons one⟩
    · exact ⟨more, rfl, within.cons one⟩

theorem readBatch_got (ok : Outcomes) (reads : Reads) (batch : UInt32 × List PlacedControl) :
    ∃ more, (readBatch ok reads batch).got = reads.got ++ more ∧ more.Sublist batch.2 := by
  unfold readBatch
  dsimp only
  split_ifs
  · exact ⟨batch.2, rfl, .refl batch.2⟩
  · exact readEach_got batch.2 _

theorem readBatches_got (ok : Outcomes) (groups : List (UInt32 × List PlacedControl)) (reads : Reads) :
    ∃ more, (groups.foldl (readBatch ok) reads).got = reads.got ++ more ∧
      more.Sublist (groups.flatMap Prod.snd) := by
  induction groups generalizing reads with
  | nil => exact ⟨[], (List.append_nil _).symm, .slnil⟩
  | cons batch rest ih =>
    obtain ⟨first, gotFirst, withinFirst⟩ := readBatch_got ok reads batch
    obtain ⟨more, got, within⟩ := ih (readBatch ok reads batch)
    refine ⟨first ++ more, ?_, ?_⟩
    · rw [List.foldl_cons, got, gotFirst, List.append_assoc]
    · rw [List.flatMap_cons]
      exact withinFirst.append within

theorem readable_sublist (ok : Outcomes) (control : List DeviceControl) (numControls : Int) :
    (readable ok control numControls).Sublist control.zipIdx := by
  unfold readable
  split_ifs
  · exact List.nil_sublist _
  · obtain ⟨more, got, within⟩ := readBatches_got ok (getBatches control) {}
    have flat := batches_flatten (fun one : PlacedControl => one.1.writeOnly) (fun one =>
      one.1.ctrlClass) []
      control.zipIdx
    have all : ((getBatches control).flatMap Prod.snd).Sublist control.zipIdx := by
      refine List.Sublist.trans ?_ (List.filter_sublist (p := fun one => !one.1.writeOnly))
      rw [List.nil_append] at flat
      rw [← flat]
      exact List.sublist_append_left _ _
    rw [got]
    exact within.trans all

theorem eq_range_of_rising {places : List Nat} (rising : places.Pairwise (· < ·))
    (all : ∀ place < places.length, place ∈ places) : places = List.range places.length := by
  have within : List.range places.length ⊆ places :=
    fun place there => all place (List.mem_range.mp there)
  have perm : (List.range places.length).Perm places :=
    (List.Nodup.subperm List.nodup_range within).perm_of_length_le (by simp)
  exact (perm.eq_of_pairwise (fun _ _ _ _ up down => absurd down (Nat.lt_asymm up))
    List.pairwise_lt_range rising).symm

theorem v4l2GetCtrls_iff (ok : Outcomes) (scratch : Scratch) (control : List DeviceControl)
    (numControls : Int) :
    (∀ device, GetRight device control (readPlaces ok control numControls)
        (v4l2GetCtrls ok device scratch control numControls).2) ↔
      ∀ place < (readPlaces ok control numControls).length,
        place ∈ readPlaces ok control numControls := by
  have within := readable_sublist ok control numControls
  have places : (readPlaces ok control numControls).Sublist (List.range control.length) := by
    have mapped := within.map Prod.snd
    rwa [List.zipIdx_map_snd, ← List.range_eq_range'] at mapped
  simp only [GetRight, v4l2GetCtrls_poured]
  constructor
  · intro right place inside
    by_contra missing
    have bound : place < control.length := by
      have length := places.length_le
      rw [List.length_range] at length
      omega
    have source : ∃ source, (readable ok control numControls)[place]? = some source :=
      ⟨_, List.getElem?_eq_getElem (by simpa [readPlaces] using inside)⟩
    obtain ⟨source, there⟩ := source
    have here := congrArg (·[place]?) (right fun _ => control[place].value + 1)
    simp only [poured, List.getElem?_mapIdx, List.getElem?_eq_getElem bound, there, if_neg missing,
      Option.map_some, Option.elim_some, Option.some.injEq] at here
    have value : control[place].value + 1 = control[place].value := congrArg DeviceControl.value here
    exact absurd (Int32.add_eq_left.mp value) (by decide)
  · intro all device
    have exact := eq_range_of_rising (List.pairwise_lt_range.sublist places) all
    unfold poured
    apply List.ext_getElem?
    intro place
    rw [List.getElem?_mapIdx, List.getElem?_mapIdx]
    cases found : control[place]? with
    | none => rfl
    | some one =>
      rw [Option.map_some, Option.map_some]
      cases there : (readable ok control numControls)[place]? with
      | none =>
        have out : place ∉ readPlaces ok control numControls := by
          rw [exact, List.mem_range, readPlaces, List.length_map, Nat.not_lt]
          exact List.getElem?_eq_none_iff.mp there
        rw [if_neg out]
        rfl
      | some source =>
        have inside : place < (readPlaces ok control numControls).length := by
          rw [readPlaces, List.length_map]
          exact (List.getElem?_eq_some_iff.mp there).1
        have own : source.2 = place := by
          have mapped : (readPlaces ok control numControls)[place]? = some source.2 := by
            rw [readPlaces, List.getElem?_map, there, Option.map_some]
          rw [exact, List.getElem?_range inside] at mapped
          exact (Option.some.inj mapped).symm
        have placed := within.subset (List.mem_of_getElem? there)
        have same := List.mk_mem_zipIdx_iff_getElem?.mp placed
        rw [own, found] at same
        rw [if_pos (all place inside), Option.elim_some, Option.some.inj same]

theorem v4l2GetCtrls_wrong :
    ¬ GetRight (fun id => if id = 0x00980901 then 7 else 3)
      [{ id := 0x00980900, ctrlClass := 0x00980000, flags := 0x40 },
        { id := 0x00980901, ctrlClass := 0x00980000 }]
      (readPlaces (fun _ => true)
        [{ id := 0x00980900, ctrlClass := 0x00980000, flags := 0x40 },
          { id := 0x00980901, ctrlClass := 0x00980000 }] 2)
      (v4l2GetCtrls (fun _ => true) (fun id => if id = 0x00980901 then 7
        else 3) (fun _ => { id := 0, value := 0 })
        [{ id := 0x00980900, ctrlClass := 0x00980000, flags := 0x40 },
          { id := 0x00980901, ctrlClass := 0x00980000 }]
        2).2 := by
  unfold GetRight
  decide

end UnionpiTiger.Camera
