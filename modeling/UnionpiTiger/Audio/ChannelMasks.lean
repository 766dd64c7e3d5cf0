import Mathlib.Data.List.Nodup
import Mathlib.Data.List.OfFn
import Mathlib.Algebra.BigOperators.Fin
import UnionpiTiger.Audio.Fifo

set_option autoImplicit false

namespace UnionpiTiger.Audio

def axgTdmNumLanes : Nat := 4

abbrev LaneMasks : Type := Fin axgTdmNumLanes → BitVec 32

structure StreamParams where
  mask : LaneMasks
  channels : UInt32 := 0
  width : UInt32 := 0
  physicalWidth : UInt32 := 0

structure IfaceParams where
  slotWidth : UInt32 := 0
  rate : UInt32 := 0

structure AxgPcmHwParams where
  channels : UInt32
  bitWidth : UInt32
  physicalWidth : UInt32
  rate : UInt32

def hweight32 (mask : BitVec 32) : Nat := (List.range 32).countP fun j => mask.getLsbD j

def tdmSlotsTotal (mask : LaneMasks) : Nat := ∑ i, hweight32 (mask i)

def tdmIfaceSetStream (iface : IfaceParams) (ts : Option StreamParams) (params : AxgPcmHwParams) :
    Int32 × IfaceParams × Option StreamParams :=
  match ts with
  | none => (-1, iface, none)
  | some ts =>
    let iface := { iface with rate := params.rate }
    if tdmSlotsTotal ts.mask < params.channels.toNat then (-einval, iface, some ts)
    else if iface.slotWidth < params.bitWidth then (-einval, iface, some ts)
    else
      (0, iface, some { ts with
        physicalWidth := params.physicalWidth, width := params.bitWidth, channels := params.channels })

def findNextBit (mask : BitVec 32) (offset : Nat) : Nat :=
  (((List.range 32).drop offset).find? fun j => mask.getLsbD j).getD 32

def fillLane (mask : BitVec 32) : (fuel j : Nat) → BitVec 32 → Nat → BitVec 32 × Nat
  | 0, _, val, ch => (val, ch)
  | fuel + 1, j, val, ch =>
    if j < 32 ∧ ch ≠ 0 then fillLane mask fuel (findNextBit mask (j + 1)) (val ||| 1#32 <<< j) (ch - 1)
    else (val, ch)

def fillLanes (stride : Nat) : List (BitVec 32) → (offset ch : Nat) → List (Nat × BitVec 32) × Nat
  | [], _, ch => ([], ch)
  | mask :: rest, offset, ch =>
    let (val, ch) := fillLane mask 32 (findNextBit mask 0) 0 ch
    let (writes, ch) := fillLanes stride rest (offset + stride) ch
    ((offset, val) :: writes, ch)

def axgTdmFormatterSetChannelMasks (stride : Nat) (ts : StreamParams) (offset : Nat) :
    Int32 × List (Nat × BitVec 32) :=
  let (writes, ch) := fillLanes stride (List.ofFn ts.mask) offset ts.channels.toNat
  (if ch ≠ 0 then -einval else 0, writes)

def laneSlots (mask : BitVec 32) : List Nat := (List.range 32).filter fun j => mask.getLsbD j

theorem hweight32_eq (mask : BitVec 32) : hweight32 mask = (laneSlots mask).length :=
  List.countP_eq_length_filter

theorem laneSlots_nodup (mask : BitVec 32) : (laneSlots mask).Nodup := List.nodup_range.filter _

theorem mem_laneSlots {mask : BitVec 32} {j : Nat} : j ∈ laneSlots mask ↔ mask.getLsbD j = true := by
  unfold laneSlots
  rw [List.mem_filter, List.mem_range]
  exact and_iff_right_of_imp fun set => BitVec.lt_of_getLsbD set

theorem laneSlots_length_le (mask : BitVec 32) : (laneSlots mask).length ≤ 32 := by
  have le := List.length_filter_le (fun j => mask.getLsbD j) (List.range 32)
  rwa [List.length_range] at le

def slotsFrom (mask : BitVec 32) (offset : Nat) : List Nat :=
  ((List.range 32).drop offset).filter fun j => mask.getLsbD j

theorem slotsFrom_eq (mask : BitVec 32) (offset : Nat) : slotsFrom mask offset =
    if findNextBit mask offset < 32 then findNextBit mask offset ::
      slotsFrom mask (findNextBit mask offset + 1)
    else [] := by
  by_cases inside : offset < 32
  · have next : (List.range 32).drop offset = offset :: (List.range 32).drop (offset + 1) := by
      rw [List.drop_eq_getElem_cons (by rwa [List.length_range]), List.getElem_range]
    by_cases set : mask.getLsbD offset = true
    · have found : findNextBit mask offset = offset := by
        unfold findNextBit
        rw [next, List.find?_cons_of_pos set]
        rfl
      rw [found, if_pos inside]
      unfold slotsFrom
      rw [next, List.filter_cons_of_pos set]
    · have found : findNextBit mask offset = findNextBit mask (offset + 1) := by
        unfold findNextBit
        rw [next, List.find?_cons_of_neg set]
      have same : slotsFrom mask offset = slotsFrom mask (offset + 1) := by
        unfold slotsFrom
        rw [next, List.filter_cons_of_neg set]
      rw [found, same]
      exact slotsFrom_eq mask (offset + 1)
  · have empty : (List.range 32).drop offset = [] :=
      List.drop_eq_nil_of_le (by rw [List.length_range]; exact Nat.le_of_not_lt inside)
    have found : findNextBit mask offset = 32 := by
      unfold findNextBit
      rw [empty]
      rfl
    rw [found, if_neg (Nat.lt_irrefl 32)]
    unfold slotsFrom
    rw [empty, List.filter_nil]
termination_by 32 - offset

def setBits (val : BitVec 32) (slots : List Nat) : BitVec 32 :=
  slots.foldl (fun val j => val ||| 1#32 <<< j) val

theorem fillLane_eq (mask : BitVec 32) (fuel offset : Nat) (val : BitVec 32) (ch : Nat)
    (enough : (slotsFrom mask offset).length ≤ fuel) :
    fillLane mask fuel (findNextBit mask offset) val ch =
      (setBits val ((slotsFrom mask offset).take ch), ch - (slotsFrom mask offset).length) := by
  induction fuel generalizing offset val ch with
  | zero =>
    rw [List.eq_nil_of_length_eq_zero (Nat.le_zero.mp enough), List.take_nil]
    rfl
  | succ fuel ih =>
    unfold fillLane
    rw [slotsFrom_eq] at enough ⊢
    by_cases found : findNextBit mask offset < 32
    · rw [if_pos found] at enough ⊢
      cases ch with
      | zero =>
        rw [if_neg (fun more => more.2 rfl), List.take_zero, Nat.zero_sub]
        rfl
      | succ ch =>
        rw [if_pos ⟨found, Nat.succ_ne_zero ch⟩, Nat.add_sub_cancel,
          ih _ _ _ (Nat.le_of_succ_le_succ enough), List.take_succ_cons, List.length_cons,
          Nat.add_sub_add_right]
        rfl
    · rw [if_neg found, if_neg (fun more => found more.1), List.take_nil]
      rfl

theorem setBits_getLsbD (val : BitVec 32) (slots : List Nat) {k : Nat} (below : k < 32) :
    (setBits val slots).getLsbD k = (val.getLsbD k || decide (k ∈ slots)) := by
  induction slots generalizing val with
  | nil => simp [setBits]
  | cons j rest ih =>
    have one : (1#32 <<< j).getLsbD k = decide (k = j) := by
      rw [BitVec.getLsbD_shiftLeft, BitVec.getLsbD_one]
      by_cases same : k = j
      · simp [same]
        omega
      · by_cases less : k < j
        · simp [same, less]
        · have : k - j ≠ 0 := by omega
          simp [same, this]
    change (setBits (val ||| 1#32 <<< j) rest).getLsbD k = _
    rw [ih, BitVec.getLsbD_or, one, Bool.or_assoc]
    simp [List.mem_cons, Bool.decide_or]

theorem laneSlots_take (mask : BitVec 32) (ch : Nat) :
    laneSlots (setBits 0 ((laneSlots mask).take ch)) = (laneSlots mask).take ch := by
  let chosen := (laneSlots mask).take ch
  have within : ∀ j ∈ chosen, mask.getLsbD j = true :=
    fun j there => mem_laneSlots.mp (List.mem_of_mem_take there)
  calc laneSlots (setBits 0 chosen)
      = (List.range 32).filter fun j => chosen.elem j && mask.getLsbD j := by
        refine List.filter_congr fun j below => ?_
        have blank : (0 : BitVec 32).getLsbD j = false := BitVec.getLsbD_zero
        rw [setBits_getLsbD _ _ (List.mem_range.mp below), blank, Bool.false_or, List.elem_eq_mem]
        by_cases there : j ∈ chosen
        · simp [there, within j there]
        · simp [there]
    _ = (laneSlots mask).filter chosen.elem := List.filter_filter.symm
    _ = chosen := (laneSlots_nodup mask).take_eq_filter_mem.symm

def slots : (i : Nat) → List (BitVec 32) → List (Nat × Nat)
  | _, [] => []
  | i, mask :: rest => (laneSlots mask).map (i, ·) ++ slots (i + 1) rest

theorem fillLane_lane (mask : BitVec 32) (ch : Nat) : fillLane mask 32 (findNextBit mask 0) 0 ch =
    (setBits 0 ((laneSlots mask).take ch), ch - (laneSlots mask).length) :=
  fillLane_eq mask 32 0 0 ch (laneSlots_length_le mask)

def values (writes : List (Nat × BitVec 32)) : List (BitVec 32) := writes.map Prod.snd

theorem fillLanes_slots (stride : Nat) (masks : List (BitVec 32)) (i offset ch : Nat) :
    slots i (values (fillLanes stride masks offset ch).1) = (slots i masks).take ch ∧
      (fillLanes stride masks offset ch).2 = ch - (slots i masks).length := by
  induction masks generalizing i offset ch with
  | nil => exact ⟨(List.take_nil).symm, rfl⟩
  | cons mask rest ih =>
    obtain ⟨taken, left⟩ := ih (i + 1) (offset + stride) (ch - (laneSlots mask).length)
    unfold fillLanes
    rw [fillLane_lane]
    dsimp only
    constructor
    · change (laneSlots (setBits 0 ((laneSlots mask).take ch))).map (i, ·) ++ slots (i + 1) (values _) =
        ((laneSlots mask).map (i, ·) ++ slots (i + 1) rest).take ch
      rw [laneSlots_take, taken, List.take_append, List.length_map, List.map_take]
    · rw [left, Nat.sub_sub]
      change _ = ch - ((laneSlots mask).map (i, ·) ++ slots (i + 1) rest).length
      rw [List.length_append, List.length_map]

theorem fillLanes_length (stride : Nat) (masks : List (BitVec 32)) (offset ch : Nat) :
    (fillLanes stride masks offset ch).1.length = masks.length := by
  induction masks generalizing offset ch with
  | nil => rfl
  | cons mask rest ih => exact congrArg (· + 1) (ih _ _)

theorem fillLanes_offset (stride : Nat) (masks : List (BitVec 32)) (offset ch : Nat) {k : Nat}
    (below : k < (fillLanes stride masks offset ch).1.length) :
    ((fillLanes stride masks offset ch).1[k]).1 = offset + k * stride := by
  induction masks generalizing offset ch k with
  | nil => cases below
  | cons mask rest ih =>
    cases k with
    | zero => exact (Nat.add_zero offset).symm.trans (congrArg (offset + ·) (Nat.zero_mul stride).symm)
    | succ k =>
      refine (ih (offset + stride) _ (Nat.lt_of_succ_lt_succ below)).trans ?_
      rw [Nat.succ_mul, Nat.add_assoc, Nat.add_comm stride]

theorem slots_length (i : Nat) (masks : List (BitVec 32)) :
    (slots i masks).length = (masks.map hweight32).sum := by
  induction masks generalizing i with
  | nil => rfl
  | cons mask rest ih =>
    unfold slots
    rw [List.length_append, List.length_map, ih, List.map_cons, List.sum_cons, hweight32_eq]

theorem mem_slots {i lane j : Nat} {masks : List (BitVec 32)} :
    (lane, j) ∈ slots i masks ↔ ∃ k mask, lane = i + k ∧ masks[k]? = some mask ∧
      mask.getLsbD j = true := by
  induction masks generalizing i with
  | nil => simp [slots]
  | cons mask rest ih =>
    unfold slots
    rw [List.mem_append, ih]
    constructor
    · rintro (here | ⟨k, other, rfl, found, set⟩)
      · obtain ⟨j, there, same⟩ := List.mem_map.mp here
        cases same
        exact ⟨0, mask, rfl, rfl, mem_laneSlots.mp there⟩
      · exact ⟨k + 1, other, by omega, found, set⟩
    · rintro ⟨k, other, rfl, found, set⟩
      cases k with
      | zero =>
        cases found
        exact .inl (List.mem_map.mpr ⟨j, mem_laneSlots.mpr set, rfl⟩)
      | succ k => exact .inr ⟨k, other, by omega, found, set⟩

def Earlier (first second : Nat × Nat) : Prop :=
  first.1 < second.1 ∨ first.1 = second.1 ∧ first.2 < second.2

theorem slots_sorted (i : Nat) (masks : List (BitVec 32)) : (slots i masks).Pairwise Earlier := by
  induction masks generalizing i with
  | nil => exact List.Pairwise.nil
  | cons mask rest ih =>
    refine List.pairwise_append.mpr ⟨?_, ih (i + 1), ?_⟩
    · have sorted : (laneSlots mask).Pairwise (· < ·) := List.pairwise_lt_range.filter _
      exact List.pairwise_map.mpr (sorted.imp fun less => .inr ⟨rfl, less⟩)
    · rintro first here ⟨lane, j⟩ there
      obtain ⟨_, -, rfl⟩ := List.mem_map.mp here
      obtain ⟨k, _, rfl, -, -⟩ := mem_slots.mp there
      exact .inl (by dsimp only; omega)

theorem mem_take_of_earlier {all : List (Nat × Nat)} (sorted : all.Pairwise Earlier) {n : Nat}
    {first second : Nat × Nat} (earlier : Earlier first second) (there : first ∈ all)
    (taken : second ∈ all.take n) : first ∈ all.take n := by
  rw [← List.take_append_drop n all] at sorted there
  rcases List.mem_append.mp there with here | behind
  · exact here
  · have later := (List.pairwise_append.mp sorted).2.2 second taken first behind
    unfold Earlier at earlier later
    omega

def written (writes : List (Nat × BitVec 32)) : LaneMasks := fun lane => (values writes).getD lane 0

structure Distributed (mask written : LaneMasks) (channels : Nat) : Prop where
  subset : ∀ lane j, (written lane).getLsbD j = true → (mask lane).getLsbD j = true
  total : tdmSlotsTotal written = min channels (tdmSlotsTotal mask)
  first : ∀ lane j other k, Earlier (other.val, k) (lane.val, j) → (written lane).getLsbD j = true →
    (mask other).getLsbD k = true → (written other).getLsbD k = true

theorem mem_slots_ofFn {mask : LaneMasks} {lane : Fin axgTdmNumLanes} {j : Nat} :
    (lane.val, j) ∈ slots 0 (List.ofFn mask) ↔ (mask lane).getLsbD j = true := by
  rw [mem_slots]
  constructor
  · rintro ⟨k, other, same, found, set⟩
    obtain rfl : lane.val = k := by omega
    rw [List.getElem?_ofFn, dif_pos lane.isLt] at found
    cases found
    exact set
  · intro set
    refine ⟨lane, mask lane, by omega, ?_, set⟩
    rw [List.getElem?_ofFn, dif_pos lane.isLt]

theorem tdmSlotsTotal_eq (mask : LaneMasks) :
    tdmSlotsTotal mask = (slots 0 (List.ofFn mask)).length := by
  rw [slots_length, List.map_ofFn, List.sum_ofFn]
  rfl

theorem ofFn_written {writes : List (Nat × BitVec 32)} (length : writes.length = axgTdmNumLanes) :
    List.ofFn (written writes) = values writes := by
  have length : (values writes).length = axgTdmNumLanes := by rwa [values, List.length_map]
  refine List.ext_getElem (by rw [List.length_ofFn, length]) fun k _ below => ?_
  rw [List.getElem_ofFn]
  exact (List.getElem_eq_getD 0).symm

theorem setChannelMasks_distributed (stride offset : Nat) (ts : StreamParams) : Distributed ts.mask
    (written (axgTdmFormatterSetChannelMasks stride ts offset).2) ts.channels.toNat := by
  have length := (fillLanes_length stride (List.ofFn ts.mask) offset ts.channels.toNat).trans
    List.length_ofFn
  have taken := (fillLanes_slots stride (List.ofFn ts.mask) 0 offset ts.channels.toNat).1
  rw [← ofFn_written length] at taken
  change Distributed ts.mask
    (written (fillLanes stride (List.ofFn ts.mask) offset ts.channels.toNat).1) _
  have mem (lane : Fin axgTdmNumLanes) (j : Nat) :
      (written (fillLanes stride (List.ofFn ts.mask) offset ts.channels.toNat).1 lane).getLsbD j =
        true ↔
        (lane.val, j) ∈ (slots 0 (List.ofFn ts.mask)).take ts.channels.toNat := by
    rw [← taken, mem_slots_ofFn]
  exact
    { subset := fun lane j set => mem_slots_ofFn.mp (List.mem_of_mem_take ((mem lane j).mp set))
      total := by rw [tdmSlotsTotal_eq, tdmSlotsTotal_eq, taken, List.length_take]
      first := fun lane j other k earlier set here => (mem other k).mpr
        (mem_take_of_earlier (slots_sorted 0 _) earlier (mem_slots_ofFn.mpr here)
          ((mem lane j).mp set)) }

theorem setChannelMasks_ret (stride offset : Nat) (ts : StreamParams) :
    (axgTdmFormatterSetChannelMasks stride ts offset).1 =
      if tdmSlotsTotal ts.mask < ts.channels.toNat then -einval else 0 := by
  have left := (fillLanes_slots stride (List.ofFn ts.mask) 0 offset ts.channels.toNat).2
  rw [← tdmSlotsTotal_eq] at left
  change (if (fillLanes stride (List.ofFn ts.mask) offset ts.channels.toNat).2 ≠ 0 then _ else _) = _
  rw [left]
  exact if_congr (by omega) rfl rfl

theorem setChannelMasks_writes (stride offset : Nat) (ts : StreamParams) :
    (axgTdmFormatterSetChannelMasks stride ts offset).2 = List.ofFn fun lane : Fin axgTdmNumLanes =>
      (offset + lane * stride, written (axgTdmFormatterSetChannelMasks stride ts offset).2 lane) := by
  have length := (fillLanes_length stride (List.ofFn ts.mask) offset ts.channels.toNat).trans
    List.length_ofFn
  refine List.ext_getElem (by rw [List.length_ofFn]; exact length) fun k below _ => ?_
  rw [List.getElem_ofFn]
  refine Prod.ext (fillLanes_offset stride (List.ofFn ts.mask) offset ts.channels.toNat below) ?_
  have here : k < (values (axgTdmFormatterSetChannelMasks stride ts offset).2).length := by
    rwa [values, List.length_map]
  calc ((axgTdmFormatterSetChannelMasks stride ts offset).2[k]).2
      = (values (axgTdmFormatterSetChannelMasks stride ts offset).2)[k] :=
        (List.getElem_map Prod.snd).symm
    _ = (values (axgTdmFormatterSetChannelMasks stride ts offset).2).getD k 0 := List.getElem_eq_getD 0

theorem setStream_accepts {iface after : IfaceParams} {ts : Option StreamParams}
    {next : Option StreamParams} {params : AxgPcmHwParams}
    (accepts : tdmIfaceSetStream iface ts params = (0, after, next)) :
    ∃ before stream, ts = some before ∧ next = some stream ∧ stream.mask = before.mask ∧
      stream.channels.toNat ≤ tdmSlotsTotal stream.mask := by
  unfold tdmIfaceSetStream at accepts
  cases ts with
  | none => cases accepts
  | some before =>
    dsimp only at accepts
    split_ifs at accepts with few narrow
    · exact absurd (Prod.mk.inj accepts).1 (by decide)
    · exact absurd (Prod.mk.inj accepts).1 (by decide)
    · cases accepts
      exact ⟨before, _, rfl, rfl, rfl, Nat.le_of_not_lt few⟩

def NeverRefused (mask : LaneMasks) : Prop :=
  ∀ iface after ts next params stride offset, ts.mask = mask →
    tdmIfaceSetStream iface (some ts) params = (0, after, some next) →
    next.mask = mask ∧ (axgTdmFormatterSetChannelMasks stride next offset).1 = 0

theorem channel_masks (ts : StreamParams) (stride offset : Nat) :
    (axgTdmFormatterSetChannelMasks stride ts offset).2 = List.ofFn (fun lane : Fin axgTdmNumLanes =>
      (offset + lane * stride, written (axgTdmFormatterSetChannelMasks stride ts offset).2 lane)) ∧
    Distributed ts.mask (written (axgTdmFormatterSetChannelMasks stride ts offset).2)
      ts.channels.toNat ∧
    (axgTdmFormatterSetChannelMasks stride ts offset).1 =
      (if tdmSlotsTotal ts.mask < ts.channels.toNat then -einval else 0) ∧
    NeverRefused ts.mask := by
  refine ⟨setChannelMasks_writes stride offset ts, setChannelMasks_distributed stride offset ts,
    setChannelMasks_ret stride offset ts, ?_⟩
  intro iface after before next params stride offset same accepts
  obtain ⟨_, stream, found, set, kept, enough⟩ := setStream_accepts accepts
  cases found
  cases set
  refine ⟨kept.trans same, ?_⟩
  rw [setChannelMasks_ret, if_neg (Nat.not_lt.mpr enough)]

-- Three channels over two lanes of two slots.
example : (axgTdmFormatterSetChannelMasks 4 { mask := ![0b1010, 0b0011, 0, 1], channels := 3 } 0x20).2 =
    [(0x20, 0b1010), (0x24, 0b0001), (0x28, 0), (0x2C, 0)] := by decide +kernel

end UnionpiTiger.Audio
