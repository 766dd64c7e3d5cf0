import UnionpiTiger.H264.SpsPlaces

set_option autoImplicit false

namespace UnionpiTiger.H264.SpsParser

open Lib

structure Core where
  chromaFormatIdc : Int
  mbWidth : Int
  mbHeight : Int
  cropLeft : Nat
  cropRight : Nat
  cropTop : Nat
  cropBottom : Nat
  sizeAt : List Nat

def core (sps : Sps) (sizeAt : List Nat) : Core :=
  { chromaFormatIdc := sps.chromaFormatIdc
    mbWidth := sps.mbWidth
    mbHeight := sps.mbHeight
    cropLeft := sps.cropLeft
    cropRight := sps.cropRight
    cropTop := sps.cropTop
    cropBottom := sps.cropBottom
    sizeAt }

section Tables

theorem ffZigzagScan_inside : ∀ i < 16, ∃ at_, ffZigzagScan[i]? = some at_ ∧ at_ < 16 := by decide

theorem ffZigzagDirect_inside : ∀ i < 64, ∃ at_, ffZigzagDirect[i]? = some at_ ∧ at_ < 64 := by decide

end Tables

section Lists

variable {π β : Type} {part : Sps → List Nat → π} {n k : Nat} {m : Nat → UInt8} {P Q : Place}

theorem lookup_parses {α : Type} {table : List α} {i : Nat} {a : α} {g : α → Parse β}
    (entry : table[i]? = some a) (next : Parses part n P (g a) Q) :
    Parses part n P (read (lookup table i) >>= g) Q := by
  have done : ∀ s, (read (lookup table i) : Parse α) s = (.ok a, s) := fun s => by
    rw [read, lookup_ok entry]
  refine ⟨fun s before => ?_, fun s => ?_⟩
  · rw [Prog.bind_ok (done s)]
    exact next.triple s before
  · rw [Prog.bind_ok (done s)]
    exact next.keeps s

theorem stopIf_parses {c : Prop} [Decidable c] {e : Stop} {g : Unit → Parse β} (not : ¬c)
    (next : Parses part n P (g ()) Q) :
    Parses part n P (Prog.stopIf c e >>= g) Q := by
  have goesOn : (Prog.stopIf c e : Parse Unit) = Pure.pure () := if_neg not
  rw [goesOn]
  exact next

theorem scalingCodes_drag {size : Nat} {scan : List Nat}
    (inside : ∀ i < size, ∃ at_, scan[i]? = some at_ ∧ at_ < size) (jvtList : List Nat) (left : Nat)
    (last next : Int) (factors : List Nat) (few : left ≤ size) :
    Parses part n (Dragging n) (scalingCodes m size scan jvtList left last next factors)
      (Dragging n) := by
  induction left generalizing last next factors with
  | zero => exact Parses.pure factors
  | succ left ih =>
    obtain ⟨at_, entry, less⟩ := inside (size - (left + 1)) (by omega)
    rw [scalingCodes]
    refine Parses.ite (fun _ =>
      Parses.bind (Parses.drag (getSeGolomb_field (m := m))) fun v => ?_) fun _ =>
      Parses.bind (Parses.pure 0) fun v => ?_
    all_goals
      refine Parses.ite (fun _ => Parses.pure jvtList) fun _ => ?_
      refine lookup_parses entry (stopIf_parses (by omega) ?_)
      exact ih _ _ _ (by omega)

theorem decodeScalingList_drag (padded : Padded m n) {size : Nat} (known : size = 16 ∨ size = 64)
    (jvtList fallbackList factors : List Nat) :
    Parses part n (Dragging n) (decodeScalingList m size jvtList fallbackList factors)
      (Dragging n) := by
  refine Parses.bind (flag_drag padded) fun written =>
    Parses.ite (fun _ => Parses.pure fallbackList) fun _ => ?_
  rcases known with rfl | rfl
  · exact scalingCodes_drag ffZigzagScan_inside jvtList 16 8 8 factors (Nat.le_refl 16)
  · exact scalingCodes_drag ffZigzagDirect_inside jvtList 64 8 8 factors (Nat.le_refl 64)

theorem scalingList4_drag (padded : Padded m n) (j : Nat) (jvtList : List Nat)
    (fallback : Sps → List Nat) :
    Parses core n (Dragging n) (scalingList4 m j jvtList fallback) (Dragging n) := by
  refine Parses.bind (Parses.gets _) fun old => ?_
  refine Parses.bind (decodeScalingList_drag padded (.inl rfl) _ _ _) fun factors => ?_
  exact Parses.set fun _ _ => rfl

theorem scalingList8_drag (padded : Padded m n) (j : Nat) (jvtList : List Nat)
    (fallback : Sps → List Nat) :
    Parses core n (Dragging n) (scalingList8 m j jvtList fallback) (Dragging n) := by
  refine Parses.bind (Parses.gets _) fun old => ?_
  refine Parses.bind (decodeScalingList_drag padded (.inr rfl) _ _ _) fun factors => ?_
  exact Parses.set fun _ _ => rfl

theorem decodeScalingMatrices_drag (padded : Padded m n) :
    Parses core n (Dragging n) (decodeScalingMatrices m) (Dragging n) := by
  refine Parses.bind (flag_drag padded) fun present => Parses.ite (fun _ => Parses.pure 0) fun _ => ?_
  refine Parses.bind (scalingList4_drag padded 0 _ _) fun _ => ?_
  refine Parses.bind (scalingList4_drag padded 1 _ _) fun _ => ?_
  refine Parses.bind (scalingList4_drag padded 2 _ _) fun _ => ?_
  refine Parses.bind (scalingList4_drag padded 3 _ _) fun _ => ?_
  refine Parses.bind (scalingList4_drag padded 4 _ _) fun _ => ?_
  refine Parses.bind (scalingList4_drag padded 5 _ _) fun _ => ?_
  refine Parses.bind (scalingList8_drag padded 0 _ _) fun _ => ?_
  refine Parses.bind (scalingList8_drag padded 3 _ _) fun _ => ?_
  refine Parses.bind (Parses.gets _) fun now => ?_
  refine Parses.bind (Parses.when ?_) fun _ => Parses.pure 1
  refine Parses.bind (scalingList8_drag padded 1 _ _) fun _ => ?_
  refine Parses.bind (scalingList8_drag padded 4 _ _) fun _ => ?_
  refine Parses.bind (scalingList8_drag padded 2 _ _) fun _ => ?_
  exact scalingList8_drag padded 5 _ _

end Lists

section Vui

variable {n k sizeInBits : Nat} {m : Nat → UInt8}

theorem cpbEntry_drag (padded : Padded m n) : Parses core n (Dragging n) (cpbEntry m) (Dragging n) := by
  refine Parses.bind (Parses.drag (getUeGolombLong_field (m := m))) fun _ => ?_
  refine Parses.bind (Parses.drag (getUeGolombLong_field (m := m))) fun _ => ?_
  exact Parses.bind (flag_drag padded) fun _ => Parses.pure ()

theorem decodeHrdParameters_near (padded : Padded m n) :
    Parses core n (Near n 0) (decodeHrdParameters m) (Near n 492) := by
  refine Parses.field (getUeGolomb31_fetch padded).field (by decide) (fun count small => ?_)
    fun count small none => ?_
  · refine Parses.failIf fun few => ?_
    refine Parses.bind (bits_parses padded 4 (by decide)) fun _ => ?_
    refine Parses.bind (bits_parses padded 4 (by decide)).dragging fun _ => ?_
    refine Parses.bind (Parses.loop 0 _ fun _ _ => cpbEntry_drag padded) fun _ => ?_
    refine Parses.bind (bits_drag padded 5) fun initial => ?_
    refine Parses.bind (Parses.set fun _ _ => rfl) fun _ => ?_
    refine Parses.bind (bits_drag padded 5) fun cpb => ?_
    refine Parses.bind (Parses.set fun _ _ => rfl) fun _ => ?_
    refine Parses.bind (bits_drag padded 5) fun dpb => ?_
    refine Parses.bind (Parses.set fun _ _ => rfl) fun _ => ?_
    refine Parses.fetch (getBits_fetch padded 5) (fun time _ => ?_) fun time _ _ => ?_
    · exact Parses.mono (Parses.set fun _ _ => rfl) (by decide)
    · exact Parses.set fun _ _ => rfl
  · exact Parses.failIf fun few => absurd (by omega) few

theorem named_parses {π : Type} {part : Sps → List Nat → π} {P : Place} (names : List Bool)
    (value : Nat) :
    Parses part n P (named names value) P := by
  refine Parses.ite (fun less => ?_) fun _ => Parses.pure 2
  exact lookup_parses (List.getElem?_eq_getElem less) (Parses.pure _)

theorem aspectRatio_near (padded : Padded m n) (room : k + 8 ≤ 519) :
    Parses core n (Near n k) (aspectRatio m) (Near n (max (k + 1) 40)) := by
  refine Parses.flag padded room ?_ ?_
  · refine Parses.ite (fun zero => absurd zero (by decide)) fun _ => ?_
    refine Parses.bind (Parses.read (getBits_fetch padded 8).field (by decide)) fun idc => ?_
    refine Parses.ite (fun _ => ?_) fun _ => ?_
    · refine Parses.bind (bits_parses padded 16 (by decide)) fun num => ?_
      refine Parses.bind (bits_parses padded 16 (by decide)) fun den => ?_
      exact Parses.mono (Parses.set fun _ _ => rfl) (by omega)
    · refine Parses.failIf fun known => ?_
      refine lookup_parses (List.getElem?_eq_getElem (Nat.lt_of_not_le known)) ?_
      exact Parses.mono (Parses.set fun _ _ => rfl) (by omega)
  · refine Parses.ite (fun _ => ?_) fun zero => absurd rfl zero
    exact Parses.mono (Parses.set fun _ _ => rfl) (by omega)

theorem videoSignalType_near (padded : Padded m n) (room : k + 8 ≤ 519) :
    Parses core n (Near n k) (videoSignalType m) (Near n (max (k + 1) 29)) := by
  refine Parses.flag padded room ?_ ?_
  · refine Parses.bind (Parses.set fun _ _ => rfl) fun _ => Parses.when_true (by decide) ?_
    refine Parses.bind (bits_parses padded 3 (by decide)) fun _ => ?_
    refine Parses.bind (flag_parses padded (by decide)) fun full => ?_
    refine Parses.bind (flag_parses padded (by decide)) fun described => ?_
    refine Parses.bind (Parses.set fun _ _ => rfl) fun _ => Parses.when_near ?_ (by omega)
    refine Parses.bind (Parses.read (getBits_fetch padded 8).field (by decide)) fun primaries => ?_
    refine Parses.bind (Parses.read (getBits_fetch padded 8).field (by decide)) fun trc => ?_
    refine Parses.bind (Parses.read (getBits_fetch padded 8).field (by decide)) fun space => ?_
    refine Parses.bind (named_parses _ _) fun primaries => ?_
    refine Parses.bind (named_parses _ _) fun trc => ?_
    refine Parses.bind (named_parses _ _) fun space => ?_
    exact Parses.mono (Parses.set fun _ _ => rfl) (by omega)
  · refine Parses.bind (Parses.set fun _ _ => rfl) fun _ => ?_
    exact Parses.mono (Parses.when_false (by decide)) (by omega)

theorem timingInfo_near (padded : Padded m n) (room : k + 8 ≤ 519) :
    Parses core n (Near n k) (timingInfo m) (Near n (max (k + 1) 65)) := by
  refine Parses.flag padded room ?_ ?_
  · refine Parses.bind (Parses.set fun _ _ => rfl) fun _ => Parses.when_true (by decide) ?_
    refine Parses.bind (Parses.read (getBits_fetch padded 32).field (by decide)) fun units => ?_
    refine Parses.bind (Parses.read (getBits_fetch padded 32).field (by decide)) fun scale => ?_
    refine Parses.bind (Parses.set fun sps sizeAt => ?_) fun _ => ?_
    · split <;> rfl
    refine Parses.bind (flag_parses padded (by decide)) fun fixed => ?_
    exact Parses.mono (Parses.set fun _ _ => rfl) (by omega)
  · refine Parses.bind (Parses.set fun _ _ => rfl) fun _ => ?_
    exact Parses.mono (Parses.when_false (by decide)) (by omega)

theorem bitstreamRestriction_near (padded : Padded m n) (room : k + 8 ≤ 519) :
    Parses core n (Near n k) (bitstreamRestriction m sizeInBits) (Near n (max (k + 1) 379)) := by
  refine Parses.flag padded room ?_ ?_
  · refine Parses.bind (Parses.set fun _ _ => rfl) fun _ => Parses.when_true (by decide) ?_
    refine Parses.bind (flag_parses padded (by decide)) fun _ => ?_
    refine Parses.bind (Parses.read (getUeGolomb_fetch padded).field (by decide)) fun _ => ?_
    refine Parses.bind (Parses.read (getUeGolomb_fetch padded).field (by decide)) fun _ => ?_
    refine Parses.bind (Parses.read (getUeGolomb_fetch padded).field (by decide)) fun _ => ?_
    refine Parses.bind (Parses.read (getUeGolomb_fetch padded).field (by decide)) fun _ => ?_
    refine Parses.bind (Parses.read (getUeGolomb_fetch padded).field (by decide)) fun reorder => ?_
    refine Parses.bind (Parses.read (getUeGolomb_fetch padded).field (by decide)) fun buffering => ?_
    refine Parses.bind (Parses.set fun _ _ => rfl) fun _ => ?_
    refine Parses.bind (Parses.gets _) fun left => ?_
    refine Parses.bind (Parses.when (Parses.set fun _ _ => rfl)) fun _ => ?_
    refine Parses.bind (Parses.gets _) fun now => ?_
    refine Parses.mono (Parses.when ?_) (by omega)
    refine Parses.bind (Parses.set fun _ _ => rfl) fun _ => ?_
    exact ⟨Prog.Triple.stop fun _ => Near.failed, Prog.Keeps.stop _⟩
  · refine Parses.bind (Parses.set fun _ _ => rfl) fun _ => ?_
    exact Parses.mono (Parses.when_false (by decide)) (by omega)

-- What follows the parameters does not depend on whether a flag before them was read from the
-- padding.
theorem hrd_flag (padded : Padded m n) (room : k + 8 ≤ 519) {change : Int → Sps → Sps} {Q : Place}
    {g : Int → Parse Unit} (same : ∀ v sps sizeAt, core (change v sps) sizeAt = core sps sizeAt)
    (next : ∀ v, Parses core n (Near n (max (k + 1) 492)) (g v) Q) :
    Parses core n (Near n k) (do
      let v ← flag m
      set (change v)
      Prog.when (v ≠ 0) (decodeHrdParameters m)
      g v) Q := by
  refine Parses.flag padded room ?_ ?_
  · refine Parses.bind (Parses.set (same 1)) fun _ => ?_
    refine Parses.bind (Parses.when_true (by decide) (decodeHrdParameters_near padded)) fun _ => ?_
    exact (next 1).conseq (fun _ _ near => near.mono (by omega)) fun _ _ => id
  · refine Parses.bind (Parses.set (same 0)) fun _ => ?_
    refine Parses.bind (Parses.when_false (by decide)) fun _ => ?_
    exact (next 0).conseq (fun _ _ near => near.mono (by omega)) fun _ _ => id

theorem hrdParameters_near (padded : Padded m n) (room : k ≤ 491) :
    Parses core n (Near n k) (hrdParameters m) (Near n 494) := by
  refine hrd_flag padded (by omega) (fun _ _ _ => rfl) fun nal => ?_
  refine hrd_flag padded (by omega) (fun _ _ _ => rfl) fun vcl => ?_
  exact Parses.when_near (Parses.mono (skipFlag_parses padded (by omega)) (by omega)) (by omega)

theorem decodeVuiParameters_near (padded : Padded m n) :
    Parses core n (Near n 0) (decodeVuiParameters m sizeInBits) (Near n 496) := by
  refine Parses.bind (aspectRatio_near padded (by decide)) fun _ => ?_
  refine Parses.bind (flag_parses padded (by decide)) fun overscan => ?_
  refine Parses.bind (Parses.when_near (skipFlag_parses padded (by decide)) (by decide)) fun _ => ?_
  refine Parses.bind (videoSignalType_near padded (by decide)) fun _ => ?_
  refine Parses.bind (flag_parses padded (by decide)) fun chromaLocation => ?_
  have location : ∀ k, k + 32 ≤ 519 → Parses core n (Near n k) (do
      let _ ← read (getUeGolomb m)
      pure ()) (Near n (k + 63)) := fun k room =>
    Parses.bind (Parses.read (getUeGolomb_fetch padded).field room) fun _ => Parses.pure ()
  refine Parses.bind (Parses.when_near (location _ (by decide)) (by decide)) fun _ => ?_
  refine Parses.bind (Parses.read (showBits_fetch padded 1).field (by decide)) fun next => ?_
  refine Parses.bind (Parses.gets _) fun left => ?_
  refine Parses.when_near ?_ (by decide)
  refine Parses.bind (timingInfo_near padded (by decide)) fun _ => ?_
  refine Parses.bind (hrdParameters_near padded (by decide)) fun _ => ?_
  refine Parses.bind (flag_parses padded (by decide)) fun picStruct => ?_
  refine Parses.bind (Parses.set fun _ _ => rfl) fun _ => ?_
  refine Parses.bind (Parses.gets _) fun left => ?_
  exact Parses.when_near
    (Parses.mono (bitstreamRestriction_near padded (by decide)) (by decide)) (by decide)

theorem vui_near (padded : Padded m n) :
    Parses core n (Near n 252) (vui m sizeInBits) (Near n 496) := by
  refine Parses.flag padded (by decide) ?_ ?_
  · refine Parses.bind (Parses.set fun _ _ => rfl) fun _ => ?_
    exact Parses.when_true (by decide) (decodeVuiParameters_near padded)
  · refine Parses.bind (Parses.set fun _ _ => rfl) fun _ => ?_
    exact Parses.mono (Parses.when_false (by decide)) (by decide)

end Vui

section Fields

variable {n k sizeInBits : Nat} {m : Nat → UInt8}

theorem identification_near (padded : Padded m n) :
    Parses core n (Near n 8) (identification m) (Near n 18) := by
  refine Parses.bind (bits_parses padded 8 (by decide)) fun profile => ?_
  refine Parses.bind (flag_parses padded (by decide)) fun set0 => ?_
  refine Parses.bind (flag_parses padded (by decide)) fun set1 => ?_
  refine Parses.bind (flag_parses padded (by decide)) fun set2 => ?_
  refine Parses.bind (flag_parses padded (by decide)) fun set3 => ?_
  refine Parses.bind (flag_parses padded (by decide)) fun set4 => ?_
  refine Parses.bind (flag_parses padded (by decide)) fun set5 => ?_
  refine Parses.bind (Parses.read (skipBits_field 2) (by decide)) fun _ => ?_
  refine Parses.bind (bits_parses padded 8 (by decide)) fun level => ?_
  refine Parses.field (getUeGolomb31_fetch padded).field (by decide) (fun id _ => ?_)
    fun id _ none => ?_
  · exact Parses.failIf fun _ => Parses.set fun _ _ => rfl
  · exact Parses.failIf fun few => absurd (by omega) few

abbrev nothing : Sps → List Nat → Unit := fun _ _ => ()

theorem Parses.nothing {α : Type} {P Q : Place} {f : Parse α} (parses : Parses core n P f Q) :
    Parses SpsParser.nothing n P f Q := parses.through fun _ => ()

theorem colorTransform_near (padded : Padded m n) (room : k + 8 ≤ 519) :
    Parses core n (Near n k) (colorTransform m) (Near n (k + 1)) := by
  refine Parses.bind (flag_parses padded room) fun transform => ?_
  exact Parses.bind (Parses.set fun _ _ => rfl) fun _ => Parses.check

theorem bitDepths_drag (padded : Padded m n) (room : k + 158 ≤ 519) :
    Parses core n (Near n k) (bitDepths m) (Dragging n) := by
  refine Parses.bind (Parses.read (getUeGolomb_fetch padded).field (by omega)) fun luma => ?_
  refine Parses.bind (Parses.read (getUeGolomb_fetch padded).field (by omega)) fun chroma => ?_
  refine Parses.bind (Parses.set fun _ _ => rfl) fun _ => ?_
  refine Parses.failIf fun _ => Parses.failIf fun _ => ?_
  refine Parses.bind (flag_parses padded (by omega)) fun bypass => ?_
  refine Parses.bind (Parses.dragging (Parses.set fun _ _ => rfl)) fun _ => ?_
  refine Parses.bind (decodeScalingMatrices_drag padded) fun present => ?_
  exact Parses.set fun _ _ => rfl

theorem chromaFormat_drag (padded : Padded m n) :
    Parses nothing n (Near n 18) (chromaFormat m) (Dragging n) := by
  refine Parses.bind (Parses.gets _) fun now => ?_
  refine Parses.ite (fun _ => ?_) fun _ => Parses.dragging (Parses.set fun _ _ => rfl)
  refine Parses.bind (Parses.read (getUeGolomb31_fetch padded).field (by decide)) fun format => ?_
  refine Parses.bind (Parses.set fun _ _ => rfl) fun _ => Parses.failIf fun _ => ?_
  refine Parses.bind
    (Parses.when_near (colorTransform_near padded (by decide)).nothing (by decide)) fun _ => ?_
  exact (bitDepths_drag padded (by decide)).nothing

theorem offsetForRefFrame_drag {i : Nat} (less : i < 256) :
    Parses core n (Dragging n) (offsetForRefFrame m i) (Dragging n) := by
  refine Parses.bind (Parses.drag (getSeGolombLong_field (m := m))) fun offset => ?_
  exact stopIf_parses (by omega) (Parses.set fun _ _ => rfl)

theorem picOrderCycle_drag (padded : Padded m n) :
    Parses core n (Near n 81) (picOrderCycle m) (Dragging n) := by
  refine Parses.bind (flag_parses padded (by decide)) fun zero => ?_
  refine Parses.bind (Parses.read (getSeGolombLong_field (m := m)) (by decide)) fun nonRef => ?_
  refine Parses.bind (Parses.read (getSeGolombLong_field (m := m)) (by decide)) fun topToBottom => ?_
  have offsets : ∀ k (length : Int), -1 ≤ length ∧ length ≤ 8190 → Parses core n (Near n k) (do
      set fun sps =>
        { sps with
          deltaPicOrderAlwaysZeroFlag := zero
          offsetForNonRefPic := nonRef
          offsetForTopToBottomField := topToBottom
          pocCycleLength := length }
      failIf (u32 length ≥ 256)
      Prog.loop (offsetForRefFrame m) 0 length.toNat) (Dragging n) := by
    intro k length range
    refine Parses.bind (Parses.set fun _ _ => rfl) fun _ => Parses.failIf fun few => ?_
    have less : length.toNat ≤ 256 := by
      simp only [u32] at few
      omega
    refine Parses.conseq (Parses.loop 0 _ fun i inside => ?_) (fun _ _ => Near.dragging) fun _ _ => id
    exact offsetForRefFrame_drag (by omega)
  refine Parses.field (getUeGolomb_fetch padded).field (by decide) (fun length range => ?_)
    fun length range _ => ?_
  · exact offsets _ length range
  · exact offsets _ length range

theorem picOrder_drag (padded : Padded m n) : Parses core n (Dragging n) (picOrder m) (Dragging n) := by
  refine Parses.fetch (getUeGolomb_fetch padded) (fun frameNum _ => ?_) fun frameNum _ invalid => ?_
  · refine Parses.failIf fun _ => ?_
    refine Parses.bind (Parses.read (getUeGolomb31_fetch padded).field (by decide)) fun type => ?_
    refine Parses.bind (Parses.set fun _ _ => rfl) fun _ => ?_
    refine Parses.ite (fun _ => ?_) fun _ =>
      Parses.ite (fun _ => picOrderCycle_drag padded) fun _ => Parses.check.dragging
    refine Parses.bind (Parses.read (getUeGolomb_fetch padded).field (by decide)) fun t => ?_
    exact Parses.failIf fun _ => Parses.dragging (Parses.set fun _ _ => rfl)
  · exact Parses.failIf fun valid => absurd (.inl (by omega)) valid

theorem sizeCode_near {α : Type} {reading : Reading α} {V Z : α → Prop} {most reach : Nat}
    (reads : Field n reading V Z most reach) (room : k + reach ≤ 519) :
    Parses nothing n (Near n k) (sizeCode reading) (Near n (k + most)) :=
  Parses.bind ⟨Prog.Triple.modify fun _ => id, fun _ => rfl⟩ fun _ => Parses.read reads room

theorem mbAffFlag_near (padded : Padded m n) (room : k + 8 ≤ 519) :
    Parses core n (Near n k) (mbAffFlag m) (Near n (k + 1)) :=
  Parses.bind (flag_parses padded room) fun _ => Parses.set fun _ _ => rfl

theorem mbSize_near (padded : Padded m n) : Parses nothing n (Near n 19) (mbSize m) (Near n 147) := by
  refine Parses.bind (sizeCode_near (getUeGolomb_fetch padded).field (by decide)) fun width => ?_
  refine Parses.bind (sizeCode_near (getUeGolomb_fetch padded).field (by decide)) fun height => ?_
  refine Parses.bind (sizeCode_near (getBits1_field padded) (by decide)) fun frameMbsOnly => ?_
  refine Parses.bind (Parses.set fun _ _ => rfl) fun _ => Parses.failIf fun _ => ?_
  refine Parses.bind (Parses.set fun _ _ => rfl) fun _ => ?_
  refine Parses.bind
    (Parses.when_near (mbAffFlag_near padded (by decide)).nothing (by decide)) fun _ => ?_
  exact Parses.bind (Parses.gets _) fun now => Parses.check

theorem frameSize_near (padded : Padded m n) :
    Parses nothing n (Dragging n) (frameSize m) (Near n 148) := by
  refine Parses.fetch (getUeGolomb31_fetch padded) (fun refs _ => ?_) fun refs _ invalid => ?_
  · refine Parses.bind (Parses.set fun _ _ => rfl) fun _ => Parses.failIf fun _ => ?_
    refine Parses.bind (flag_parses padded (by decide)) fun gaps => ?_
    refine Parses.bind (Parses.set fun _ _ => rfl) fun _ => ?_
    refine Parses.bind (mbSize_near padded) fun _ => ?_
    refine Parses.bind (flag_parses padded (by decide)) fun direct => ?_
    exact Parses.set fun _ _ => rfl
  · exact Parses.bind (Parses.set fun _ _ => rfl) fun _ => Parses.failIf fun few =>
      absurd (by omega) few

theorem cropping_near (padded : Padded m n) :
    Parses nothing n (Near n 148) (cropping m) (Near n 252) := by
  refine Parses.flag padded (by decide) ?_ ?_
  · refine Parses.bind (Parses.set fun _ _ => rfl) fun _ => Parses.ite (fun _ => ?_) fun zero =>
      absurd (by decide) zero
    refine Parses.bind (Parses.read (getUeGolomb_fetch padded).field (by decide)) fun left => ?_
    refine Parses.bind (Parses.read (getUeGolomb_fetch padded).field (by decide)) fun right => ?_
    refine Parses.bind (Parses.read (getUeGolomb_fetch padded).field (by decide)) fun top => ?_
    refine Parses.bind (Parses.read (getUeGolomb_fetch padded).field (by decide)) fun bottom => ?_
    refine Parses.bind (Parses.gets _) fun now => Parses.failIf fun _ => ?_
    exact Parses.set fun _ _ => rfl
  · refine Parses.bind (Parses.set fun _ _ => rfl) fun _ =>
      Parses.ite (fun nonzero => absurd rfl nonzero) fun _ => ?_
    exact Parses.mono (Parses.set fun _ _ => rfl) (by decide)

theorem fields_near (padded : Padded m n) :
    Parses nothing n (Near n 8) (fields m sizeInBits) (Near n 496) := by
  refine Parses.bind (identification_near padded).nothing fun _ => ?_
  refine Parses.bind (chromaFormat_drag padded) fun _ => ?_
  refine Parses.bind (picOrder_drag padded).nothing fun _ => ?_
  refine Parses.bind (frameSize_near padded) fun _ => ?_
  refine Parses.bind (cropping_near padded) fun _ => ?_
  exact (vui_near padded).nothing

end Fields

end UnionpiTiger.H264.SpsParser
