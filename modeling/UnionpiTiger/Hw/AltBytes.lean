import UnionpiTiger.Hw.Patched
import UnionpiTiger.Hw.Settings
import UnionpiTiger.Lib.Stores

set_option autoImplicit false

namespace UnionpiTiger.Hw

structure AltBytes where
  bytes : List UInt8
  inx : Nat
  altSize : Nat
  offset : List Nat
deriving DecidableEq

def offsetCount : Nat := 256

namespace AltBytes

-- line_process; none where it writes outside the buffer or the array.
def lineProcess (s : AltBytes) (line : List UInt8) : Option AltBytes :=
  if comment line then some s
  else if s.altSize > maxAltConfigSize - 4 then some s
  else
    match itemOf line with
    | none => some s
    | some item =>
      if s.offset.length < offsetCount then do
        let bytes ← Lib.store s.bytes s.inx (le16 item.offset)
        let bytes ← Lib.store bytes (s.inx + 2) [item.data.length.toUInt8]
        if s.altSize + item.size > maxAltConfigSize then
          let bytes ← Lib.store bytes s.inx (le16 0)
          let bytes ← Lib.store bytes (s.inx + 2) [0]
          some { s with bytes, offset := s.offset ++ [item.offset] }
        else
          let bytes ← Lib.store bytes (s.inx + entryHead) item.data
          some { bytes, inx := s.inx + item.size, altSize := s.altSize + item.size, offset := s.offset ++ [item.offset] }
      else none

def linesProcess (s : AltBytes) : List (List UInt8) → Option AltBytes
  | [] => some s
  | line :: lines => (s.lineProcess line).bind fun s => s.linesProcess lines

structure Fits (s : AltBytes) : Prop where
  length : s.bytes.length = maxAltConfigSize
  below : s.inx ≤ s.altSize

structure Holds (s : AltBytes) (items : List Item) : Prop where
  bytes : s.bytes = encodeAll items ++ List.replicate (maxAltConfigSize - (items.map Item.size).sum) 0
  inx : s.inx = (items.map Item.size).sum
  fits : (items.map Item.size).sum ≤ maxAltConfigSize

end AltBytes

section Lengths

variable {line : List UInt8} {item : Item}

theorem strsep_length (delims str : List UInt8) :
    ((strsep delims str).map fun word => word.length + 1).sum = str.length + 1 := by
  induction str with
  | nil => simp [strsep]
  | cons c rest ih =>
    unfold strsep
    split_ifs with delim
    · simp only [List.map_cons, List.sum_cons, List.length_nil, List.length_cons, ih]
      omega
    · cases found : strsep delims rest with
      | nil => simp [found] at ih
      | cons token tokens =>
        simp only [found, List.map_cons, List.sum_cons, List.length_cons] at ih ⊢
        omega

theorem argv_length (line : List UInt8) : 2 * (argv line).length ≤ line.length + 1 := by
  have words (tokens : List (List UInt8)) :
      2 * (tokens.filter fun word => word ≠ []).length ≤
      (tokens.map fun word => word.length + 1).sum := by
    induction tokens with
    | nil => simp
    | cons word rest ih =>
      rw [List.map_cons, List.sum_cons]
      by_cases empty : word = []
      · simp only [empty, List.filter_cons, ne_eq, not_true_eq_false, decide_false,
          Bool.false_eq_true, if_false]
        exact ih.trans (Nat.le_add_left _ _)
      · have some_ := List.length_pos_iff.mpr empty
        simp only [List.filter_cons, ne_eq, empty, not_false_eq_true, decide_true, if_true,
          List.length_cons] at ih ⊢
        omega
  have all := words (strsep [ascii ',', ascii ' ', ascii '\t'] line)
  rw [strsep_length] at all
  have most := List.length_take_le' 32
    ((strsep [ascii ',', ascii ' ', ascii '\t'] line).filter fun word => word ≠ [])
  unfold argv
  omega

theorem itemOf_size (found : itemOf line = some item) :
    4 ≤ item.size ∧ 2 * item.size ≤ line.length + 1 := by
  have words := argv_length line
  unfold itemOf at found
  split at found
  next low high len first rest same =>
    cases found
    rw [same] at words
    simp only [Item.size, entryHead, List.length_cons, List.length_map] at words ⊢
    omega
  next => cases found

theorem itemsOf_size (lines : List (List UInt8)) :
    4 * (itemsOf lines).length ≤ ((itemsOf lines).map Item.size).sum ∧
      2 * ((itemsOf lines).map Item.size).sum ≤ (lines.map fun line => line.length + 1).sum := by
  induction lines with
  | nil => simp [itemsOf]
  | cons line rest ih =>
    obtain ⟨each, all⟩ := ih
    rw [List.map_cons, List.sum_cons]
    cases found : (if comment line then none else itemOf line) with
    | none =>
      have same : itemsOf (line :: rest) = itemsOf rest := by simp [itemsOf, found]
      rw [same]
      omega
    | some item =>
      have same : itemsOf (line :: rest) = item :: itemsOf rest := by simp [itemsOf, found]
      have size : 4 ≤ item.size ∧ 2 * item.size ≤ line.length + 1 := by
        split_ifs at found
        exact itemOf_size found
      rw [same, List.map_cons, List.sum_cons, List.length_cons]
      omega

theorem configLines_length (file : Option (List UInt8)) (configName : List UInt8) :
    ((Settings.configLines file configName).map fun line => line.length + 1).sum ≤ 1023 := by
  unfold Settings.configLines
  cases file with
  | none => simp
  | some bytes =>
    dsimp only
    split_ifs with large
    · simp
    · have whole := strsep_length [ascii '\n',
        ascii '\r'] ((bytes ++ [ascii '\n']).takeWhile fun c => c ≠ 0)
      have cut := (List.takeWhile_prefix (l := bytes ++ [ascii '\n']) fun c => c ≠ 0).length_le
      rw [List.length_append, List.length_singleton] at cut
      split
      · simp
      · rename_i first rest same
        rw [same, List.map_cons, List.sum_cons] at whole
        split_ifs
        · omega
        · simp

theorem noted_length (size : Nat) (items : List Item) : (noted size items).length ≤ items.length := by
  induction items generalizing size with
  | nil => simp [noted]
  | cons item rest ih =>
    have taken := ih (size + item.size)
    have left := ih size
    unfold noted
    split_ifs <;> simp <;> omega

end Lengths

namespace AltBytes

variable {s next : AltBytes} {line : List UInt8} {items : List Item}

structure Processed (s next : AltBytes) (read : List Item) : Prop where
  fits : next.Fits
  offset : next.offset = s.offset ++ noted s.altSize read
  altSize : next.altSize = s.altSize + ((accepted s.altSize read).map Item.size).sum
  holds : ∀ items, s.Holds items → next.Holds (items ++ accepted s.altSize read)

theorem Fits.same (fits : s.Fits) : Processed s s [] where
  fits := fits
  offset := by simp [noted]
  altSize := by simp [accepted]
  holds items holds := by simpa [accepted] using holds

theorem length_encodeAll (items : List Item) :
    (encodeAll items).length = (items.map Item.size).sum := by
  induction items with
  | nil => rfl
  | cons item rest ih => rw [encodeAll_cons, List.length_append, item.encode_length, ih,
      List.map_cons, List.sum_cons]

theorem encodeAll_snoc (items : List Item) (item : Item) :
    encodeAll (items ++ [item]) = encodeAll items ++ item.encode := by
  simp [encodeAll]

theorem Holds.store (holds : s.Holds items) (new : List UInt8)
    (room : (items.map Item.size).sum + new.length ≤ maxAltConfigSize) :
    Lib.store s.bytes s.inx new =
      some (encodeAll items ++ (new ++ List.replicate
        (maxAltConfigSize - ((items.map Item.size).sum + new.length)) 0)) := by
  rw [holds.bytes, holds.inx, ← length_encodeAll,
    Lib.store_append _ _ _ (by rw [List.length_replicate, length_encodeAll]; omega),
    List.drop_replicate, length_encodeAll, Nat.sub_sub]

theorem accepted_append (size : Nat) (first second : List Item) :
    accepted size (first ++ second) = accepted size first ++
      accepted (size + ((accepted size first).map Item.size).sum) second := by
  induction first generalizing size with
  | nil => simp [accepted]
  | cons item rest ih =>
    rw [List.cons_append, accepted_cons, accepted_cons]
    split_ifs <;> simp [ih, Nat.add_assoc]

theorem noted_append (size : Nat) (first second : List Item) :
    noted size (first ++ second) = noted size first ++
      noted (size + ((accepted size first).map Item.size).sum) second := by
  induction first generalizing size with
  | nil => simp [noted, accepted]
  | cons item rest ih =>
    rw [List.cons_append, noted_cons, noted_cons, accepted_cons]
    split_ifs <;> simp [ih, Nat.add_assoc]

theorem accepted_one (size : Nat) (item : Item) (room : ¬size > maxAltConfigSize - 4) :
    accepted size [item] = if size + item.size > maxAltConfigSize then [] else [item] := by
  rw [accepted_cons, if_neg room]
  rfl

theorem noted_one (size : Nat) (item : Item) (room : ¬size > maxAltConfigSize - 4) :
    noted size [item] = [item.offset] := by
  rw [noted_cons, if_neg room, noted, noted, ite_self]

theorem Fits.lineProcess (fits : s.Fits) (room : s.offset.length < offsetCount) (line : List UInt8) :
    ∃ next, s.lineProcess line = some next ∧ Processed s next (itemsOf [line]) := by
  have length := fits.length
  have below := fits.below
  by_cases skipped : comment line = true
  · exact ⟨s, if_pos skipped, by simpa [itemsOf, skipped] using fits.same⟩
  · cases found : itemOf line with
    | none =>
      refine ⟨s, ?_, by simpa [itemsOf, skipped, found] using fits.same⟩
      simp [AltBytes.lineProcess, skipped, found]
    | some item =>
      have read : itemsOf [line] = [item] := by simp [itemsOf, skipped, found]
      have small := (itemOf_size found).1
      rw [read]
      by_cases full : s.altSize > maxAltConfigSize - 4
      · refine ⟨s, by simp [AltBytes.lineProcess, skipped, full], ?_⟩
        have none_ : accepted s.altSize [item] = [] ∧ noted s.altSize [item] = [] := by
          rw [accepted_cons, noted_cons, if_pos full, if_pos full]
          exact ⟨rfl, rfl⟩
        exact ⟨fits, by simp [none_], by simp [none_], fun items holds => by simpa [none_] using holds⟩
      · have head : s.inx + 3 ≤ s.bytes.length := by
          unfold maxAltConfigSize at length full
          omega
        have twice (bytes : List UInt8) (place : Nat) (offset : Nat) (len : UInt8) :
            ((Lib.store bytes place (le16 offset)).bind fun bytes =>
              Lib.store bytes (place + 2) [len]) =
              Lib.store bytes place (le16 offset ++ [len]) :=
                Lib.store_bind bytes (le16 offset) [len] place
        simp only [AltBytes.lineProcess, skipped, Bool.false_eq_true, if_false, full, found, room,
          if_true, Option.bind_eq_bind]
        by_cases exceeds : s.altSize + item.size > maxAltConfigSize
        · simp only [exceeds, if_true]
          have twice : (Lib.store s.bytes s.inx (le16 item.offset)).bind (fun bytes =>
              (Lib.store bytes (s.inx + 2) [item.data.length.toUInt8]).bind fun bytes =>
                (Lib.store bytes s.inx (le16 0)).bind fun bytes => Lib.store bytes (s.inx + 2) [0]) =
              Lib.store s.bytes s.inx (le16 0 ++ [0]) := by
            simp only [twice]
            rw [← Option.bind_assoc, twice]
            exact Lib.store_over _ _ rfl
          obtain ⟨bytes, stored⟩ : ∃ bytes, Lib.store s.bytes s.inx (le16 0 ++ [0]) = some bytes :=
            ⟨_, Lib.store_some (by simpa [le16_length] using head)⟩
          obtain ⟨bytes₁, first, rest₁⟩ := Option.bind_eq_some_iff.mp (twice.trans stored)
          obtain ⟨bytes₂, second, rest₂⟩ := Option.bind_eq_some_iff.mp rest₁
          obtain ⟨bytes₃, third, last⟩ := Option.bind_eq_some_iff.mp rest₂
          refine ⟨{ s with bytes, offset := s.offset ++ [item.offset] },
            by simp only [first, second, third, last, Option.bind_some], ?_⟩
          have rejected := accepted_one s.altSize item full
          rw [if_pos exceeds] at rejected
          refine ⟨⟨(Lib.length_store stored).trans length, below⟩,
            by rw [noted_one _ _ full], by simp [rejected], fun items holds => ?_⟩
          have room' : (items.map Item.size).sum + 3 ≤ maxAltConfigSize := by
            have inx := holds.inx
            omega
          have zeros := holds.store (le16 0 ++ [0]) (by simpa [le16_length] using room')
          rw [stored, Option.some.injEq] at zeros
          rw [rejected, List.append_nil]
          refine ⟨?_, holds.inx, holds.fits⟩
          have split : maxAltConfigSize - (items.map Item.size).sum =
              3 + (maxAltConfigSize - ((items.map Item.size).sum + 3)) := by omega
          rw [split, List.replicate_add]
          exact zeros
        · simp only [exceeds, if_false]
          have whole : (Lib.store s.bytes s.inx (le16 item.offset)).bind (fun bytes =>
              (Lib.store bytes (s.inx + 2) [item.data.length.toUInt8]).bind fun bytes =>
                Lib.store bytes (s.inx + entryHead) item.data) =
                  Lib.store s.bytes s.inx item.encode := by
            rw [← Option.bind_assoc, twice]
            exact Lib.store_bind s.bytes (le16 item.offset ++ [item.data.length.toUInt8])
              item.data s.inx
          obtain ⟨bytes, stored⟩ : ∃ bytes, Lib.store s.bytes s.inx item.encode = some bytes :=
            ⟨_, Lib.store_some (by rw [item.encode_length]; omega)⟩
          obtain ⟨bytes₁, first, rest₁⟩ := Option.bind_eq_some_iff.mp (whole.trans stored)
          obtain ⟨bytes₂, second, last⟩ := Option.bind_eq_some_iff.mp rest₁
          refine ⟨{ bytes, inx := s.inx + item.size, altSize := s.altSize + item.size, offset := s.offset ++ [item.offset] },
            by simp only [first, second, last, Option.bind_some], ?_⟩
          have taken := accepted_one s.altSize item full
          rw [if_neg exceeds] at taken
          refine ⟨⟨(Lib.length_store stored).trans length, by simpa using below⟩,
            by rw [noted_one _ _ full], by simp [taken],
            fun items holds => ?_⟩
          have inx := holds.inx
          have put := holds.store item.encode (by rw [item.encode_length]; omega)
          rw [stored, Option.some.injEq, item.encode_length] at put
          rw [taken]
          have sum : ((items ++ [item]).map Item.size).sum =
              (items.map Item.size).sum + item.size := by simp
          refine ⟨?_, by rw [sum, ← inx], by rw [sum]; omega⟩
          rw [sum, encodeAll_snoc, List.append_assoc]
          exact put

theorem Fits.linesProcess (fits : s.Fits) (lines : List (List UInt8))
    (room : s.offset.length + (itemsOf lines).length ≤ offsetCount) :
    ∃ next, s.linesProcess lines = some next ∧ Processed s next (itemsOf lines) := by
  induction lines generalizing s with
  | nil => exact ⟨s, rfl, fits.same⟩
  | cons line rest ih =>
    have items : itemsOf (line :: rest) = itemsOf [line] ++ itemsOf rest :=
      List.filterMap_append (l := [line])
    rw [items, List.length_append] at room
    have first : ∃ next, s.lineProcess line = some next ∧ Processed s next (itemsOf [line]) := by
      by_cases full : s.offset.length < offsetCount
      · exact fits.lineProcess full line
      · have none_ : itemsOf [line] = [] := List.length_eq_zero_iff.mp (by omega)
        refine ⟨s, ?_, none_ ▸ fits.same⟩
        have skip : comment line = true ∨ itemOf line = none := by
          by_contra read
          rw [not_or, Bool.not_eq_true] at read
          obtain ⟨item, found⟩ := Option.ne_none_iff_exists'.mp read.2
          simp [itemsOf, read.1, found] at none_
        rcases skip with skip | skip <;> simp [AltBytes.lineProcess, skip]
    obtain ⟨middle, one, processed⟩ := first
    have count := noted_length s.altSize (itemsOf [line])
    obtain ⟨next, more, rest_⟩ :=
      ih processed.fits (by rw [processed.offset, List.length_append]; omega)
    refine ⟨next, by rw [AltBytes.linesProcess, one, Option.bind_some,
      more], rest_.fits, ?_, ?_, fun held holds => ?_⟩
    · rw [rest_.offset, processed.offset, processed.altSize, items, noted_append, List.append_assoc]
    · rw [rest_.altSize, processed.altSize, items, accepted_append, List.map_append,
        List.sum_append, Nat.add_assoc]
    · rw [items, accepted_append, ← List.append_assoc, ← processed.altSize]
      exact rest_.holds _ (processed.holds held holds)

end AltBytes

end UnionpiTiger.Hw
