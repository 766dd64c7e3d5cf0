import Mathlib.Data.List.Nodup
import Mathlib.Data.List.TakeWhile
import UnionpiTiger.Hw.Settings
import UnionpiTiger.Lib.Numbered

set_option autoImplicit false

namespace UnionpiTiger.Hw

theorem bytesAt_length (mem : Memory) (place n : Nat) : (bytesAt mem place n).length = n := by
  simp [bytesAt]

theorem bytesAt_add (mem : Memory) (place m n : Nat) :
    bytesAt mem place (m + n) = bytesAt mem place m ++ bytesAt mem (place + m) n := by
  unfold bytesAt
  rw [List.range_add, List.map_append, List.map_map]
  refine congrArg (_ ++ ·) (List.map_congr_left fun k _ => ?_)
  rw [Function.comp_apply, Nat.add_assoc]

theorem bytesAt_congr {mem mem' : Memory} {place n : Nat}
    (same : ∀ k, place ≤ k → k < place + n → mem' k = mem k) :
    bytesAt mem' place n = bytesAt mem place n :=
  List.map_congr_left fun _ below =>
    same _ (Nat.le_add_right _ _) (Nat.add_lt_add_left (List.mem_range.mp below) _)

theorem bytesAt_getElem {mem : Memory} {place n k : Nat} (below : k < (bytesAt mem place n).length) :
    (bytesAt mem place n)[k] = mem (place + k) := by
  simp [bytesAt]

theorem bytesAt_store (mem : Memory) (place : Nat) (bytes : List UInt8) :
    bytesAt (store mem place bytes) place bytes.length = bytes := by
  refine List.ext_getElem (bytesAt_length _ _ _) fun k _ below => ?_
  rw [bytesAt_getElem]
  unfold store
  rw [if_pos ⟨Nat.le_add_right _ _, Nat.add_lt_add_left below _⟩,
    Nat.add_sub_cancel_left]
  exact (List.getElem_eq_getD 0).symm

theorem store_other (mem : Memory) (place : Nat) (bytes : List UInt8) {k : Nat}
    (outside : k < place ∨ place + bytes.length ≤ k) : store mem place bytes k = mem k :=
  if_neg fun inside => by omega

theorem bytesAt_store_other (mem : Memory) (place : Nat) (bytes : List UInt8) {other n : Nat}
    (apart : other + n ≤ place ∨ place + bytes.length ≤ other) :
    bytesAt (store mem place bytes) other n = bytesAt mem other n :=
  bytesAt_congr fun k from_ below => store_other mem place bytes (by omega)

theorem bytesAt_eq_append {mem : Memory} {place : Nat} {first second : List UInt8}
    (bytes : bytesAt mem place (first ++ second).length = first ++ second) :
    bytesAt mem place first.length = first ∧
      bytesAt mem (place + first.length) second.length = second := by
  rw [List.length_append, bytesAt_add] at bytes
  exact List.append_inj bytes (bytesAt_length _ _ _)

theorem le16_length (value : Nat) : (le16 value).length = 2 := rfl

theorem le16At_eq {mem : Memory} {place value : Nat} (small : value < 2 ^ 16)
    (bytes : bytesAt mem place 2 = le16 value) :
    le16At mem place = value := by
  have parts : [mem (place + 0), mem (place + 1)] = [value.toUInt8, (value / 256).toUInt8] := bytes
  obtain ⟨low, rest⟩ := List.cons.inj parts
  obtain ⟨high, -⟩ := List.cons.inj rest
  unfold le16At
  rw [Nat.add_zero] at low
  rw [low, high, Nat.toUInt8_eq, Nat.toUInt8_eq, UInt8.toNat_ofNat', UInt8.toNat_ofNat']
  omega

def Item.encode (item : Item) : List UInt8 :=
  le16 item.offset ++ [item.data.length.toUInt8] ++ item.data

def encodeAll (items : List Item) : List UInt8 := items.flatMap Item.encode

theorem Item.encode_length (item : Item) : item.encode.length = item.size := by
  unfold Item.encode Item.size entryHead
  rw [List.length_append, List.length_append, le16_length, List.length_singleton]
  omega

theorem encodeAll_cons (item : Item) (rest : List Item) :
    encodeAll (item :: rest) = item.encode ++ encodeAll rest := rfl

structure Item.Fits (item : Item) : Prop where
  offset : item.offset < 2 ^ 16
  data : item.data.length < 256

theorem Item.Fits.read {item : Item} (fits : item.Fits) {mem : Memory} {place : Nat}
    (bytes : bytesAt mem place item.encode.length = item.encode) :
    le16At mem place = item.offset ∧ (mem (place + 2)).toNat = item.data.length ∧
      bytesAt mem (place + entryHead) item.data.length = item.data := by
  obtain ⟨head, data⟩ := bytesAt_eq_append bytes
  obtain ⟨offset, len⟩ := bytesAt_eq_append head
  refine ⟨le16At_eq fits.offset offset, ?_, data⟩
  have same : [mem (place + 2 + 0)] = [item.data.length.toUInt8] := len
  have byte := (List.cons.inj same).1
  rw [Nat.add_zero] at byte
  rw [byte, Nat.toUInt8_eq, UInt8.toNat_ofNat', Nat.mod_eq_of_lt fits.data]

variable {mac : Nat} {extra : List Item}

def replaced (mac : Nat) (extra : List Item) (entry : Item) : Item :=
  if (altSettingVal mac extra entry.offset).length = entry.data.length
  then { entry with data := altSettingVal mac extra entry.offset } else entry

theorem replaced_offset (entry : Item) : (replaced mac extra entry).offset = entry.offset := by
  unfold replaced
  split <;> rfl

theorem replaced_length (entry : Item) :
    (replaced mac extra entry).data.length = entry.data.length := by
  unfold replaced
  split
  next same => exact same
  next => rfl

theorem replaced_size (entry : Item) : (replaced mac extra entry).size = entry.size :=
  congrArg (· + entryHead) (replaced_length entry)

theorem replaced_sizes (entries : List Item) :
    ((entries.map (replaced mac extra)).map Item.size).sum = (entries.map Item.size).sum := by
  rw [List.map_map]
  exact congrArg List.sum (List.map_congr_left fun entry _ => replaced_size entry)

theorem replace_entry (mac : Nat) (extra : List Item) {mem : Memory} {place : Nat} {entry : Item}
    {rest : List UInt8} (here : bytesAt mem place entry.encode.length = entry.encode)
    (after : bytesAt mem (place + entry.size) rest.length = rest) :
    let val := altSettingVal mac extra entry.offset
    let new := if val.length = entry.data.length then store mem (place + entryHead) val else mem
    bytesAt new place entry.size = (replaced mac extra entry).encode ∧
      bytesAt new (place + entry.size) rest.length = rest ∧ ∀ k, k < place → new k = mem k := by
  unfold replaced
  dsimp only
  rw [entry.encode_length] at here
  by_cases same : (altSettingVal mac extra entry.offset).length = entry.data.length
  · rw [if_pos same, if_pos same]
    refine ⟨?_, ?_, fun k below =>
      store_other _ _ _ (.inl (Nat.lt_of_lt_of_le below (Nat.le_add_right _ _)))⟩
    · have split : entry.size = entryHead + (altSettingVal mac extra entry.offset).length := by
        rw [same]
        exact Nat.add_comm _ _
      have head : bytesAt mem place entryHead = le16 entry.offset ++ [entry.data.length.toUInt8] := by
        have whole := here
        rw [show entry.size = entryHead + entry.data.length from Nat.add_comm _ _, bytesAt_add] at whole
        exact (List.append_inj whole (bytesAt_length _ _ _)).1
      rw [split, bytesAt_add, bytesAt_store_other _ _ _ (.inl (Nat.le_refl _)), head, bytesAt_store]
      unfold Item.encode
      rw [same]
    · rw [bytesAt_store_other _ _ _ (.inr ?_)]
      · exact after
      · rw [same]
        unfold Item.size
        omega
  · rw [if_neg same, if_neg same]
    exact ⟨here, after, fun _ _ => rfl⟩

structure Walked (mac : Nat) (extra entries : List Item) (mem : Memory) (offsets : List Nat)
    (i dataLen : Nat) (left : Memory × List Nat × Nat) : Prop where
  ends : left.2.2 = dataLen
  marks : left.2.1 = entries.foldl (fun offsets entry =>
    used mac extra entry.offset entry.data.length offsets) offsets
  bytes : bytesAt left.1 (configHead + i) (entries.map Item.size).sum =
    encodeAll (entries.map (replaced mac extra))
  frame : ∀ k, k < configHead + i → left.1 k = mem k

theorem walkEntries_walked (mac : Nat) (extra : List Item) (entries : List Item)
    (fits : ∀ entry ∈ entries, entry.Fits) (mem : Memory) (offsets : List Nat)
    (i fuel dataLen : Nat) (enough : entries.length ≤ fuel)
    (ends : i + (entries.map Item.size).sum = dataLen)
    (bytes : bytesAt mem (configHead + i) (encodeAll entries).length = encodeAll entries) :
    Walked mac extra entries mem offsets i dataLen
      (walkEntries mac extra dataLen fuel mem offsets i) := by
  induction entries generalizing mem offsets i fuel with
  | nil =>
    have done : walkEntries mac extra dataLen fuel mem offsets i = (mem, offsets, i) := by
      cases fuel with
      | zero => rfl
      | succ fuel =>
        have last : ¬ i < dataLen := by
          rw [List.map_nil, List.sum_nil] at ends
          omega
        exact if_neg last
    rw [done]
    exact ⟨ends, rfl, rfl, fun _ _ => rfl⟩
  | cons entry rest ih =>
    rw [List.map_cons, List.sum_cons] at ends
    rw [encodeAll_cons] at bytes
    obtain ⟨here, after⟩ := bytesAt_eq_append bytes
    rw [entry.encode_length] at after
    obtain ⟨offset, len, -⟩ := (fits entry List.mem_cons_self).read here
    obtain ⟨patched, kept, below⟩ := replace_entry mac extra here after
    cases fuel with
    | zero => exact absurd enough (Nat.not_succ_le_zero _)
    | succ fuel =>
      have more : i < dataLen := by
        unfold Item.size entryHead at ends
        omega
      have turn : walkEntries mac extra dataLen (fuel + 1) mem offsets i =
          walkEntries mac extra dataLen fuel
            (if (altSettingVal mac extra entry.offset).length = entry.data.length
              then store mem (configHead + i + entryHead) (altSettingVal mac extra entry.offset)
                else mem)
            (used mac extra entry.offset entry.data.length offsets)
              (i + (entry.data.length + entryHead)) := by
        rw [← offset, ← len]
        exact if_pos more
      rw [Nat.add_assoc configHead i entry.size] at kept
      have tail := ih (fun other there => fits other (List.mem_cons_of_mem _ there)) _
        (used mac extra entry.offset entry.data.length offsets) (i + entry.size) fuel
          (Nat.le_of_succ_le_succ enough)
        (by rw [Nat.add_assoc]; exact ends) kept
      rw [turn]
      refine ⟨tail.ends, tail.marks, ?_, fun k less => ?_⟩
      · rw [List.map_cons, List.sum_cons, bytesAt_add, List.map_cons, encodeAll_cons]
        rw [Nat.add_assoc configHead i entry.size]
        refine congrArg₂ (· ++ ·) ?_ tail.bytes
        rw [← patched]
        exact bytesAt_congr fun k _ less => tail.frame k (by rw [← Nat.add_assoc]; exact less)
      · rw [← below k less]
        exact tail.frame k (Nat.lt_of_lt_of_le less (Nat.add_le_add_left (Nat.le_add_right _ _) _))

def addedOf (mac : Nat) (extra : List Item) (offset : Nat) : Option Item :=
  if offset = 0 ∨ (altSettingVal mac extra offset).length = 0 then none
    else some ⟨offset, altSettingVal mac extra offset⟩

def addedFor (mac : Nat) (extra : List Item) (offsets : List Nat) : List Item :=
  offsets.filterMap (addedOf mac extra)

structure Added (mac : Nat) (extra : List Item) (offsets : List Nat) (mem : Memory) (i : Nat)
    (left : Memory × Nat) : Prop where
  ends : left.2 = i + ((addedFor mac extra offsets).map Item.size).sum
  bytes : bytesAt left.1 (configHead + i) ((addedFor mac extra offsets).map Item.size).sum =
    encodeAll (addedFor mac extra offsets)
  frame : ∀ k, k < configHead + i → left.1 k = mem k

theorem store_entry (mem : Memory) (place : Nat) (item : Item) :
    bytesAt (store (store (store mem (place + 2) [item.data.length.toUInt8]) place
      (le16 item.offset)) (place + entryHead) item.data)
      place item.size = item.encode := by
  have two : ∀ mem : Memory, bytesAt mem place entryHead =
      bytesAt mem place 2 ++ bytesAt mem (place + 2) 1 :=
    fun mem => bytesAt_add mem place 2 1
  have offset := bytesAt_store (store mem (place + 2) [item.data.length.toUInt8]) place
    (le16 item.offset)
  have len := bytesAt_store mem (place + 2) [item.data.length.toUInt8]
  rw [le16_length] at offset
  rw [List.length_singleton] at len
  have keeps : bytesAt (store (store mem (place + 2) [item.data.length.toUInt8]) place
      (le16 item.offset)) (place + 2) 1 =
      bytesAt (store mem (place + 2) [item.data.length.toUInt8]) (place + 2) 1 :=
    bytesAt_store_other _ _ _ (.inr (Nat.le_refl _))
  rw [show item.size = entryHead + item.data.length from Nat.add_comm _ _, bytesAt_add, bytesAt_store,
    bytesAt_store_other _ _ _ (.inl (Nat.le_refl _)), two, offset, keeps, len]
  rfl

theorem addSettings_added (mac : Nat) (extra : List Item) (offsets : List Nat)
    (mem : Memory) (i : Nat) :
    Added mac extra offsets mem i (addSettings mac extra offsets mem i) := by
  induction offsets generalizing mem i with
  | nil => exact ⟨rfl, rfl, fun _ _ => rfl⟩
  | cons offset rest ih =>
    have list : addedFor mac extra (offset :: rest) =
        (addedOf mac extra offset).toList ++ addedFor mac extra rest := by
      unfold addedFor
      rw [List.filterMap_cons]
      cases addedOf mac extra offset <;> rfl
    unfold addedOf at list
    unfold addSettings
    by_cases zero : offset = 0
    · rw [if_pos zero]
      rw [if_pos (.inl zero)] at list
      have tail := ih mem i
      exact ⟨by rw [list]; exact tail.ends, by rw [list]; exact tail.bytes, tail.frame⟩
    · rw [if_neg zero]
      dsimp only
      by_cases none_ : (altSettingVal mac extra offset).length = 0
      · rw [if_pos none_]
        rw [if_pos (.inr none_)] at list
        have tail := ih (store mem (configHead + i + 2)
          [(altSettingVal mac extra offset).length.toUInt8]) i
        refine ⟨by rw [list]; exact tail.ends, by rw [list]; exact tail.bytes, fun k less => ?_⟩
        rw [tail.frame k less, store_other _ _ _ (.inl (by omega))]
      · rw [if_neg none_]
        rw [if_neg (not_or.mpr ⟨zero, none_⟩), Option.toList_some, List.singleton_append] at list
        have tail := ih (store
          (store (store mem (configHead + i + 2) [(altSettingVal mac extra offset).length.toUInt8])
          (configHead + i) (le16 offset)) (configHead + i + entryHead) (altSettingVal mac extra offset))
          (i + ((altSettingVal mac extra offset).length + entryHead))
        have entry := store_entry mem (configHead + i) ⟨offset, altSettingVal mac extra offset⟩
        have frame : ∀ k, k < configHead + i →
            store (store (store mem (configHead + i + 2)
              [(altSettingVal mac extra offset).length.toUInt8])
              (configHead + i) (le16 offset)) (configHead + i + entryHead)
                (altSettingVal mac extra offset) k = mem k := by
          intro k less
          rw [store_other _ _ _ (.inl (by omega)), store_other _ _ _ (.inl less),
            store_other _ _ _ (.inl (by omega))]
        refine ⟨?_, ?_, fun k less => (tail.frame k (by omega)).trans (frame k less)⟩
        · rw [tail.ends, list, List.map_cons, List.sum_cons]
          exact Nat.add_assoc _ _ _
        · rw [list, List.map_cons, List.sum_cons, bytesAt_add, encodeAll_cons]
          rw [Nat.add_assoc configHead i (Item.size ⟨offset, altSettingVal mac extra offset⟩)]
          refine congrArg₂ (· ++ ·) ?_ tail.bytes
          rw [← entry]
          exact bytesAt_congr fun k _ less => tail.frame k (by rw [← Nat.add_assoc]; exact less)

def uses (mac : Nat) (extra : List Item) (entry : Item) (offset : Nat) : Bool :=
  entry.offset = offset &&
    (offset = mac || (findItem extra offset).any fun item => item.data.length = entry.data.length)

theorem used_eq (mac : Nat) (extra : List Item) (entry : Item) (offsets : List Nat) :
    used mac extra entry.offset entry.data.length offsets =
      offsets.map fun offset => if uses mac extra entry offset then 0 else offset := by
  refine List.map_congr_left fun offset _ => ?_
  unfold uses
  by_cases same : entry.offset = offset
  · rw [if_pos same, same, decide_eq_true rfl, Bool.true_and]
    by_cases own : offset = mac
    · rw [if_pos own, decide_eq_true own]
      rfl
    · rw [if_neg own, decide_eq_false own, Bool.false_or]
      cases findItem extra offset with
      | none => rfl
      | some item =>
        rw [Option.any_some]
        by_cases long : item.data.length = entry.data.length
        · rw [if_pos (decide_eq_true long)]
          exact if_pos long
        · rw [if_neg (by rw [decide_eq_true_iff]; exact long)]
          exact if_neg long
  · rw [if_neg same, decide_eq_false same, Bool.false_and]
    rfl

theorem foldl_used (mac : Nat) (extra : List Item) (entries : List Item) (offsets : List Nat) :
    entries.foldl (fun offsets entry => used mac extra entry.offset entry.data.length offsets) offsets =
      offsets.map fun offset => if entries.any fun entry => uses mac extra entry offset then 0
        else offset := by
  induction entries generalizing offsets with
  | nil =>
    rw [List.foldl_nil]
    exact (List.map_id offsets).symm
  | cons entry rest ih =>
    rw [List.foldl_cons, ih, used_eq, List.map_map]
    refine List.map_congr_left fun offset _ => ?_
    rw [Function.comp_apply, List.any_cons]
    cases uses mac extra entry offset with
    | true =>
      rw [if_pos rfl, Bool.true_or, if_pos rfl]
      exact ite_self 0
    | false =>
      rw [if_neg Bool.false_ne_true, Bool.false_or]

def patched (mac : Nat) (alts : List Item) (entry : Item) : Item :=
  match alts.find? fun alt => alt.offset = entry.offset && alt.data.length = entry.data.length with
  | none => entry
  | some alt => if entry.offset = mac then entry else { entry with data := alt.data }

def unmatched (mac : Nat) (entries : List Item) (alt : Item) : Bool :=
  alt.offset ≠ mac && !entries.any fun entry => entry.offset = alt.offset &&
    alt.data.length = entry.data.length

structure Distinct (alts : List Item) : Prop where
  nodup : (alts.map Item.offset).Nodup
  nonzero : ∀ alt ∈ alts, alt.offset ≠ 0

variable {alts : List Item}

theorem Distinct.find (distinct : Distinct alts) {alt : Item} (there : alt ∈ alts) :
    findItem alts alt.offset = some alt :=
  Lib.find?_key Item.offset (List.pairwise_map.mp distinct.nodup) there

theorem Distinct.visible (distinct : Distinct alts)
    (room : (alts.map Item.size).sum + 2 ≤ maxAltConfigSize) (behind : List Item) :
    visible alts behind = alts := by
  unfold Hw.visible
  rw [if_pos room]
  exact List.takeWhile_eq_self_iff.mpr fun alt there => decide_eq_true (distinct.nonzero alt there)

theorem replaced_of_none {entry : Item} (none_ : altSettingVal mac extra entry.offset = []) :
    replaced mac extra entry = entry := by
  unfold replaced
  rw [none_]
  split
  next empty =>
    have nil : entry.data = [] := List.eq_nil_of_length_eq_zero empty.symm
    rw [← nil]
  next => rfl

theorem Distinct.replaced_eq (distinct : Distinct alts) (mac : Nat) (entry : Item) :
    replaced mac alts entry = patched mac alts entry := by
  have val : altSettingVal mac alts entry.offset = match findItem alts entry.offset with
    | none => []
    | some item => if entry.offset ≠ mac then item.data else [] := rfl
  unfold patched
  cases found : findItem alts entry.offset with
  | none =>
    have missed : alts.find? (fun alt => alt.offset = entry.offset &&
        alt.data.length = entry.data.length) = none := by
      refine List.find?_eq_none.mpr fun alt there both => ?_
      have same := of_decide_eq_true (Bool.and_eq_true_iff.mp both).1
      exact List.find?_eq_none.mp found alt there (decide_eq_true same)
    rw [found] at val
    rw [missed, replaced_of_none val]
  | some alt =>
    have there := List.mem_of_find?_eq_some found
    have offset : alt.offset = entry.offset :=
      of_decide_eq_true (List.find?_some (p := fun item : Item =>
        decide (item.offset = entry.offset)) found)
    have only : ∀ other ∈ alts, other.offset = entry.offset → other = alt := by
      intro other held same
      have first := distinct.find held
      rw [same, found] at first
      exact (Option.some.inj first).symm
    rw [found] at val
    dsimp only at val
    by_cases long : alt.data.length = entry.data.length
    · have both : alts.find? (fun alt => alt.offset = entry.offset &&
        alt.data.length = entry.data.length) = some alt := by
        cases search : alts.find? (fun alt => alt.offset = entry.offset &&
          alt.data.length = entry.data.length) with
        | none =>
          exact absurd (by rw [decide_eq_true offset, decide_eq_true long]; rfl)
            (List.find?_eq_none.mp search alt there)
        | some other =>
          have fits := List.find?_some search
          rw [only other (List.mem_of_find?_eq_some search)
            (of_decide_eq_true (Bool.and_eq_true_iff.mp fits).1)]
      rw [both]
      dsimp only
      by_cases own : entry.offset = mac
      · rw [if_neg (not_not.mpr own)] at val
        rw [if_pos own, replaced_of_none val]
      · rw [if_pos own] at val
        unfold replaced
        rw [if_neg own, val, if_pos long]
    · have neither : alts.find? (fun alt => alt.offset = entry.offset &&
        alt.data.length = entry.data.length) = none := by
        refine List.find?_eq_none.mpr fun other held both => long ?_
        rw [← only other held (of_decide_eq_true (Bool.and_eq_true_iff.mp both).1)]
        exact of_decide_eq_true (Bool.and_eq_true_iff.mp both).2
      rw [neither]
      dsimp only
      by_cases own : entry.offset = mac
      · rw [if_neg (not_not.mpr own)] at val
        exact replaced_of_none val
      · rw [if_pos own] at val
        unfold replaced
        rw [val, if_neg long]

theorem addedOf_zero (mac : Nat) (extra : List Item) : addedOf mac extra 0 = none := if_pos (.inl rfl)

theorem addedOf_mac (mac : Nat) (extra : List Item) : addedOf mac extra mac = none := by
  have none_ : altSettingVal mac extra mac = [] := by
    unfold altSettingVal
    cases findItem extra mac with
    | none => rfl
    | some item => exact if_neg fun other => other rfl
  unfold addedOf
  rw [none_]
  exact if_pos (.inr rfl)

theorem Distinct.addedOf_alt (distinct : Distinct alts) {mac : Nat} {alt : Item}
    (there : alt ∈ alts) (some : 0 < alt.data.length) (other : alt.offset ≠ mac) :
    addedOf mac alts alt.offset = Option.some alt := by
  have val : altSettingVal mac alts alt.offset = alt.data := by
    unfold altSettingVal
    rw [distinct.find there]
    exact if_pos other
  unfold addedOf
  rw [val, if_neg (not_or.mpr ⟨distinct.nonzero alt there, Nat.ne_of_gt some⟩)]

theorem Distinct.addedFor_eq (distinct : Distinct alts) (mac : Nat)
    (some : ∀ alt ∈ alts, 0 < alt.data.length) (entries : List Item) :
    addedFor mac alts ((mac :: alts.map Item.offset).map fun offset =>
        if entries.any fun entry => uses mac alts entry offset then 0 else offset) =
      alts.filter (unmatched mac entries) := by
  have each : ∀ alt ∈ alts, addedOf mac alts (if entries.any fun entry =>
      uses mac alts entry alt.offset then 0 else alt.offset) =
      Option.guard (unmatched mac entries) alt := by
    intro alt there
    unfold Option.guard
    by_cases own : alt.offset = mac
    · have out : unmatched mac entries alt = false := by
        unfold unmatched
        rw [decide_eq_false (not_not.mpr own), Bool.false_and]
      rw [out, if_neg Bool.false_ne_true]
      split
      next => exact addedOf_zero mac alts
      next =>
        rw [own]
        exact addedOf_mac mac alts
    · have same : (entries.any fun entry => uses mac alts entry alt.offset) =
          entries.any fun entry => entry.offset = alt.offset &&
            alt.data.length = entry.data.length := by
        refine congrArg entries.any (funext fun entry => ?_)
        unfold uses
        rw [distinct.find there, decide_eq_false own, Bool.false_or]
        rfl
      have out : unmatched mac entries alt =
          !entries.any fun entry => entry.offset = alt.offset &&
            alt.data.length = entry.data.length := by
        unfold unmatched
        rw [decide_eq_true own, Bool.true_and]
      rw [same, out]
      cases entries.any fun entry => entry.offset = alt.offset &&
        alt.data.length = entry.data.length with
      | true =>
        rw [if_pos rfl]
        exact addedOf_zero mac alts
      | false =>
        rw [if_neg Bool.false_ne_true]
        exact distinct.addedOf_alt there (some alt there) own
  have head : addedOf mac alts (if entries.any fun entry => uses mac alts entry mac then 0
      else mac) = none := by
    split
    next => exact addedOf_zero mac alts
    next => exact addedOf_mac mac alts
  unfold addedFor
  rw [List.map_cons, List.filterMap_cons, head]
  dsimp only
  rw [List.map_map, List.filterMap_map, ← List.filterMap_eq_filter]
  exact List.filterMap_congr each

structure Image (mem : Memory) (len : Nat) (signature : List UInt8) (entries : List Item) : Prop where
  four : signature.length = 4
  length : len = configHead + (entries.map Item.size).sum
  bytes : bytesAt mem 0 len = signature ++ le16 (entries.map Item.size).sum ++ encodeAll entries
  fits : ∀ entry ∈ entries, entry.Fits
  small : (entries.map Item.size).sum < 2 ^ 16

variable {mem : Memory} {len : Nat} {signature : List UInt8} {entries : List Item}

theorem Image.parts (image : Image mem len signature entries) :
    bytesAt mem 0 4 = signature ∧ bytesAt mem 4 2 = le16 (entries.map Item.size).sum ∧
      bytesAt mem configHead (encodeAll entries).length = encodeAll entries := by
  have whole : bytesAt mem 0 (signature ++ le16 (entries.map Item.size).sum ++
      encodeAll entries).length =
      signature ++ le16 (entries.map Item.size).sum ++ encodeAll entries := by
    rw [← image.bytes, bytesAt_length]
  obtain ⟨head, body⟩ := bytesAt_eq_append whole
  obtain ⟨first, second⟩ := bytesAt_eq_append head
  rw [List.length_append, image.four, le16_length] at body
  rw [image.four] at first second
  rw [le16_length] at second
  rw [Nat.zero_add] at body second
  exact ⟨first, second, body⟩

theorem Image.of_parts (four : signature.length = 4) (first : bytesAt mem 0 4 = signature)
    (second : bytesAt mem 4 2 = le16 (entries.map Item.size).sum)
    (body : bytesAt mem configHead (entries.map Item.size).sum = encodeAll entries)
    (fits : ∀ entry ∈ entries, entry.Fits) (small : (entries.map Item.size).sum < 2 ^ 16) :
    Image mem (configHead + (entries.map Item.size).sum) signature entries := by
  refine ⟨four, rfl, ?_, fits, small⟩
  rw [bytesAt_add, Nat.zero_add, body, show configHead = 4 + 2 from rfl, bytesAt_add, first,
    Nat.zero_add, second]

theorem length_le_sizes (items : List Item) : items.length ≤ (items.map Item.size).sum := by
  induction items with
  | nil => exact Nat.le_refl 0
  | cons item rest ih =>
    rw [List.map_cons, List.sum_cons, List.length_cons, Nat.add_comm]
    exact Nat.add_le_add (Nat.le_trans (by decide) (Nat.le_add_left entryHead item.data.length)) ih

theorem filter_sizes (keep : Item → Bool) (items : List Item) :
    ((items.filter keep).map Item.size).sum ≤ (items.map Item.size).sum := by
  induction items with
  | nil => exact Nat.le_refl 0
  | cons item rest ih =>
    rw [List.filter_cons]
    split
    next =>
      rw [List.map_cons, List.sum_cons, List.map_cons, List.sum_cons]
      exact Nat.add_le_add_left ih _
    next =>
      rw [List.map_cons, List.sum_cons]
      exact Nat.le_trans ih (Nat.le_add_left _ _)

theorem BringUp.patch_image {up : BringUp} (image : Image up.mem up.len signature entries)
    (distinct : Distinct alts) (settings : ∀ alt ∈ alts, 0 < alt.data.length ∧ alt.Fits)
    (small : (entries.map Item.size).sum + (alts.map Item.size).sum < 2 ^ 16) :
    Image (up.patch alts (up.mac :: alts.map Item.offset)).1
      (up.patch alts (up.mac :: alts.map Item.offset)).2 signature
      (entries.map (patched up.mac alts) ++ alts.filter (unmatched up.mac entries)) := by
  obtain ⟨first, second, body⟩ := image.parts
  have dataLen : le16At up.mem 4 = (entries.map Item.size).sum := le16At_eq image.small second
  have walked := walkEntries_walked up.mac alts entries image.fits up.mem
    (up.mac :: alts.map Item.offset) 0
    (entries.map Item.size).sum (entries.map Item.size).sum (length_le_sizes entries)
      (Nat.zero_add _) body
  unfold patch
  dsimp only
  rw [dataLen]
  generalize walkEntries up.mac alts (entries.map Item.size).sum (entries.map Item.size).sum up.mem
    (up.mac :: alts.map Item.offset) 0 = left at walked ⊢
  obtain ⟨mem, offsets, i⟩ := left
  have ends : i = (entries.map Item.size).sum := walked.ends
  have marks := walked.marks
  rw [foldl_used] at marks
  dsimp only at marks
  have entriesSame : entries.map (patched up.mac alts) = entries.map (replaced up.mac alts) :=
    List.map_congr_left fun entry _ => (distinct.replaced_eq up.mac entry).symm
  have addedSame : addedFor up.mac alts offsets = alts.filter (unmatched up.mac entries) := by
    rw [marks]
    exact distinct.addedFor_eq up.mac (fun alt there => (settings alt there).1) entries
  have added := addSettings_added up.mac alts offsets mem i
  dsimp only
  generalize addSettings up.mac alts offsets mem i = last at added ⊢
  obtain ⟨final, last⟩ := last
  have lasts := added.ends
  have addedBytes := added.bytes
  rw [addedSame] at lasts addedBytes
  dsimp only at lasts addedBytes
  have sizes : ((entries.map (patched up.mac alts) ++ alts.filter (unmatched up.mac entries)).map
      Item.size).sum =
      (entries.map Item.size).sum + ((alts.filter (unmatched up.mac entries)).map Item.size).sum := by
    rw [List.map_append, List.sum_append, entriesSame, replaced_sizes]
  have total : last = ((entries.map (patched up.mac alts) ++
      alts.filter (unmatched up.mac entries)).map Item.size).sum := by
    rw [sizes, lasts, ends]
  have less := filter_sizes (unmatched up.mac entries) alts
  rw [Nat.add_comm last, total]
  refine Image.of_parts image.four ?_ ?_ ?_ ?_ (by rw [sizes]; omega)
  · rw [bytesAt_store_other _ _ _ (.inl (by decide)), ← first]
    refine bytesAt_congr fun k _ below => ?_
    have front : k < configHead + 0 := by
      unfold configHead
      omega
    rw [added.frame k (Nat.lt_of_lt_of_le front (Nat.add_le_add_left (Nat.zero_le _) _))]
    exact walked.frame k front
  · exact bytesAt_store final 4 (le16 _)
  · rw [bytesAt_store_other _ _ _ (.inr (by unfold configHead; rw [le16_length])), sizes, bytesAt_add]
    unfold encodeAll at addedBytes ⊢
    rw [List.flatMap_append, ← addedBytes, ends, entriesSame]
    refine congrArg (· ++ _) ?_
    have body := walked.bytes
    unfold encodeAll at body
    rw [← body]
    refine bytesAt_congr fun k _ below => added.frame k ?_
    rw [ends]
    exact below
  · intro item there
    cases List.mem_append.mp there with
    | inl old =>
      obtain ⟨entry, held, rfl⟩ := List.mem_map.mp old
      rw [← distinct.replaced_eq]
      exact ⟨by rw [replaced_offset]; exact (image.fits entry held).offset,
        by rw [replaced_length]; exact (image.fits entry held).data⟩
    | inr new => exact (settings item (List.mem_of_mem_filter new)).2

theorem patched_offset (mac : Nat) (alts : List Item) (entry : Item) :
    (patched mac alts entry).offset = entry.offset := by
  unfold patched
  split
  next => rfl
  next => split <;> rfl

def LengthsAgree (mac : Nat) (alts entries : List Item) : Prop :=
  ∀ alt ∈ alts, alt.offset ≠ mac → ∀ entry ∈ entries, entry.offset = alt.offset →
    entry.data.length = alt.data.length

theorem Distinct.offsets (distinct : Distinct alts) (mac : Nat)
    (before : (entries.map Item.offset).Nodup) :
    ((entries.map (patched mac alts) ++ alts.filter (unmatched mac entries)).map Item.offset).Nodup ↔
      LengthsAgree mac alts entries := by
  have old : (entries.map (patched mac alts)).map Item.offset = entries.map Item.offset := by
    rw [List.map_map]
    exact List.map_congr_left fun entry _ => patched_offset mac alts entry
  have new : ((alts.filter (unmatched mac entries)).map Item.offset).Nodup :=
    distinct.nodup.sublist (List.filter_sublist.map _)
  rw [List.map_append, old, List.nodup_append]
  constructor
  · rintro ⟨-, -, apart⟩ alt there other entry held same
    by_contra differ
    have out : unmatched mac entries alt = true := by
      unfold unmatched
      rw [decide_eq_true other, Bool.true_and, Bool.not_eq_true', List.any_eq_false]
      intro match_ found both
      obtain ⟨offset, long⟩ := Bool.and_eq_true_iff.mp both
      have only : match_ = entry :=
        List.inj_on_of_nodup_map before found held ((of_decide_eq_true offset).trans same.symm)
      exact differ (only ▸ (of_decide_eq_true long).symm)
    exact apart entry.offset (List.mem_map_of_mem held) alt.offset
      (List.mem_map_of_mem (List.mem_filter.mpr ⟨there, out⟩)) same
  · intro agree
    refine ⟨before, new, fun offset inOld other inNew same => ?_⟩
    obtain ⟨entry, held, rfl⟩ := List.mem_map.mp inOld
    obtain ⟨alt, kept, rfl⟩ := List.mem_map.mp inNew
    obtain ⟨there, out⟩ := List.mem_filter.mp kept
    obtain ⟨other, none_⟩ := Bool.and_eq_true_iff.mp out
    rw [Bool.not_eq_true', List.any_eq_false] at none_
    have long := agree alt there (of_decide_eq_true other) entry held same
    exact none_ entry held (by rw [decide_eq_true same, decide_eq_true long.symm]; rfl)

def configBufSize : Nat := maxOrgConfigSize + maxAltConfigSize

theorem BringUp.update_image (up : BringUp) (statics : Statics)
    (image : Image up.mem up.len signature entries) (before : (entries.map Item.offset).Nodup)
    (distinct : Distinct (itemsOf up.lines)) (own : statics.extraEntryInx = none)
    (counted : statics.altSize + ((itemsOf up.lines).map Item.size).sum ≤ maxAltConfigSize)
    (room : ((itemsOf up.lines).map Item.size).sum + 2 ≤ maxAltConfigSize)
    (fits : up.len + ((itemsOf up.lines).map Item.size).sum ≤ configBufSize) :
    let after := entries.map (patched up.mac (itemsOf up.lines)) ++
      (itemsOf up.lines).filter (unmatched up.mac entries)
    Image (up.update statics).2.1 (up.update statics).2.2 signature after ∧
      ((after.map Item.offset).Nodup ↔ LengthsAgree up.mac (itemsOf up.lines) entries) := by
  refine ⟨?_, distinct.offsets up.mac before⟩
  obtain ⟨offsets, extra⟩ := up.settings_eq statics
  have settings : ∀ alt ∈ itemsOf up.lines, 0 < alt.data.length ∧ alt.Fits := by
    intro alt there
    obtain ⟨some, data, offset⟩ := mem_itemsOf there
    exact ⟨some, offset, data⟩
  obtain ⟨all, noted⟩ := accepted_all (itemsOf up.lines) statics.altSize (fun alt there =>
    (settings alt there).1) counted
  rw [own, Option.getD_none, if_pos rfl, all] at extra
  rw [noted] at offsets
  have right : up.lengthRight = true := by
    unfold lengthRight
    rw [decide_eq_true_iff, le16At_eq image.small image.parts.2.1, image.length, Nat.add_comm]
  have small : (entries.map Item.size).sum + ((itemsOf up.lines).map Item.size).sum < 2 ^ 16 := by
    have length := image.length
    unfold configBufSize maxOrgConfigSize maxAltConfigSize at fits
    omega
  unfold update
  dsimp only
  rw [if_pos right, extra, offsets, distinct.visible room]
  exact BringUp.patch_image image distinct settings small

def someLines : List UInt8 :=
  ['c', '\n', '5', 'b', ' ', '1', ' ', '1', ' ', '7', '\n', 'c', ' ', '0', ' ', '2', ' ', '3', ' ',
    '4', '\n'].map ascii

theorem oneEntry_image (file : Option (List UInt8)) :
    Image (BringUp.oneEntry 4 file).mem (BringUp.oneEntry 4 file).len [0x55, 0xAB, 0x23,
      0x87] [⟨0x15B, [0]⟩] := by
  refine ⟨rfl, rfl, ?_, fun entry there => ?_, by decide⟩
  · change bytesAt (BringUp.oneEntry 4 none).mem 0 10 = _
    decide +kernel
  · cases List.mem_singleton.mp there
    exact ⟨by decide, by decide⟩

theorem BringUp.update_image_of_two :
    Image ((oneEntry 4 (some someLines)).update {}).2.1
      ((oneEntry 4 (some someLines)).update {}).2.2 [0x55, 0xAB, 0x23, 0x87]
        [⟨0x15B, [7]⟩, ⟨0x0C, [3, 4]⟩] ∧
      ([0x15B, 0x0C].Nodup ↔ LengthsAgree 0x3C [⟨0x15B, [7]⟩, ⟨0x0C, [3, 4]⟩] [⟨0x15B, [0]⟩]) := by
  have lines : itemsOf (oneEntry 4 (some someLines)).lines = [⟨0x15B, [7]⟩, ⟨0x0C, [3, 4]⟩] := by
    decide +kernel
  have all := BringUp.update_image (oneEntry 4 (some someLines)) {} (oneEntry_image _) (by decide)
    (by rw [lines]; exact ⟨by decide, by decide⟩) rfl (by rw [lines]; decide)
      (by rw [lines]; decide) (by rw [lines]; decide)
  rw [lines] at all
  exact all

def otherLength : List UInt8 :=
  ['c', '\n', '5', 'b', ' ', '1', ' ', '2', ' ', '7', ' ', '8', '\n'].map ascii

def addressLine : List UInt8 := ['c', '\n', '3', 'c', ' ', '0', ' ', '1', ' ', '7', '\n'].map ascii

theorem update_image_not :
    bytesAt (BringUp.oneEntry 4 none).mem 0 10 = [0x55, 0xAB, 0x23, 0x87, 4, 0, 0x5B, 0x01, 1, 0] ∧
      itemsOf (BringUp.oneEntry 4 (some otherLength)).lines = [⟨0x15B, [7, 8]⟩] ∧
      bytesAt ((BringUp.oneEntry 4 (some otherLength)).update {}).2.1 0 15 =
        [0x55, 0xAB, 0x23, 0x87, 9, 0, 0x5B, 0x01, 1, 0, 0x5B, 0x01, 2, 7, 8] ∧
      ((BringUp.oneEntry 4 (some otherLength)).update {}).2.2 = 15 ∧
      itemsOf (BringUp.oneEntry 4 (some addressLine)).lines = [⟨0x3C, [7]⟩] ∧
      bytesAt ((BringUp.oneEntry 4 (some addressLine)).update {}).2.1 0 10 =
        [0x55, 0xAB, 0x23, 0x87, 4, 0, 0x5B, 0x01, 1, 0] ∧
      ((BringUp.oneEntry 4 (some addressLine)).update {}).2.2 = 10 := by
  decide +kernel

end UnionpiTiger.Hw
