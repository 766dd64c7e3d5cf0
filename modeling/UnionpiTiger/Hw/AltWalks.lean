import UnionpiTiger.Hw.AltBytes

set_option autoImplicit false

namespace UnionpiTiger.Hw

def entryAt (bytes : List UInt8) (ptr : Nat) : Option Item :=
  match bytes.drop ptr with
  | low :: high :: len :: rest =>
    if len.toNat ≤ rest.length then some ⟨low.toNat + 256 * high.toNat, rest.take len.toNat⟩ else none
  | _ => none

def altWalk (bytes : List UInt8) (offset : Nat) : Nat → Nat → Option (Option Item)
  | 0, _ => none
  | fuel + 1, ptr =>
    match bytes.drop ptr with
    | low :: high :: _ =>
      if low.toNat + 256 * high.toNat = 0 then some none
      else
        (entryAt bytes ptr).bind fun entry =>
          if entry.offset = offset then some (some entry)
            else altWalk bytes offset fuel (ptr + entry.size)
    | _ => none

def altFind (bytes : List UInt8) (offset : Nat) : Option (Option Item) :=
  altWalk bytes offset (bytes.length + 1) 0

def settingValIn (mac : Nat) (bytes : List UInt8) (offset : Nat) : Option (List UInt8) :=
  (altFind bytes offset).map fun found =>
    match found with
    | none => []
    | some item => if offset ≠ mac then item.data else []

def usedIn (mac : Nat) (bytes : List UInt8) (entryOffset entryLen : Nat) : List Nat → Option (List Nat)
  | [] => some []
  | offset :: offsets => do
    let kept ←
      if entryOffset = offset then
        if offset = mac then some 0
        else (altFind bytes entryOffset).map fun found =>
          match found with
          | none => offset
          | some item => if item.data.length = entryLen then 0 else offset
      else some offset
    (usedIn mac bytes entryOffset entryLen offsets).map (kept :: ·)

def walkEntriesIn (mac : Nat) (bytes : List UInt8) (dataLen : Nat) :
    Nat → Memory → List Nat → Nat → Option (Memory × List Nat × Nat)
  | 0, mem, offsets, i => some (mem, offsets, i)
  | fuel + 1, mem, offsets, i =>
    if i < dataLen then do
      let entry := configHead + i
      let offset := le16At mem entry
      let len := (mem (entry + 2)).toNat
      let offsets ← usedIn mac bytes offset len offsets
      let val ← settingValIn mac bytes offset
      let new := if val.length = len then store mem (entry + entryHead) val else mem
      walkEntriesIn mac bytes dataLen fuel new offsets (i + (len + entryHead))
    else some (mem, offsets, i)

def addSettingsIn (mac : Nat) (bytes : List UInt8) : List Nat → Memory → Nat → Option (Memory × Nat)
  | [], mem, i => some (mem, i)
  | offset :: rest, mem, i =>
    if offset = 0 then addSettingsIn mac bytes rest mem i
    else do
      let entry := configHead + i
      let val ← settingValIn mac bytes offset
      let mem := store mem (entry + 2) [val.length.toUInt8]
      if val.length = 0 then addSettingsIn mac bytes rest mem i
      else
        let mem := store (store mem entry (le16 offset)) (entry + entryHead) val
        addSettingsIn mac bytes rest mem (i + (val.length + entryHead))

def listed (extra : List Item) : List Item := extra.takeWhile fun item => item.offset ≠ 0

def Stops (extra : List Item) (offset : Nat) : Prop :=
  (extra.map Item.size).sum + 2 ≤ maxAltConfigSize ∨ ∃ item ∈ extra, item.offset = 0 ∨
    item.offset = offset

instance (extra : List Item) (offset : Nat) : Decidable (Stops extra offset) :=
  inferInstanceAs (Decidable (_ ∨ ∃ item ∈ extra, item.offset = 0 ∨ item.offset = offset))

section Walks

variable {bytes rest : List UInt8} {item : Item} {extra : List Item} {offset mac ptr n fuel : Nat}

theorem encode_eq (item : Item) :
    item.encode = item.offset.toUInt8 :: (item.offset / 256).toUInt8 :: item.data.length.toUInt8 ::
      item.data := by
  simp [Item.encode, le16]

theorem Item.Fits.head (fits : item.Fits) :
    item.offset.toUInt8.toNat + 256 * (item.offset / 256).toUInt8.toNat = item.offset ∧
      item.data.length.toUInt8.toNat = item.data.length := by
  have offset := fits.offset
  have data := fits.data
  simp only [Nat.toUInt8_eq, UInt8.toNat_ofNat']
  omega

theorem entryAt_encode (fits : item.Fits) (there : bytes.drop ptr = item.encode ++ rest) :
    entryAt bytes ptr = some item := by
  obtain ⟨offset, length⟩ := fits.head
  rw [encode_eq] at there
  simp only [entryAt, there, List.cons_append, offset, length]
  simp

theorem altWalk_eq (todo : List Item) (fits : ∀ item ∈ todo, item.Fits) (enough : todo.length < fuel)
    (there : bytes.drop ptr = encodeAll todo ++ List.replicate n 0) :
    altWalk bytes offset fuel ptr =
      match todo.find? fun item => item.offset = 0 ∨ item.offset = offset with
      | some item => some (if item.offset = 0 then none else some item)
      | none => if 2 ≤ n then some none else none := by
  induction todo generalizing fuel ptr with
  | nil =>
    cases fuel with
    | zero => simp at enough
    | succ fuel =>
      match n with
      | 0 => simp [altWalk, there, encodeAll]
      | 1 => simp [altWalk, there, encodeAll]
      | n + 2 => simp [altWalk, there, encodeAll, List.replicate_succ]
  | cons item rest ih =>
    have fit := fits item List.mem_cons_self
    obtain ⟨offset_, -⟩ := fit.head
    rw [encodeAll_cons, List.append_assoc] at there
    have entry := entryAt_encode fit there
    cases fuel with
    | zero => simp at enough
    | succ fuel =>
      have next : bytes.drop (ptr + item.size) = encodeAll rest ++ List.replicate n 0 := by
        rw [← List.drop_drop, there, ← item.encode_length, List.drop_left]
      have tail := ih (fun other member => fits other (List.mem_cons_of_mem _ member))
        (by simpa using enough) next
      rw [encode_eq] at there
      simp only [altWalk, there, List.cons_append, offset_, entry, Option.bind_some, tail]
      by_cases zero : item.offset = 0
      · simp [zero]
      · by_cases same : item.offset = offset
        · subst same
          simp [zero]
        · simp [zero, same]

theorem findItem_listed (extra : List Item) (offset : Nat) : findItem (listed extra) offset =
    (extra.find? fun item => item.offset = 0 ∨ item.offset = offset).bind fun item =>
      if item.offset = 0 then none else some item := by
  induction extra with
  | nil => rfl
  | cons item rest ih =>
    by_cases zero : item.offset = 0
    · simp [listed, findItem, zero]
    · by_cases same : item.offset = offset
      · subst same
        simp [listed, findItem, zero]
      · simp only [listed, findItem] at ih
        simp only [listed, findItem, List.takeWhile_cons, List.find?_cons, ne_eq, zero,
          not_false_eq_true, decide_true, if_true, same, decide_false, or_self, ih]

theorem length_items (extra : List Item) : 3 * extra.length ≤ (extra.map Item.size).sum := by
  induction extra with
  | nil => simp
  | cons item rest ih =>
    simp only [List.length_cons, List.map_cons, List.sum_cons, Item.size, entryHead]
    omega

structure AltList (bytes : List UInt8) (extra : List Item) : Prop where
  bytes : bytes = encodeAll extra ++ List.replicate (maxAltConfigSize - (extra.map Item.size).sum) 0
  small : (extra.map Item.size).sum ≤ maxAltConfigSize
  fits : ∀ item ∈ extra, item.Fits

theorem AltList.find (list : AltList bytes extra) (offset : Nat) :
    altFind bytes offset = if Stops extra offset then some (findItem (listed extra) offset)
      else none := by
  have count := length_items extra
  have small := list.small
  have length : bytes.length = maxAltConfigSize := by
    rw [list.bytes, List.length_append, AltBytes.length_encodeAll, List.length_replicate]
    omega
  have walk := (@altWalk_eq _ offset _ _ (bytes.length + 1)) extra list.fits (by omega)
    (List.drop_zero.trans list.bytes)
  rw [altFind, walk, findItem_listed]
  cases found : extra.find? fun item => item.offset = 0 ∨ item.offset = offset with
  | none =>
    have absent : ¬∃ item ∈ extra, item.offset = 0 ∨ item.offset = offset := by simpa using found
    simp only [Stops, absent, or_false]
    exact if_congr (by omega) rfl rfl
  | some item =>
    have there := List.mem_of_find?_eq_some found
    have is := List.find?_some found
    have stops : Stops extra offset := .inr ⟨item, there, by simpa using is⟩
    simp [stops]

theorem AltList.settingVal (list : AltList bytes extra) (mac offset : Nat) :
    settingValIn mac bytes offset = if Stops extra offset
      then some (altSettingVal mac (listed extra) offset) else none := by
  unfold settingValIn altSettingVal
  rw [list.find]
  split_ifs <;> rfl

theorem AltList.used (list : AltList bytes extra) (mac entryLen : Nat) {entryOffset : Nat}
    (stops : Stops extra entryOffset) (offsets : List Nat) :
    usedIn mac bytes entryOffset entryLen offsets =
      some (used mac (listed extra) entryOffset entryLen offsets) := by
  induction offsets with
  | nil => rfl
  | cons offset offsets ih =>
    simp only [usedIn, ih, list.find, stops, if_true, Hw.used, List.map_cons]
    split_ifs <;> rfl

def entriesFrom (mem : Memory) (dataLen : Nat) : Nat → Nat → List (Nat × Item)
  | 0, _ => []
  | fuel + 1, i =>
    if i < dataLen then
      let entry := configHead + i
      let len := (mem (entry + 2)).toNat
      (i, ⟨le16At mem entry, bytesAt mem (entry + entryHead) len⟩) ::
        entriesFrom mem dataLen fuel (i + (len + entryHead))
    else []

variable {mem mem' : Memory} {dataLen i : Nat}

theorem entriesFrom_congr (same : ∀ k, configHead + i ≤ k → mem' k = mem k) :
    entriesFrom mem' dataLen fuel i = entriesFrom mem dataLen fuel i := by
  induction fuel generalizing i with
  | zero => rfl
  | succ fuel ih =>
    have offset : le16At mem' (configHead + i) = le16At mem (configHead + i) := by
      simp only [le16At, same _ (Nat.le_refl _), same (configHead + i + 1) (by omega)]
    have len := same (configHead + i + 2) (by omega)
    have data := (@bytesAt_congr _ _ (configHead + i + entryHead))
      (n := (mem (configHead + i + 2)).toNat) fun k from_ _ => same k (by omega)
    have rest := ih (i := i + ((mem (configHead + i + 2)).toNat + entryHead)) fun k from_ =>
      same k (by omega)
    simp only [entriesFrom, offset, len, data, rest]

theorem entriesFrom_store (val : List UInt8) (mem : Memory) (dataLen fuel i : Nat) (len : Nat) :
    entriesFrom (if val.length = len then store mem (configHead + i + entryHead) val
      else mem) dataLen fuel (i + (len + entryHead)) =
      entriesFrom mem dataLen fuel (i + (len + entryHead)) := by
  split_ifs with same
  · exact entriesFrom_congr fun k from_ => store_other _ _ _ (.inr (by omega))
  · rfl

theorem walkEntries_entries (mac : Nat) (extra : List Item) (dataLen fuel : Nat) (mem : Memory)
    (offsets : List Nat) (i : Nat) :
    (walkEntries mac extra dataLen fuel mem offsets i).2 =
      (((entriesFrom mem dataLen fuel i).map Prod.snd).foldl
          (fun offsets entry => used mac extra entry.offset entry.data.length offsets) offsets,
        i + (((entriesFrom mem dataLen fuel i).map Prod.snd).map Item.size).sum) := by
  induction fuel generalizing mem offsets i with
  | zero => simp [walkEntries, entriesFrom]
  | succ fuel ih =>
    unfold walkEntries entriesFrom
    by_cases more : i < dataLen
    · simp only [more, if_true, ih, entriesFrom_store, List.map_cons, List.foldl_cons,
        List.sum_cons, bytesAt_length, Item.size]
      simp only [Nat.add_assoc]
    · simp [more]

theorem AltList.walkEntries (list : AltList bytes extra) (mac dataLen fuel : Nat) (mem : Memory)
    (offsets : List Nat) (i : Nat) :
    walkEntriesIn mac bytes dataLen fuel mem offsets i =
      if ∀ entry ∈ entriesFrom mem dataLen fuel i, Stops extra entry.2.offset
      then some (Hw.walkEntries mac (listed extra) dataLen fuel mem offsets i) else none := by
  induction fuel generalizing mem offsets i with
  | zero => simp [walkEntriesIn, Hw.walkEntries, entriesFrom]
  | succ fuel ih =>
    unfold walkEntriesIn Hw.walkEntries entriesFrom
    by_cases more : i < dataLen
    · simp only [more, if_true, List.forall_mem_cons, list.settingVal]
      by_cases stops : Stops extra (le16At mem (configHead + i))
      · simp only [stops, list.used mac _ stops, if_true, true_and, Option.bind_eq_bind,
          Option.bind_some, ih, entriesFrom_store]
      · simp only [stops, if_false, false_and, Option.bind_eq_bind, Option.bind_none,
          Option.bind_fun_none]
    · simp [more]

theorem AltList.addSettings (list : AltList bytes extra) (mac : Nat) (offsets : List Nat)
    (mem : Memory) (i : Nat) :
    addSettingsIn mac bytes offsets mem i =
      if ∀ offset ∈ offsets, offset ≠ 0 → Stops extra offset
      then some (Hw.addSettings mac (listed extra) offsets mem i) else none := by
  induction offsets generalizing mem i with
  | nil => simp [addSettingsIn, Hw.addSettings]
  | cons offset rest ih =>
    unfold addSettingsIn Hw.addSettings
    by_cases zero : offset = 0
    · simp [zero, ih]
    · simp only [zero, if_false, list.settingVal, List.forall_mem_cons, ne_eq,
        not_false_eq_true, true_imp_iff]
      by_cases stops : Stops extra offset
      · simp only [stops, if_true, true_and, Option.bind_eq_bind, Option.bind_some, ih]
        split_ifs <;> rfl
      · simp [stops]

end Walks

end UnionpiTiger.Hw
