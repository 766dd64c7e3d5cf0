import Mathlib.Algebra.Order.Ring.Nat
import Mathlib.Data.List.Basic
import UnionpiTiger.Lib.Run

set_option autoImplicit false

namespace UnionpiTiger.Hw

abbrev Memory : Type := Nat → UInt8

def store (mem : Memory) (place : Nat) (bytes : List UInt8) : Memory :=
  fun k => if place ≤ k ∧ k < place + bytes.length then bytes.getD (k - place) 0 else mem k

def bytesAt (mem : Memory) (place n : Nat) : List UInt8 := (List.range n).map fun k => mem (place + k)

def le16 (value : Nat) : List UInt8 := [value.toUInt8, (value / 256).toUInt8]

def le16At (mem : Memory) (place : Nat) : Nat := (mem place).toNat + 256 * (mem (place + 1)).toNat

def maxOrgConfigSize : Nat := 0x100 * 14

def maxAltConfigSize : Nat := 512

-- sizeof(struct rtk_bt_vendor_config) and sizeof(struct rtk_bt_vendor_config_entry)
def configHead : Nat := 6

def entryHead : Nat := 3

-- A setting of the extra config file, as it stands in `extra_extry`.
structure Item where
  offset : Nat
  data : List UInt8
deriving DecidableEq

def Item.size (item : Item) : Nat := item.data.length + entryHead

def ascii (c : Char) : UInt8 := c.toNat.toUInt8

def strsep (delims : List UInt8) : List UInt8 → List (List UInt8)
  | [] => [[]]
  | c :: rest =>
    if c ∈ delims then [] :: strsep delims rest
    else
      match strsep delims rest with
      | [] => [[c]]
      | token :: tokens => (c :: token) :: tokens

def isspace (c : UInt8) : Bool := c = 32 || 9 ≤ c && c ≤ 13

def hexDigit (c : UInt8) : Option Nat :=
  if ascii '0' ≤ c ∧ c ≤ ascii '9' then some (c.toNat - 48)
  else if ascii 'a' ≤ c ∧ c ≤ ascii 'f' then some (c.toNat - 87)
  else if ascii 'A' ≤ c ∧ c ≤ ascii 'F' then some (c.toNat - 55)
  else none

def hexDigits : Nat → List UInt8 → Nat
  | value, [] => value
  | value, c :: rest =>
    match hexDigit c with
    | none => value
    | some digit => hexDigits (value * 16 + digit) rest

def ulongMax : Nat := 2 ^ 64 - 1

def strtoul (str : List UInt8) : Nat :=
  let str := str.dropWhile isspace
  let (negative, str) :=
    match str with
    | c :: rest => if c = ascii '-' then (true, rest) else if c = ascii '+' then (false, rest)
        else (false, str)
    | [] => (false, [])
  let str :=
    match str with
    | z :: x :: digit :: rest =>
      if z = ascii '0' ∧ (x = ascii 'x' ∨ x = ascii 'X') ∧
        (hexDigit digit).isSome then digit :: rest else str
    | _ => str
  let value := hexDigits 0 str
  if value > ulongMax then ulongMax else if negative then (2 ^ 64 - value) % 2 ^ 64 else value

def argv (line : List UInt8) : List (List UInt8) :=
  ((strsep [ascii ',', ascii ' ', ascii '\t'] line).filter fun word => word ≠ []).take 32

def itemOf (line : List UInt8) : Option Item :=
  match argv line with
  | low :: high :: _ :: first :: rest =>
    some
      { offset := (strtoul low ||| strtoul high * 256) % 2 ^ 16
        data := (first :: rest).map fun word => (strtoul word).toUInt8 }
  | _ => none

def comment (line : List UInt8) : Bool :=
  match line with
  | [] => true
  | c :: _ => c = ascii '#' || c = ascii '['

-- The static variables, with the buffers of `extra_extry` numbered.
structure Statics where
  altSize : Nat := 0
  extraEntryInx : Option Nat := none
  extraExtry : Nat := 0
deriving DecidableEq

-- The settings that are read in one bring-up: those in its own `extra_extry`, and their offsets.
structure Settings where
  statics : Statics
  extra : List Item := []
  offset : List Nat
deriving DecidableEq

namespace Settings

def lineProcess (s : Settings) (line : List UInt8) : Settings :=
  if comment line then s
  else if s.statics.altSize > maxAltConfigSize - 4 then s
  else
    let inx := s.statics.extraEntryInx.getD s.statics.extraExtry
    let s := { s with statics := { s.statics with extraEntryInx := some inx } }
    match itemOf line with
    | none => s
    | some item =>
      let s := { s with offset := s.offset ++ [item.offset] }
      if s.statics.altSize + item.size > maxAltConfigSize then s
      else
        { s with
          statics := { s.statics with altSize := s.statics.altSize + item.size }
          extra := if inx = s.statics.extraExtry then s.extra ++ [item] else s.extra }

def configLines (file : Option (List UInt8)) (configName : List UInt8) : List (List UInt8) :=
  match file with
  | none => []
  | some bytes =>
    if bytes = [] ∨ bytes.length > 1022 then []
    else
      match strsep [ascii '\n', ascii '\r'] ((bytes ++ [ascii '\n']).takeWhile fun c => c ≠ 0) with
      | [] => []
      | first :: rest => if first <+: configName then rest else []

end Settings

-- What the walk over a list in `extra_extry` comes to. A list that leaves no room for the offset
-- after it has what lies behind the buffer at its end.
def visible (extra behind : List Item) : List Item :=
  let all := if (extra.map Item.size).sum + 2 ≤ maxAltConfigSize then extra else extra ++ behind
  all.takeWhile fun item => item.offset ≠ 0

def findItem (extra : List Item) (offset : Nat) : Option Item :=
  extra.find? fun item => item.offset = offset

def altSettingVal (mac : Nat) (extra : List Item) (offset : Nat) : List UInt8 :=
  match findItem extra offset with
  | none => []
  | some item => if offset ≠ mac then item.data else []

def used (mac : Nat) (extra : List Item) (entryOffset entryLen : Nat) (offsets : List Nat) : List Nat :=
  offsets.map fun offset =>
    if entryOffset = offset then
      if offset = mac then 0
      else
        match findItem extra entryOffset with
        | none => offset
        | some item => if item.data.length = entryLen then 0 else offset
    else offset

def walkEntries (mac : Nat) (extra : List Item) (dataLen : Nat) :
    Nat → Memory → List Nat → Nat → Memory × List Nat × Nat
  | 0, mem, offsets, i => (mem, offsets, i)
  | fuel + 1, mem, offsets, i =>
    if i < dataLen then
      let entry := configHead + i
      let offset := le16At mem entry
      let len := (mem (entry + 2)).toNat
      let val := altSettingVal mac extra offset
      let new := if val.length = len then store mem (entry + entryHead) val else mem
      walkEntries mac extra dataLen fuel new (used mac extra offset len offsets) (i + (len + entryHead))
    else (mem, offsets, i)

def addSettings (mac : Nat) (extra : List Item) : List Nat → Memory → Nat → Memory × Nat
  | [], mem, i => (mem, i)
  | offset :: rest, mem, i =>
    if offset = 0 then addSettings mac extra rest mem i
    else
      let entry := configHead + i
      let val := altSettingVal mac extra offset
      let mem := store mem (entry + 2) [val.length.toUInt8]
      if val.length = 0 then addSettings mac extra rest mem i
      else
        let mem := store (store mem entry (le16 offset)) (entry + entryHead) val
        addSettings mac extra rest mem (i + (val.length + entryHead))

structure BringUp where
  mac : Nat
  configName : List UInt8
  mem : Memory
  len : Nat
  extraFile : Option (List UInt8)
  behind : List Item

namespace BringUp

def lines (up : BringUp) : List (List UInt8) := Settings.configLines up.extraFile up.configName

def settings (up : BringUp) (statics : Statics) : Settings :=
  up.lines.foldl Settings.lineProcess
    { statics := { statics with extraExtry := statics.extraExtry + 1 }, offset := [up.mac] }

def lengthRight (up : BringUp) : Bool := le16At up.mem 4 + configHead = up.len

def patch (up : BringUp) (extra : List Item) (offsets : List Nat) : Memory × Nat :=
  let dataLen := le16At up.mem 4
  let (mem, offsets, i) := walkEntries up.mac extra dataLen dataLen up.mem offsets 0
  let (mem, i) := addSettings up.mac extra offsets mem i
  (store mem 4 (le16 i), i + configHead)

def update (up : BringUp) (statics : Statics) : Statics × Memory × Nat :=
  let settings := up.settings statics
  if up.lengthRight then
    ({ settings.statics with extraEntryInx := none },
      up.patch (visible settings.extra up.behind) settings.offset)
  else (settings.statics, up.mem, up.len)

end BringUp

def itemsOf (lines : List (List UInt8)) : List Item :=
  lines.filterMap fun line => if comment line then none else itemOf line

def accepted : Nat → List Item → List Item
  | _, [] => []
  | size, item :: rest =>
    if size > maxAltConfigSize - 4 then accepted size rest
    else if size + item.size > maxAltConfigSize then accepted size rest
    else item :: accepted (size + item.size) rest

def noted : Nat → List Item → List Nat
  | _, [] => []
  | size, item :: rest =>
    if size > maxAltConfigSize - 4 then noted size rest
    else if size + item.size > maxAltConfigSize then item.offset :: noted size rest
    else item.offset :: noted (size + item.size) rest

theorem accepted_cons (size : Nat) (item : Item) (rest : List Item) :
    accepted size (item :: rest) =
      if size > maxAltConfigSize - 4 then accepted size rest
      else if size + item.size > maxAltConfigSize then accepted size rest
      else item :: accepted (size + item.size) rest := rfl

theorem noted_cons (size : Nat) (item : Item) (rest : List Item) :
    noted size (item :: rest) =
      if size > maxAltConfigSize - 4 then noted size rest
      else if size + item.size > maxAltConfigSize then item.offset :: noted size rest
      else item.offset :: noted (size + item.size) rest := rfl

-- What becomes of settings of given sizes: left out, noted only, or taken.
def takes : Nat → List Nat → List (Option Bool)
  | _, [] => []
  | alt, size :: rest =>
    if alt > maxAltConfigSize - 4 then none :: takes alt rest
    else if alt + size > maxAltConfigSize then some false :: takes alt rest
    else some true :: takes (alt + size) rest

theorem takes_same (items : List Item) (a b : Nat)
    (same : takes a (items.map Item.size) = takes b (items.map Item.size)) :
    accepted a items = accepted b items ∧ noted a items = noted b items := by
  induction items generalizing a b with
  | nil => exact ⟨rfl, rfl⟩
  | cons item rest ih =>
    rw [List.map_cons] at same
    unfold takes at same
    unfold accepted noted
    by_cases fullA : a > maxAltConfigSize - 4 <;> by_cases fullB : b > maxAltConfigSize - 4
    · rw [if_pos fullA, if_pos fullB] at same
      rw [if_pos fullA, if_pos fullB, if_pos fullA, if_pos fullB]
      exact ih a b (List.cons.inj same).2
    · rw [if_pos fullA, if_neg fullB] at same
      split at same <;> cases (List.cons.inj same).1
    · rw [if_neg fullA, if_pos fullB] at same
      split at same <;> cases (List.cons.inj same).1
    · rw [if_neg fullA, if_neg fullB] at same
      rw [if_neg fullA, if_neg fullB, if_neg fullA, if_neg fullB]
      by_cases overA : a + item.size > maxAltConfigSize <;>
        by_cases overB : b + item.size > maxAltConfigSize
      · rw [if_pos overA, if_pos overB] at same
        rw [if_pos overA, if_pos overB, if_pos overA, if_pos overB]
        have tails := ih a b (List.cons.inj same).2
        exact ⟨tails.1, congrArg (item.offset :: ·) tails.2⟩
      · rw [if_pos overA, if_neg overB] at same
        cases (List.cons.inj same).1
      · rw [if_neg overA, if_pos overB] at same
        cases (List.cons.inj same).1
      · rw [if_neg overA, if_neg overB] at same
        rw [if_neg overA, if_neg overB, if_neg overA, if_neg overB]
        have tails := ih _ _ (List.cons.inj same).2
        exact ⟨congrArg (item :: ·) tails.1, congrArg (item.offset :: ·) tails.2⟩

theorem itemOf_data {line : List UInt8} {item : Item} (found : itemOf line = some item) :
    0 < item.data.length ∧ item.data.length < 256 ∧ item.offset < 2 ^ 16 := by
  unfold itemOf at found
  split at found
  next low high len first rest words =>
    cases found
    have most : (argv line).length ≤ 32 := List.length_take_le 32 _
    rw [words] at most
    simp only [List.length_cons, List.length_map] at most ⊢
    exact ⟨by omega, by omega, Nat.mod_lt _ (Nat.two_pow_pos 16)⟩
  next => cases found

theorem mem_itemsOf {lines : List (List UInt8)} {item : Item} (there : item ∈ itemsOf lines) :
    0 < item.data.length ∧ item.data.length < 256 ∧ item.offset < 2 ^ 16 := by
  obtain ⟨line, -, found⟩ := List.mem_filterMap.mp there
  split at found
  next => cases found
  next => exact itemOf_data found

theorem accepted_all (items : List Item) (size : Nat) (some : ∀ item ∈ items, 0 < item.data.length)
    (fits : size + (items.map Item.size).sum ≤ maxAltConfigSize) :
    accepted size items = items ∧ noted size items = items.map Item.offset := by
  induction items generalizing size with
  | nil => exact ⟨rfl, rfl⟩
  | cons item rest ih =>
    rw [List.map_cons, List.sum_cons] at fits
    have large : 4 ≤ item.size := Nat.add_le_add_right (some item List.mem_cons_self) 3
    have room : ¬ size > maxAltConfigSize - 4 := by
      unfold maxAltConfigSize at fits ⊢
      omega
    have taken : ¬ size + item.size > maxAltConfigSize := by omega
    unfold accepted noted
    rw [if_neg room, if_neg room, if_neg taken, if_neg taken]
    have tails := ih (size + item.size) (fun other there =>
      some other (List.mem_cons_of_mem _ there)) (by omega)
    exact ⟨congrArg (item :: ·) tails.1, congrArg (item.offset :: ·) tails.2⟩

namespace Settings

variable {s : Settings}

def here (s : Settings) :
    Bool := s.statics.extraEntryInx.getD s.statics.extraExtry = s.statics.extraExtry

theorem lineProcess_kept (s : Settings) (line : List UInt8) :
    (s.lineProcess line).here = s.here ∧ (s.lineProcess line).statics.extraExtry =
      s.statics.extraExtry := by
  unfold lineProcess
  split
  next => exact ⟨rfl, rfl⟩
  next =>
    split
    next => exact ⟨rfl, rfl⟩
    next =>
      dsimp only
      split
      next => exact ⟨rfl, rfl⟩
      next =>
        split
        next => exact ⟨rfl, rfl⟩
        next => exact ⟨rfl, rfl⟩

theorem lines_processed (lines : List (List UInt8)) (s : Settings) :
    (lines.foldl lineProcess s).offset = s.offset ++ noted s.statics.altSize (itemsOf lines) ∧
      (lines.foldl lineProcess s).extra =
        s.extra ++ if s.here then accepted s.statics.altSize (itemsOf lines) else [] := by
  induction lines generalizing s with
  | nil =>
    refine ⟨(List.append_nil _).symm, ?_⟩
    change s.extra = s.extra ++ if s.here then [] else []
    rw [ite_self, List.append_nil]
  | cons line rest ih =>
    rw [List.foldl_cons, (ih _).1, (ih _).2, (lineProcess_kept s line).1]
    have items : itemsOf (line :: rest) = (if comment line then none else itemOf line).toList ++
        itemsOf rest := by
      unfold itemsOf
      rw [List.filterMap_cons]
      cases if comment line then none else itemOf line <;> rfl
    rw [items]
    unfold lineProcess here
    by_cases skipped : comment line = true
    · rw [if_pos skipped, if_pos skipped]
      exact ⟨rfl, rfl⟩
    · rw [if_neg skipped, if_neg skipped]
      cases found : itemOf line with
      | none =>
        split
        next => exact ⟨rfl, rfl⟩
        next => exact ⟨rfl, rfl⟩
      | some item =>
        rw [Option.toList_some, List.singleton_append]
        rw [noted_cons, accepted_cons]
        by_cases full : s.statics.altSize > maxAltConfigSize - 4
        · rw [if_pos full, if_pos full, if_pos full]
          exact ⟨rfl, rfl⟩
        · rw [if_neg full, if_neg full, if_neg full]
          dsimp only
          by_cases exceeds : s.statics.altSize + item.size > maxAltConfigSize
          · rw [if_pos exceeds, if_pos exceeds, if_pos exceeds]
            exact ⟨List.append_assoc _ _ _, rfl⟩
          · rw [if_neg exceeds, if_neg exceeds, if_neg exceeds]
            refine ⟨List.append_assoc _ _ _, ?_⟩
            dsimp only
            split
            next own => rw [if_pos (decide_eq_true own), if_pos (decide_eq_true own),
              List.append_assoc]; rfl
            next other =>
              rw [if_neg (by rw [decide_eq_true_iff]; exact other),
                if_neg (by rw [decide_eq_true_iff]; exact other)]

end Settings

theorem BringUp.settings_eq (up : BringUp) (statics : Statics) :
    (up.settings statics).offset = up.mac :: noted statics.altSize (itemsOf up.lines) ∧
      (up.settings statics).extra =
        if statics.extraEntryInx.getD (statics.extraExtry + 1) = statics.extraExtry + 1
        then accepted statics.altSize (itemsOf up.lines) else [] := by
  obtain ⟨offset, extra⟩ := Settings.lines_processed up.lines
    { statics := { statics with extraExtry := statics.extraExtry + 1 }, offset := [up.mac] }
  refine ⟨offset, extra.trans ?_⟩
  rw [List.nil_append]
  exact if_congr decide_eq_true_iff rfl rfl

end UnionpiTiger.Hw

namespace UnionpiTiger.Hw

namespace BringUp

variable {up : BringUp} {statics : Statics}

def Unspoilt (statics : Statics) (up : BringUp) : Prop :=
  itemsOf up.lines ≠ [] → statics.extraEntryInx = none ∧
    takes statics.altSize ((itemsOf up.lines).map Item.size) =
      takes 0 ((itemsOf up.lines).map Item.size)

instance (statics : Statics) (up : BringUp) : Decidable (Unspoilt statics up) :=
  inferInstanceAs (Decidable (_ → _))

def AsFresh (statics : Statics) (up : BringUp) : Prop := (up.update statics).2 = (up.update {}).2

def next (statics : Statics) (up : BringUp) : Statics := (up.update statics).1

theorem Unspoilt.settings (unspoilt : Unspoilt statics up) :
    (up.settings statics).offset = (up.settings {}).offset ∧
      (up.settings statics).extra = (up.settings {}).extra := by
  rw [(up.settings_eq statics).1, (up.settings_eq statics).2, (up.settings_eq {}).1,
    (up.settings_eq {}).2]
  by_cases none : itemsOf up.lines = []
  · rw [none]
    refine ⟨rfl, ?_⟩
    unfold accepted
    rw [ite_self, ite_self]
  · obtain ⟨inx, sizes⟩ := unspoilt none
    obtain ⟨list, offsets⟩ := takes_same (itemsOf up.lines) statics.altSize 0 sizes
    rw [inx, list, offsets, Option.getD_none, Option.getD_none, if_pos rfl, if_pos rfl]
    exact ⟨rfl, rfl⟩

theorem Unspoilt.asFresh (unspoilt : Unspoilt statics up) : AsFresh statics up := by
  obtain ⟨offset, extra⟩ := unspoilt.settings
  unfold AsFresh update
  dsimp only
  rw [offset, extra]
  split <;> rfl

theorem restarts_as_fresh (ups : List BringUp) (unspoilt : Lib.Along next Unspoilt {} ups) :
    Lib.Along next AsFresh {} ups :=
  Lib.Along.of_invariant (fun _ => True) (fun _ _ _ _ => trivial) (fun _ _ _ unspoilt =>
    unspoilt.asFresh) trivial unspoilt

def oneEntry (dataLen : UInt8) (extraFile : Option (List UInt8)) : BringUp where
  mac := 0x3C
  configName := [ascii 'c']
  mem := store (fun _ => 0) 0 [0x55, 0xAB, 0x23, 0x87, dataLen, 0, 0x5B, 0x01, 1, 0]
  len := 10
  extraFile := extraFile
  behind := []

def oneSetting : List UInt8 := ['c', '\n', '5', 'b', ' ', '1', ' ', '1', ' ', '7', '\n'].map ascii

def manySettings : List UInt8 :=
  (['c', '\n'] ++ (List.replicate 15
    (['5', 'b', ' ', '1', ' ', '1', 'd'] ++ (List.replicate 29 [' ', '1']).flatten ++
      ['\n'])).flatten).map ascii

theorem restarts_as_fresh_of_two :
    Lib.Along next AsFresh {} [oneEntry 4 (some oneSetting), oneEntry 5 none,
      oneEntry 4 (some oneSetting)] :=
  restarts_as_fresh _ (by decide +kernel)

theorem restarts_spoilt :
    bytesAt ((oneEntry 4 (some oneSetting)).update {}).2.1 0 10 =
      [0x55, 0xAB, 0x23, 0x87, 4, 0, 0x5B, 0x01, 1, 7] ∧
      bytesAt ((oneEntry 4 (some oneSetting)).update (next {} (oneEntry 5 (some oneSetting)))).2.1 0
        10 =
        [0x55, 0xAB, 0x23, 0x87, 4, 0, 0x5B, 0x01, 1, 0] ∧
      bytesAt ((oneEntry 4 (some oneSetting)).update
        (Lib.run next {} [oneEntry 4 (some manySettings), oneEntry 4 (some manySettings)])).2.1 0 10 =
          [0x55, 0xAB, 0x23, 0x87, 4, 0, 0x5B, 0x01, 1, 0] := by
  decide +kernel

end BringUp

end UnionpiTiger.Hw
