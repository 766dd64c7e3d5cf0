import UnionpiTiger.Camera.Uvc
import UnionpiTiger.Lib.Stores

set_option autoImplicit false

namespace UnionpiTiger.Camera.Received

open Lib

def strlen (text : Text) : Option Nat :=
  let length := (text.takeWhile fun c => c ≠ nul).length
  if length < text.length then some length else none

def usbValue (key line : Text) : Option Text :=
  if line.length < key.length then none else v4l2GetUsbValue key line

def field (value key line : Text) : Text := if value = [] then (usbValue key line).getD [] else value

def fields (usb : UsbString) (line : Text) : UsbString :=
  { action := field usb.action "ACTION=".toList line
    subsystem := field usb.subsystem "SUBSYSTEM=".toList line
    devnode := field usb.devnode "DEVNAME=".toList line }

def v4l2GetUsbString (behind : Nat) (left : Text) (usb : UsbString) : Option UsbString :=
  match strlen (left ++ List.replicate behind nul) with
  | none => none
  | some lineLen =>
    if lineLen < left.length ∧ 0 < lineLen then
      v4l2GetUsbString behind (left.drop (lineLen + 1)) (fields usb (left.take lineLen))
    else some usb
termination_by left.length
decreasing_by
  rw [List.length_drop]
  omega

section Purpose

def lines (msg : Text) : List Text := (msg.splitOn nul).takeWhile fun line => line ≠ []

def ended (msg : Text) : List Text := (msg.splitOn nul).dropLast.takeWhile fun line => line ≠ []

def beginning (key : Text) (lines : List Text) : Text :=
  ((lines.find? fun line => key.isPrefixOf line).map fun line => line.drop key.length).getD []

def carried (key : Text) (lines : List Text) : Text :=
  (lines.findSome? fun line => (v4l2GetUsbValue key line).filter fun text => text ≠ []).getD []

def said (msg : Text) : UsbString :=
  { action := beginning "ACTION=".toList (lines msg)
    subsystem := beginning "SUBSYSTEM=".toList (lines msg)
    devnode := beginning "DEVNAME=".toList (lines msg) }

def Stops (msg : Text) : Prop := [] ∈ (msg.splitOn nul).dropLast

instance (msg : Text) : Decidable (Stops msg) := inferInstanceAs (Decidable (_ ∈ _))

def Clear (key msg : Text) : Prop := carried key (ended msg) = beginning key (lines msg)

end Purpose

section Loop

variable {behind : Nat} {line rest msg key value : Text} {usb : UsbString}

theorem takeWhile_plain (plain : nul ∉ line) : line.takeWhile (fun c => c ≠ nul) = line :=
  List.takeWhile_eq_self_iff.mpr fun c member => by
    simpa using fun same : c = nul => plain (same ▸ member)

theorem takeWhile_line (plain : nul ∉ line) (rest : Text) :
    (line ++ nul :: rest).takeWhile (fun c => c ≠ nul) = line := by
  have before : ∀ c ∈ line, (decide (c ≠ nul)) = true := fun c member =>
    by simpa using fun same : c = nul => plain (same ▸ member)
  rw [List.takeWhile_append_of_pos before]
  simp

theorem strlen_line (plain : nul ∉ line) (rest : Text) :
    strlen (line ++ nul :: rest) = some line.length := by
  rw [strlen, takeWhile_line plain]
  simp

theorem strlen_last (plain : nul ∉ msg) (behind : Nat) :
    strlen (msg ++ List.replicate behind nul) = if 0 < behind then some msg.length else none := by
  cases behind with
  | zero =>
    rw [List.replicate_zero, List.append_nil, strlen, takeWhile_plain plain]
    simp
  | succ behind =>
    rw [List.replicate_succ, strlen_line plain]
    simp

theorem usbValue_eq (key line : Text) : usbValue key line = v4l2GetUsbValue key line := by
  have short (line : Text) (less : line.length < key.length) : v4l2GetUsbValue key line = none := by
    induction line with
    | nil => rfl
    | cons c rest ih =>
      have apart : ¬key.isPrefixOf (c :: rest) = true := fun starts =>
        absurd (List.isPrefixOf_iff_prefix.mp starts).length_le (by omega)
      rw [v4l2GetUsbValue, if_neg apart, ih (by simp only [List.length_cons] at less; omega)]
  unfold usbValue
  split_ifs with less
  · rw [short line less]
  · rfl

theorem plain_or_line (msg : Text) :
    nul ∉ msg ∨ ∃ line rest, msg = line ++ nul :: rest ∧ nul ∉ line := by
  induction msg with
  | nil => simp
  | cons c msg ih =>
    by_cases zero : c = nul
    · exact .inr ⟨[], msg, by simp [zero], by simp⟩
    · obtain plain | ⟨line, rest, rfl, plain⟩ := ih
      · exact .inl (by simp [Ne.symm zero, plain])
      · exact .inr ⟨c :: line, rest, rfl, by simp [Ne.symm zero, plain]⟩

theorem dropLast_line (plain : nul ∉ line) (rest : Text) :
    ((line ++ nul :: rest).splitOn nul).dropLast = line :: (rest.splitOn nul).dropLast := by
  rw [List.splitOn_append_cons_self_of_not_mem plain,
    List.dropLast_cons_of_ne_nil (List.splitOn_ne_nil nul rest)]

theorem dropLast_plain (plain : nul ∉ msg) : (msg.splitOn nul).dropLast = [] := by
  rw [List.splitOn_eq_singleton plain]
  rfl

theorem v4l2GetUsbString_eq (behind : Nat) (left : Text) (usb : UsbString) :
    v4l2GetUsbString behind left usb = if 0 < behind ∨
      Stops left then some ((ended left).foldl fields usb) else none := by
  induction size : left.length using Nat.strong_induction_on generalizing left usb with
  | _ n ih =>
    subst size
    rw [v4l2GetUsbString]
    obtain plain | ⟨line, rest, rfl, plain⟩ := plain_or_line left
    · have stops : ¬Stops left := by simp [Stops, dropLast_plain plain]
      have none_ : ended left = [] := by simp [ended, dropLast_plain plain]
      rw [strlen_last plain]
      by_cases more : 0 < behind <;> simp [more, stops, none_]
    · rw [List.append_assoc, List.cons_append, strlen_line plain]
      by_cases empty : line = []
      · have stops : Stops (line ++ nul :: rest) := by
          rw [Stops, dropLast_line plain, empty]
          exact List.mem_cons_self
        have none_ : ended (line ++ nul :: rest) = [] := by
          rw [ended, dropLast_line plain, empty]
          rfl
        rw [if_pos (Or.inr stops), none_]
        simp [empty]
      · have positive : 0 < line.length := List.length_pos_iff.mpr empty
        have inside : line.length < (line ++ nul :: rest).length := by simp
        have after : (line ++ nul :: rest).drop (line.length + 1) = rest := by simp
        have first : (line ++ nul :: rest).take line.length = line := by simp
        have next := ih rest.length (by simp; omega) rest (fields usb line) rfl
        have stops : Stops (line ++ nul :: rest) ↔ Stops rest := by
          simp [Stops, dropLast_line plain, Ne.symm empty]
        have ended_ : ended (line ++ nul :: rest) = line :: ended rest := by
          simp [ended, dropLast_line plain, empty]
        simp only [inside, positive, and_self, if_true, after, first, next, stops, ended_,
          List.foldl_cons]

end Loop

section Fields

theorem foldl_field (key value : Text) (lines : List Text) :
    lines.foldl (fun value line => field value key line) value = if value = []
      then carried key lines else value := by
  induction lines generalizing value with
  | nil => simp [carried]
  | cons line rest ih =>
    rw [List.foldl_cons, ih]
    by_cases empty : value = []
    · cases found : v4l2GetUsbValue key line with
      | none => simp [field, empty, usbValue_eq, found, carried]
      | some text =>
        by_cases some_ : text = [] <;>
          simp [field, empty, usbValue_eq, found, carried, some_, Option.filter]
    · simp [field, empty]

theorem foldl_fields (usb : UsbString) (lines : List Text) : lines.foldl fields usb =
    { action := lines.foldl (fun value line => field value "ACTION=".toList line) usb.action
      subsystem := lines.foldl (fun value line => field value "SUBSYSTEM=".toList line) usb.subsystem
      devnode := lines.foldl (fun value line => field value "DEVNAME=".toList line) usb.devnode } := by
  induction lines generalizing usb with
  | nil => rfl
  | cons line rest ih => exact ih (fields usb line)

theorem fields_eq (usb : UsbString) (line : Text) : fields usb line = usbLine usb line := by
  simp only [fields, usbLine, field, usbField, usbValue_eq]

theorem v4l2GetUsbString_lines (behind : Nat) (msg : Text) (usb : UsbString)
    (readable : 0 < behind ∨ Stops msg) :
    v4l2GetUsbString behind msg usb =
      some (Camera.v4l2GetUsbString usb (msg.splitOn nul).dropLast) := by
  have walk (lines : List Text) : (lines.takeWhile fun line => line ≠ []).foldl fields usb =
      Camera.v4l2GetUsbString usb lines := by
    induction lines generalizing usb with
    | nil => rfl
    | cons line rest ih =>
      by_cases empty : line = []
      · simp [empty, Camera.v4l2GetUsbString]
      · rw [List.takeWhile_cons_of_pos (by simpa using empty), List.foldl_cons, ih, fields_eq,
          Camera.v4l2GetUsbString, if_neg empty]
  rw [v4l2GetUsbString_eq, if_pos readable, ended, walk]

end Fields

theorem v4l2GetUsbString_fields (behind : Nat) (msg : Text) :
    v4l2GetUsbString behind msg {} = if 0 < behind ∨ Stops msg then
      some {
        action := carried "ACTION=".toList (ended msg)
        subsystem := carried "SUBSYSTEM=".toList (ended msg)
        devnode := carried "DEVNAME=".toList (ended msg) }
    else none := by
  rw [v4l2GetUsbString_eq, foldl_fields]
  simp only [foldl_field, if_true]

def Parses (behind : Nat) (msg : Text) : Prop := v4l2GetUsbString behind msg {} = some (said msg)

theorem parses_iff (behind : Nat) (msg : Text) : Parses behind msg ↔
    (0 < behind ∨ Stops msg) ∧ Clear "ACTION=".toList msg ∧ Clear "SUBSYSTEM=".toList msg ∧ Clear "DEVNAME=".toList msg := by
  rw [Parses, v4l2GetUsbString_fields]
  by_cases readable : 0 < behind ∨ Stops msg <;> simp [readable, said, Clear]

def contains : Text := "OLD_ACTION=a".toList ++ nul :: "ACTION=b".toList ++ [nul, nul]

theorem contained_key : ¬∀ msg : Text, 1 ≤ msg.length → msg.length ≤ 4096 → Parses 0 msg := by
  intro all
  have parsed := all contains (by decide) (by decide)
  rw [Parses, v4l2GetUsbString_fields] at parsed
  exact absurd parsed (by decide)

end UnionpiTiger.Camera.Received
