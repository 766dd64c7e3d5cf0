import Mathlib.Data.List.DropRight
import UnionpiTiger.Lib.Numerals

set_option autoImplicit false

namespace UnionpiTiger.Bt.Heartbeat

open Lib

section Code

def isspace (c : Char) : Bool := c = ' ' || '\t' ≤ c && c ≤ '\r'

def cstr (buf : List Char) (str : Nat) : List Char := (buf.drop str).takeWhile fun c => c ≠ '\x00'

def strlen (buf : List Char) (str : Nat) : Option Nat :=
  if '\x00' ∈ buf.drop str then some (cstr buf str).length else none

def strchr (buf : List Char) (str : Nat) (c : Char) : Option Nat :=
  if c ∈ cstr buf str then some (str + (cstr buf str).idxOf c) else none

def skipSpace : List Char → Nat → Option Nat
  | [], _ => none
  | c :: rest, str => if isspace c = true then skipSpace rest (str + 1) else some str

def stripSpace (buf : List Char) (strTmp : Nat) : Nat → Option Nat
  | 0 => some 0
  | endStr + 1 =>
    if endStr + 1 > strTmp then
      match buf[endStr + 1]? with
      | none => none
      | some c => if isspace c = true then stripSpace buf strTmp endStr else some (endStr + 1)
    else some (endStr + 1)

structure Trimmed where
  buf : List Char
  str : Nat
  wrote : Option Nat
deriving DecidableEq

def rtkTrim (buf : List Char) (str : Nat) : Option Trimmed := do
  let strTmp ← skipSpace (buf.drop str) str
  let first ← buf[strTmp]?
  if first = '\x00' then some ⟨buf, strTmp, none⟩
  else
    let length ← strlen buf str
    let endStr ← stripSpace buf strTmp (strTmp + length - 1)
    if endStr + 1 < buf.length then some ⟨buf.set (endStr + 1) '\x00', strTmp, some (endStr + 1)⟩
      else none

def longMax : Int := 2 ^ 63 - 1

def longMin : Int := -2 ^ 63

def strtol (s : List Char) : Int :=
  let s := s.dropWhile isspace
  let (minus, s) :=
    match s with
    | '-' :: rest => (true, rest)
    | '+' :: rest => (false, rest)
    | _ => (false, s)
  let (base, digits) := fixupRadix 0 s
  let n : Int := numeral base (digits.takeWhile (isDigit base))
  max longMin (min longMax (if minus then -n else n))

def toInt (n : Int) : Int := n.bmod (2 ^ 32)

structure Conf where
  heartBeatTimeout : Int := -1
  heartBeatLog : Int := -1
deriving DecidableEq

def lineSize : Nat := 1024

def fgets (size : Nat) (line text : List Char) : Option (List Char × List Char) :=
  if text = [] then none
  else
    let upTo := text.takeWhile fun c => c ≠ '\n'
    let chunk := (text.take (upTo.length + 1)).take (size - 1)
    some (chunk ++ '\x00' :: line.drop (chunk.length + 1), text.drop chunk.length)

def heartBeatTimeOutKey : List Char := "HeartBeatTimeOut".toList

def heartBeatLogKey : List Char := "HeartBeatLog".toList

def body (line : List Char) (conf : Conf) : Option (List Char × Conf) := do
  let trimmed ← rtkTrim line 0
  let line := trimmed.buf
  let linePtr := trimmed.str
  let first ← (line)[linePtr]?
  if first = '\x00' ∨ first = '#' ∨ first = '[' then some (line, conf)
  else
    match strchr line linePtr '=' with
    | none => some (line, conf)
    | some split =>
      let key ← rtkTrim (line.set split '\x00') linePtr
      if cstr key.buf key.str = heartBeatTimeOutKey then
        let value ← rtkTrim key.buf (split + 1)
        some (value.buf, { conf with heartBeatTimeout := toInt (strtol (cstr value.buf value.str)) })
      else
        let key ← rtkTrim key.buf linePtr
        if cstr key.buf key.str = heartBeatLogKey then
          let value ← rtkTrim key.buf (split + 1)
          some (value.buf, { conf with heartBeatLog := toInt (strtol (cstr value.buf value.str)) })
        else some (key.buf, conf)

-- `ret_fgets` is not assigned in the loop, and the next line is not read.
def loop (retFgets : Bool) : Nat → List Char → Conf → Option Conf
  | 0, _, _ => none
  | fuel + 1, line, conf =>
    if retFgets then
      match body line conf with
      | none => none
      | some (line, conf) => loop retFgets fuel line conf
    else some conf

def loadRtkbtHeartbeatConf (line : List Char) (file : Option (List Char)) (conf : Conf)
    (fuel : Nat) : Option Conf :=
  match file with
  | none => some conf
  | some text =>
    match fgets lineSize line text with
    | none => loop false fuel line conf
    | some (line, _) => loop true fuel line conf

end Code

section Purpose

def trim (s : List Char) : List Char := (s.dropWhile isspace).rdropWhile isspace

def settle (conf : Conf) (line : List Char) : Conf :=
  if '=' ∈ line then
    let key := trim (line.takeWhile fun c => c ≠ '=')
    let value := toInt (strtol (trim ((line.dropWhile fun c => c ≠ '=').drop 1)))
    if key = heartBeatTimeOutKey then { conf with heartBeatTimeout := value }
    else if key = heartBeatLogKey then { conf with heartBeatLog := value }
    else conf
  else conf

def Loads (text : List Char) : Prop :=
  ∀ line conf, line.length = lineSize →
    ∃ fuel, loadRtkbtHeartbeatConf line (some text) conf fuel =
      some ((text.splitOn '\n').foldl settle conf)

def Trims (before s after : List Char) : Prop :=
  ∃ trimmed, rtkTrim (before ++ s ++ '\x00' :: after) before.length = some trimmed ∧
    cstr trimmed.buf trimmed.str = trim s ∧
    ∀ index, trimmed.wrote = some index → before.length ≤ index ∧ index ≤ before.length + s.length

end Purpose

section Trimming

variable {buf before s after rest : List Char} {str strTmp endStr stop n : Nat}

theorem skipSpace_eq {spaces : List Char} {c : Char} (blank : ∀ c ∈ spaces, isspace c = true)
    (other : isspace c = false) (str : Nat) :
    skipSpace (spaces ++ c :: rest) str = some (str + spaces.length) := by
  induction spaces generalizing str with
  | nil => simp [skipSpace, other]
  | cons head spaces ih =>
    have first := blank head List.mem_cons_self
    have found := ih (fun c member => blank c (List.mem_cons_of_mem _ member)) (str + 1)
    simp [skipSpace, first, found, Nat.add_comm, Nat.add_left_comm]

theorem stripSpace_eq (stops : endStr = strTmp ∨ ∃ c, buf[endStr]? = some c ∧ isspace c = false)
    (least : strTmp ≤ endStr)
    (blank : ∀ j, endStr < j → j ≤ endStr + n → ∃ c, buf[j]? = some c ∧ isspace c = true) :
    stripSpace buf strTmp (endStr + n) = some endStr := by
  induction n with
  | zero =>
    cases endStr with
    | zero => rfl
    | succ endStr =>
      rcases stops with same | ⟨c, at_, other⟩
      · simp [stripSpace, same]
      · simp [stripSpace, at_, other]
  | succ n ih =>
    obtain ⟨c, at_, space⟩ := blank (endStr + (n + 1)) (by omega) (Nat.le_refl _)
    have found := ih fun j later within => blank j later (by omega)
    simp only [← Nat.add_assoc] at at_ ⊢
    simp [stripSpace, at_, space, found, show strTmp < endStr + n + 1 by omega]

theorem stripSpace_ge (stop_ : buf[stop]? = some '\x00') (inside : strTmp < stop) (late : stop ≤ endStr)
    (found : stripSpace buf strTmp endStr = some n) : stop ≤ n := by
  induction endStr with
  | zero => omega
  | succ endStr ih =>
    simp only [stripSpace, show endStr + 1 > strTmp by omega, if_true] at found
    rcases Nat.eq_or_lt_of_le late with rfl | later
    · simp only [stop_, show isspace '\x00' = false by decide] at found
      simp at found
      omega
    · cases at_ : buf[endStr + 1]? with
      | none => simp [at_] at found
      | some c =>
        simp only [at_] at found
        split_ifs at found with space
        · exact ih (by omega) found
        · simp at found
          omega

theorem cstr_eq (whole : buf.drop str = s ++ '\x00' :: after) (plain : '\x00' ∉ s) :
    cstr buf str = s := by
  have all : ∀ c ∈ s, (decide (c ≠ '\x00')) = true := fun c member => by
    have different : c ≠ '\x00' := fun same => plain (same ▸ member)
    simpa using different
  rw [cstr, whole, List.takeWhile_append_of_pos all]
  simp

theorem strlen_eq (whole : buf.drop str = s ++ '\x00' :: after) (plain : '\x00' ∉ s) :
    strlen buf str = some s.length := by
  simp [strlen, cstr_eq whole plain, whole]

theorem trims_blank (blank : ∀ c ∈ s, isspace c = true) : Trims before s after := by
  have whole : (before ++ s ++ '\x00' :: after).drop before.length = s ++ '\x00' :: after := by
    rw [List.append_assoc, List.drop_left]
  have at_ : (before ++ s ++ '\x00' :: after)[before.length + s.length]? = some '\x00' := by
    rw [← List.length_append, List.getElem?_append_right (Nat.le_refl _)]
    simp
  have none_ : trim s = [] := by
    rw [trim, List.dropWhile_eq_nil_iff.mpr blank]
    rfl
  refine ⟨⟨before ++ s ++ '\x00' :: after, before.length + s.length, none⟩, ?_, ?_, by simp⟩
  · simp only [rtkTrim, whole, skipSpace_eq blank (by decide : isspace '\x00' = false),
      Option.bind_eq_bind, Option.bind_some, at_, if_true]
  · rw [none_]
    refine (@cstr_eq _ _ after) ?_ (by simp)
    rw [← List.length_append, List.drop_left]
    rfl

theorem trims_plain {c : Char} (first : isspace c = false) (plain : '\x00' ∉ c :: s) :
    Trims before (c :: s) after := by
  have start : skipSpace (c :: s ++ '\x00' :: after) before.length = some before.length :=
    (@skipSpace_eq _ []) (by simp) first before.length
  have begins : c ≠ '\x00' := fun same => plain (same ▸ List.mem_cons_self)
  have trimmed : trim (c :: s) = (c :: s).rdropWhile isspace := by simp [trim, first]
  have split := List.rdropWhile_append_rtakeWhile (p := isspace) (l := c :: s)
  have some_ : (c :: s).rdropWhile isspace ≠ [] := by
    intro none_
    have all := List.rdropWhile_eq_nil_iff.mp none_ c List.mem_cons_self
    simp [first] at all
  have last := List.rdropWhile_last_not isspace (c :: s) some_
  have blank : ∀ d ∈ (c :: s).rtakeWhile isspace, isspace d = true :=
    fun _ member => List.mem_rtakeWhile_imp member
  rw [Trims, trimmed]
  generalize (c :: s).rdropWhile isspace = kept at split some_ last ⊢
  generalize (c :: s).rtakeWhile isspace = spaces at split blank
  have long : 0 < kept.length := List.length_pos_iff.mpr some_
  have size : (c :: s).length = kept.length + spaces.length := by rw [← split, List.length_append]
  have whole : (before ++ c :: s ++ '\x00' :: after).drop before.length =
      c :: s ++ '\x00' :: after := by
    rw [List.append_assoc, List.drop_left]
  have at_ : (before ++ c :: s ++ '\x00' :: after)[before.length]? = some c := by simp
  have back : stripSpace (before ++ c :: s ++ '\x00' :: after) before.length
      (before.length + (c :: s).length - 1) =
      some (before.length + kept.length - 1) := by
    rw [show before.length + (c :: s).length - 1 =
      before.length + kept.length - 1 + spaces.length by omega]
    refine stripSpace_eq (.inr ⟨kept.getLast some_, ?_, by simpa using last⟩) (by omega) fun j
      later within => ?_
    · rw [← split, List.append_assoc, List.getElem?_append_right (by omega), List.append_assoc,
        List.getElem?_append_left (by omega), List.getLast_eq_getElem,
        show before.length + kept.length - 1 - before.length = kept.length - 1 by omega]
      exact List.getElem?_eq_getElem (by omega)
    · have among : j - before.length - kept.length < spaces.length := by omega
      refine ⟨spaces[j - before.length - kept.length], ?_, blank _ (List.getElem_mem _)⟩
      rw [← split, List.append_assoc, List.getElem?_append_right (by omega), List.append_assoc,
        List.getElem?_append_right (by omega), List.getElem?_append_left (by omega)]
      exact List.getElem?_eq_getElem (by omega)
  have room : before.length + kept.length - 1 + 1 < (before ++ c :: s ++ '\x00' :: after).length := by
    simp only [List.length_append, List.length_cons] at size ⊢
    omega
  refine ⟨⟨(before ++ c :: s ++ '\x00' :: after).set (before.length + kept.length - 1 + 1) '\x00',
    before.length,
    some (before.length + kept.length - 1 + 1)⟩, ?_, ?_, fun index wrote => ?_⟩
  · simp only [rtkTrim, whole, start, Option.bind_eq_bind, Option.bind_some, at_, begins, if_false,
      strlen_eq whole plain, back, room, if_true]
  · obtain ⟨x, tail, rest_⟩ : ∃ x tail, spaces ++ '\x00' :: after = x :: tail := by
      cases spaces with
      | nil => exact ⟨_, _, rfl⟩
      | cons x spaces => exact ⟨_, _, rfl⟩
    refine (@cstr_eq _ _ tail) ?_ fun member => plain (split ▸ List.mem_append_left _ member)
    rw [← split, List.append_assoc, List.append_assoc, rest_, show before.length + kept.length - 1 + 1 =
      before.length + kept.length by omega, List.set_append_right _ _ (by omega), List.drop_left,
      List.set_append_right _ _ (by omega)]
    simp
  · obtain rfl := Option.some.inj wrote
    omega

theorem not_trims {spaces : List Char} {c : Char} (blank : ∀ c ∈ spaces, isspace c = true)
    (some_ : spaces ≠ []) (other : isspace c = false) (plain : '\x00' ∉ spaces ++ c :: s) :
    ¬Trims before (spaces ++ c :: s) after := by
  rintro ⟨trimmed, result, -, writes⟩
  have long : 0 < spaces.length := List.length_pos_iff.mpr some_
  have whole : (before ++ (spaces ++ c :: s) ++ '\x00' :: after).drop before.length =
      spaces ++ c :: s ++ '\x00' :: after := by
    rw [List.append_assoc, List.drop_left]
  have start : skipSpace (spaces ++ c :: s ++ '\x00' :: after) before.length =
      some (before.length + spaces.length) := by
    rw [List.append_assoc]
    exact skipSpace_eq blank other before.length
  have at_ : (before ++ (spaces ++ c :: s) ++ '\x00' :: after)[before.length + spaces.length]? =
      some c := by simp
  have begins : c ≠ '\x00' := fun same => plain (same ▸ List.mem_append_right _ List.mem_cons_self)
  have stop : (before ++ (spaces ++ c :: s) ++ '\x00' :: after)[before.length +
      (spaces ++ c :: s).length]? = some '\x00' := by
    rw [← List.length_append, List.getElem?_append_right (Nat.le_refl _)]
    simp
  simp only [rtkTrim, whole, start, Option.bind_eq_bind, Option.bind_some, at_, begins, if_false,
    strlen_eq whole plain] at result
  obtain ⟨endStr, back, rest_⟩ := Option.bind_eq_some_iff.mp result
  have least := stripSpace_ge stop (by simp only [List.length_append, List.length_cons]; omega)
    (by omega) back
  split_ifs at rest_ with room
  obtain rfl := Option.some.inj rest_
  have within := (writes (endStr + 1) rfl).2
  omega

end Trimming

section Loading

variable {text : List Char}

theorem loop_never (fuel : Nat) (line : List Char) (conf : Conf) : loop true fuel line conf = none := by
  induction fuel generalizing line conf with
  | zero => rfl
  | succ fuel ih =>
    simp only [loop, if_true]
    cases body line conf with
    | none => rfl
    | some next => exact ih next.1 next.2

theorem loads_iff : Loads text ↔ text = [] := by
  constructor
  · intro loads
    by_contra some_
    obtain ⟨fuel, result⟩ := loads (List.replicate lineSize '\x00') {} List.length_replicate
    simp [loadRtkbtHeartbeatConf, fgets, some_, loop_never] at result
  · rintro rfl line conf -
    exact ⟨1, rfl⟩

theorem trims_iff {before s after : List Char} (plain : '\x00' ∉ s) :
    Trims before s after ↔ (∀ c, s.head? = some c → isspace c = false) ∨ ∀ c ∈ s, isspace c = true := by
  constructor
  · intro trims
    by_contra neither
    obtain ⟨leads, more⟩ := not_or.mp neither
    have split := List.takeWhile_append_dropWhile (p := isspace) (l := s)
    have some_ : s.takeWhile isspace ≠ [] := by
      intro none_
      refine leads fun c first => ?_
      cases s with
      | nil => simp at first
      | cons head s =>
        obtain rfl : head = c := by simpa using first
        by_contra space
        simp [List.takeWhile_cons, space] at none_
    cases kept : s.dropWhile isspace with
    | nil => exact more (List.dropWhile_eq_nil_iff.mp kept)
    | cons c rest =>
      have other : isspace c = false := by
        have head := List.head_dropWhile_not isspace (w := by rw [kept]; simp) (l := s)
        simpa [kept] using head
      rw [kept] at split
      rw [← split] at trims plain
      exact not_trims (fun c member => List.mem_takeWhile_imp member) some_ other plain trims
  · rintro (leads | blank)
    · cases s with
      | nil => exact trims_blank (by simp)
      | cons c s => exact trims_plain (leads c rfl) plain
    · exact trims_blank blank

end Loading

-- The configuration is read right just from a file without a line, and a string is trimmed right
-- just if it has no leading white space or nothing else.
theorem heartbeat_conf (text : List Char) : (Loads text ↔ text = []) ∧ ∀ before s after, '\x00' ∉ s →
    (Trims before s after ↔ (∀ c, s.head? = some c → isspace c = false) ∨ ∀ c ∈ s, isspace c = true) :=
  ⟨loads_iff, fun _ _ _ => trims_iff⟩

theorem heartbeat_never_loads :
    ¬(∀ text, Loads text) ∧ ¬∀ before s after, '\x00' ∉ s → Trims before s after := by
  constructor
  · intro claim
    obtain ⟨fuel, result⟩ := claim "HeartBeatLog=1\n".toList (List.replicate lineSize '\x00') {} List.length_replicate
    simp [loadRtkbtHeartbeatConf, fgets, loop_never] at result
  · intro claim
    obtain ⟨trimmed, result, -, writes⟩ := claim [] [' ', 'a'] ['x', 'y'] (by decide)
    have found : rtkTrim [' ', 'a', '\x00', 'x', 'y'] 0 =
        some ⟨[' ', 'a', '\x00', '\x00', 'y'], 1, some 3⟩ := by decide
    obtain rfl := Option.some.inj (found.symm.trans result)
    exact absurd (writes 3 rfl).2 (by decide)

end UnionpiTiger.Bt.Heartbeat
