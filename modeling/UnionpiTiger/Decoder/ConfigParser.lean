import UnionpiTiger.Lib.Numerals

set_option autoImplicit false

namespace UnionpiTiger.Decoder

open Lib

section Code

def strstr (need : List Char) : List Char → Nat → Option Nat
  | [], at_ => if need = [] then some at_ else none
  | c :: rest, at_ => if need.isPrefixOf (c :: rest) then some at_ else strstr need rest (at_ + 1)

def toInt (n : Int) : Int := n.bmod 4294967296

def getConfigInt (configs need : Option (List Char)) : Int × Int :=
  match configs, need with
  | some configs, some need =>
    match strstr need configs 0 with
    | some at_ =>
      if at_ > 0 ∧ configs[at_ - 1]? ≠ some ';' then (-2, 0)
      else
        let str := configs.drop (at_ + need.length)
        if str.head? ≠ some ':' ∨ str.length ≤ 1 then (-3, 0)
        else
          match sscanf [':'] 10 true str with
          | some lval => (0, toInt lval)
          | none => (-4, 0)
    | none => (-4, 0)
  | _, _ => (-1, 0)

end Code

section Purpose

def Key (key : List Char) : Prop := key ≠ [] ∧ ':' ∉ key ∧ ';' ∉ key

structure Entry where
  key : List Char
  minus : Bool
  digits : List Char
  named : Key key
  some_ : digits ≠ []
  decimal : ∀ c ∈ digits, isDigit 10 c = true

def Entry.value (entry : Entry) : List Char := if entry.minus then '-' :: entry.digits else entry.digits

def Entry.number (entry : Entry) :
    Int := if entry.minus then -(numeral 10 entry.digits : Int) else numeral 10 entry.digits

def Entry.text (entry : Entry) : List Char := entry.key ++ ':' :: entry.value

inductive Renders : List Entry → List Char → Prop
  | nil : Renders [] []
  | last (entry : Entry) : Renders [entry] entry.text
  | more (entry : Entry) (entries : List Entry) (text : List Char) (rest : Renders entries text) :
      Renders (entry :: entries) (entry.text ++ ';' :: text)

def LooksUp (entries : List Entry) (text need : List Char) : Prop :=
  match entries.find? fun entry => entry.key = need with
  | some entry => getConfigInt (some text) (some need) = (0, entry.number)
  | none => (getConfigInt (some text) (some need)).1 < 0

def FoundFirst (need : List Char) : List Entry → Prop
  | [] => True
  | entry :: entries =>
    if entry.key = need then -2147483648 ≤ entry.number ∧ entry.number < 2147483648
    else (∃ later ∈ entries, later.key = need) →
      ¬need <:+: entry.key ∧ ¬need <:+: entry.value ∧ FoundFirst need entries

end Purpose

section Search

variable {need before rest a b : List Char} {c : Char} {at_ k : Nat}

theorem strstr_shift (s : List Char) (at_ : Nat) :
    strstr need s at_ = (strstr need s 0).map fun found => found + at_ := by
  induction s generalizing at_ with
  | nil =>
    unfold strstr
    split_ifs <;> simp
  | cons c s ih =>
    unfold strstr
    rw [ih (at_ + 1), ih (0 + 1)]
    split_ifs
    · simp
    · simp [Function.comp_def, Nat.add_comm, Nat.add_left_comm]

theorem strstr_skip (none_ : ∀ k, k < before.length → ¬need <+: (before ++ rest).drop k) :
    strstr need (before ++ rest) 0 = (strstr need rest 0).map fun found => found + before.length := by
  induction before with
  | nil => simp
  | cons c before ih =>
    have first := none_ 0 (by simp)
    have skipped := ih fun k within => by simpa using none_ (k + 1) (by simpa using within)
    rw [List.drop_zero, ← List.isPrefixOf_iff_prefix] at first
    rw [List.cons_append] at first ⊢
    rw [strstr, if_neg first, strstr_shift, skipped]
    simp [Function.comp_def, Nat.add_assoc]

theorem strstr_first (some_ : need ≠ []) {s : List Char} (found : strstr need s 0 = some at_) :
    need <+: s.drop at_ ∧ ∀ k, need <+: s.drop k → at_ ≤ k := by
  induction s generalizing at_ with
  | nil => simp [strstr, some_] at found
  | cons c s ih =>
    unfold strstr at found
    split_ifs at found with here
    · obtain rfl := Option.some.inj found
      exact ⟨List.isPrefixOf_iff_prefix.mp here, fun _ _ => Nat.zero_le _⟩
    · rw [strstr_shift, Option.map_eq_some_iff] at found
      obtain ⟨later, found, rfl⟩ := found
      obtain ⟨occurs, least⟩ := ih found
      refine ⟨by simpa using occurs, fun k other => ?_⟩
      cases k with
      | zero => exact absurd (List.isPrefixOf_iff_prefix.mpr other) here
      | succ k => exact Nat.succ_le_succ (least k (by simpa using other))

theorem strstr_exists {s : List Char} (occurs : need <+: s.drop k) (some_ : need ≠ []) :
    ∃ found, strstr need s 0 = some found := by
  induction s generalizing k with
  | nil => simp [some_] at occurs
  | cons c s ih =>
    unfold strstr
    split_ifs with here
    · exact ⟨0, rfl⟩
    · cases k with
      | zero => exact absurd (List.isPrefixOf_iff_prefix.mpr occurs) here
      | succ k =>
        obtain ⟨found, result⟩ := ih (by simpa using occurs)
        exact ⟨found + 1, by rw [strstr_shift, result]; rfl⟩

theorem prefix_of_not_mem (other : c ∉ need) (occurs : need <+: a ++ c :: b) : need <+: a := by
  rcases List.prefix_or_prefix_of_prefix occurs
    (List.prefix_append a (c :: b)) with within | ⟨tail, rfl⟩
  · exact within
  · cases tail with
    | nil => simp
    | cons d tail =>
      have same : d = c := by
        have behind_ := (List.prefix_append_right_inj a).mp occurs
        exact (List.cons_prefix_cons.mp behind_).1
      exact absurd (by simp [same]) other

theorem infix_of_drop (other : c ∉ need) (within : k ≤ a.length)
    (occurs : need <+: (a ++ c :: b).drop k) : need <:+: a := by
  rw [List.drop_append_of_le_length within] at occurs
  exact (prefix_of_not_mem other occurs).isInfix.trans (List.drop_suffix k a).isInfix

theorem infix_cases (other : c ∉ need) (occurs : need <:+: a ++ c :: b) :
    need <:+: a ∨ need <:+: b := by
  obtain ⟨rest, starts, ends⟩ := List.infix_iff_prefix_suffix.mp occurs
  rw [List.suffix_iff_eq_drop] at ends
  rw [ends] at starts
  generalize (a ++ c :: b).length - rest.length = k at starts
  rcases Nat.lt_or_ge a.length k with beyond | within
  · obtain ⟨later, rfl⟩ := Nat.exists_eq_add_of_lt beyond
    rw [Nat.add_assoc, List.drop_length_add_append, List.drop_succ_cons] at starts
    exact .inr (starts.isInfix.trans (List.drop_suffix later b).isInfix)
  · exact .inl (infix_of_drop other within starts)

end Search

section Entries

variable {need rest tail : List Char} {entry : Entry}

theorem Entry.value_plain (entry : Entry) {c : Char} (other : c ≠ '-')
    (plain : isDigit 10 c = false) : c ∉ entry.value := by
  intro member
  have digit : c ∈ entry.digits := by
    unfold Entry.value at member
    split_ifs at member
    · simpa [other] using member
    · exact member
  exact absurd (entry.decimal c digit) (by simp [plain])

theorem Entry.text_plain (entry : Entry) : ';' ∉ entry.text := by
  have key := entry.named.2.2
  have value := entry.value_plain (c := ';') (by decide) (by decide)
  simp [Entry.text, key, value]

theorem occurs_in_entry (named : Key need) {k : Nat} (within : k ≤ entry.text.length)
    (occurs : need <+: (entry.text ++ ';' :: rest).drop k) :
    need <:+: entry.key ∨ need <:+: entry.value :=
  infix_cases named.2.1 (infix_of_drop named.2.2 within occurs)

theorem getConfigInt_more (named : Key need) (key : ¬need <:+: entry.key)
    (value : ¬need <:+: entry.value) :
    getConfigInt (some (entry.text ++ ';' :: rest)) (some need) =
      getConfigInt (some rest) (some need) := by
  have skipped : strstr need (entry.text ++ [';'] ++ rest) 0 =
      (strstr need rest 0).map fun found => found + (entry.text ++ [';']).length := by
    refine strstr_skip fun k before occurs => ?_
    rw [List.append_assoc] at occurs
    have within : k ≤ entry.text.length := by simpa using Nat.lt_succ_iff.mp (by simpa using before)
    rcases occurs_in_entry named within occurs with inside | inside
    · exact key inside
    · exact value inside
  rw [show entry.text ++ ';' :: rest = entry.text ++ [';'] ++ rest by simp]
  unfold getConfigInt
  simp only [skipped]
  cases found : strstr need rest 0 with
  | none => rfl
  | some at_ =>
    have dropped : (entry.text ++ [';'] ++ rest).drop
        (at_ + (entry.text ++ [';']).length + need.length) =
        rest.drop (at_ + need.length) := by
      rw [show at_ + (entry.text ++ [';']).length + need.length =
        (entry.text ++ [';']).length + (at_ + need.length) by omega,
        List.drop_length_add_append]
    have before : (at_ + (entry.text ++ [';']).length > 0 ∧
        (entry.text ++ [';'] ++ rest)[at_ + (entry.text ++ [';']).length - 1]? ≠ some ';') ↔
        (at_ > 0 ∧ rest[at_ - 1]? ≠ some ';') := by
      cases at_ with
      | zero => simp
      | succ at_ =>
        rw [List.getElem?_append_right (by omega)]
        simp [show at_ + 1 + entry.text.length - (entry.text.length + 1) = at_ by omega]
    simp only [Option.map_some, dropped, before]

theorem numeral_mod (digits : List Char) :
    toInt ((numeral 10 digits % 18446744073709551616 : Nat) : Int) =
    toInt (numeral 10 digits : Int) := by
  simp only [toInt, Int.bmod]
  omega

theorem numeral_neg_mod (digits : List Char) :
    toInt (-((numeral 10 digits % 18446744073709551616 : Nat) : Int)) =
    toInt (-(numeral 10 digits : Int)) := by
  simp only [toInt, Int.bmod]
  omega

theorem sscanf_value (entry : Entry) (ends : ∀ c, tail.head? = some c → c = ';') :
    (sscanf [':'] 10 true (':' :: entry.value ++ tail)).map toInt = some (toInt entry.number) := by
  obtain ⟨d, digits, whole⟩ := List.exists_cons_of_ne_nil entry.some_
  have first : isDigit 10 d = true := entry.decimal d (by simp [whole])
  have taken : (d :: digits ++ tail).takeWhile (isDigit 10) = d :: digits := by
    rw [List.takeWhile_append_of_pos (whole ▸ entry.decimal)]
    cases tail with
    | nil => simp
    | cons c tail =>
      obtain rfl := ends c rfl
      simp [show isDigit 10 ';' = false by decide]
  have plain : d ≠ '-' ∧ isSpace d = false := by
    constructor
    · rintro rfl
      exact absurd first (by decide)
    · cases space : isSpace d with
      | false => rfl
      | true =>
        simp only [isSpace, List.mem_cons, List.not_mem_nil, or_false, decide_eq_true_eq] at space
        rcases space with rfl | rfl | rfl | rfl | rfl | rfl | rfl <;> exact absurd first (by decide)
  have value : simpleStrtoull 10 (d :: digits ++ tail) =
      numeral 10 (d :: digits) % 18446744073709551616 := by
    have radix : fixupRadix 10 (d :: digits ++ tail) = (10, d :: digits ++ tail) := by
      simp only [fixupRadix]
      split <;> simp
    rw [simpleStrtoull, radix]
    simp only [taken]
  rw [List.cons_append] at value
  have unsigned : convert 10 true (d :: (digits ++ tail)) =
      some ((numeral 10 (d :: digits) % 18446744073709551616 : Nat) : Int) := by
    simp only [convert, show (d :: (digits ++ tail)).dropWhile isSpace =
      d :: (digits ++ tail) by simp [plain.2]]
    split
    · rename_i same
      exact absurd (List.cons.inj same).1 plain.1
    · simp [first, value]
  have signed : convert 10 true ('-' :: d :: (digits ++ tail)) =
      some (-((numeral 10 (d :: digits) % 18446744073709551616 : Nat) : Int)) := by
    simp [convert, show isSpace '-' = false by decide, first, value]
  simp only [sscanf, Entry.value, Entry.number, whole]
  cases minus : entry.minus
  · simpa [← numeral_mod] using congrArg (Option.map toInt) unsigned
  · simpa [← numeral_neg_mod] using congrArg (Option.map toInt) signed

theorem getConfigInt_own (named : Key need) (own : entry.key = need)
    (ends : ∀ c, tail.head? = some c → c = ';') :
    getConfigInt (some (entry.text ++ tail)) (some need) = (0, toInt entry.number) := by
  obtain ⟨c, rest, whole⟩ := List.exists_cons_of_ne_nil named.1
  have starts : strstr need (entry.text ++ tail) 0 = some 0 := by
    rw [Entry.text, own, whole]
    simp [strstr]
  have str : (entry.text ++ tail).drop (0 + need.length) = ':' :: entry.value ++ tail := by
    rw [Entry.text, own, Nat.zero_add, List.append_assoc, List.drop_left]
  have long : ¬(':' :: entry.value ++ tail).length ≤ 1 := by
    have some_ := List.length_pos_iff.mpr entry.some_
    have value : entry.digits.length ≤ entry.value.length := by
      unfold Entry.value
      split_ifs <;> simp
    simp only [List.length_append, List.length_cons]
    omega
  obtain ⟨lval, read, same⟩ := Option.map_eq_some_iff.mp (sscanf_value entry ends)
  simp only [getConfigInt, starts, str, read, same]
  simp [show ¬(entry.value.length + tail.length + 1 ≤ 1) by simpa using long]

theorem getConfigInt_other (named : Key need) (other : entry.key ≠ need)
    (occurs : need <:+: entry.key ∨ need <:+: entry.value) :
    (getConfigInt (some (entry.text ++ tail)) (some need)).1 < 0 := by
  obtain ⟨k, here, early⟩ : ∃ k, need <+: (entry.text ++ tail).drop k ∧ k ≤ entry.text.length := by
    have inside : need <:+: entry.text := by
      rcases occurs with key | value
      · exact key.trans (List.prefix_append _ _).isInfix
      · exact value.trans (((List.suffix_cons ':' _).trans (List.suffix_append _ _)).isInfix)
    obtain ⟨before, after, whole⟩ := inside
    refine ⟨before.length, ?_, by simp [← whole]⟩
    rw [← whole, List.append_assoc, List.append_assoc, List.drop_left]
    exact List.prefix_append _ _
  obtain ⟨at_, found⟩ := strstr_exists here named.1
  obtain ⟨starts, least⟩ := strstr_first named.1 found
  have bound := least k here
  simp only [getConfigInt, found]
  split_ifs with first second
  · simp
  · simp
  · exfalso
    obtain ⟨colon, -⟩ := not_or.mp second
    have follows : ((entry.text ++ tail).drop (at_ + need.length)).head? = some ':' := not_not.mp colon
    rcases Nat.eq_zero_or_pos at_ with rfl | later
    · rw [Nat.zero_add] at follows
      obtain ⟨rest, whole⟩ := starts
      rw [List.drop_zero] at whole
      rw [← whole, List.drop_left] at follows
      obtain ⟨more, rfl⟩ : ∃ more, rest = ':' :: more := by
        cases rest with
        | nil => simp at follows
        | cons c more => exact ⟨more, by rw [Option.some.inj follows]⟩
      have again : need ++ ':' :: more = entry.key ++ ':' :: (entry.value ++ tail) := by
        rw [whole, Entry.text, List.append_assoc, List.cons_append]
      have left := prefix_of_not_mem named.2.1 (again ▸ List.prefix_append need _)
      have right := prefix_of_not_mem entry.named.2.1 (again.symm ▸ List.prefix_append entry.key _)
      exact other (right.eq_of_length_le left.length_le)
    · have before : (entry.text ++ tail)[at_ - 1]? = some ';' := by
        by_contra different
        exact first ⟨later, different⟩
      rw [List.getElem?_append_left (by omega)] at before
      exact absurd (List.mem_of_getElem? before) entry.text_plain

theorem getConfigInt_absent (named : Key need) (key : ¬need <:+: entry.key)
    (value : ¬need <:+: entry.value) :
    (getConfigInt (some entry.text) (some need)).1 < 0 := by
  cases found : strstr need entry.text 0 with
  | none => simp [getConfigInt, found]
  | some at_ =>
    have occurs := (strstr_first named.1 found).1.isInfix.trans (List.drop_suffix _ _).isInfix
    rcases infix_cases named.2.1 occurs with inside | inside
    · exact absurd inside key
    · exact absurd inside value

end Entries

section Lists

variable {need text : List Char} {entries : List Entry}

theorem toInt_eq_iff (n : Int) : toInt n = n ↔ -2147483648 ≤ n ∧ n < 2147483648 := by
  simp only [toInt, Int.bmod]
  omega

theorem getConfigInt_none (named : Key need) (renders : Renders entries text)
    (none_ : ∀ entry ∈ entries, entry.key ≠ need) : (getConfigInt (some text) (some need)).1 < 0 := by
  induction renders with
  | nil => simp [getConfigInt, strstr, named.1]
  | last entry =>
    by_cases occurs : need <:+: entry.key ∨ need <:+: entry.value
    · simpa using (@getConfigInt_other _ []) named (none_ entry List.mem_cons_self) occurs
    · exact getConfigInt_absent named (not_or.mp occurs).1 (not_or.mp occurs).2
  | more entry entries text rest ih =>
    by_cases occurs : need <:+: entry.key ∨ need <:+: entry.value
    · exact getConfigInt_other named (none_ entry List.mem_cons_self) occurs
    · rw [getConfigInt_more named (not_or.mp occurs).1 (not_or.mp occurs).2]
      exact ih fun later member => none_ later (List.mem_cons_of_mem _ member)

theorem getConfigInt_first (named : Key need) (entry : Entry) (tail : List Char)
    (ends : ∀ c, tail.head? = some c → c = ';') (own : entry.key = need) :
    getConfigInt (some (entry.text ++ tail)) (some need) = (0, entry.number) ↔
      -2147483648 ≤ entry.number ∧ entry.number < 2147483648 := by
  rw [getConfigInt_own named own ends, ← toInt_eq_iff, Prod.mk.injEq]
  simp

theorem get_config_int_iff (entries : List Entry) (text need : List Char)
    (renders : Renders entries text) (named : Key need) :
    LooksUp entries text need ↔ FoundFirst need entries := by
  induction renders with
  | nil => simp [LooksUp, FoundFirst, getConfigInt, strstr, named.1]
  | last entry =>
    by_cases own : entry.key = need
    · simpa [LooksUp, FoundFirst, own] using getConfigInt_first named entry [] (by simp) own
    · have none_ := getConfigInt_none named (.last entry) (by simpa using own)
      simpa [LooksUp, FoundFirst, own] using none_
  | more entry entries text rest ih =>
    by_cases own : entry.key = need
    · simpa [LooksUp, FoundFirst, own] using getConfigInt_first named entry (';' :: text) (by simp) own
    · have skipped : (entry :: entries).find? (fun entry => entry.key = need) =
        entries.find? fun entry => entry.key = need := by
        simp [own]
      by_cases later : ∃ later ∈ entries, later.key = need
      · obtain ⟨first, found⟩ : ∃ first, entries.find? (fun entry => entry.key = need) =
          some first := by
          rw [← Option.isSome_iff_exists, List.find?_isSome]
          simpa using later
        by_cases occurs : need <:+: entry.key ∨ need <:+: entry.value
        · have fails := (@getConfigInt_other _ (';' :: text)) named own occurs
          have wrong : ¬LooksUp (entry :: entries) (entry.text ++ ';' :: text) need := by
            rw [LooksUp, skipped, found]
            intro same
            rw [same] at fails
            exact absurd fails (lt_irrefl 0)
          refine iff_of_false wrong fun first => ?_
          rw [FoundFirst, if_neg own] at first
          obtain ⟨key, value, -⟩ := first later
          exact occurs.elim key value
        · obtain ⟨key, value⟩ := not_or.mp occurs
          have same : LooksUp (entry :: entries) (entry.text ++ ';' :: text) need ↔
              LooksUp entries text need := by
            rw [LooksUp, LooksUp, skipped, getConfigInt_more named key value]
          simp only [same, ih, FoundFirst, own, if_false, later, key, value, true_implies,
            not_false_eq_true, true_and]
      · have none_ := getConfigInt_none named (.more entry entries text rest)
          (by simpa [own] using later)
        have missing : entries.find? (fun entry => entry.key = need) = none := by
          simpa using later
        refine iff_of_true ?_ ?_
        · rw [LooksUp, skipped, missing]
          exact none_
        · rw [FoundFirst, if_neg own]
          exact fun found => absurd found later

end Lists

section Samples

theorem isDigit_seven : ∀ c ∈ ['7'], isDigit 10 c = true := by
  intro c seven
  rw [List.mem_singleton.mp seven]
  decide

def sample (key : List Char) (named : Key key) : Entry :=
  ⟨key, false, ['7'], named, by decide, isDigit_seven⟩

def height : Entry := sample ['h'] (by simp [Key])

def width : Entry := sample ['w'] (by simp [Key])

def cropWidth : Entry := sample ['c', '_', 'w'] (by simp [Key])

theorem get_config_int_height : LooksUp [width, height] "w:7;h:7".toList ['h'] := by
  have first : FoundFirst ['h'] [width, height] := by
    rw [FoundFirst, if_neg (by decide)]
    exact fun _ => ⟨by decide, by decide, by rw [FoundFirst, if_pos (by decide)]; decide⟩
  exact (get_config_int_iff _ _ ['h'] (.more width _ _ (.last height)) (by simp [Key])).mpr first

theorem get_config_int_crop :
    ¬∀ entries text need, Renders entries text → Key need → LooksUp entries text need := by
  intro claim
  have looksUp := claim [cropWidth, width] "c_w:7;w:7".toList ['w'] (.more cropWidth _ _ (.last width)) (by simp [Key])
  have result : getConfigInt (some "c_w:7;w:7".toList) (some ['w']) = (0, 7) := looksUp
  exact absurd result (by decide)

end Samples

end UnionpiTiger.Decoder
