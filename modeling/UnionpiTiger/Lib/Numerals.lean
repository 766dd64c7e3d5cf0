import Mathlib.Data.List.TakeWhile
import Mathlib.Tactic.IntervalCases

set_option autoImplicit false

namespace UnionpiTiger.Lib

def digitValue (c : Char) : Option Nat :=
  if '0' ≤ c ∧ c ≤ '9' then some (c.toNat - 48)
  else if 'a' ≤ c ∧ c ≤ 'f' then some (c.toNat - 87)
  else if 'A' ≤ c ∧ c ≤ 'F' then some (c.toNat - 55)
  else none

def isDigit (base : Nat) (c : Char) : Bool := (digitValue c).any fun d => d < base

def numeral (base : Nat) (digits : List Char) : Nat :=
  digits.foldl (fun n c => base * n + (digitValue c).getD 0) 0

section Digits

variable {base n : Nat}

theorem digitValue_digitChar {d : Nat} (below : d < 16) : digitValue d.digitChar = some d := by
  interval_cases d <;> rfl

theorem isDigit_digitChar {d : Nat} (small : base ≤ 16) (below : d < base) :
    isDigit base d.digitChar = true := by
  simp [isDigit, digitValue_digitChar (Nat.lt_of_lt_of_le below small), below]

theorem numeral_append (base : Nat) (digits : List Char) {d : Nat} (below : d < 16) :
    numeral base (digits ++ [d.digitChar]) = base * numeral base digits + d := by
  simp [numeral, List.foldl_append, digitValue_digitChar below]

theorem digits_induction {motive : Nat → Prop} (large : 1 < base) (one : ∀ n < base, motive n)
    (more : ∀ n, base ≤ n → motive (n / base) → motive n) (n : Nat) : motive n := by
  induction n using Nat.strong_induction_on with
  | _ n ih =>
    by_cases below : n < base
    · exact one n below
    · exact more n (Nat.not_lt.mp below) (ih (n / base) (Nat.div_lt_self (by omega) large))

theorem isDigit_of_mem (large : 1 < base) (small : base ≤ 16) {c : Char}
    (within : c ∈ Nat.toDigits base n) :
    isDigit base c = true := by
  induction n using digits_induction large with
  | one n below =>
    rw [Nat.toDigits_of_lt_base below, List.mem_singleton] at within
    rw [within]
    exact isDigit_digitChar small below
  | more n above ih =>
    rw [Nat.toDigits_of_base_le large above, List.mem_append, List.mem_singleton] at within
    rcases within with before | rfl
    · exact ih before
    · exact isDigit_digitChar small (Nat.mod_lt n (by omega))

theorem numeral_toDigits (large : 1 < base) (small : base ≤ 16) (n : Nat) :
    numeral base (Nat.toDigits base n) = n := by
  induction n using digits_induction large with
  | one n below =>
    rw [Nat.toDigits_of_lt_base below]
    simp [numeral, digitValue_digitChar (Nat.lt_of_lt_of_le below small)]
  | more n above ih =>
    have last := Nat.mod_lt n (show 0 < base by omega)
    rw [Nat.toDigits_of_base_le large above, numeral_append base _ (by omega), ih]
    exact Nat.div_add_mod n base

theorem numeral_smaller {less : Nat} (large : 1 < base) (small : base ≤ 16)
    (lower : less < base) (n : Nat) :
    numeral less (Nat.toDigits base n) ≤ n ∧ (base ≤ n → numeral less (Nat.toDigits base n) < n) := by
  induction n using digits_induction large with
  | one n below =>
    rw [Nat.toDigits_of_lt_base below]
    have single : numeral less [n.digitChar] = n := by
      simp [numeral, digitValue_digitChar (Nat.lt_of_lt_of_le below small)]
    exact ⟨Nat.le_of_eq single, fun above => absurd below (Nat.not_lt.mpr above)⟩
  | more n above ih =>
    have last := Nat.mod_lt n (show 0 < base by omega)
    rw [Nat.toDigits_of_base_le large above, numeral_append less _ (by omega)]
    have whole := Nat.div_add_mod n base
    have some_ : 0 < n / base := Nat.div_pos above (by omega)
    have fewer : less * numeral less (Nat.toDigits base (n / base)) < base * (n / base) := calc
      less * numeral less (Nat.toDigits base (n / base)) ≤ less * (n / base) :=
        Nat.mul_le_mul_left less ih.1
      _ < base * (n / base) := Nat.mul_lt_mul_of_pos_right lower some_
    omega

theorem toDigits_head (large : 1 < base) (n : Nat) :
    ∃ d rest, Nat.toDigits base n = Nat.digitChar d :: rest ∧ d < base ∧
      (d = 0 → n = 0 ∧ rest = []) ∧ (n = 0 → d = 0) := by
  induction n using digits_induction large with
  | one n below => exact ⟨n, [], Nat.toDigits_of_lt_base below, below, fun zero => ⟨zero, rfl⟩, id⟩
  | more n above ih =>
    obtain ⟨d, rest, same, below, nonzero, -⟩ := ih
    have some_ : 0 < n / base := Nat.div_pos above (by omega)
    refine ⟨d, rest ++ [Nat.digitChar (n % base)], ?_, below, fun zero => ?_, fun zero => ?_⟩
    · rw [Nat.toDigits_of_base_le large above, same, List.cons_append]
    · have none_ := (nonzero zero).1
      omega
    · omega

theorem takeWhile_toDigits (large : 1 < base) (small : base ≤ 16) (n : Nat) :
    (Nat.toDigits base n).takeWhile (isDigit base) = Nat.toDigits base n :=
  List.takeWhile_eq_self_iff.mpr fun _ within => isDigit_of_mem large small within

theorem dropWhile_toDigits (large : 1 < base) (small : base ≤ 16) (n : Nat) :
    (Nat.toDigits base n).dropWhile (isDigit base) = [] :=
  List.dropWhile_eq_nil_iff.mpr fun _ within => isDigit_of_mem large small within

end Digits

def fixupRadix (base : Nat) (s : List Char) : Nat × List Char :=
  let base :=
    if base = 0 then
      match s with
      | '0' :: x :: d :: _ => if (x = 'x' ∨ x = 'X') ∧ isDigit 16 d = true then 16 else 8
      | '0' :: _ => 8
      | _ => 10
    else base
  match s with
  | '0' :: x :: rest => (base, if base = 16 ∧ (x = 'x' ∨ x = 'X') then rest else s)
  | _ => (base, s)

def skipPlus : List Char → List Char
  | '+' :: rest => rest
  | s => s

def einval : Int := -22

def erange : Int := -34

def kstrtoull (base : Nat) (s : List Char) : Except Int Nat :=
  let (base, s) := fixupRadix base (skipPlus s)
  let digits := s.takeWhile (isDigit base)
  let rest := s.dropWhile (isDigit base)
  if numeral base digits ≥ 18446744073709551616 then .error erange
  else if digits = [] then .error einval
  else if rest = [] ∨ rest = ['\n'] then .ok (numeral base digits)
  else .error einval

theorem kstrtoull_ok {base : Nat} {s : List Char} {n : Nat} (read : kstrtoull base s = .ok n) :
    n < 18446744073709551616 := by
  unfold kstrtoull at read
  dsimp only at read
  split_ifs at read with large
  cases read
  exact Nat.not_le.mp large

theorem kstrtoull_error {base : Nat} {s : List Char} {ret : Int}
    (read : kstrtoull base s = .error ret) : ret < 0 := by
  unfold kstrtoull at read
  dsimp only at read
  split_ifs at read <;> cases read <;> decide

def kstrtouint (base : Nat) (s : List Char) : Except Int Nat :=
  match kstrtoull base s with
  | .ok n => if n ≥ 4294967296 then .error erange else .ok n
  | .error ret => .error ret

def simpleStrtoull (base : Nat) (s : List Char) : Nat :=
  let (base, s) := fixupRadix base s
  numeral base (s.takeWhile (isDigit base)) % 18446744073709551616

def isSpace (c : Char) : Bool := c ∈ [' ', '\t', '\n', '\x0b', '\x0c', '\r', '\xa0']

def convert (base : Nat) (signed : Bool) (s : List Char) : Option Int :=
  let s := s.dropWhile isSpace
  let (minus, digits) :=
    match signed, s with
    | true, '-' :: rest => (true, rest)
    | _, _ => (false, s)
  if (digits.head?.any (isDigit base)) = true then
    some (if minus then -(simpleStrtoull base digits : Int) else simpleStrtoull base digits)
  else none

def sscanf (literal : List Char) (base : Nat) (signed : Bool) (s : List Char) : Option Int :=
  if literal.isPrefixOf s then convert base signed (s.drop literal.length) else none

section Printed

variable {base n : Nat}

theorem fixupRadix_guessed (large : 1 < base) (n : Nat) :
    fixupRadix 0 (Nat.toDigits base n) = (if n = 0 then 8 else 10, Nat.toDigits base n) := by
  obtain ⟨d, rest, same, -, nonzero, zero⟩ := toDigits_head large n
  by_cases first : d = 0
  · obtain ⟨rfl, rfl⟩ := nonzero first
    rw [same, first]
    rfl
  · rw [same, if_neg (fun none_ => first (zero none_))]
    simp [fixupRadix, first]

theorem fixupRadix_given (large : 1 < base) (n : Nat) :
    fixupRadix base (Nat.toDigits base n) = (base, Nat.toDigits base n) := by
  have given : base ≠ 0 := by omega
  obtain ⟨d, rest, same, -, nonzero, -⟩ := toDigits_head large n
  by_cases first : d = 0
  · obtain ⟨-, rfl⟩ := nonzero first
    simp [fixupRadix, same, given]
  · simp [fixupRadix, same, given, first]

theorem toDigits_not {c : Char} (large : 1 < base) (small : base ≤ 16)
    (other : isDigit 16 c = false) : c ∉ Nat.toDigits base n := by
  intro within
  have digit := isDigit_of_mem large small within
  simp only [isDigit, Option.any_eq_true, decide_eq_true_eq] at digit
  obtain ⟨d, same, below⟩ := digit
  simp only [isDigit, same, Option.any_some, decide_eq_false_iff_not] at other
  omega

theorem skipPlus_toDigits (large : 1 < base) (small : base ≤ 16) (n : Nat) :
    skipPlus (Nat.toDigits base n) = Nat.toDigits base n := by
  have plus : '+' ∉ Nat.toDigits base n := toDigits_not large small rfl
  unfold skipPlus
  split
  · next same => simp [same] at plus
  · rfl

theorem kstrtoull_decimal (fits : n < 18446744073709551616) :
    kstrtoull 0 (Nat.toDigits 10 n) = .ok n := by
  have read : ∀ radix, radix = (if n = 0 then 8 else 10) →
      (Nat.toDigits 10 n).takeWhile (isDigit radix) = Nat.toDigits 10 n ∧
        (Nat.toDigits 10 n).dropWhile (isDigit radix) = [] ∧ numeral radix (Nat.toDigits 10 n) = n := by
    rintro radix rfl
    split_ifs with zero
    · rw [zero]
      exact ⟨rfl, rfl, rfl⟩
    · exact ⟨takeWhile_toDigits (by decide) (by decide) n, dropWhile_toDigits (by decide) (by decide) n,
        numeral_toDigits (by decide) (by decide) n⟩
  obtain ⟨digits, rest, same⟩ := read _ rfl
  unfold kstrtoull
  rw [skipPlus_toDigits (by decide) (by decide), fixupRadix_guessed (by decide)]
  dsimp only
  rw [digits, rest, same]
  simp [fits]

theorem kstrtoull_hexadecimal (more : 10 ≤ n) : kstrtoull 0 (Nat.toDigits 16 n) ≠ .ok n := by
  intro read
  unfold kstrtoull at read
  rw [skipPlus_toDigits (by decide) (by decide), fixupRadix_guessed (by decide),
    if_neg (by omega)] at read
  dsimp only at read
  split_ifs at read with _ _ ends
  have value : numeral 10 ((Nat.toDigits 16 n).takeWhile (isDigit 10)) = n := Except.ok.inj read
  have all : (Nat.toDigits 16 n).dropWhile (isDigit 10) = [] := by
    refine ends.resolve_right fun newline => ?_
    have within : '\n' ∈ Nat.toDigits 16 n :=
      (List.dropWhile_subset (isDigit 10)) (by rw [newline]; exact List.mem_singleton_self _)
    exact toDigits_not (by decide) (by decide) rfl within
  have whole : (Nat.toDigits 16 n).takeWhile (isDigit 10) = Nat.toDigits 16 n :=
    List.takeWhile_eq_self_iff.mpr (List.dropWhile_eq_nil_iff.mp all)
  rw [whole] at value
  by_cases one : n < 16
  · rw [Nat.toDigits_of_lt_base one] at whole
    have letter := List.takeWhile_eq_self_iff.mp whole _ (List.mem_singleton_self _)
    simp only [isDigit, digitValue_digitChar one, Option.any_some, decide_eq_true_eq] at letter
    omega
  · have smaller := (numeral_smaller (by decide) (by decide) (by decide : 10 < 16) n).2
      (Nat.not_lt.mp one)
    omega

theorem simpleStrtoull_toDigits (large : 1 < base) (small : base ≤ 16)
    (fits : n < 18446744073709551616) :
    simpleStrtoull base (Nat.toDigits base n) = n := by
  simp only [simpleStrtoull, fixupRadix_given large, takeWhile_toDigits large small,
    numeral_toDigits large small]
  exact Nat.mod_eq_of_lt fits

theorem sscanf_toDigits (large : 1 < base) (small : base ≤ 16) (literal : List Char) (signed : Bool)
    (fits : n < 18446744073709551616) :
    sscanf literal base signed (literal ++ Nat.toDigits base n) = some (n : Int) := by
  obtain ⟨d, rest, same, below, -⟩ := toDigits_head large n
  have space : isSpace (Nat.digitChar d) = false := by
    have hexadecimal : d < 16 := Nat.lt_of_lt_of_le below small
    clear * - hexadecimal
    interval_cases d <;> rfl
  have minus : Nat.digitChar d ≠ '-' := by
    intro minus
    exact toDigits_not (n := n) large small (c := '-')
      rfl (by rw [same, minus]; exact List.mem_cons_self)
  have digit := isDigit_digitChar small below
  have value := simpleStrtoull_toDigits large small fits
  rw [same] at value ⊢
  have front : literal.isPrefixOf (literal ++ Nat.digitChar d :: rest) = true :=
    List.isPrefixOf_iff_prefix.mpr ⟨_, rfl⟩
  unfold sscanf
  rw [if_pos front, List.drop_left]
  unfold convert
  rw [List.dropWhile_cons_of_neg (by simp [space])]
  cases signed <;> simp [minus, digit, value]

end Printed

end UnionpiTiger.Lib
