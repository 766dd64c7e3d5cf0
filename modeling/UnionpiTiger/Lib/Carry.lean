import Mathlib.Data.Nat.Digits.Lemmas

set_option autoImplicit false

namespace UnionpiTiger.Lib

def addCarry (base : Nat) : List Nat → Nat → List Nat × Nat
  | [], carry => ([], carry)
  | digit :: rest, carry =>
    let (above, out) := addCarry base rest ((digit + carry) / base)
    ((digit + carry) % base :: above, out)

variable {base : Nat}

@[simp] theorem addCarry_nil (carry : Nat) : addCarry base [] carry = ([], carry) := rfl

@[simp] theorem addCarry_cons (digit : Nat) (rest : List Nat) (carry : Nat) :
    addCarry base (digit :: rest) carry =
      ((digit + carry) % base :: (addCarry base rest ((digit + carry) / base)).1,
        (addCarry base rest ((digit + carry) / base)).2) := rfl

theorem addCarry_length (digits : List Nat) (carry : Nat) : (addCarry base digits carry).1.length = digits.length := by
  induction digits generalizing carry with
  | nil => rfl
  | cons digit rest ih => simp [ih]

theorem addCarry_lt (positive : 0 < base) (digits : List Nat) (carry : Nat) :
    ∀ digit ∈ (addCarry base digits carry).1, digit < base := by
  induction digits generalizing carry with
  | nil => simp
  | cons digit rest ih =>
    simp only [addCarry_cons, List.forall_mem_cons]
    exact ⟨Nat.mod_lt _ positive, ih _⟩

theorem ofDigits_addCarry (digits : List Nat) (carry : Nat) :
    Nat.ofDigits base (addCarry base digits carry).1 + base ^ digits.length * (addCarry base digits carry).2 =
      Nat.ofDigits base digits + carry := by
  induction digits generalizing carry with
  | nil => simp
  | cons digit rest ih =>
    have above := ih ((digit + carry) / base)
    have here := Nat.mod_add_div (digit + carry) base
    simp only [addCarry_cons, Nat.ofDigits_cons, List.length_cons, pow_succ]
    calc (digit + carry) % base + base * Nat.ofDigits base (addCarry base rest ((digit + carry) / base)).1 +
          base ^ rest.length * base * (addCarry base rest ((digit + carry) / base)).2
        = (digit + carry) % base + base *
          (Nat.ofDigits base (addCarry base rest ((digit + carry) / base)).1 +
            base ^ rest.length * (addCarry base rest ((digit + carry) / base)).2) := by ring
      _ = (digit + carry) % base + base * ((digit + carry) / base) + base *
        Nat.ofDigits base rest := by rw [above]; ring
      _ = digit + base * Nat.ofDigits base rest + carry := by rw [here]; ring

theorem ofDigits_addCarry_mod (large : 1 < base) (digits : List Nat) (carry : Nat) :
    Nat.ofDigits base (addCarry base digits carry).1 =
      (Nat.ofDigits base digits + carry) % base ^ digits.length := by
  have below := Nat.ofDigits_lt_base_pow_length large
    (addCarry_lt (Nat.lt_of_succ_lt large) digits carry)
  rw [addCarry_length] at below
  rw [← ofDigits_addCarry, Nat.add_mul_mod_self_left, Nat.mod_eq_of_lt below]

end UnionpiTiger.Lib
