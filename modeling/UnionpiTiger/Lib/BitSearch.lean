import Mathlib.Algebra.Order.Ring.Nat
import Mathlib.Tactic.Ring

set_option autoImplicit false

namespace UnionpiTiger.Lib

variable {fits : Nat → Prop} {gap top r : Nat}

structure Bracket (fits : Nat → Prop) (gap top r : Nat) : Prop where
  low : fits r
  high : ¬fits (r + gap)
  room : r + gap ≤ top

theorem Bracket.halve [DecidablePred fits] (bracket : Bracket fits (2 * gap) top r) :
    Bracket fits gap top (if fits (r + gap) then r + gap else r) := by
  have room := bracket.room
  split_ifs with more
  · have high := bracket.high
    rw [two_mul, ← add_assoc] at high
    exact ⟨more, high, by omega⟩
  · exact ⟨bracket.low, more, by omega⟩

def bitSearch (fits : Nat → Prop) [DecidablePred fits] (bits : Nat) : Nat → Nat
  | 0 => 0
  | i + 1 =>
    let r := bitSearch fits bits i
    if fits (r + 2 ^ (bits - 1 - i)) then r + 2 ^ (bits - 1 - i) else r

theorem bitSearch_bracket [DecidablePred fits] (bits : Nat) (low : fits 0) (high : ¬fits (2 ^ bits))
    (i : Nat) (below : i ≤ bits) :
    Bracket fits (2 ^ (bits - i)) (2 ^ bits) (bitSearch fits bits i) := by
  induction i with
  | zero => exact ⟨low, by simpa [bitSearch] using high, by simp [bitSearch]⟩
  | succ i ih =>
    have bracket := ih (Nat.le_of_succ_le below)
    have gap : 2 ^ (bits - i) = 2 * 2 ^ (bits - (i + 1)) := by
      rw [← pow_succ', show bits - (i + 1) + 1 = bits - i by omega]
    rw [gap] at bracket
    have same : bits - 1 - i = bits - (i + 1) := by omega
    simpa [bitSearch, same] using bracket.halve

theorem bitSearch_tried [DecidablePred fits] (bits : Nat) (low : fits 0) (high : ¬fits (2 ^ bits))
    (i : Nat) (below : i < bits) :
    bitSearch fits bits i + 2 ^ (bits - 1 - i) < 2 ^ bits := by
  have room := (bitSearch_bracket bits low high i below.le).room
  have gap : 2 ^ (bits - i) = 2 * 2 ^ (bits - 1 - i) := by
    rw [← pow_succ', show bits - 1 - i + 1 = bits - i by omega]
  have positive := Nat.two_pow_pos (bits - 1 - i)
  omega

theorem bitSearch_last [DecidablePred fits] (bits : Nat) (low : fits 0) (high : ¬fits (2 ^ bits)) :
    fits (bitSearch fits bits bits) ∧ ¬fits (bitSearch fits bits bits + 1) := by
  have bracket := bitSearch_bracket bits low high bits le_rfl
  rw [Nat.sub_self, pow_zero] at bracket
  exact ⟨bracket.low, bracket.high⟩

end UnionpiTiger.Lib
