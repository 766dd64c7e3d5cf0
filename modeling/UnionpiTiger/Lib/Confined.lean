import Mathlib.Order.Basic

set_option autoImplicit false

namespace UnionpiTiger.Lib

variable {α β : Type} {n : Nat} {m m' : Nat → α}

def SameBelow (n : Nat) (m m' : Nat → α) : Prop := ∀ k < n, m' k = m k

def Confined (n : Nat) (f : (Nat → α) → β) (m : Nat → α) : Prop := ∀ m', SameBelow n m m' → f m' = f m

def followedBy (n : Nat) (m tail : Nat → α) : Nat → α := fun k => if k < n then m k else tail k

theorem followedBy_below (m tail : Nat → α) {k : Nat} (below : k < n) :
    followedBy n m tail k = m k := if_pos below

theorem followedBy_behind (m tail : Nat → α) {k : Nat} (behind : n ≤ k) :
    followedBy n m tail k = tail k :=
  if_neg (Nat.not_lt.mpr behind)

theorem sameBelow_followedBy (n : Nat) (m tail : Nat → α) : SameBelow n m (followedBy n m tail) :=
  fun _ below => followedBy_below m tail below

theorem SameBelow.shift (same : SameBelow n m m') {p size : Nat} (inside : p + size ≤ n) :
    SameBelow size (fun k => m (p + k)) (fun k => m' (p + k)) :=
  fun k below => same (p + k) (by omega)

theorem Confined.const (value : β) : Confined n (fun _ : Nat → α => value) m := fun _ _ => rfl

end UnionpiTiger.Lib
