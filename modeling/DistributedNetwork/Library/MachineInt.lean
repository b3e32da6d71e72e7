import Mathlib.Algebra.Group.Nat.Defs
import Mathlib.Tactic.Common

/-!
# Unsigned 64-bit arithmetic on naturals

A `size_t` is a natural below `2 ^ 64`; addition and subtraction wrap.  `throughInt x` is the value
that comparisons see when a `size_t` was stored in a 32-bit `int` first and is widened again.
-/

namespace DistributedNetwork.Library

variable {a b : ℕ}

def sizeAdd (a b : ℕ) : ℕ :=
  (a + b) % 2 ^ 64

def sizeSub (a b : ℕ) : ℕ :=
  (a + (2 ^ 64 - b % 2 ^ 64)) % 2 ^ 64

/-- Narrow to `int` and widen back: the low 32 bits, sign-extended. -/
def throughInt (x : ℕ) : ℕ :=
  if x % 2 ^ 32 < 2 ^ 31 then x % 2 ^ 32 else x % 2 ^ 32 + (2 ^ 64 - 2 ^ 32)

theorem sizeAdd_eq (h : a + b < 2 ^ 64) : sizeAdd a b = a + b :=
  Nat.mod_eq_of_lt h

/-- Without a borrow the machine subtraction is the subtraction. -/
theorem sizeSub_eq (hb : b ≤ a) (ha : a < 2 ^ 64) : sizeSub a b = a - b := by
  unfold sizeSub
  omega

/-- With a borrow it is off by the modulus. -/
theorem sizeSub_borrow (hb : b < 2 ^ 64) (ha : a < b) : sizeSub a b = a + 2 ^ 64 - b := by
  unfold sizeSub
  omega

theorem throughInt_eq (h : a < 2 ^ 31) : throughInt a = a := by
  rw [throughInt, if_pos (by omega), Nat.mod_eq_of_lt (by omega)]

end DistributedNetwork.Library
