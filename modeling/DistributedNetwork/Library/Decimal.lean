import Mathlib.Data.List.Basic
import Mathlib.Data.List.TakeWhile

/-!
# Decimal text of a natural number

`toDecimal n` are the ASCII digits of `n`; `ofDecimal` reads the digits at the front of a text and
stops at the first other byte.
-/

namespace DistributedNetwork.Library

def IsDigit (byte : UInt8) : Prop :=
  48 ≤ byte.toNat ∧ byte.toNat ≤ 57

instance (byte : UInt8) : Decidable (IsDigit byte) :=
  inferInstanceAs (Decidable (_ ∧ _))

def toDecimal (n : ℕ) : List UInt8 :=
  (Nat.toDigits 10 n).map Char.toUInt8

def ofDecimal (text : List UInt8) : ℕ :=
  (text.takeWhile fun byte => IsDigit byte).foldl (fun x byte => 10 * x + (byte.toNat - 48)) 0

theorem toUInt8_of_isDigit {c : Char} (h : c.isDigit = true) :
    c.toUInt8.toNat = c.toNat ∧ 48 ≤ c.toNat ∧ c.toNat ≤ 57 := by
  have hrange := Char.isDigit_iff_toNat.mp h
  refine ⟨?_, hrange.1, hrange.2⟩
  show c.toNat % 256 = c.toNat
  exact Nat.mod_eq_of_lt (Nat.lt_of_le_of_lt hrange.2 (by decide))

theorem isDigit_of_mem_toDecimal {n : ℕ} {byte : UInt8} (h : byte ∈ toDecimal n) : IsDigit byte := by
  obtain ⟨c, hc, rfl⟩ := List.mem_map.mp h
  obtain ⟨hbyte, hrange⟩ :=
    toUInt8_of_isDigit (Nat.isDigit_of_mem_toDigits (by decide) (Nat.le_refl 10) hc)
  rw [IsDigit, hbyte]
  exact hrange

theorem toDecimal_ne_nil (n : ℕ) : toDecimal n ≠ [] := by
  rw [toDecimal, ne_eq, List.map_eq_nil_iff]
  exact Nat.toDigits_ne_nil

/-- **Round trip.** -/
theorem ofDecimal_toDecimal (n : ℕ) : ofDecimal (toDecimal n) = n := by
  have hall : (toDecimal n).takeWhile (fun byte => IsDigit byte) = toDecimal n := by
    rw [List.takeWhile_eq_self_iff]
    intro byte hbyte
    simpa using isDigit_of_mem_toDecimal hbyte
  rw [ofDecimal, hall, toDecimal, List.foldl_map]
  refine Eq.trans ?_ (Nat.ofDigitChars_ten_toDigits (n := n))
  rw [Nat.ofDigitChars_eq_foldl]
  refine List.foldl_ext _ _ _ fun x c hc => ?_
  obtain ⟨hbyte, -⟩ :=
    toUInt8_of_isDigit (Nat.isDigit_of_mem_toDigits (by decide) (Nat.le_refl 10) hc)
  rw [hbyte]
  rfl

end DistributedNetwork.Library
