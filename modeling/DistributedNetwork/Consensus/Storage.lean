import Mathlib.Algebra.Group.Nat.Defs
import Mathlib.Logic.Function.Basic
import DistributedNetwork.Library.Decimal

/-!
# The database

A `Storage` is a map from table and key to bytes.  A read of a missing key fails; a write may fail, and
then it changes nothing.  Numbers are stored as decimal text.
-/

namespace DistributedNetwork.Consensus

open DistributedNetwork.Library

abbrev Bytes := List UInt8

structure Storage where
  tables : String → String → Option Bytes
  /-- what the memory holds of the variable that a stored text is read into, which an empty text leaves alone -/
  uninitialised : UInt64

namespace Storage

def empty : Storage where
  tables _ _ := none
  uninitialised := 0

/-- `-1` is `none`. -/
def get (s : Storage) (tableName key : String) : Option Bytes :=
  s.tables tableName key

/-- `ok` tells whether the database takes the write. -/
def set (s : Storage) (tableName key : String) (value : Bytes) (ok : Bool) : ℤ × Storage :=
  if ok then
    (0, { s with
          tables := Function.update s.tables tableName
            (Function.update (s.tables tableName) key (some value)) })
  else (-1, s)

theorem get_set_self (s : Storage) (tableName key : String) (value : Bytes) :
    (s.set tableName key value true).2.get tableName key = some value := by
  show Function.update s.tables tableName _ tableName key = _
  rw [Function.update_self, Function.update_self]

theorem get_set_of_ne (s : Storage) (tableName : String) {key key' : String} (value : Bytes)
    (h : key' ≠ key) :
    (s.set tableName key value true).2.get tableName key' = s.get tableName key' := by
  show Function.update s.tables tableName _ tableName key' = _
  rw [Function.update_self, Function.update_of_ne h]
  rfl

/-- A write is seen under its own table and key only. -/
theorem get_set (s : Storage) (tableName key tableName' key' : String) (value : Bytes) :
    (s.set tableName key value true).2.get tableName' key' =
      if tableName' = tableName ∧ key' = key then some value else s.get tableName' key' := by
  by_cases htable : tableName' = tableName
  · subst htable
    by_cases hkey : key' = key
    · subst hkey
      rw [if_pos ⟨rfl, rfl⟩, get_set_self]
    · rw [if_neg fun h => hkey h.2, get_set_of_ne s tableName' value hkey]
  · rw [if_neg fun h => htable h.1]
    show Function.update s.tables tableName _ tableName' key' = _
    rw [Function.update_of_ne htable]
    rfl

end Storage

/-! ### Numbers as text -/

def convertToString (value : UInt64) : Bytes :=
  toDecimal value.toNat

def IsSpace (byte : UInt8) : Prop :=
  byte = 32 ∨ 9 ≤ byte.toNat ∧ byte.toNat ≤ 13

instance (byte : UInt8) : Decidable (IsSpace byte) :=
  inferInstanceAs (Decidable (_ ∨ _))

/-- A number that does not fit is read as the greatest one. -/
def saturate (n : ℕ) : UInt64 :=
  if n < 2 ^ 64 then UInt64.ofNat n else UInt64.ofNat (2 ^ 64 - 1)

/-- `iss >> value`: skip white space, take a sign, read the digits.  At the end of the stream nothing is
assigned; without digits the value is zero; a minus sign negates an unsigned number modulo its width. -/
def convertFromString (uninitialised : UInt64) (text : Bytes) : UInt64 :=
  match text.dropWhile fun byte => IsSpace byte with
  | [] => uninitialised
  | byte :: rest =>
    if byte = 43 then saturate (ofDecimal rest)
    else if byte = 45 then
      if ofDecimal rest < 2 ^ 64 then -saturate (ofDecimal rest) else saturate (ofDecimal rest)
    else saturate (ofDecimal (byte :: rest))

/-- **Round trip.** -/
theorem convertFromString_convertToString (uninitialised value : UInt64) :
    convertFromString uninitialised (convertToString value) = value := by
  obtain ⟨byte, rest, htext⟩ := List.exists_cons_of_ne_nil (toDecimal_ne_nil value.toNat)
  have hdigit : IsDigit byte :=
    isDigit_of_mem_toDecimal (n := value.toNat) (by rw [htext]; exact List.mem_cons_self)
  have hne : ∀ other : UInt8, other.toNat < 48 → byte ≠ other := by
    rintro other hother rfl
    have hlow := hdigit.1
    omega
  have hspace : ¬IsSpace byte := by
    rintro (h | h)
    · exact hne 32 (by decide) h
    · have hlow := hdigit.1
      omega
  have hdrop : (byte :: rest).dropWhile (fun byte => IsSpace byte) = byte :: rest := by
    rw [List.dropWhile_cons, if_neg (by simpa using hspace)]
  unfold convertFromString convertToString
  rw [htext, hdrop]
  show (if byte = 43 then _ else if byte = 45 then _ else saturate (ofDecimal (byte :: rest))) = value
  rw [if_neg (hne 43 (by decide)), if_neg (hne 45 (by decide)), ← htext, ofDecimal_toDecimal, saturate,
    if_pos value.toNat_lt, UInt64.ofNat_toNat]

end DistributedNetwork.Consensus
