import Mathlib.Algebra.Group.Nat.Defs
import Mathlib.Tactic.Common

/-!
# Big-endian bytes of a natural number

`toBigEndian n x` are the `n` low bytes of `x`, the most significant one first; `ofBigEndian` reads
such bytes back.  What lies above the `n` bytes is lost, and nothing else: the two are inverse to each
other between the numbers below `256 ^ n` and the lists of `n` bytes.
-/

namespace DistributedNetwork.Library

def toBigEndian : ℕ → ℕ → List UInt8
  | 0, _ => []
  | n + 1, x => UInt8.ofNat (x / 256 ^ n) :: toBigEndian n x

def ofBigEndian (bytes : List UInt8) : ℕ :=
  bytes.foldl (fun x byte => x * 256 + byte.toNat) 0

theorem length_toBigEndian (n x : ℕ) : (toBigEndian n x).length = n := by
  induction n with
  | zero => rfl
  | succ n ih => rw [toBigEndian, List.length_cons, ih]

/-- Reading goes on from whatever was read before. -/
theorem foldl_toBigEndian (n x start : ℕ) :
    (toBigEndian n x).foldl (fun y byte => y * 256 + byte.toNat) start =
      start * 256 ^ n + x % 256 ^ n := by
  induction n generalizing start with
  | zero =>
    show start = _
    rw [Nat.pow_zero, Nat.mod_one, Nat.mul_one, Nat.add_zero]
  | succ n ih =>
    have hbyte : (UInt8.ofNat (x / 256 ^ n)).toNat = x / 256 ^ n % 256 := UInt8.toNat_ofNat'
    have hsplit : x % 256 ^ (n + 1) = 256 ^ n * (x / 256 ^ n % 256) + x % 256 ^ n := by
      rw [Nat.pow_succ, Nat.mod_mul]
      exact Nat.add_comm _ _
    rw [toBigEndian, List.foldl_cons, ih, hbyte, hsplit, Nat.pow_succ, Nat.add_mul,
      Nat.mul_assoc, Nat.mul_comm 256 (256 ^ n), Nat.mul_comm (x / 256 ^ n % 256), Nat.add_assoc]

/-- **Round trip**, modulo the width. -/
theorem ofBigEndian_toBigEndian (n x : ℕ) : ofBigEndian (toBigEndian n x) = x % 256 ^ n := by
  rw [ofBigEndian, foldl_toBigEndian, Nat.zero_mul, Nat.zero_add]

/-! ### The bytes of what was read -/

theorem foldl_ofBigEndian (bytes : List UInt8) (start : ℕ) :
    bytes.foldl (fun y byte => y * 256 + byte.toNat) start =
      start * 256 ^ bytes.length + ofBigEndian bytes := by
  induction bytes generalizing start with
  | nil =>
    show start = start * 256 ^ 0 + 0
    omega
  | cons byte bytes ih =>
    have hread : ofBigEndian (byte :: bytes) = byte.toNat * 256 ^ bytes.length + ofBigEndian bytes := by
      show bytes.foldl _ (0 * 256 + byte.toNat) = _
      rw [ih, Nat.zero_mul, Nat.zero_add]
    rw [List.foldl_cons, ih, hread, List.length_cons, Nat.pow_succ, Nat.add_mul, Nat.mul_assoc,
      Nat.mul_comm 256 (256 ^ bytes.length), Nat.add_assoc]

/-- The first byte counts most. -/
theorem ofBigEndian_cons (byte : UInt8) (bytes : List UInt8) :
    ofBigEndian (byte :: bytes) = byte.toNat * 256 ^ bytes.length + ofBigEndian bytes := by
  show bytes.foldl _ (0 * 256 + byte.toNat) = _
  rw [foldl_ofBigEndian, Nat.zero_mul, Nat.zero_add]

theorem ofBigEndian_lt (bytes : List UInt8) : ofBigEndian bytes < 256 ^ bytes.length := by
  induction bytes with
  | nil => exact Nat.one_pos
  | cons byte bytes ih =>
    have hbyte : byte.toNat < 256 := byte.toNat_lt
    have hle : (byte.toNat + 1) * 256 ^ bytes.length ≤ 256 * 256 ^ bytes.length :=
      Nat.mul_le_mul_right _ hbyte
    rw [Nat.add_mul, Nat.one_mul] at hle
    rw [ofBigEndian_cons, List.length_cons, Nat.pow_succ, Nat.mul_comm (256 ^ bytes.length) 256]
    omega

/-- What lies above the bytes does not show. -/
theorem toBigEndian_add (n x above : ℕ) :
    toBigEndian n (above * 256 ^ n + x) = toBigEndian n x := by
  induction n generalizing above with
  | zero => rfl
  | succ n ih =>
    have hshift : above * 256 ^ (n + 1) + x = above * 256 * 256 ^ n + x := by
      rw [Nat.pow_succ, Nat.mul_comm (256 ^ n) 256, ← Nat.mul_assoc]
    have hbyte : UInt8.ofNat ((above * 256 * 256 ^ n + x) / 256 ^ n) = UInt8.ofNat (x / 256 ^ n) := by
      apply UInt8.toNat_inj.mp
      rw [Nat.add_comm, Nat.add_mul_div_right _ _ (Nat.pow_pos (by decide))]
      show (x / 256 ^ n + above * 256) % 256 = x / 256 ^ n % 256
      exact Nat.add_mul_mod_self_right _ _ _
    rw [hshift, toBigEndian, toBigEndian, hbyte, ih]

/-- **Round trip** of the bytes. -/
theorem toBigEndian_ofBigEndian (bytes : List UInt8) :
    toBigEndian bytes.length (ofBigEndian bytes) = bytes := by
  induction bytes with
  | nil => rfl
  | cons byte bytes ih =>
    have hfirst : (byte.toNat * 256 ^ bytes.length + ofBigEndian bytes) / 256 ^ bytes.length =
        byte.toNat := by
      rw [Nat.add_comm, Nat.add_mul_div_right _ _ (Nat.pow_pos (by decide)),
        Nat.div_eq_of_lt (ofBigEndian_lt bytes), Nat.zero_add]
    rw [ofBigEndian_cons, List.length_cons, toBigEndian, hfirst, toBigEndian_add, ih,
      UInt8.ofNat_toNat]

end DistributedNetwork.Library
