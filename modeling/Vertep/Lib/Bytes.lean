import Mathlib.Algebra.Group.Nat.Defs
import Mathlib.Data.List.Induction

/-!
# Numbers in bytes

Numbers as byte formats hold them, in a number of bytes with the most significant first.
-/

namespace Lib

abbrev Bytes := List UInt8

instance : LawfulBEq Bytes := inferInstance

/-- `int.from_bytes(bytes, "big")`. -/
def big (bytes : Bytes) : ℕ := bytes.foldl (fun n b => 256 * n + b.toNat) 0

/-- A number, in `k` bytes. -/
def bytesOf : ℕ → ℕ → Bytes
  | 0, _ => []
  | k + 1, n => bytesOf k (n / 256) ++ [UInt8.ofNat n]

/-- `bytes[start:start + n]`. -/
def slice (bytes : Bytes) (start n : ℕ) : Bytes := (bytes.drop start).take n

@[simp] lemma length_bytesOf (k n : ℕ) : (bytesOf k n).length = k := by
  induction k generalizing n with
  | zero => rfl
  | succ k ih => rw [bytesOf, List.length_append, ih, List.length_singleton]

lemma big_concat (bytes : Bytes) (b : UInt8) : big (bytes ++ [b]) = 256 * big bytes + b.toNat := by
  rw [big, List.foldl_append]
  rfl

lemma big_bytesOf {k n : ℕ} (less : n < 256 ^ k) : big (bytesOf k n) = n := by
  induction k generalizing n with
  | zero => rw [Nat.pow_zero, Nat.lt_one_iff] at less; rw [less]; rfl
  | succ k ih =>
    rw [Nat.pow_succ] at less
    rw [bytesOf, big_concat, ih (Nat.div_lt_of_lt_mul (by omega)), UInt8.toNat_ofNat']
    omega

lemma big_lt (bytes : Bytes) : big bytes < 256 ^ bytes.length := by
  induction bytes using List.reverseRecOn with
  | nil => exact Nat.one_pos
  | append_singleton bytes b ih =>
    have := b.toNat_lt
    rw [big_concat, List.length_append, List.length_singleton, Nat.pow_succ]
    omega

lemma bytesOf_big (bytes : Bytes) : bytesOf bytes.length (big bytes) = bytes := by
  induction bytes using List.reverseRecOn with
  | nil => rfl
  | append_singleton bytes b ih =>
    have := b.toNat_lt
    have front : (256 * big bytes + b.toNat) / 256 = big bytes := by omega
    have last : UInt8.ofNat (256 * big bytes + b.toNat) = b := by
      apply UInt8.toNat_inj.1
      rw [UInt8.toNat_ofNat']
      omega
    rw [List.length_append, List.length_singleton, bytesOf, big_concat, front, ih, last]

lemma length_slice {bytes : Bytes} {start n : ℕ} (fits : start + n ≤ bytes.length) : (slice bytes start n).length = n := by
  rw [slice, List.length_take, List.length_drop]
  omega

lemma bytesOf_big_slice {bytes : Bytes} {start n : ℕ} (fits : start + n ≤ bytes.length) :
    bytesOf n (big (slice bytes start n)) = slice bytes start n := by
  have := bytesOf_big (slice bytes start n)
  rwa [length_slice fits] at this

lemma slice_append (before bytes behind : Bytes) : slice (before ++ (bytes ++ behind)) before.length bytes.length = bytes := by
  rw [slice, List.drop_left, List.take_left]

lemma drop_eq_slice (bytes : Bytes) (start n : ℕ) : bytes.drop start = slice bytes start n ++ bytes.drop (start + n) := by
  rw [slice, ← List.drop_drop, List.take_append_drop]

end Lib
