import Mathlib.Data.Int.Log
import Mathlib.Data.Rat.Floor

/-!
# Rounding to significant decimal digits

What a number becomes when it is printed with `n` significant decimal digits and read back, over exact
rationals. `roundSig n x` is the nearest number with `n` digits (ties to the even digit), `Short n x`
says that `n` digits write `x` down exactly, and `roundSig_eq_self` says that these are the numbers
that survive.
-/

namespace Lib

/-- The nearest integer, ties to even. -/
def roundEven (x : ℚ) : ℤ :=
  if Int.fract x < 1 / 2 then ⌊x⌋
  else if 1 / 2 < Int.fract x then ⌊x⌋ + 1
  else if Even ⌊x⌋ then ⌊x⌋ else ⌊x⌋ + 1

/-- The value of the last of `n` significant digits of `x`. -/
def ulp (n : ℕ) (x : ℚ) : ℚ := 10 ^ (Int.log 10 |x| + 1 - n)

/-- `x` with `n` significant digits. -/
def roundSig (n : ℕ) (x : ℚ) : ℚ := roundEven (x / ulp n x) * ulp n x

/-- `x` has at most `n` significant digits. -/
def Short (n : ℕ) (x : ℚ) : Prop := ∃ m e : ℤ, |m| < 10 ^ n ∧ x = m * 10 ^ e

@[simp] lemma roundEven_intCast (m : ℤ) : roundEven (m : ℚ) = m := by
  simp [roundEven]

lemma roundEven_le {x : ℚ} {m : ℤ} (h : x ≤ m) : roundEven x ≤ m := by
  have hf : ⌊x⌋ ≤ m := by exact_mod_cast (Int.floor_le x).trans h
  unfold roundEven
  split
  · exact hf
  · have frac : 0 < Int.fract x := by linarith
    have hlt : ⌊x⌋ < m := by
      have : (⌊x⌋ : ℚ) < m := by
        have := Int.self_sub_floor x
        linarith
      exact_mod_cast this
    split
    · omega
    · split <;> omega

lemma le_roundEven {x : ℚ} {m : ℤ} (h : m ≤ x) : m ≤ roundEven x := by
  have hf : m ≤ ⌊x⌋ := Int.le_floor.2 h
  unfold roundEven
  split
  · exact hf
  · split
    · omega
    · split <;> omega

lemma ulp_pos (n : ℕ) (x : ℚ) : 0 < ulp n x := zpow_pos (by norm_num) _

/-- Counted in its last digit, a number has `n` digits before the point. -/
lemma abs_div_ulp_lt (n : ℕ) (x : ℚ) : |x / ulp n x| < 10 ^ n := by
  have h := Int.lt_zpow_succ_log_self (b := 10) (by norm_num) |x|
  have e : (10 : ℚ) ^ (Int.log 10 |x| + 1) = 10 ^ n * ulp n x := by
    unfold ulp
    rw [← zpow_natCast, ← zpow_add₀ (by norm_num)]
    congr 1
    omega
  rw [abs_div, abs_of_pos (ulp_pos n x), div_lt_iff₀ (ulp_pos n x), ← e]
  exact_mod_cast h

variable {n : ℕ}

/-- A rounded number has `n` digits: a carry into one more digit leaves a power of ten. -/
lemma roundSig_short (hn : 0 < n) (x : ℚ) : Short n (roundSig n x) := by
  have h := abs_lt.1 (abs_div_ulp_lt n x)
  have hi : roundEven (x / ulp n x) ≤ 10 ^ n := roundEven_le (by exact_mod_cast h.2.le)
  have lo : -(10 ^ n) ≤ roundEven (x / ulp n x) := le_roundEven (by exact_mod_cast h.1.le)
  have one : (1 : ℤ) < 10 ^ n := one_lt_pow₀ (by norm_num) hn.ne'
  have carry : (10 : ℚ) ^ n * ulp n x = 10 ^ (n + (Int.log 10 |x| + 1 - n) : ℤ) := by
    rw [zpow_add₀ (by norm_num), zpow_natCast, ulp]
  rcases hi.eq_or_lt with e | hi
  · refine ⟨1, n + (Int.log 10 |x| + 1 - n), by simpa using one, ?_⟩
    rw [roundSig, e, ← carry]
    push_cast
    ring
  · rcases lo.eq_or_lt with e | lo
    · refine ⟨-1, n + (Int.log 10 |x| + 1 - n), by simpa using one, ?_⟩
      rw [roundSig, ← e, ← carry]
      push_cast
      ring
    · exact ⟨_, _, abs_lt.2 ⟨lo, hi⟩, rfl⟩

lemma Short.div_ulp {x : ℚ} (h : Short n x) : ∃ m : ℤ, x / ulp n x = m := by
  obtain ⟨m, e, hm, rfl⟩ := h
  by_cases zero : m = 0
  · exact ⟨0, by simp [zero]⟩
  · have ten : (0 : ℚ) < 10 ^ e := zpow_pos (by norm_num) _
    have pos : 0 < |(m : ℚ) * 10 ^ e| := by
      rw [abs_pos]
      exact mul_ne_zero (by exact_mod_cast zero) ten.ne'
    have lt : |(m : ℚ) * 10 ^ e| < ((10 : ℕ) : ℚ) ^ (n + e : ℤ) := by
      rw [abs_mul, abs_of_pos ten, zpow_add₀ (by norm_num),
        zpow_natCast]
      have hq : |(m : ℚ)| < 10 ^ n := by exact_mod_cast hm
      push_cast
      exact mul_lt_mul_of_pos_right hq ten
    have hlog := (Int.lt_zpow_iff_log_lt (by norm_num) pos).1 lt
    -- the last digit of the mantissa is worth at least one last digit of `x`
    obtain ⟨k, hk⟩ := Int.eq_ofNat_of_zero_le
      (a := e - (Int.log 10 |(m : ℚ) * 10 ^ e| + 1 - n)) (by omega)
    refine ⟨m * 10 ^ k, ?_⟩
    rw [div_eq_iff (ulp_pos _ _).ne', ulp, Int.cast_mul, mul_assoc]
    congr 1
    rw [Int.cast_pow, Int.cast_ofNat, ← zpow_natCast, ← zpow_add₀ (by norm_num), ← hk]
    congr 1
    omega

/-- The numbers that survive printing are those with at most `n` digits. -/
theorem roundSig_eq_self (hn : 0 < n) {x : ℚ} : roundSig n x = x ↔ Short n x := by
  constructor
  · intro h
    rw [← h]
    exact roundSig_short hn x
  · intro h
    obtain ⟨m, hm⟩ := h.div_ulp
    rw [roundSig, hm, roundEven_intCast, ← hm, div_mul_cancel₀ _ (ulp_pos n x).ne']

lemma roundSig_roundSig (hn : 0 < n) (x : ℚ) :
    roundSig n (roundSig n x) = roundSig n x :=
  (roundSig_eq_self hn).2 (roundSig_short hn x)

/-- An integer of at most `n` digits is short. -/
lemma short_intCast {m : ℤ} (h : |m| < 10 ^ n) : Short n (m : ℚ) :=
  ⟨m, 0, h, by simp⟩

end Lib
