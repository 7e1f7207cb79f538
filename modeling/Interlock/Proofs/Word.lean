import Mathlib

/-! # Words and integers

Counts are signed 64-bit words that wrap around. These are the facts that relate a word to the exact
integer it stands for.
-/

namespace Interlock.Word

/-- A sum of words that stays in range is exact. -/
theorem toInt_add {a b : Int64} (hlow : -2 ^ 63 ≤ a.toInt + b.toInt)
    (hhigh : a.toInt + b.toInt < 2 ^ 63) : (a + b).toInt = a.toInt + b.toInt := by
  rw [Int64.toInt_add, Int.bmod_eq_of_le]
  · exact hlow
  · exact hhigh

/-- A difference of words that stays in range is exact. -/
theorem toInt_sub {a b : Int64} (hlow : -2 ^ 63 ≤ a.toInt - b.toInt)
    (hhigh : a.toInt - b.toInt < 2 ^ 63) : (a - b).toInt = a.toInt - b.toInt := by
  rw [Int64.toInt_sub, Int.bmod_eq_of_le]
  · exact hlow
  · exact hhigh

/-- Wrapping a count never makes it larger. -/
theorem toInt_ofInt_le {s : Int} (hs : 0 ≤ s) : (Int64.ofInt s).toInt ≤ s := by
  have hsize : Int64.size = 2 ^ 64 := rfl
  rw [Int64.toInt_ofInt, hsize, Int.bmod_def]
  split <;> omega

/-- A count that wraps to a negative word is larger than every word. -/
theorem le_of_toInt_ofInt_neg {s : Int} (hs : 0 ≤ s) (h : (Int64.ofInt s).toInt < 0) :
    2 ^ 63 ≤ s := by
  have hsize : Int64.size = 2 ^ 64 := rfl
  rw [Int64.toInt_ofInt, hsize, Int.bmod_def] at h
  split at h <;> omega

theorem toInt_nonneg {a : Int64} : 0 ≤ a ↔ 0 ≤ a.toInt := by
  rw [Int64.le_iff_toInt_le, Int64.toInt_zero]

/-- What a positive word takes back to zero is negative, wherever the sum wraps. -/
theorem neg_of_add_eq_zero {a b : Int64} (hb : 1 ≤ b.toInt) (h : a + b = 0) : a < 0 := by
  have hsum : (a + b).toInt = 0 := by rw [h, Int64.toInt_zero]
  have hlow := a.le_toInt
  have hhigh := a.toInt_lt
  have hword := b.toInt_lt
  rw [Int64.toInt_add, Int.bmod_def] at hsum
  rw [Int64.lt_iff_toInt_lt, Int64.toInt_zero]
  split at hsum <;> omega

end Interlock.Word
