import Interlock.Window
import Interlock.Proofs.Word

/-! # The age of a window

A window counts the wait states since its trigger in a word, which may wrap around. Whatever the
exact number of wait states is, a window that claims to be inert is, and padding that covers what
the window says is missing covers what really is.
-/

namespace Interlock.Window

variable {w : Window} {slots : Int}

theorem size_le_of_inert (hslots : 0 ≤ slots) (helapsed : w.elapsed = .ofInt slots)
    (h : w.inert = true) : w.size.toInt ≤ slots := by
  have hle : w.size ≤ w.elapsed := of_decide_eq_true h
  rw [Int64.le_iff_toInt_le, helapsed] at hle
  exact Int.le_trans hle (Word.toInt_ofInt_le hslots)

/-- Padding that covers what a window still asks for separates the conflict from the trigger as
needed, also if the age of the window wrapped around. -/
theorem need_le_of_remaining_le (hslots : 0 ≤ slots) (helapsed : w.elapsed = .ofInt slots)
    {nops padding : Int64} (hnops : 0 ≤ nops) (hpadding : 0 ≤ padding)
    (h : w.remaining nops ≤ padding) : nops.toInt ≤ slots + padding.toInt := by
  have hword := nops.toInt_lt
  rw [Word.toInt_nonneg] at hnops hpadding
  -- If the age wrapped, more wait states passed than any requirement can ask for.
  by_cases hwrapped : w.elapsed.toInt < 0
  · rw [helapsed] at hwrapped
    have hlarge := Word.le_of_toInt_ofInt_neg hslots hwrapped
    omega
  · have hage : w.elapsed.toInt ≤ slots := helapsed ▸ Word.toInt_ofInt_le hslots
    have hexact : (nops - w.elapsed).toInt = nops.toInt - w.elapsed.toInt :=
      Word.toInt_sub (by have := w.elapsed.toInt_lt; omega) (by omega)
    simp only [remaining] at h
    split at h
    · rw [Int64.le_iff_toInt_le, hexact] at h
      omega
    next hnone =>
      rw [Int64.lt_iff_toInt_lt, Int64.toInt_zero, hexact] at hnone
      omega

theorem remaining_nonneg (w : Window) (nops : Int64) : 0 ≤ w.remaining nops := by
  simp only [remaining]
  split
  next hpos => exact Int64.le_of_lt hpos
  next => exact Int64.le_refl 0

/-- What a window that did not wrap around asks for is exact. -/
theorem toInt_remaining (helapsed : 0 ≤ w.elapsed) {nops : Int64} (hnops : 0 ≤ nops) :
    (w.remaining nops).toInt = max 0 (nops.toInt - w.elapsed.toInt) := by
  rw [Word.toInt_nonneg] at helapsed hnops
  have hexact : (nops - w.elapsed).toInt = nops.toInt - w.elapsed.toInt :=
    Word.toInt_sub (by have := w.elapsed.toInt_lt; omega) (by have := nops.toInt_lt; omega)
  simp only [remaining]
  split
  next hpos =>
    rw [Int64.lt_iff_toInt_lt, Int64.toInt_zero, hexact] at hpos
    omega
  next hnone =>
    rw [Int64.lt_iff_toInt_lt, Int64.toInt_zero, hexact] at hnone
    rw [Int64.toInt_zero]
    omega

end Interlock.Window
