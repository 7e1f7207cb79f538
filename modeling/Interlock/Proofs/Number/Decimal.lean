import Interlock.Number.Integer
import Interlock.Proofs.Word

/-! # Words in decimal

A numeral is a text of decimal digits, after a sign or without one. The texts that are read as words
are exactly the numerals of words; the text of a word that is not negative is one of them.
-/

namespace Interlock.Number

/-- A text of decimal digits, after a sign or without one, and the integer that it denotes. -/
inductive Numeral : List Char → Int → Prop
  | unsigned {digits : List Char} (hne : digits ≠ []) (hdigits : ∀ c ∈ digits, c.isDigit = true) :
      Numeral digits (Nat.ofDigitChars 10 digits 0)
  | plus {digits : List Char} (hne : digits ≠ []) (hdigits : ∀ c ∈ digits, c.isDigit = true) :
      Numeral ('+' :: digits) (Nat.ofDigitChars 10 digits 0)
  | minus {digits : List Char} (hne : digits ≠ []) (hdigits : ∀ c ∈ digits, c.isDigit = true) :
      Numeral ('-' :: digits) (-(Nat.ofDigitChars 10 digits 0 : Nat))

theorem Numeral.digit_or_sign {text : List Char} {value : Int} (h : Numeral text value) :
    ∀ c ∈ text, c.isDigit = true ∨ c = '+' ∨ c = '-' := by
  cases h with
  | unsigned _ hdigits => exact fun c hc => Or.inl (hdigits c hc)
  | plus _ hdigits =>
      exact List.forall_mem_cons.mpr ⟨by simp, fun c hc => Or.inl (hdigits c hc)⟩
  | minus _ hdigits =>
      exact List.forall_mem_cons.mpr ⟨by simp, fun c hc => Or.inl (hdigits c hc)⟩

/-! ## Digits -/

theorem isDigit_iff {c : Char} : c.isDigit = true ↔ '0' ≤ c ∧ c ≤ '9' := by
  simp [Char.isDigit, Char.le_def]

/-- The digits below ten are the decimal ones. -/
theorem digitValue?_eq_some_iff {c : Char} {d : Nat} (hd : d < 10) :
    digitValue? c = some d ↔ c.isDigit = true ∧ d = c.toNat - '0'.toNat := by
  rw [isDigit_iff]
  unfold digitValue?
  split
  next hdigit =>
    rw [Option.some.injEq]
    exact ⟨fun h => ⟨hdigit, h.symm⟩, fun h => h.2.symm⟩
  next hdigit =>
    simp only [hdigit, false_and, iff_false]
    intro h
    split at h
    · simp only [Option.some.injEq] at h
      omega
    · split at h
      · simp only [Option.some.injEq] at h
        omega
      · contradiction

theorem le_ofDigitChars (digits : List Char) (value : Nat) :
    value ≤ Nat.ofDigitChars 10 digits value := by
  rw [Nat.ofDigitChars_eq_ofDigitChars_zero]
  have hpow : 0 < 10 ^ digits.length := by positivity
  have hmul := Nat.le_mul_of_pos_left value hpow
  omega

/-- Digits are read as their value, as long as it stays in range. -/
theorem readDigits_eq_ok_iff {bits value n : Nat} {digits : List Char} (hvalue : value < 2 ^ bits) :
    readDigits bits 10 value digits = .ok n ↔
      (∀ c ∈ digits, c.isDigit = true) ∧ n = Nat.ofDigitChars 10 digits value ∧ n < 2 ^ bits := by
  induction digits generalizing value with
  | nil =>
      simp only [readDigits, Except.ok.injEq, List.not_mem_nil, false_implies, implies_true,
        true_and, Nat.ofDigitChars_nil]
      constructor
      · rintro rfl
        exact ⟨rfl, hvalue⟩
      · exact fun h => h.1.symm
  | cons c rest ih =>
      rw [List.forall_mem_cons, Nat.ofDigitChars_cons]
      unfold readDigits
      by_cases hdigit : c.isDigit = true
      · have hlt : c.toNat - '0'.toNat < 10 := by
          have hhigh : c.toNat ≤ '9'.toNat := (isDigit_iff.mp hdigit).2
          simp only [Char.reduceToNat] at hhigh ⊢
          omega
        rw [(digitValue?_eq_some_iff hlt).mpr ⟨hdigit, rfl⟩]
        simp only [Nat.not_le.mpr hlt, if_false, hdigit, true_and, Nat.pow_eq,
          Nat.mul_comm value 10]
        split
        next hrange =>
          -- What follows the digit that leaves the range cannot lead back into it.
          have hle := le_ofDigitChars rest (10 * value + (c.toNat - '0'.toNat))
          simp only [reduceCtorEq, false_iff, not_and]
          intro _ hn
          omega
        next hrange => exact ih (Nat.not_le.mp hrange)
      · refine iff_of_false ?_ fun h => hdigit h.1.1
        split
        next => simp
        next d hd =>
          split
          next => simp
          next hlt =>
            exact absurd ((digitValue?_eq_some_iff (Nat.not_le.mp hlt)).mp hd).1 hdigit

/-! ## Numerals of words -/

theorem signedWord_eq_ok_iff {negative : Bool} {magnitude : Nat} {n : Int64} :
    signedWord 64 negative magnitude = .ok n ↔
      n.toInt = if negative then -(magnitude : Int) else magnitude := by
  have hlow := n.le_toInt
  have hhigh := n.toInt_lt
  cases negative with
  | false =>
      simp only [signedWord, Bool.false_eq_true, if_false, Nat.pow_eq]
      split
      next => simp only [reduceCtorEq, false_iff]; omega
      next =>
        rw [Except.ok.injEq, ← Int64.toInt_inj, Int64.toInt_ofInt_of_le (by omega) (by omega)]
        exact eq_comm
  | true =>
      simp only [signedWord, if_true, Nat.pow_eq]
      split
      next => simp only [reduceCtorEq, false_iff]; omega
      next =>
        rw [Except.ok.injEq, ← Int64.toInt_inj, Int64.toInt_ofInt_of_le (by omega) (by omega)]
        exact eq_comm

theorem readDecimal_of_splitSign {text digits : List Char} {negative : Bool}
    (hsign : splitSign text = (negative, digits)) {n : Int64} :
    readDecimal text = .ok n ↔ digits ≠ [] ∧ (∀ c ∈ digits, c.isDigit = true) ∧
      n.toInt = if negative then -(Nat.ofDigitChars 10 digits 0 : Int)
        else Nat.ofDigitChars 10 digits 0 := by
  have hrange : ∀ magnitude : Nat,
      (n.toInt = if negative then -(magnitude : Int) else magnitude) → magnitude < 2 ^ 64 := by
    intro magnitude h
    have hlow := n.le_toInt
    have hhigh := n.toInt_lt
    split at h <;> omega
  rw [readDecimal, readDecimalIn, hsign]
  cases digits with
  | nil => simp
  | cons c rest =>
      simp only [bind, Except.bind, ne_eq, reduceCtorEq, not_false_eq_true, true_and]
      cases hread : readDigits 64 10 0 (c :: rest) with
      | error e =>
          simp only [reduceCtorEq, false_iff]
          rintro ⟨hdigits, hn⟩
          rw [(readDigits_eq_ok_iff (by decide)).mpr ⟨hdigits, rfl, hrange _ hn⟩] at hread
          contradiction
      | ok magnitude =>
          obtain ⟨hdigits, rfl, _⟩ := (readDigits_eq_ok_iff (by decide)).mp hread
          rw [signedWord_eq_ok_iff]
          exact ⟨fun hn => ⟨hdigits, hn⟩, fun h => h.2⟩

theorem splitSign_of_isDigit {digits : List Char} (h : ∀ c ∈ digits, c.isDigit = true) :
    splitSign digits = (false, digits) := by
  unfold splitSign
  split
  · simp at h
  · simp at h
  · rfl

/-- A text is read as a word exactly if it is a numeral of the word. -/
theorem readDecimal_eq_ok_iff {text : List Char} {n : Int64} :
    readDecimal text = .ok n ↔ Numeral text n.toInt := by
  constructor
  · intro h
    cases hsign : splitSign text with
    | mk negative digits =>
        obtain ⟨hne, hdigits, hn⟩ := (readDecimal_of_splitSign hsign).mp h
        rw [hn]
        unfold splitSign at hsign
        split at hsign
        · cases hsign
          exact .minus hne hdigits
        · cases hsign
          exact .plus hne hdigits
        · cases hsign
          exact .unsigned hne hdigits
  · intro h
    generalize hn : n.toInt = value at h
    cases h with
    | unsigned hne hdigits =>
        exact (readDecimal_of_splitSign (splitSign_of_isDigit hdigits)).mpr ⟨hne, hdigits, hn⟩
    | plus hne hdigits => exact (readDecimal_of_splitSign rfl).mpr ⟨hne, hdigits, hn⟩
    | minus hne hdigits => exact (readDecimal_of_splitSign rfl).mpr ⟨hne, hdigits, hn⟩

/-! ## The text of a word -/

theorem toList_text {n : Int64} (hn : 0 ≤ n) : (text n).toList = Nat.toDigits 10 n.toInt.toNat := by
  obtain ⟨m, hm⟩ := Int.eq_ofNat_of_zero_le (Word.toInt_nonneg.mp hn)
  rw [text, hm, Int.toNat_natCast, ← Nat.toList_repr]
  rfl

theorem isDigit_of_mem_text {n : Int64} (hn : 0 ≤ n) {c : Char} (hc : c ∈ (text n).toList) :
    c.isDigit = true := by
  rw [toList_text hn] at hc
  exact Nat.isDigit_of_mem_toDigits (by decide) (by decide) hc

/-- A word that is not negative is written as a numeral of itself. -/
theorem numeral_text {n : Int64} (hn : 0 ≤ n) : Numeral (text n).toList n.toInt := by
  have hvalue : (Nat.ofDigitChars 10 (text n).toList 0 : Int) = n.toInt := by
    rw [toList_text hn, Nat.ofDigitChars_ten_toDigits,
      Int.toNat_of_nonneg (Word.toInt_nonneg.mp hn)]
  rw [← hvalue]
  refine .unsigned ?_ fun c hc => isDigit_of_mem_text hn hc
  rw [toList_text hn]
  exact Nat.toDigits_ne_nil

end Interlock.Number
