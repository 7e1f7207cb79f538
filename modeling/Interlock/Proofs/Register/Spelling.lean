import Interlock.Proofs.Register.Grammar

/-! # The spelling of registers

A register that was read from a text is spelled in one way, whatever the text was, and its spelling
is read as the register itself.
-/

namespace Interlock

namespace Text

/-- Whether trimming and lower-casing leave a character as it is. -/
def isFolded (c : Char) : Bool :=
  !isBlank c && lowerChar c == c

theorem trim_of_folded {text : List Char} (h : ∀ c ∈ text, isFolded c = true) :
    trim text = text := by
  have hblank : ∀ c ∈ text, isBlank c = false := by
    intro c hc
    have hfolded := h c hc
    simp only [isFolded, Bool.and_eq_true, Bool.not_eq_true'] at hfolded
    exact hfolded.1
  have hkept : ∀ text : List Char, (∀ c ∈ text, isBlank c = false) →
      text.dropWhile isBlank = text := by
    intro text htext
    cases text with
    | nil => rfl
    | cons c rest => simp [htext c]
  rw [trim, hkept text hblank, hkept text.reverse (by simpa using hblank), List.reverse_reverse]

theorem lower_trim_of_folded {text : List Char} (h : ∀ c ∈ text, isFolded c = true) :
    lower (trim text) = text := by
  have hlower : ∀ c ∈ text, lowerChar c = id c := by
    intro c hc
    have hfolded := h c hc
    simp only [isFolded, Bool.and_eq_true, beq_iff_eq] at hfolded
    exact hfolded.2
  rw [trim_of_folded h, lower, List.map_congr_left hlower, List.map_id]

theorem isFolded_of_isDigit {c : Char} (hc : c.isDigit = true) : isFolded c = true := by
  obtain ⟨hlow, hhigh⟩ : 48 ≤ c.toNat ∧ c.toNat ≤ 57 := by
    simpa [Char.isDigit, UInt32.le_iff_toNat_le] using hc
  rw [← Char.ofNat_toNat c]
  generalize c.toNat = n at hlow hhigh
  interval_cases n <;> decide

end Text

namespace Register

/-- The registers that have a spelling: the special ones, and ranges of general registers. The
number of registers of a range may wrap around. -/
inductive Spellable : Register → Prop
  | vcc : Spellable vcc
  | exec : Spellable exec
  | m0 : Spellable m0
  | range {letter : Char} {file : RegisterFile} {first last : Int64}
      (hletter : RegisterFile.ofLetter? letter = some file) (hfirst : 0 ≤ first)
      (hlast : first ≤ last) : Spellable ⟨file, first, last - first + 1⟩

/-! ## What is read can be spelled -/

theorem spellable_register {o : Operand} {text : List Char} (h : o.Spelled text) :
    Spellable o.register := by
  cases h with
  | vcc => exact .vcc
  | exec => exact .exec
  | m0 => exact .m0
  | @single file letter _ index hletter _ hlow hhigh =>
      have hone : (1 : Int64) = .ofInt index - .ofInt index + 1 := by simp
      rw [Operand.register, hone]
      refine .range (RegisterFile.ofLetter?_eq_some_iff.mpr hletter) ?_ (Int64.le_refl _)
      rwa [Word.toInt_nonneg, Int64.toInt_ofInt_of_le (by omega) hhigh]
  | @range file letter _ _ low high hletter _ _ hlow hle hhigh =>
      refine .range (RegisterFile.ofLetter?_eq_some_iff.mpr hletter) ?_ ?_
      · rwa [Word.toInt_nonneg, Int64.toInt_ofInt_of_le (by omega) (by omega)]
      · rwa [Int64.le_iff_toInt_le, Int64.toInt_ofInt_of_le (by omega) (by omega),
          Int64.toInt_ofInt_of_le (by omega) hhigh]

theorem spellable_of_parse {operand : String} {r : Register} (h : parse operand = .ok r) :
    Spellable r := by
  obtain ⟨o, hspelled, rfl⟩ := exists_spelled_of_parseFolded h
  exact spellable_register hspelled

/-! ## What is spelled can be read -/

theorem isFolded_of_named {file : RegisterFile} {letter : Char} (h : file.NamedBy letter) :
    Text.isFolded letter = true := by
  cases h <;> decide

theorem isFolded_of_numeral {text : List Char} {value : Int} (h : Number.Numeral text value) :
    ∀ c ∈ text, Text.isFolded c = true := by
  intro c hc
  rcases h.digit_or_sign c hc with hdigit | rfl | rfl
  · exact Text.isFolded_of_isDigit hdigit
  · decide
  · decide

theorem isFolded_of_spelled {o : Operand} {text : List Char} (h : o.Spelled text) :
    ∀ c ∈ text, Text.isFolded c = true := by
  cases h with
  | vcc => exact List.all_eq_true.mp (by decide)
  | exec => exact List.all_eq_true.mp (by decide)
  | m0 => exact List.all_eq_true.mp (by decide)
  | single hletter hindex =>
      exact List.forall_mem_cons.mpr ⟨isFolded_of_named hletter, isFolded_of_numeral hindex⟩
  | range hletter hfirst hlast =>
      simp only [List.forall_mem_cons, List.forall_mem_append, List.not_mem_nil, false_implies,
        implies_true, and_true]
      exact ⟨isFolded_of_named hletter, by decide, isFolded_of_numeral hfirst, by decide,
        isFolded_of_numeral hlast, by decide⟩

theorem toList_text {file : RegisterFile} {letter : Char} (hletter : file.NamedBy letter)
    (index count : Int64) :
    (Register.mk file index count).text.toList =
      letter :: if count = 1 then (Number.text index).toList
        else '[' :: ((Number.text index).toList ++
          ':' :: ((Number.text (index + count - 1)).toList ++ [']'])) := by
  cases hletter
  all_goals
    simp only [text, RegisterFile.letter, last]
    split
    · simp
    · simp

/-- The text of a register spells an operand that names it. -/
theorem exists_spelled_text {r : Register} (h : Spellable r) :
    ∃ o : Operand, o.Spelled r.text.toList ∧ r = o.register := by
  cases h with
  | vcc => exact ⟨.vcc, .vcc, rfl⟩
  | exec => exact ⟨.exec, .exec, rfl⟩
  | m0 => exact ⟨.m0, .m0, rfl⟩
  | @range letter file first last hletter hfirst hlast =>
      have hback : first + (last - first + 1) - 1 = last := by grind
      have hnamed := RegisterFile.ofLetter?_eq_some_iff.mp hletter
      have hlow := Word.toInt_nonneg.mp hfirst
      have hle := Int64.le_iff_toInt_le.mp hlast
      rw [toList_text hnamed, hback]
      by_cases hone : last - first + 1 = 1
      · rw [if_pos hone, hone]
        refine ⟨_, .single hnamed (Number.numeral_text hfirst) hlow first.toInt_lt, ?_⟩
        simp only [Operand.register, Int64.ofInt_toInt]
      · rw [if_neg hone]
        refine ⟨_, .range hnamed (Number.numeral_text hfirst)
          (Number.numeral_text (Int64.le_trans hfirst hlast)) hlow hle last.toInt_lt, ?_⟩
        simp only [Operand.register, Int64.ofInt_toInt]

/-- The spelling of a register is read as the register. -/
theorem parse_text {r : Register} (h : Spellable r) : parse r.text = .ok r := by
  obtain ⟨o, hspelled, hregister⟩ := exists_spelled_text h
  rw [parse, Text.lower_trim_of_folded (isFolded_of_spelled hspelled),
    parseFolded_of_spelled hspelled, ← hregister]

/-! ## Lists of operands -/

theorem spellable_of_parseAll {operands : List String} {regs : List Register}
    (h : parseAll operands = .ok regs) : ∀ r ∈ regs, Spellable r := by
  induction operands generalizing regs with
  | nil =>
      cases h
      simp
  | cons operand rest ih =>
      unfold parseAll at h
      cases hfirst : parse operand with
      | error e => simp [hfirst] at h
      | ok r =>
          cases hrest : parseAll rest with
          | error e => simp [hfirst, hrest] at h
          | ok regs =>
              simp only [hfirst, hrest, Except.ok.injEq] at h
              subst h
              exact List.forall_mem_cons.mpr ⟨spellable_of_parse hfirst, ih hrest⟩

theorem parseAll_map_text {regs : List Register} (h : ∀ r ∈ regs, Spellable r) :
    parseAll (regs.map text) = .ok regs := by
  induction regs with
  | nil => rfl
  | cons r rest ih =>
      obtain ⟨hfirst, hrest⟩ := List.forall_mem_cons.mp h
      simp only [List.map_cons, parseAll, parse_text hfirst, ih hrest]

end Register

end Interlock
