import Interlock.Proofs.Register.Spelling

/-! # How many registers an operand names

The width of a register is a word, and a general register file may have one index more than a word
can count. An operand that names fewer registers is read as a sound register of exactly its width.
The operand that names a whole file is read as well, but as a register of negative width.
-/

namespace Interlock

namespace Operand

/-- The number of registers that an operand names. -/
def width : Operand → Int
  | .vcc | .exec => 2
  | .m0 | .single _ _ => 1
  | .range _ low high => high - low + 1

variable {o : Operand} {text : List Char}

theorem Spelled.width_pos (h : o.Spelled text) : 0 < o.width := by
  cases h with
  | range =>
      simp only [width]
      omega
  | _ => simp [width]

/-- Only the whole of a file has more registers than a word can count. -/
theorem Spelled.width_lt_or (h : o.Spelled text) :
    o.width < 2 ^ 63 ∨ o.width = 2 ^ 63 ∧ ∃ file, o = .range file 0 (2 ^ 63 - 1) := by
  cases h with
  | @range file _ _ _ low high =>
      by_cases hwhole : low = 0 ∧ high = 2 ^ 63 - 1
      · obtain ⟨rfl, rfl⟩ := hwhole
        exact Or.inr ⟨rfl, file, rfl⟩
      · left
        simp only [width]
        omega
  | _ => exact Or.inl (by simp [width])

/-- The width of a register is that of the operand, as a word. -/
theorem register_count (o : Operand) : o.register.count = .ofInt o.width := by
  cases o with
  | range file low high => simp only [register, width, Int64.ofInt_add, Int64.ofInt_sub]; rfl
  | _ => rfl

/-- A register that was read can only be unsound in its width. -/
theorem Spelled.defect?_register (h : o.Spelled text) :
    o.register.defect? =
      if o.register.count ≤ 0 then some (.nonPositiveCount o.register) else none := by
  have hword : ∀ n : Int, 0 ≤ n → n < 2 ^ 63 → ¬ Int64.ofInt n < 0 := by
    intro n hlow hhigh
    rw [Int64.not_lt, Word.toInt_nonneg, Int64.toInt_ofInt_of_le (by omega) hhigh]
    exact hlow
  cases h with
  | vcc => decide
  | exec => decide
  | m0 => decide
  | single hletter _ hlow hhigh =>
      cases hletter <;> simp [Register.defect?, register, hword _ hlow hhigh]
  | range hletter _ _ hlow hle hhigh =>
      cases hletter <;> simp [Register.defect?, register, hword _ hlow (by omega)]

end Operand

namespace Register

/-- A register that was read can be written and read again. It is sound and has as many registers as
the operand names, unless the operand names a whole file: then its width wraps around to the least
word, and the register is unsound. -/
theorem parsed_register_counted {operand : String} {r : Register} (h : parse operand = .ok r) :
    let text := Text.lower (Text.trim operand.toList)
    parse r.text = .ok r ∧ (∃ o : Operand, o.Spelled text) ∧
      ∀ o : Operand, o.Spelled text → r = o.register ∧ 0 < o.width ∧
        (o.width < 2 ^ 63 → r.defect? = none ∧ r.count.toInt = o.width) ∧
        (2 ^ 63 ≤ o.width → (∃ file, o = .range file 0 (2 ^ 63 - 1)) ∧
          r.count.toInt = -2 ^ 63 ∧ r.defect? = some (.nonPositiveCount r)) := by
  intro text
  obtain ⟨o, hspelled, _⟩ := parse_eq_ok_iff.mp h
  refine ⟨parse_text (spellable_of_parse h), ⟨o, hspelled⟩, ?_⟩
  intro o hspelled
  have hread := parse_eq_ok_iff.mpr ⟨o, hspelled, rfl⟩
  rw [h, Except.ok.injEq] at hread
  subst hread
  have hpos := hspelled.width_pos
  refine ⟨rfl, hpos, ?_, ?_⟩
  · intro hlt
    have hcount : o.register.count.toInt = o.width := by
      rw [o.register_count, Int64.toInt_ofInt_of_le (by omega) hlt]
    refine ⟨?_, hcount⟩
    rw [hspelled.defect?_register, if_neg]
    rw [Int64.le_iff_toInt_le, hcount, Int64.toInt_zero]
    omega
  · intro hle
    obtain ⟨hwidth, hwhole⟩ := hspelled.width_lt_or.resolve_left (by omega)
    have hcount : o.register.count = Int64.minValue := by
      rw [o.register_count, hwidth]
      decide
    refine ⟨hwhole, by rw [hcount]; decide, ?_⟩
    rw [hspelled.defect?_register, if_pos]
    rw [hcount]
    decide

-- All scalar registers but the first: the widest range that can be counted.
theorem parsed_register_counted_widest :
    let operand := "s[1:9223372036854775807]"
    let r : Register := .scalar 1 9223372036854775807
    parse operand = .ok r ∧ parse r.text = .ok r ∧ r.defect? = none ∧
      ∃ o : Operand, o.Spelled (Text.lower (Text.trim operand.toList)) ∧
        r.count.toInt = o.width := by
  intro operand r
  have hparse : parse operand = .ok r := by decide
  obtain ⟨hback, ⟨o, hspelled⟩, hall⟩ := parsed_register_counted hparse
  obtain ⟨_, _, hcounted, hwrapped⟩ := hall o hspelled
  have hlt : o.width < 2 ^ 63 := by
    by_contra hle
    exact absurd (hwrapped (by omega)).2.1 (by decide)
  exact ⟨hparse, hback, (hcounted hlt).1, o, hspelled, (hcounted hlt).2⟩

/-- The operand of all vector registers is accepted, but as an unsound register whose width is not
the number of registers that are named. -/
theorem whole_file_width_wraps :
    let operand := "v[0:9223372036854775807]"
    let r : Register := .vector 0 Int64.minValue
    parse operand = .ok r ∧ r.defect? = some (.nonPositiveCount r) ∧
      ∃ o : Operand, o.Spelled (Text.lower (Text.trim operand.toList)) ∧ o.width = 2 ^ 63 ∧
        r.count.toInt ≠ o.width := by
  intro operand r
  have hparse : parse operand = .ok r := by decide
  obtain ⟨o, hspelled, hr⟩ := parse_eq_ok_iff.mp hparse
  have hcount : r.count.toInt = -2 ^ 63 := by decide
  have hpos := hspelled.width_pos
  have hwidth : o.width = 2 ^ 63 := by
    rcases hspelled.width_lt_or with hlt | ⟨heq, _⟩
    · rw [hr, o.register_count, Int64.toInt_ofInt_of_le (by omega) hlt] at hcount
      omega
    · exact heq
  exact ⟨hparse, by decide, o, hspelled, hwidth, by omega⟩

end Register

end Interlock
