import Interlock.Proofs.Number.Decimal
import Interlock.Register

/-! # The grammar of register operands

An operand names a special register, one general register or a range of them. The grammar says how
operands are spelled, once case and surrounding blanks are dealt with. The reader accepts exactly
what the grammar derives and gives back the register that is named. Reading cuts the text at two
places, and both cuts lie within the text whatever it holds.
-/

namespace Interlock

/-- A letter stands for a general register file. -/
inductive RegisterFile.NamedBy : RegisterFile → Char → Prop
  | vector : NamedBy .vector 'v'
  | accumulation : NamedBy .accumulation 'a'
  | scalar : NamedBy .scalar 's'

theorem RegisterFile.ofLetter?_eq_some_iff {file : RegisterFile} {letter : Char} :
    ofLetter? letter = some file ↔ file.NamedBy letter := by
  constructor
  · intro h
    unfold ofLetter? at h
    split at h
    · cases h
      exact .vector
    · cases h
      exact .accumulation
    · cases h
      exact .scalar
    · cases h
  · intro h
    cases h <;> rfl

/-- What an operand names. The indices of general registers are exact. -/
inductive Operand where
  | vcc
  | exec
  | m0
  | single (file : RegisterFile) (index : Int)
  | range (file : RegisterFile) (low high : Int)
deriving DecidableEq, Repr

namespace Operand

/-- The spellings of an operand. -/
inductive Spelled : Operand → List Char → Prop
  | vcc : Spelled .vcc ['v', 'c', 'c']
  | exec : Spelled .exec ['e', 'x', 'e', 'c']
  | m0 : Spelled .m0 ['m', '0']
  | single {file : RegisterFile} {letter : Char} {body : List Char} {index : Int}
      (hletter : file.NamedBy letter) (hindex : Number.Numeral body index) (hlow : 0 ≤ index)
      (hhigh : index < 2 ^ 63) : Spelled (.single file index) (letter :: body)
  | range {file : RegisterFile} {letter : Char} {first last : List Char} {low high : Int}
      (hletter : file.NamedBy letter) (hfirst : Number.Numeral first low)
      (hlast : Number.Numeral last high) (hlow : 0 ≤ low) (hle : low ≤ high)
      (hhigh : high < 2 ^ 63) :
      Spelled (.range file low high) (letter :: '[' :: (first ++ ':' :: (last ++ [']'])))

/-- The register that an operand names. The width of a range is computed in words. -/
def register : Operand → Register
  | .vcc => .vcc
  | .exec => .exec
  | .m0 => .m0
  | .single file index => ⟨file, .ofInt index, 1⟩
  | .range file low high => ⟨file, .ofInt low, .ofInt high - .ofInt low + 1⟩

end Operand

namespace Register

variable {file : RegisterFile} {letter : Char}

/-! ## What is spelled can be read -/

theorem parseBody_index (text : String) (file : RegisterFile) {body : List Char} {index : Int64}
    (hbody : Number.Numeral body index.toInt) (h : 0 ≤ index) :
    parseBody text file body = .ok ⟨file, index, 1⟩ := by
  have hread := Number.readDecimal_eq_ok_iff.mpr hbody
  unfold parseBody
  split
  · exact absurd (hbody.digit_or_sign '[' List.mem_cons_self) (by decide)
  · simp only [hread, Int64.not_lt.mpr h, if_false]

theorem parseBody_range (text : String) (file : RegisterFile) {low high : List Char}
    {first last : Int64} (hlow : Number.Numeral low first.toInt)
    (hhigh : Number.Numeral high last.toInt) (hfirst : 0 ≤ first) (hlast : first ≤ last) :
    parseBody text file ('[' :: (low ++ ':' :: (high ++ [']']))) =
      .ok ⟨file, first, last - first + 1⟩ := by
  have hreadLow := Number.readDecimal_eq_ok_iff.mpr hlow
  have hreadHigh := Number.readDecimal_eq_ok_iff.mpr hhigh
  have hcolon : ∀ c ∈ low, c ≠ ':' := by
    rintro c hc rfl
    exact absurd (hlow.digit_or_sign ':' hc) (by decide)
  have hsplit : (low ++ ':' :: high).span (· ≠ ':') = (low, ':' :: high) := by
    rw [List.span_eq_takeWhile_dropWhile, List.takeWhile_append_of_pos (by simpa using hcolon),
      List.dropWhile_append_of_pos (by simpa using hcolon)]
    simp
  have hinside : low ++ ':' :: (high ++ [']']) = (low ++ ':' :: high) ++ [']'] := by simp
  have hrange : ¬ (first < 0 ∨ last < first) := by
    rw [not_or, Int64.not_lt, Int64.not_lt]
    exact ⟨hfirst, hlast⟩
  simp only [parseBody, hinside, List.getLast?_concat, List.dropLast_concat, hsplit, hreadLow,
    hreadHigh, hrange, ne_eq, not_true_eq_false, if_false]

theorem parseFolded_cons (hletter : file.NamedBy letter) {body : List Char}
    (hbody : body.head? ≠ some 'c') :
    parseFolded (letter :: body) = parseBody (String.ofList (letter :: body)) file body := by
  unfold parseFolded
  split
  next heq =>
    cases heq
    simp at hbody
  next heq =>
    cases heq
    cases hletter
  next heq =>
    cases heq
    cases hletter
  next heq => cases heq
  next heq =>
    cases heq
    simp only [RegisterFile.ofLetter?_eq_some_iff.mpr hletter]

/-- An operand is read as the register that it names. -/
theorem parseFolded_of_spelled {o : Operand} {text : List Char} (h : o.Spelled text) :
    parseFolded text = .ok o.register := by
  cases h with
  | vcc => rfl
  | exec => rfl
  | m0 => rfl
  | @single file letter body index hletter hindex hlow hhigh =>
      have hword : (Int64.ofInt index).toInt = index :=
        Int64.toInt_ofInt_of_le (by omega) hhigh
      rw [parseFolded_cons hletter, parseBody_index _ _ (hword.symm ▸ hindex)]
      · rfl
      · rw [Word.toInt_nonneg, hword]
        exact hlow
      · intro hhead
        exact absurd (hindex.digit_or_sign 'c' (List.mem_of_head? hhead)) (by decide)
  | @range file letter first last low high hletter hfirst hlast hlow hle hhigh =>
      have hlowWord : (Int64.ofInt low).toInt = low :=
        Int64.toInt_ofInt_of_le (by omega) (by omega)
      have hhighWord : (Int64.ofInt high).toInt = high :=
        Int64.toInt_ofInt_of_le (by omega) hhigh
      rw [parseFolded_cons hletter (by simp),
        parseBody_range _ _ (hlowWord.symm ▸ hfirst) (hhighWord.symm ▸ hlast)]
      · rfl
      · rw [Word.toInt_nonneg, hlowWord]
        exact hlow
      · rw [Int64.le_iff_toInt_le, hlowWord, hhighWord]
        exact hle

/-! ## What is read is spelled -/

/-- A text that is cut at its first `mark` is put together again around the mark. -/
theorem eq_of_span {mark c : Char} {text before after : List Char}
    (h : text.span (· ≠ mark) = (before, c :: after)) : text = before ++ mark :: after := by
  rw [List.span_eq_takeWhile_dropWhile, Prod.mk.injEq] at h
  obtain ⟨hbefore, hafter⟩ := h
  have hmark := List.head?_dropWhile_not (· ≠ mark) text
  rw [hafter] at hmark
  simp only [List.head?_cons, ne_eq, decide_not, Bool.not_eq_false', decide_eq_true_eq] at hmark
  rw [← List.takeWhile_append_dropWhile (p := (· ≠ mark)) (l := text), hbefore, hafter, hmark]

theorem exists_spelled_of_parseBody (hletter : file.NamedBy letter) {text : String}
    {body : List Char} {r : Register} (h : parseBody text file body = .ok r) :
    ∃ o : Operand, o.Spelled (letter :: body) ∧ r = o.register := by
  unfold parseBody at h
  split at h
  next inside =>
    split at h
    · cases h
    next hlast =>
      obtain ⟨front, rfl⟩ := List.getLast?_eq_some_iff.mp (not_not.mp hlast)
      rw [List.dropLast_concat] at h
      split at h
      · cases h
      next low _ high hcut =>
        split at h
        · cases h
        next first hfirst =>
          split at h
          · cases h
          next last hlast =>
            split at h
            · cases h
            next hrange =>
              cases h
              rw [not_or, Int64.not_lt, Int64.not_lt, Word.toInt_nonneg, Int64.le_iff_toInt_le]
                at hrange
              rw [eq_of_span hcut, List.append_assoc, List.cons_append]
              refine ⟨_, .range hletter (Number.readDecimal_eq_ok_iff.mp hfirst)
                (Number.readDecimal_eq_ok_iff.mp hlast) hrange.1 hrange.2 last.toInt_lt, ?_⟩
              simp only [Operand.register, Int64.ofInt_toInt]
  next =>
    split at h
    · cases h
    next index hread =>
      split at h
      · cases h
      next hindex =>
        cases h
        rw [Int64.not_lt, Word.toInt_nonneg] at hindex
        have hnumeral := Number.readDecimal_eq_ok_iff.mp hread
        refine ⟨_, .single hletter hnumeral hindex index.toInt_lt, ?_⟩
        simp only [Operand.register, Int64.ofInt_toInt]

theorem exists_spelled_of_parseFolded {text : List Char} {r : Register}
    (h : parseFolded text = .ok r) : ∃ o : Operand, o.Spelled text ∧ r = o.register := by
  unfold parseFolded at h
  split at h
  · cases h
    exact ⟨.vcc, .vcc, rfl⟩
  · cases h
    exact ⟨.exec, .exec, rfl⟩
  · cases h
    exact ⟨.m0, .m0, rfl⟩
  · cases h
  next letter body _ _ _ =>
    cases hletter : RegisterFile.ofLetter? letter with
    | none => simp [hletter] at h
    | some file =>
        simp only [hletter] at h
        exact exists_spelled_of_parseBody (RegisterFile.ofLetter?_eq_some_iff.mp hletter) h

/-- The reader accepts exactly the operands of the grammar, and reads each as the register that it
names. -/
theorem parse_eq_ok_iff {operand : String} {r : Register} :
    parse operand = .ok r ↔
      ∃ o : Operand, o.Spelled (Text.lower (Text.trim operand.toList)) ∧ r = o.register := by
  constructor
  · exact exists_spelled_of_parseFolded
  · rintro ⟨o, hspelled, rfl⟩
    exact parseFolded_of_spelled hspelled

end Register

/-! ## Octets -/

namespace Text

/-- The octets of a text. -/
def octets (text : List Char) : List UInt8 :=
  text.flatMap String.utf8EncodeChar

/-- The octets from `low` up to `high`, if these bounds are in order and within the text. -/
def cut? (octets : List UInt8) (low high : Nat) : Option (List UInt8) :=
  if low ≤ high ∧ high ≤ octets.length then some ((octets.take high).drop low) else none

@[simp] theorem octets_nil : octets [] = [] := rfl

@[simp] theorem octets_cons (c : Char) (text : List Char) :
    octets (c :: text) = String.utf8EncodeChar c ++ octets text :=
  List.flatMap_cons

@[simp] theorem octets_append (first second : List Char) :
    octets (first ++ second) = octets first ++ octets second :=
  List.flatMap_append

/-- No octet of a character is that of another character in ASCII. -/
theorem eq_of_mem_encode {c d : Char} (hascii : c.toNat < 128)
    (h : c.toUInt8 ∈ String.utf8EncodeChar d) : d = c := by
  have hoctet : c.toUInt8.toNat = c.toNat := by
    rw [Char.toUInt8, UInt32.toNat_toUInt8, Char.toNat_val]
    omega
  rw [← Char.toNat_inj]
  unfold String.utf8EncodeChar at h
  rw [Char.toNat_val] at h
  dsimp only at h
  split at h
  · rw [List.mem_singleton] at h
    rw [h, UInt8.toNat_ofNat'] at hoctet
    omega
  · -- The octets of a longer character are all above those of ASCII.
    obtain ⟨n, hn, hlow, hhigh⟩ : ∃ n, c.toUInt8 = UInt8.ofNat n ∧ 128 ≤ n ∧ n < 256 := by
      split at h
      · simp only [List.mem_cons, List.not_mem_nil, or_false] at h
        rcases h with h | h
        all_goals exact ⟨_, h, by omega, by omega⟩
      · split at h
        · simp only [List.mem_cons, List.not_mem_nil, or_false] at h
          rcases h with h | h | h
          all_goals exact ⟨_, h, by omega, by omega⟩
        · simp only [List.mem_cons, List.not_mem_nil, or_false] at h
          rcases h with h | h | h | h
          all_goals exact ⟨_, h, by omega, by omega⟩
    rw [hn, UInt8.toNat_ofNat'] at hoctet
    omega

theorem head?_of_octets {text : List Char} {c : Char} (hascii : c.toNat < 128)
    (h : (octets text).head? = some c.toUInt8) : text.head? = some c := by
  cases text with
  | nil => simp at h
  | cons d rest =>
      rw [octets_cons, List.head?_append_of_ne_nil _ String.utf8EncodeChar_ne_nil] at h
      rw [List.head?_cons, eq_of_mem_encode hascii (List.mem_of_head? h)]

theorem getLast?_of_octets {text : List Char} {c : Char} (hascii : c.toNat < 128)
    (h : (octets text).getLast? = some c.toUInt8) : text.getLast? = some c := by
  rcases List.eq_nil_or_concat' text with rfl | ⟨front, d, rfl⟩
  · simp at h
  · rw [octets_append, octets_cons, octets_nil, List.append_nil,
      List.getLast?_append_of_ne_nil _ String.utf8EncodeChar_ne_nil] at h
    rw [List.getLast?_concat, eq_of_mem_encode hascii (List.mem_of_getLast? h)]

end Text

namespace Register

/-- The places at which reading an operand looks into the text: its first octet, the text behind
that, and where this is in brackets, the text between them. -/
structure CutsWithin (text : List Char) : Prop where
  first : text ≠ [] → 0 < (Text.octets text).length
  behind : ∀ letter body, text = letter :: body → ∀ file : RegisterFile, file.NamedBy letter →
    Text.cut? (Text.octets text) 1 (Text.octets text).length = some (Text.octets body)
  between : ∀ letter body, text = letter :: body →
    (Text.octets body).head? = some '['.toUInt8 → (Text.octets body).getLast? = some ']'.toUInt8 →
    ∃ inner, body = '[' :: (inner ++ [']']) ∧
      Text.cut? (Text.octets body) 1 ((Text.octets body).length - 1) = some (Text.octets inner)

theorem cutsWithin (text : List Char) : CutsWithin text := by
  refine ⟨?_, ?_, ?_⟩
  · intro hne
    cases text with
    | nil => contradiction
    | cons c rest =>
        rw [Text.octets_cons, List.length_append, String.length_utf8EncodeChar]
        have hsize := c.utf8Size_pos
        omega
  · rintro letter body rfl file hletter
    have hencode : String.utf8EncodeChar letter = [letter.toUInt8] := by
      cases hletter <;> rfl
    simp [Text.cut?, hencode]
  · rintro letter body rfl hhead hlast
    have hopen := Text.head?_of_octets (by decide) hhead
    obtain ⟨front, rfl⟩ := List.getLast?_eq_some_iff.mp (Text.getLast?_of_octets (by decide) hlast)
    cases front with
    | nil => simp at hopen
    | cons c inner =>
        rw [List.cons_append, List.head?_cons, Option.some.injEq] at hopen
        subst hopen
        have hbracket : String.utf8EncodeChar '[' = ['['.toUInt8] := rfl
        have hbracket' : String.utf8EncodeChar ']' = [']'.toUInt8] := rfl
        exact ⟨inner, rfl, by simp [Text.cut?, hbracket, hbracket']⟩

/-- A text is an operand exactly if the grammar derives it without its surrounding blanks and in
lower case; it is then read as the register that it names, and every other text is an error. On no
text does reading look beyond an end. -/
theorem operand_read_exactly (operand : String) :
    let text := Text.lower (Text.trim operand.toList)
    (∀ r, parse operand = .ok r ↔ ∃ o : Operand, o.Spelled text ∧ r = o.register) ∧
      ((∃ e, parse operand = .error e) ↔ ∀ o : Operand, ¬ o.Spelled text) ∧ CutsWithin text := by
  intro text
  refine ⟨fun r => parse_eq_ok_iff, ?_, cutsWithin text⟩
  constructor
  · rintro ⟨e, herror⟩ o hspelled
    rw [parse_eq_ok_iff.mpr ⟨o, hspelled, rfl⟩] at herror
    contradiction
  · intro hnone
    cases hparse : parse operand with
    | error e => exact ⟨e, rfl⟩
    | ok r =>
        obtain ⟨o, hspelled, _⟩ := parse_eq_ok_iff.mp hparse
        exact absurd hspelled (hnone o)

example : parse " V[+8:0009]" = .ok (.vector 8 2) := by decide

example : parse "a-0" = .ok (.accumulation 0 1) := by decide

end Register

end Interlock
