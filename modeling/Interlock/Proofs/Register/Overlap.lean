import Interlock.Proofs.Register.Sameness
import Interlock.Proofs.Register.Spelling

/-! # Conflicts are shared registers

Ranges are compared by their ends, and the end of a range is computed in words that wrap around. The
ends of a register that was read are the exact ones nevertheless, because the wrapping of the width
is undone by the addition. So two operands overlap exactly if some register is named by both, and
they are the same exactly if they name the same registers, up to the operand that names a whole
register file.
-/

namespace Interlock

namespace Operand

/-- The register file of an operand. -/
def file : Operand → RegisterFile
  | .vcc => .vcc
  | .exec => .exec
  | .m0 => .m0
  | .single file _ | .range file _ _ => file

/-- The first index that an operand names. A special register is the only one of its file. -/
def low : Operand → Int
  | .vcc | .exec | .m0 => 0
  | .single _ index => index
  | .range _ low _ => low

/-- The last index that an operand names. -/
def high : Operand → Int
  | .vcc | .exec | .m0 => 0
  | .single _ index => index
  | .range _ _ high => high

/-- The indices that an operand names in its file. -/
def indices (o : Operand) : Set Int := Set.Icc o.low o.high

/-- Some register is named by both operands. -/
def Shares (o p : Operand) : Prop :=
  o.file = p.file ∧ (o.file.isSpecial = true ∨ (o.indices ∩ p.indices).Nonempty)

/-- Both operands name the same registers. -/
def Coincides (o p : Operand) : Prop :=
  o.file = p.file ∧ (o.file.isSpecial = true ∨ o.indices = p.indices)

/-- A text names an operand, in any case and between blanks. -/
def WrittenAs (o : Operand) (text : String) : Prop :=
  o.Spelled (Text.lower (Text.trim text.toList))

variable {o p : Operand} {text text' : List Char}

theorem register_file (o : Operand) : o.register.file = o.file := by
  cases o <;> rfl

theorem Spelled.file_ne_none (h : o.Spelled text) : o.file ≠ .none := by
  cases h with
  | single hletter => cases hletter <;> simp [file]
  | range hletter => cases hletter <;> simp [file]
  | _ => simp [file]

theorem Spelled.low_le_high (h : o.Spelled text) : o.low ≤ o.high := by
  cases h with
  | range => assumption
  | _ => exact Int.le_refl _

/-! ## The ends of a range -/

theorem Spelled.toInt_index (h : o.Spelled text) : o.register.index.toInt = o.low := by
  cases h with
  | vcc => rfl
  | exec => rfl
  | m0 => rfl
  | single _ _ hlow hhigh => exact Int64.toInt_ofInt_of_le (by omega) hhigh
  | range _ _ _ hlow hle hhigh => exact Int64.toInt_ofInt_of_le (by omega) (by omega)

/-- The last index of a general register is exact, also where its width wraps around. -/
theorem Spelled.toInt_last (h : o.Spelled text) (hgeneral : o.file.isSpecial = false) :
    o.register.last.toInt = o.high := by
  cases h with
  | vcc => cases hgeneral
  | exec => cases hgeneral
  | m0 => cases hgeneral
  | @single file _ _ index _ _ hlow hhigh =>
      have hlast : (Operand.single file index).register.last = .ofInt index := by
        simp only [register, Register.last]
        grind
      rw [hlast]
      exact Int64.toInt_ofInt_of_le (by omega) hhigh
  | @range file _ _ _ low high _ _ _ hlow hle hhigh =>
      have hlast : (Operand.range file low high).register.last = .ofInt high := by
        simp only [register, Register.last]
        grind
      rw [hlast]
      exact Int64.toInt_ofInt_of_le (by omega) hhigh

theorem indices_inter_nonempty_iff (ho : o.low ≤ o.high) (hp : p.low ≤ p.high) :
    (o.indices ∩ p.indices).Nonempty ↔ o.low ≤ p.high ∧ p.low ≤ o.high := by
  simp only [indices, Set.Icc_inter_Icc, Set.nonempty_Icc, sup_le_iff, le_inf_iff]
  exact ⟨fun h => ⟨h.2.1, h.1.2⟩, fun h => ⟨⟨ho, h.2⟩, h.1, hp⟩⟩

theorem Coincides.shares (ho : o.low ≤ o.high) (h : o.Coincides p) : o.Shares p := by
  refine ⟨h.1, h.2.imp_right ?_⟩
  intro hindices
  rw [← hindices, Set.inter_self]
  exact Set.nonempty_Icc.mpr ho

end Operand

namespace Register

/-! ## Comparing two registers -/

/-- Two ranges overlap if they lie in one register file and, unless the file has a single register,
neither ends before the other begins. -/
theorem overlaps_iff (r o : Register) :
    r.overlaps o = true ↔ r.file = o.file ∧ r.file ≠ .none ∧
      (r.file.isSpecial = true ∨ r.index ≤ o.last ∧ o.index ≤ r.last) := by
  unfold overlaps
  split
  next hfile =>
    rcases hfile with hne | hnone
    · simp [hne]
    · simp [hnone]
  next hfile =>
    simp only [ne_eq, not_or, Decidable.not_not] at hfile
    obtain ⟨hfile, hnone⟩ := hfile
    rw [hfile] at hnone ⊢
    split
    next hspecial => simp [hnone, hspecial]
    next hspecial => simp [hnone, hspecial]

theorem overlaps_comm (r o : Register) : r.overlaps o = o.overlaps r := by
  rw [Bool.eq_iff_iff, overlaps_iff, overlaps_iff]
  constructor
  · rintro ⟨hfile, hnone, hrange⟩
    rw [← hfile]
    exact ⟨rfl, hnone, hrange.imp_right And.symm⟩
  · rintro ⟨hfile, hnone, hrange⟩
    rw [← hfile]
    exact ⟨rfl, hnone, hrange.imp_right And.symm⟩

variable {o p : Operand} {text text' : List Char}

theorem overlaps_register_iff (ho : o.Spelled text) (hp : p.Spelled text') :
    o.register.overlaps p.register = true ↔ o.Shares p := by
  rw [overlaps_iff, o.register_file, p.register_file, Operand.Shares]
  refine and_congr_right fun hfile => ?_
  rw [and_iff_right ho.file_ne_none]
  cases hspecial : o.file.isSpecial with
  | true => simp
  | false =>
      have hlast := ho.toInt_last hspecial
      have hlast' := hp.toInt_last (hfile ▸ hspecial)
      rw [Operand.indices_inter_nonempty_iff ho.low_le_high hp.low_le_high, Int64.le_iff_toInt_le,
        Int64.le_iff_toInt_le, ho.toInt_index, hp.toInt_index, hlast, hlast']

theorem same_register_iff (ho : o.Spelled text) (hp : p.Spelled text') :
    o.register.same p.register = true ↔ o.Coincides p := by
  rw [same_iff, o.register_file, p.register_file, Operand.Coincides]
  refine and_congr_right fun hfile => ?_
  rw [and_iff_right ho.file_ne_none]
  cases hspecial : o.file.isSpecial with
  | true => simp
  | false =>
      have hlast := ho.toInt_last hspecial
      have hlast' := hp.toInt_last (hfile ▸ hspecial)
      -- Ranges that begin alike are equally wide exactly if they end alike.
      have hends : o.register.index = p.register.index →
          (o.register.count = p.register.count ↔ o.register.last = p.register.last) := by
        intro hindex
        simp only [last, hindex]
        grind
      rw [Operand.indices, Operand.indices, Set.Icc_eq_Icc_iff ho.low_le_high,
        and_congr_right_iff.mpr hends, ← Int64.toInt_inj, ← Int64.toInt_inj, ho.toInt_index,
        hp.toInt_index, hlast, hlast']

/-! ## Lists of operands -/

theorem mem_iff_of_parseAll {operands : List String} {regs : List Register}
    (h : parseAll operands = .ok regs) {r : Register} :
    r ∈ regs ↔ ∃ operand ∈ operands, parse operand = .ok r := by
  induction operands generalizing regs with
  | nil =>
      cases h
      simp
  | cons operand rest ih =>
      unfold parseAll at h
      cases hfirst : parse operand with
      | error e => simp [hfirst] at h
      | ok first =>
          cases hrest : parseAll rest with
          | error e => simp [hfirst, hrest] at h
          | ok regs' =>
              simp only [hfirst, hrest, Except.ok.injEq] at h
              subst h
              rw [List.mem_cons, ih hrest, List.exists_mem_cons_iff, hfirst, Except.ok.injEq]
              exact or_congr_left eq_comm

/-- Among operands that were read, an overlap is a register that two texts share. -/
theorem any_overlaps_iff {operands others : List String} {regs regs' : List Register}
    (h : parseAll operands = .ok regs) (h' : parseAll others = .ok regs') :
    (regs'.any fun r' => regs.any (·.overlaps r')) = true ↔
      ∃ operand ∈ operands, ∃ other ∈ others, ∃ o p : Operand,
        o.WrittenAs operand ∧ p.WrittenAs other ∧ o.Shares p := by
  simp only [List.any_eq_true]
  constructor
  · rintro ⟨r', hr', r, hr, hoverlaps⟩
    obtain ⟨operand, hoperand, hparse⟩ := (mem_iff_of_parseAll h).mp hr
    obtain ⟨other, hother, hparse'⟩ := (mem_iff_of_parseAll h').mp hr'
    obtain ⟨o, hspelled, rfl⟩ := parse_eq_ok_iff.mp hparse
    obtain ⟨p, hspelled', rfl⟩ := parse_eq_ok_iff.mp hparse'
    exact ⟨operand, hoperand, other, hother, o, p, hspelled, hspelled',
      (overlaps_register_iff hspelled hspelled').mp hoverlaps⟩
  · rintro ⟨operand, hoperand, other, hother, o, p, hspelled, hspelled', hshares⟩
    have hr := (mem_iff_of_parseAll h).mpr
      ⟨operand, hoperand, parse_eq_ok_iff.mpr ⟨o, hspelled, rfl⟩⟩
    have hr' := (mem_iff_of_parseAll h').mpr
      ⟨other, hother, parse_eq_ok_iff.mpr ⟨p, hspelled', rfl⟩⟩
    exact ⟨_, hr', _, hr, (overlaps_register_iff hspelled hspelled').mpr hshares⟩

/-! ## The result -/

/-- Conflicts are shared registers. Two operands that were read overlap exactly if some register is
named by both, and are the same exactly if they name the same registers; an instruction reads or
writes one of some registers exactly if two of the texts share one. -/
theorem conflicts_are_shared_registers :
    (∀ first second : String, ∀ a b : Register, parse first = .ok a → parse second = .ok b →
      (∃ o p : Operand, o.WrittenAs first ∧ p.WrittenAs second) ∧
      (∀ o p : Operand, o.WrittenAs first → p.WrittenAs second →
        a.file = o.file ∧ b.file = p.file ∧ (a.overlaps b = true ↔ o.Shares p) ∧
          (a.same b = true ↔ o.Coincides p)) ∧
      a.overlaps b = b.overlaps a ∧ a.same b = b.same a ∧
      (a.same b = true → a.overlaps b = true)) ∧
    ∀ (inst : Instruction) (destinations sources others : List String) (regs : List Register),
      parseAll destinations = .ok inst.dst → parseAll sources = .ok inst.src →
      parseAll others = .ok regs →
      (inst.readsAny regs = true ↔ ∃ source ∈ sources, ∃ other ∈ others, ∃ o p : Operand,
        o.WrittenAs source ∧ p.WrittenAs other ∧ o.Shares p) ∧
      (inst.writesAny regs = true ↔ ∃ destination ∈ destinations, ∃ other ∈ others,
        ∃ o p : Operand, o.WrittenAs destination ∧ p.WrittenAs other ∧ o.Shares p) := by
  refine ⟨?_, ?_⟩
  · intro first second a b ha hb
    obtain ⟨o, ho, hregister⟩ := parse_eq_ok_iff.mp ha
    obtain ⟨p, hp, hregister'⟩ := parse_eq_ok_iff.mp hb
    refine ⟨⟨o, p, ho, hp⟩, ?_, overlaps_comm a b, same_comm a b, ?_⟩
    · intro o p ho hp
      have hread := parse_eq_ok_iff.mpr ⟨o, ho, rfl⟩
      have hread' := parse_eq_ok_iff.mpr ⟨p, hp, rfl⟩
      rw [ha, Except.ok.injEq] at hread
      rw [hb, Except.ok.injEq] at hread'
      rw [hread, hread']
      exact ⟨o.register_file, p.register_file, overlaps_register_iff ho hp,
        same_register_iff ho hp⟩
    · rw [hregister, hregister', overlaps_register_iff ho hp, same_register_iff ho hp]
      exact Operand.Coincides.shares ho.low_le_high
  · intro inst destinations sources others regs hdst hsrc hregs
    exact ⟨any_overlaps_iff hsrc hregs, any_overlaps_iff hdst hregs⟩

-- The width of all vector registers wraps around, and yet one of them is found among them.
theorem conflicts_are_shared_registers_wholeFile :
    let whole := "v[0:9223372036854775807]"
    let inst : Instruction := .valu "" (.vector 7 1) [.vector 0 Int64.minValue]
    parse whole = .ok (.vector 0 Int64.minValue) ∧ parse "V[5:5]" = .ok (.vector 5 1) ∧
      (∃ o p : Operand, o.WrittenAs whole ∧ p.WrittenAs "V[5:5]" ∧ o.Shares p ∧
        ¬ o.Coincides p) ∧
      inst.readsAny [.vector 5 1] = true := by
  intro whole inst
  have hwhole : parse whole = .ok (.vector 0 Int64.minValue) := by decide
  have hsingle : parse "V[5:5]" = .ok (.vector 5 1) := by decide
  obtain ⟨⟨o, p, ho, hp⟩, hpair, _⟩ :=
    conflicts_are_shared_registers.1 _ _ _ _ hwhole hsingle
  obtain ⟨_, _, hoverlaps, hsame⟩ := hpair o p ho hp
  have hreads := (conflicts_are_shared_registers.2 inst ["v7"] [whole] ["V[5:5]"] [.vector 5 1]
    (by decide) (by decide) (by decide)).1
  have hshares : o.Shares p := hoverlaps.mp (by decide)
  refine ⟨hwhole, hsingle, ⟨o, p, ho, hp, hshares, ?_⟩, hreads.mpr ?_⟩
  · rw [← hsame]
    decide
  · exact ⟨whole, by simp, "V[5:5]", by simp, o, p, ho, hp, hshares⟩

end Register

end Interlock
