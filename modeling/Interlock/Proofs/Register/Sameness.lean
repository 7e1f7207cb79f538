import Interlock.Window

/-! # Ranges that cover the same registers

Sameness of ranges is symmetric and transitive. Ranges that are the same overlap the same ranges, so
a window may be judged by any list of ranges that names the same registers in the same order.
-/

namespace Interlock

namespace Register

/-- Two ranges are the same if they lie in one register file and, unless the file has a single
register, agree on their first register and their width. -/
theorem same_iff (r o : Register) :
    r.same o = true ↔ r.file = o.file ∧ r.file ≠ .none ∧
      (r.file.isSpecial = true ∨ r.index = o.index ∧ r.count = o.count) := by
  unfold same
  split
  next hfile =>
    rcases hfile with hne | hnone
    · simp [hne]
    · simp [hnone]
  next hfile =>
    simp only [ne_eq, not_or, Decidable.not_not] at hfile
    obtain ⟨hfile, hnone⟩ := hfile
    rw [hfile] at hnone ⊢
    split
    next hspecial => simp [hnone, hspecial]
    next hspecial => simp [hnone, hspecial]

theorem same_comm (r o : Register) : r.same o = o.same r := by
  rw [Bool.eq_iff_iff, same_iff, same_iff]
  constructor
  · rintro ⟨hfile, hnone, hrange⟩
    rw [← hfile]
    exact ⟨rfl, hnone, hrange.imp_right fun h => ⟨h.1.symm, h.2.symm⟩⟩
  · rintro ⟨hfile, hnone, hrange⟩
    rw [← hfile]
    exact ⟨rfl, hnone, hrange.imp_right fun h => ⟨h.1.symm, h.2.symm⟩⟩

theorem same_trans {r o p : Register} (hro : r.same o = true) (hop : o.same p = true) :
    r.same p = true := by
  rw [same_iff] at hro hop ⊢
  obtain ⟨hfile, hnone, hrange⟩ := hro
  obtain ⟨hfile', _, hrange'⟩ := hop
  refine ⟨hfile.trans hfile', hnone, ?_⟩
  rcases hrange with hspecial | ⟨hindex, hcount⟩
  · exact Or.inl hspecial
  · rcases hrange' with hspecial | ⟨hindex', hcount'⟩
    · exact Or.inl (hfile ▸ hspecial)
    · exact Or.inr ⟨hindex.trans hindex', hcount.trans hcount'⟩

/-- The same range from the right is compared alike. -/
theorem same_congr {r o : Register} (h : r.same o = true) (x : Register) :
    r.same x = o.same x := by
  rw [Bool.eq_iff_iff]
  constructor
  · exact same_trans (by rwa [same_comm])
  · exact same_trans h

/-- Ranges that are the same overlap the same ranges. -/
theorem overlaps_congr {r o : Register} (h : r.same o = true) (x : Register) :
    r.overlaps x = o.overlaps x := by
  obtain ⟨hfile, hnone, hrange⟩ := (same_iff r o).mp h
  rcases hrange with hspecial | ⟨hindex, hcount⟩
  · have hspecial' : o.file.isSpecial = true := hfile ▸ hspecial
    simp [overlaps, hspecial', hfile]
  · have heq : r = o := by
      cases r
      cases o
      simp_all
    rw [heq]

/-- Overlap does not depend on which of the same ranges stands on the right. -/
theorem overlaps_congr_right {r o : Register} (h : r.same o = true) (x : Register) :
    x.overlaps r = x.overlaps o := by
  obtain ⟨hfile, hnone, hrange⟩ := (same_iff r o).mp h
  rcases hrange with hspecial | ⟨hindex, hcount⟩
  · by_cases hx : x.file = o.file
    · have hspecial' : x.file.isSpecial = true := by rw [hx, ← hfile]; exact hspecial
      simp [overlaps, hfile, hspecial']
    · simp [overlaps, hfile, hx]
  · have heq : r = o := by
      cases r
      cases o
      simp_all
    rw [heq]

end Register

namespace Window

theorem sameRanges_comm (rs os : List Register) : sameRanges rs os = sameRanges os rs := by
  induction rs generalizing os with
  | nil => cases os <;> rfl
  | cons r rs ih =>
      cases os with
      | nil => rfl
      | cons o os => simp only [sameRanges, Register.same_comm r o, ih os]

theorem sameRanges_trans {rs os ps : List Register} (hro : sameRanges rs os = true)
    (hop : sameRanges os ps = true) : sameRanges rs ps = true := by
  induction rs generalizing os ps with
  | nil =>
      cases os with
      | nil => exact hop
      | cons o os => simp [sameRanges] at hro
  | cons r rs ih =>
      cases os with
      | nil => simp [sameRanges] at hro
      | cons o os =>
          cases ps with
          | nil => simp [sameRanges] at hop
          | cons p ps =>
              simp only [sameRanges, Bool.and_eq_true] at hro hop ⊢
              exact ⟨Register.same_trans hro.1 hop.1, ih hro.2 hop.2⟩

theorem sameRanges_congr {rs os : List Register} (h : sameRanges rs os = true)
    (ps : List Register) : sameRanges rs ps = sameRanges os ps := by
  rw [Bool.eq_iff_iff]
  constructor
  · exact sameRanges_trans (by rwa [sameRanges_comm])
  · exact sameRanges_trans h

/-- A query that does not tell the same ranges apart has one answer on lists of the same ranges. -/
theorem any_congr {rs os : List Register} (h : sameRanges rs os = true) {query : Register → Bool}
    (hquery : ∀ r o : Register, r.same o = true → query r = query o) :
    rs.any query = os.any query := by
  induction rs generalizing os with
  | nil =>
      cases os with
      | nil => rfl
      | cons o os => simp [sameRanges] at h
  | cons r rs ih =>
      cases os with
      | nil => simp [sameRanges] at h
      | cons o os =>
          simp only [sameRanges, Bool.and_eq_true] at h
          simp only [List.any_cons, hquery r o h.1, ih h.2]

variable {w w' : Window} (h : sameRanges w.regs w'.regs = true)

include h

theorem overlaps_congr (r : Register) : w.overlaps r = w'.overlaps r :=
  any_congr h fun _ _ hsame => Register.overlaps_congr hsame r

theorem covers_congr (r : Register) : w.covers r = w'.covers r :=
  any_congr h fun _ _ hsame => Register.same_congr hsame r

theorem readsAny_congr (inst : Instruction) : inst.readsAny w.regs = inst.readsAny w'.regs :=
  any_congr h fun _ _ hsame => by
    simp only [Instruction.reads, Register.overlaps_congr_right hsame]

theorem writesAny_congr (inst : Instruction) : inst.writesAny w.regs = inst.writesAny w'.regs :=
  any_congr h fun _ _ hsame => by
    simp only [Instruction.writes, Register.overlaps_congr_right hsame]

end Window

end Interlock
