import Interlock.Proofs.Scheduler.History
import Interlock.Proofs.Tally

/-! # Who wins a decision

The winners of a decision are the rules whose monitors ask for the largest padding, if that is
positive. The comment of the padding is made from the set of their comments, so that neither the
order of the rules nor equal comments show in it.
-/

namespace Interlock

namespace Catalogue

theorem insertName_perm (name : String) (names : List String) :
    (insertName name names).Perm (name :: names) := by
  induction names with
  | nil => exact List.Perm.refl _
  | cons head rest ih =>
      unfold insertName
      split
      · exact List.Perm.refl _
      · exact (ih.cons head).trans (List.Perm.swap name head rest)

theorem insertName_sorted (name : String) {names : List String} (h : names.Pairwise (· ≤ ·)) :
    (insertName name names).Pairwise (· ≤ ·) := by
  induction names with
  | nil => exact List.pairwise_singleton _ _
  | cons head rest ih =>
      obtain ⟨hhead, hrest⟩ := List.pairwise_cons.mp h
      unfold insertName
      split
      next hlt =>
        refine List.pairwise_cons.mpr ⟨?_, h⟩
        intro other hother
        rcases List.mem_cons.mp hother with rfl | hother
        · exact hlt.le
        · exact hlt.le.trans (hhead other hother)
      next hnot =>
        refine List.pairwise_cons.mpr ⟨?_, ih hrest⟩
        intro other hother
        rcases List.mem_cons.mp ((insertName_perm name rest).mem_iff.mp hother) with rfl | hother
        · exact not_lt.mp hnot
        · exact hhead other hother

theorem sortNames_perm (names : List String) : (sortNames names).Perm names := by
  induction names with
  | nil => exact List.Perm.refl _
  | cons name rest ih => exact (insertName_perm name _).trans (ih.cons name)

theorem sortNames_sorted (names : List String) : (sortNames names).Pairwise (· ≤ ·) := by
  induction names with
  | nil => exact List.Pairwise.nil
  | cons name rest ih => exact insertName_sorted name ih

end Catalogue

/-- The comment of padding that some rules ask for: their only comment, or all their comments in
ascending order behind a heading. -/
def mergedComment (rules : List Rule) : String :=
  match (rules.map (·.comment)).toFinset.sort (· ≤ ·) with
  | [comment] => comment
  | comments => "Wait State Hazards: " ++ ", ".intercalate comments

theorem mergedComment_perm {rules rules' : List Rule} (h : rules.Perm rules') :
    mergedComment rules = mergedComment rules' := by
  unfold mergedComment
  rw [List.toFinset_eq_of_perm _ _ (h.map _)]

namespace Decision

theorem distinct_spec (texts : List String) :
    (distinct texts).Nodup ∧ ∀ t, t ∈ distinct texts ↔ t ∈ texts := by
  have hfold : ∀ seen : List String, seen.Nodup →
      let all := texts.foldl (fun seen t => if t ∈ seen then seen else seen ++ [t]) seen
      all.Nodup ∧ ∀ t, t ∈ all ↔ t ∈ seen ∨ t ∈ texts := by
    induction texts with
    | nil => simp
    | cons head rest ih =>
        intro seen hseen
        simp only [List.foldl_cons]
        split
        next hmem =>
          obtain ⟨hnodup, hall⟩ := ih seen hseen
          refine ⟨hnodup, fun t => ?_⟩
          rw [hall, List.mem_cons]
          grind
        next hnew =>
          have hgrown : (seen ++ [head]).Nodup := by
            rw [List.nodup_append]
            refine ⟨hseen, List.nodup_singleton _, ?_⟩
            intro t ht u hu
            rw [List.mem_singleton.mp hu]
            exact fun heq => hnew (heq ▸ ht)
          obtain ⟨hnodup, hall⟩ := ih _ hgrown
          refine ⟨hnodup, fun t => ?_⟩
          rw [hall, List.mem_append, List.mem_singleton, List.mem_cons, or_assoc]
  simpa [distinct] using hfold [] List.nodup_nil

/-- The comment of a decision is that of its winners. -/
theorem comment_eq (d : Decision) : d.comment = mergedComment d.winners := by
  unfold comment mergedComment
  obtain ⟨hnodup, hmem⟩ := distinct_spec (d.winners.map (·.comment))
  have hset : (d.winners.map (·.comment)).toFinset =
      (distinct (d.winners.map (·.comment))).toFinset := by
    ext t
    rw [List.mem_toFinset, List.mem_toFinset, hmem]
  rw [hset]
  generalize distinct (d.winners.map (·.comment)) = comments at hnodup
  have hsorted : comments.toFinset.sort (· ≤ ·) = Catalogue.sortNames comments := by
    rw [← List.toFinset_eq_of_perm _ _ (Catalogue.sortNames_perm comments)]
    apply (List.toFinset_sort (· ≤ ·) _).mpr (Catalogue.sortNames_sorted comments)
    exact (Catalogue.sortNames_perm comments).nodup_iff.mpr hnodup
  rw [hsorted]
  have hlength := (Catalogue.sortNames_perm comments).length_eq
  match comments with
  | [] => rfl
  | [comment] => rfl
  | first :: second :: rest =>
      change "Wait State Hazards: " ++ ", ".intercalate (Catalogue.sortNames _) = _
      split
      next hsingle => simp [hsingle] at hlength
      next => rfl

end Decision

namespace Scheduler

/-! ## The winners -/

/-- The rules of the monitors that ask for exactly this padding. -/
def attaining (inst : Instruction) (padding : Int64) (monitors : List Monitor) : List Rule :=
  (monitors.filter fun m => m.peek inst = .ok padding).map (·.rule)

theorem attaining_append (inst : Instruction) (padding : Int64) (first second : List Monitor) :
    attaining inst padding (first ++ second) =
      attaining inst padding first ++ attaining inst padding second := by
  simp [attaining]

theorem attaining_perm (inst : Instruction) (padding : Int64) {monitors monitors' : List Monitor}
    (h : monitors.Perm monitors') :
    (attaining inst padding monitors).Perm (attaining inst padding monitors') :=
  (h.filter _).map _

/-- What a decision is after some monitors were asked. -/
structure Asked (inst : Instruction) (seen : List Monitor) (d : Decision) : Prop where
  nonneg : 0 ≤ d.padding
  covers : ∀ m ∈ seen, ∃ owed, m.peek inst = .ok owed ∧ owed ≤ d.padding
  winners : d.winners = if d.padding = 0 then [] else attaining inst d.padding seen

theorem Asked.consider {inst : Instruction} {seen : List Monitor} {d : Decision}
    (h : Asked inst seen d) {m : Monitor} {owed : Int64} (hpeek : m.peek inst = .ok owed) :
    Asked inst (seen ++ [m]) (d.consider m.rule owed) := by
  have hsingle :
      ∀ padding, attaining inst padding [m] = if owed = padding then [m.rule] else [] := by
    intro padding
    by_cases hpadding : owed = padding <;> simp [attaining, hpeek, hpadding]
  unfold Decision.consider
  split
  next hlt =>
    have hpos : 0 < owed := Int64.lt_of_le_of_lt h.nonneg hlt
    -- Whoever asked before asks for less.
    have hnone : attaining inst owed seen = [] := by
      rw [attaining, List.map_eq_nil_iff, List.filter_eq_nil_iff]
      intro k hk heq
      obtain ⟨asked, hasked, hle⟩ := h.covers k hk
      rw [hasked, decide_eq_true_eq, Except.ok.injEq] at heq
      exact Int64.not_lt.mpr hle (heq ▸ hlt)
    refine ⟨Int64.le_of_lt hpos, ?_, ?_⟩
    · intro k hk
      rcases List.mem_append.mp hk with hk | hk
      · obtain ⟨asked, hasked, hle⟩ := h.covers k hk
        exact ⟨asked, hasked, Int64.le_of_lt (Int64.lt_of_le_of_lt hle hlt)⟩
      · rw [List.mem_singleton.mp hk]
        exact ⟨owed, hpeek, Int64.le_refl _⟩
    · rw [if_neg (Ne.symm (Int64.ne_of_lt hpos)), attaining_append, hnone, hsingle, if_pos rfl]
      rfl
  next hnot =>
    have hle := Int64.not_lt.mp hnot
    have hcovers : ∀ k ∈ seen ++ [m], ∃ owed, k.peek inst = .ok owed ∧ owed ≤ d.padding := by
      intro k hk
      rcases List.mem_append.mp hk with hk | hk
      · exact h.covers k hk
      · rw [List.mem_singleton.mp hk]
        exact ⟨owed, hpeek, hle⟩
    split
    next htie =>
      refine ⟨h.nonneg, hcovers, ?_⟩
      obtain ⟨rfl, hpos⟩ := htie
      rw [if_neg (Ne.symm (Int64.ne_of_lt hpos)), attaining_append, hsingle, if_pos rfl, h.winners,
        if_neg (Ne.symm (Int64.ne_of_lt hpos))]
    next hless =>
      refine ⟨h.nonneg, hcovers, ?_⟩
      rw [h.winners]
      split
      · rfl
      next hzero =>
        have hne : owed ≠ d.padding := by
          intro heq
          apply hless
          refine ⟨heq, ?_⟩
          rw [heq]
          exact Int64.lt_of_le_of_ne h.nonneg (Ne.symm hzero)
        rw [attaining_append, hsingle, if_neg hne, List.append_nil]

theorem Asked.decide {inst : Instruction} {seen monitors : List Monitor} {d d' : Decision}
    (h : Asked inst seen d) (hdecide : Scheduler.decide inst d monitors = .ok d') :
    Asked inst (seen ++ monitors) d' := by
  induction monitors generalizing seen d with
  | nil =>
      rw [Scheduler.decide, Except.ok.injEq] at hdecide
      rw [List.append_nil, ← hdecide]
      exact h
  | cons m rest ih =>
      unfold Scheduler.decide at hdecide
      cases hpeek : m.peek inst with
      | error e => simp [hpeek] at hdecide
      | ok owed =>
          simp only [hpeek] at hdecide
          have hnext := ih (h.consider hpeek) hdecide
          rwa [List.append_assoc] at hnext

/-- The winners of a decision are the rules that ask for its padding, if that is positive. -/
theorem decide_asked {inst : Instruction} {monitors : List Monitor} {d : Decision}
    (h : Scheduler.decide inst {} monitors = .ok d) : Asked inst monitors d := by
  have hstart : Asked inst [] {} := ⟨Int64.le_refl 0, by simp, rfl⟩
  exact hstart.decide h

end Scheduler

end Interlock
