import Mathlib
import Interlock.Scheduler

/-! # Adding credits

Credits may be added in any order. A tally that starts empty stays ascending, and then what it has
for a name is what was added under that name.
-/

namespace Interlock.Tally

theorem addCredit_addCredit_self (name : String) (n m : Int64) (credits : List (String × Int64)) :
    addCredit name n (addCredit name m credits) = addCredit name (m + n) credits := by
  induction credits with
  | nil => grind [addCredit]
  | cons credit rest ih =>
      obtain ⟨key, k⟩ := credit
      rcases lt_trichotomy name key with h | h | h <;> grind [addCredit, Int64.add_assoc]

theorem addCredit_comm (first second : String) (n m : Int64) (credits : List (String × Int64)) :
    addCredit first n (addCredit second m credits) =
      addCredit second m (addCredit first n credits) := by
  by_cases hname : first = second
  · rw [hname, addCredit_addCredit_self, addCredit_addCredit_self, Int64.add_comm]
  · induction credits with
    | nil => rcases lt_or_gt_of_ne hname with h | h <;> grind [addCredit]
    | cons credit rest ih =>
        obtain ⟨key, k⟩ := credit
        -- Each name stands before the head, is the head's, or goes on to the rest.
        rcases lt_trichotomy first key with h₁ | h₁ | h₁ <;>
          rcases lt_trichotomy second key with h₂ | h₂ | h₂ <;> grind [addCredit]

theorem add_right_comm (t : Tally) (first second : String) (n m : Int64) :
    (t.add first n).add second m = (t.add second m).add first n :=
  congrArg Tally.mk (addCredit_comm second first m n t.credits)

/-! ## What a tally has for a name -/

/-- Every name once, in ascending order. -/
def Ascending (t : Tally) : Prop :=
  t.credits.Pairwise fun a b => a.1 < b.1

theorem mem_addCredit {name : String} {n : Int64} {credits : List (String × Int64)}
    {credit : String × Int64} (h : credit ∈ addCredit name n credits) :
    credit.1 = name ∨ credit ∈ credits := by
  induction credits with
  | nil => simp_all [addCredit]
  | cons head rest ih =>
      obtain ⟨key, m⟩ := head
      unfold addCredit at h
      split at h
      · rcases List.mem_cons.mp h with rfl | h
        · exact Or.inl rfl
        · exact Or.inr h
      · split at h
        next heq =>
          rcases List.mem_cons.mp h with rfl | h
          · exact Or.inl heq.symm
          · exact Or.inr (List.mem_cons_of_mem _ h)
        next =>
          rcases List.mem_cons.mp h with rfl | h
          · exact Or.inr List.mem_cons_self
          · exact (ih h).imp_right (List.mem_cons_of_mem _)

theorem Ascending.add {t : Tally} (h : t.Ascending) (name : String) (n : Int64) :
    (t.add name n).Ascending := by
  obtain ⟨credits⟩ := t
  simp only [Ascending, Tally.add] at h ⊢
  induction credits with
  | nil => simp [addCredit]
  | cons head rest ih =>
      obtain ⟨key, m⟩ := head
      obtain ⟨hhead, hrest⟩ := List.pairwise_cons.mp h
      unfold addCredit
      split
      next hlt =>
        refine List.pairwise_cons.mpr ⟨?_, h⟩
        intro credit hcredit
        rcases List.mem_cons.mp hcredit with rfl | hcredit
        · exact hlt
        · exact hlt.trans (hhead credit hcredit)
      next hnot =>
        split
        · exact List.pairwise_cons.mpr ⟨hhead, hrest⟩
        next hne =>
          refine List.pairwise_cons.mpr ⟨?_, ih hrest⟩
          intro credit hcredit
          rcases mem_addCredit hcredit with hname | hcredit
          · rw [hname]
            exact lt_of_le_of_ne (not_lt.mp hnot) (Ne.symm hne)
          · exact hhead credit hcredit

theorem lookup_eq_none_of_forall_lt {name : String} {credits : List (String × Int64)}
    (h : ∀ credit ∈ credits, name < credit.1) : credits.lookup name = none := by
  rw [List.lookup_eq_none_iff]
  intro credit hcredit
  simpa using (h credit hcredit).ne

theorem lookup_cons_ite (key first : String) (m : Int64) (rest : List (String × Int64)) :
    ((first, m) :: rest).lookup key = if key = first then some m else rest.lookup key := by
  by_cases h : key = first
  · simp [h]
  · simp [List.lookup_cons, h, beq_eq_false_iff_ne.mpr h]

/-- Adding a credit changes what the tally has for one name only. -/
theorem Ascending.lookup_add {t : Tally} (h : t.Ascending) (name : String) (n : Int64)
    (key : String) :
    (t.add name n).credits.lookup key =
      if key = name then some (t.get name + n) else t.credits.lookup key := by
  obtain ⟨credits⟩ := t
  simp only [Ascending, Tally.add, Tally.get] at h ⊢
  induction credits with
  | nil => simp [addCredit, lookup_cons_ite]
  | cons head rest ih =>
      obtain ⟨first, m⟩ := head
      obtain ⟨hhead, hrest⟩ := List.pairwise_cons.mp h
      unfold addCredit
      split
      next hlt =>
        have hnone : ((first, m) :: rest).lookup name = none := by
          apply lookup_eq_none_of_forall_lt
          intro credit hcredit
          rcases List.mem_cons.mp hcredit with rfl | hcredit
          · exact hlt
          · exact hlt.trans (hhead credit hcredit)
        rw [hnone, lookup_cons_ite]
        simp
      next =>
        split
        next heq =>
          subst heq
          simp only [lookup_cons_ite]
          split <;> simp
        next hne =>
          simp only [lookup_cons_ite, ih hrest, hne, if_false]
          by_cases hkey : key = first
          · simp [hkey, Ne.symm hne]
          · simp [hkey]

end Interlock.Tally
