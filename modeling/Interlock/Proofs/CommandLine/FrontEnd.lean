import Interlock.CommandLine.Run

/-! # Command lines that are misused

A command line is misused if the front end cannot read it, or if it has a number of operands that
its task does not take. Every other command line asks for an invocation. The standard front end runs
a program as front ends are documented to.
-/

namespace Interlock.CommandLine.FrontEnd

variable {m : Type → Type} {frontEnd : FrontEnd m} {arguments : List String}

/-- The ways to misuse a command line. -/
inductive Misused (frontEnd : FrontEnd m) (arguments : List String) : Prop
  /-- There is no such command or flag, or a flag lacks a value or has one that is not of its
  kind. -/
  | unread {message : String} (hread : frontEnd.read arguments = .error message)
  /-- The task does not take as many operands. -/
  | miscounted {r : Request} (hread : frontEnd.read arguments = .ok r)
      (hcount : ¬ r.task.Takes r.operands.length)

theorem exists_invocation_iff :
    (∃ i : Invocation, frontEnd.read arguments = .ok i.toRequest) ↔
      ¬ frontEnd.Misused arguments := by
  constructor
  · rintro ⟨i, hread⟩ hmisused
    cases hmisused with
    | unread hunread => cases hread.symm.trans hunread
    | miscounted hread' hcount =>
        cases hread.symm.trans hread'
        exact hcount i.takes
  · intro hsound
    cases hread : frontEnd.read arguments with
    | error message => exact absurd (.unread hread) hsound
    | ok r =>
        by_cases htakes : r.task.Takes r.operands.length
        · exact ⟨{ r with takes := htakes }, rfl⟩
        · exact absurd (.miscounted hread htakes) hsound

theorem Misused.execute [Monad m] (h : frontEnd.Misused arguments)
    (hfrontEnd : frontEnd.Documented arguments) (p : Program m) :
    ∃ message, frontEnd.execute p arguments = pure (.fail (.plain message)) := by
  cases h with
  | unread hread => exact ⟨_, hfrontEnd.unread hread p⟩
  | miscounted hread hcount => exact hfrontEnd.miscounted hread hcount p

theorem standard_read_eq_ok_iff [Monad m] {r : Request} :
    (standard : FrontEnd m).read arguments = .ok r ↔ Request.parse arguments = .ok r := by
  unfold standard
  dsimp only
  cases Request.parse arguments <;> simp

theorem standard_documented [Monad m] : (standard : FrontEnd m).Documented arguments where
  unread {message} hread p := by
    unfold standard at hread ⊢
    dsimp only at hread ⊢
    cases hparse : Request.parse arguments with
    | error e =>
        simp only [hparse, Except.error.injEq] at hread
        simp only [hread]
    | ok r => simp [hparse] at hread
  miscounted {r} hread hcount p := by
    have hparse := standard_read_eq_ok_iff.mp hread
    refine ⟨(r.task.countError r.operands).message, ?_⟩
    simp only [standard, hparse, hcount, dite_false]
  help {i} hread text htask p := by
    have hparse := standard_read_eq_ok_iff.mp hread
    simp only [standard, hparse]
    rw [dif_pos i.takes]
    simp only [htask]
  command {i} hread htask p := by
    have hparse := standard_read_eq_ok_iff.mp hread
    simp only [standard, hparse]
    exact dif_pos i.takes

end Interlock.CommandLine.FrontEnd
