import Interlock.Proofs.Scheduler.History

/-! # A padded stream is produced on demand, and once

A consumer that stops with some item has seen the beginning of what any other consumer would see. It
has pulled the instruction that owns its last item and none behind it, and the scheduler stands
where a whole pass over the pulled instructions leaves it. After that the scheduler is used up:
whichever sequences were asked for before or are asked for later, each of them only says so.
-/

namespace Interlock.Scheduler

/-- What a pass handed out: the instructions its consumer took, and last the error that ended it. -/
def Pass.items (pass : Pass (Array Instruction)) : List (Except ScheduleError Instruction) :=
  pass.state.toList.map .ok ++ pass.failure.toList.map .error

/-- The number of instructions that a pass scheduled. The one that it failed at is pulled, but not
scheduled. -/
def Pass.served {σ : Type} (pass : Pass σ) : Nat :=
  if pass.failure.isSome then pass.pulled - 1 else pass.pulled

/-- What a consumer that never stops is handed. -/
def items (s : Scheduler) (stream : List Instruction) : List (Except ScheduleError Instruction) :=
  (s.run stream #[] collect).items

/-- The instruction at a position owns an item that comes once it was pulled, and not before. -/
def Owns (s : Scheduler) (stream : List Instruction) (position item : Nat) : Prop :=
  (s.items (stream.take position)).length ≤ item ∧
    item < (s.items (stream.take (position + 1))).length

/-- A pass whose consumer stopped with its `limit`-th item, or earlier if there were not so many. -/
structure OnDemand (s : Scheduler) (stream : List Instruction) (limit : Nat)
    (pass : Pass (Array Instruction)) : Prop where
  /-- The consumer was handed the first items of what there is in all. -/
  items_eq : pass.items = (s.items stream).take limit
  /-- The last instruction that was pulled owns the last item. -/
  pulled_eq : (pass.items = [] ∧ pass.pulled = 0) ∨ ∃ position < stream.length,
    pass.pulled = position + 1 ∧ s.Owns stream position (pass.items.length - 1)
  /-- Instructions that were not pulled do not matter. -/
  causal : pass.items.length = limit → ∀ rest,
    let other := s.run (stream.take pass.pulled ++ rest) #[] (collectUpTo limit)
    other.items = pass.items ∧ other.pulled = pass.pulled ∧ other.scheduler = pass.scheduler
  /-- The account is that of a whole pass over the instructions that were scheduled. -/
  stats_eq : ∃ out, (s.scheduleAll (stream.take pass.served)).1 = .ok out ∧
    pass.scheduler.stats = (s.scheduleAll (stream.take pass.served)).2.stats

/-! ## A consumer with a limit -/

/-- Hands instructions to a consumer one after the other, as long as it goes on. -/
def feed {σ : Type} (consume : Instruction → σ → ForInStep σ) :
    List Instruction → σ → ForInStep σ
  | [], state => .yield state
  | inst :: rest, state =>
    match consume inst state with
    | .done state => .done state
    | .yield state => feed consume rest state

theorem deliver_eq_feed {σ : Type} (consume : Instruction → σ → ForInStep σ) (d : Decision)
    (inst : Instruction) (state : σ) :
    deliver consume d inst state = feed consume (d.emit inst) state := by
  have hpadding : ∀ count state,
      (match deliverPadding consume d.comment count state with
        | .done state => .done state
        | .yield state => consume inst state) =
      feed consume (List.replicate count (.pad d.comment) ++ [inst]) state := by
    intro count
    induction count with
    | zero =>
        intro state
        simp only [deliverPadding, List.replicate_zero, List.nil_append, feed]
        cases consume inst state <;> rfl
    | succ count ih =>
        intro state
        simp only [deliverPadding, List.replicate_succ, List.cons_append, feed]
        cases consume (.pad d.comment) state with
        | done state => rfl
        | yield state => exact ih state
  exact hpadding d.padding.toNatClampNeg state

/-- A consumer with room left takes what it is handed up to its limit. -/
theorem feed_collectUpTo {limit : Nat} (insts : List Instruction) {out : Array Instruction}
    (hroom : out.size < limit) :
    feed (collectUpTo limit) insts out =
      if limit ≤ out.size + insts.length then
        .done (out ++ (insts.take (limit - out.size)).toArray)
      else .yield (out ++ insts.toArray) := by
  induction insts generalizing out with
  | nil => simp [feed, Nat.not_le.mpr hroom]
  | cons inst rest ih =>
      unfold feed collectUpTo
      by_cases hlast : limit ≤ out.size + 1
      · have hone : limit - out.size = 1 := by omega
        simp [hlast, hone, show limit ≤ out.size + (rest.length + 1) by omega]
      · have hmore : limit - out.size = limit - (out.push inst).size + 1 := by
          rw [Array.size_push]
          omega
        have hpush : ∀ l : List Instruction,
            out.push inst ++ l.toArray = out ++ (inst :: l).toArray := by
          intro l
          apply Array.ext'
          simp
        have hrest := @ih (out.push inst) (by rw [Array.size_push]; omega)
        simp only [hlast, if_false]
        change feed (collectUpTo limit) rest (out.push inst) = _
        rw [hrest, hmore, List.take_succ_cons, hpush, hpush, Array.size_push, List.length_cons,
          Nat.add_assoc, Nat.add_comm 1]

theorem proceed_of_room (report : Nat → Instruction → Decision → Scheduler → List String)
    (pass : Pass (Array Instruction)) {limit : Nat} {served : List Instruction}
    {ds : List Decision} {t : Scheduler}
    (hplan : pass.scheduler.plan pass.pulled served = ⟨ds, t, none⟩)
    (hroom : pass.state.size + (emitted ds served).length < limit) (rest : List Instruction) :
    ∃ log, proceed report (collectUpTo limit) pass (served ++ rest) =
      proceed report (collectUpTo limit) ⟨t, pass.state ++ (emitted ds served).toArray,
        pass.pulled + served.length, pass.failure, log⟩ rest := by
  induction served generalizing pass ds with
  | nil =>
      simp only [plan, Plan.mk.injEq] at hplan
      obtain ⟨rfl, rfl, _⟩ := hplan
      exact ⟨pass.log, by simp⟩
  | cons inst served ih =>
      obtain ⟨d, next, ds', hstep, hrest, rfl⟩ := plan_cons_eq hplan
      rw [emitted_cons, List.length_append] at hroom
      have hdeliver : deliver (collectUpTo limit) d inst pass.state =
          .yield (pass.state ++ (d.emit inst).toArray) := by
        rw [deliver_eq_feed, feed_collectUpTo _ (by omega), if_neg (by omega)]
      let log := pass.log ++ report pass.pulled inst d next
      obtain ⟨log', htail⟩ := ih
        ⟨next, pass.state ++ (d.emit inst).toArray, pass.pulled + 1, pass.failure, log⟩ hrest
        (by simp; omega)
      refine ⟨log', ?_⟩
      simp only [List.cons_append, proceed, hstep, hdeliver]
      rw [htail]
      simp only [emitted_cons, List.length_cons, Nat.add_assoc, Nat.add_comm 1, Array.append_assoc,
        List.append_toArray]

/-- Stepping through a stream, a consumer has room for all of it, or there is an instruction at
which a step fails or the limit is reached. -/
theorem plan_reaches (s : Scheduler) (position : Nat) (stream : List Instruction) {limit : Nat}
    (hlimit : 0 < limit) :
    (∃ ds t, s.plan position stream = ⟨ds, t, none⟩ ∧ (emitted ds stream).length < limit) ∨
      ∃ served inst rest ds middle, stream = served ++ inst :: rest ∧
        s.plan position served = ⟨ds, middle, none⟩ ∧ (emitted ds served).length < limit ∧
        ((∃ e, middle.step (position + served.length) inst = .error e) ∨
          ∃ d next, middle.step (position + served.length) inst = .ok (d, next) ∧
            limit ≤ (emitted ds served).length + (d.emit inst).length) := by
  induction stream generalizing s position limit with
  | nil => exact Or.inl ⟨[], s, rfl, by simpa using hlimit⟩
  | cons inst rest ih =>
      cases hstep : s.step position inst with
      | error e =>
          exact Or.inr ⟨[], inst, rest, [], s, rfl, rfl, by simpa using hlimit, Or.inl ⟨e, hstep⟩⟩
      | ok result =>
          obtain ⟨d, next⟩ := result
          by_cases hlast : limit ≤ (d.emit inst).length
          · exact Or.inr ⟨[], inst, rest, [], s, rfl, rfl, by simpa using hlimit,
              Or.inr ⟨d, next, hstep, by simpa using hlast⟩⟩
          · -- The instruction is served in full, and the rest has so much less room.
            have hmore : 0 < limit - (d.emit inst).length := by omega
            rcases ih next (position + 1) hmore with
              ⟨ds, t, hplan, hroom⟩ | ⟨served, k, after, ds, middle, rfl, hplan, hroom, hend⟩
            · left
              refine ⟨d :: ds, t, by simp [plan, hstep, hplan], ?_⟩
              rw [emitted_cons, List.length_append]
              omega
            · right
              have hplace : position + (inst :: served).length = position + 1 + served.length := by
                rw [List.length_cons]
                omega
              refine ⟨inst :: served, k, after, d :: ds, middle, rfl, by simp [plan, hstep, hplan],
                ?_, ?_⟩
              · rw [emitted_cons, List.length_append]
                omega
              · rw [hplace, emitted_cons, List.length_append]
                refine hend.imp_right ?_
                rintro ⟨d', next', hstep', hle⟩
                exact ⟨d', next', hstep', by omega⟩

theorem take_succ_length {α : Type} (front : List α) (item : α) (back : List α) :
    (front ++ item :: back).take (front.length + 1) = front ++ [item] := by
  simp [List.take_append]

/-- A pass that ends with an instruction, whatever follows it, ends so with any continuation. -/
theorem causal_of_run {s last : Scheduler} {served : List Instruction} {inst : Instruction}
    (rest : List Instruction) {limit : Nat} {state : Array Instruction}
    {failure : Option ScheduleError}
    (hrun : ∀ after, ∃ log, s.run (served ++ inst :: after) #[] (collectUpTo limit) =
      ⟨last, state, served.length + 1, failure, log⟩) (other : List Instruction) :
    let pass := s.run (served ++ inst :: rest) #[] (collectUpTo limit)
    let again := s.run ((served ++ inst :: rest).take pass.pulled ++ other) #[] (collectUpTo limit)
    again.items = pass.items ∧ again.pulled = pass.pulled ∧ again.scheduler = pass.scheduler := by
  obtain ⟨log, hmine⟩ := hrun rest
  obtain ⟨log', hother⟩ := hrun other
  dsimp only
  rw [hmine, take_succ_length, List.append_assoc, List.singleton_append, hother]
  exact ⟨rfl, rfl, rfl⟩

/-! ## What there is in all -/

section Fresh

variable {s middle : Scheduler} (hs : s.consumed = false) {served : List Instruction}
  {ds : List Decision} (hplan : s.started.plan 0 served = ⟨ds, middle, none⟩)

include hs

theorem items_eq_plan (stream : List Instruction) :
    s.items stream = (emitted (s.decisions stream) stream).map .ok ++
      (s.started.plan 0 stream).failure.toList.map .error := by
  rw [items, Pass.items, run_collect s hs, (run_of_tireless collect_tireless s hs stream #[]).2]

include hplan

theorem items_of_plan : s.items served = (emitted ds served).map .ok := by
  rw [items_eq_plan hs, decisions, hplan]
  simp

theorem stats_of_plan : ∃ out, (s.scheduleAll served).1 = .ok out ∧
    (s.scheduleAll served).2.stats = middle.stats := by
  rw [scheduleAll_eq s hs, hplan]
  exact ⟨_, rfl, rfl⟩

variable {inst : Instruction} (rest : List Instruction)

theorem items_of_failure {e : ScheduleError} (hstep : middle.step served.length inst = .error e) :
    s.items (served ++ inst :: rest) = (emitted ds served).map .ok ++ [.error e] := by
  have hlength := plan_length hplan
  have hall := plan_append hplan (inst :: rest)
  simp only [Nat.zero_add, plan, hstep] at hall
  have hemitted := emitted_append hlength [] (inst :: rest)
  rw [emitted_nil, List.append_nil, List.append_nil] at hemitted
  rw [items_eq_plan hs, decisions, hall]
  simp only [List.append_nil, hemitted]
  rfl

theorem items_of_step {d : Decision} {next : Scheduler}
    (hstep : middle.step served.length inst = .ok (d, next)) :
    ∃ more, s.items (served ++ inst :: rest) =
      (emitted ds served ++ d.emit inst).map .ok ++ more ∧ (rest = [] → more = []) := by
  have hlength := plan_length hplan
  have hall := plan_append hplan (inst :: rest)
  simp only [Nat.zero_add, plan, hstep] at hall
  refine ⟨(emitted (next.plan (served.length + 1) rest).decisions rest).map .ok ++
    (next.plan (served.length + 1) rest).failure.toList.map .error, ?_, ?_⟩
  · rw [items_eq_plan hs, decisions, hall]
    simp [emitted_append hlength]
  · rintro rfl
    rfl

theorem owns_of_items {item : Nat} (hbefore : (emitted ds served).length ≤ item)
    (hafter : item < (s.items (served ++ [inst])).length) :
    s.Owns (served ++ inst :: rest) served.length item := by
  rw [Owns, List.take_left, take_succ_length, items_of_plan hs hplan, List.length_map]
  exact ⟨hbefore, hafter⟩

/-- A pass with a limit reaches the instruction behind those that it has room for. -/
theorem run_of_room {limit : Nat} (hroom : (emitted ds served).length < limit) :
    ∃ log, s.run (served ++ rest) #[] (collectUpTo limit) =
      proceed (fun _ _ _ _ => []) (collectUpTo limit)
        ⟨middle, (emitted ds served).toArray, served.length, none, log⟩ rest := by
  have hstart : s.run (served ++ rest) #[] (collectUpTo limit) =
      proceed (fun _ _ _ _ => []) (collectUpTo limit) { scheduler := s.started, state := #[] }
        (served ++ rest) := by
    simp only [run, runReporting, hs]
    rfl
  obtain ⟨log, hlog⟩ := proceed_of_room (fun _ _ _ _ => [])
    { scheduler := s.started, state := #[] } hplan (by simpa using hroom) rest
  exact ⟨log, by rw [hstart, hlog]; simp⟩

/-! ## How a pass with a limit ends -/

theorem onDemand_of_end {limit : Nat} (hroom : (emitted ds served).length < limit) :
    OnDemand s served limit (s.run served #[] (collectUpTo limit)) := by
  obtain ⟨log, hrun⟩ := run_of_room hs hplan [] hroom
  rw [List.append_nil, proceed] at hrun
  have hitems := items_of_plan hs hplan
  have hmine : (s.run served #[] (collectUpTo limit)).items = (emitted ds served).map .ok := by
    simp [hrun, Pass.items]
  have hserved : (s.run served #[] (collectUpTo limit)).served = served.length := by
    simp [hrun, Pass.served]
  refine ⟨?_, ?_, ?_, ?_⟩
  · rw [hmine, hitems, List.take_of_length_le (by simpa using hroom.le)]
  · rw [hmine, hrun]
    rcases List.eq_nil_or_concat' served with rfl | ⟨front, last, rfl⟩
    · exact Or.inl ⟨by simp [emitted], rfl⟩
    · right
      obtain ⟨ds₁, before, ds₂, hfront, hlast, rfl⟩ := plan_append_eq hplan
      obtain ⟨d, next, ds₃, hstep, hnil, rfl⟩ := plan_cons_eq hlast
      simp only [plan, Plan.mk.injEq] at hnil
      rw [← hnil.1]
      refine ⟨front.length, by simp, by simp, ?_⟩
      rw [Nat.zero_add] at hstep
      have hemit : (emitted (ds₁ ++ [d]) (front ++ [last])).length =
          (emitted ds₁ front).length + (d.pads + 1) := by
        simp [emitted_append (plan_length hfront), Decision.emit]
      obtain ⟨more, hmore, hno⟩ := items_of_step hs hfront [] hstep
      apply owns_of_items hs hfront
      · rw [List.length_map, hemit]
        omega
      · rw [hmore, hno rfl]
        simp [hemit, Decision.emit]
  · intro hfull
    rw [hmine, List.length_map] at hfull
    omega
  · rw [hserved, List.take_length, hrun]
    obtain ⟨out, hout, hstats⟩ := stats_of_plan hs hplan
    exact ⟨out, hout, hstats.symm⟩

theorem onDemand_of_failure {limit : Nat} (hroom : (emitted ds served).length < limit)
    {e : ScheduleError} (hstep : middle.step served.length inst = .error e) :
    OnDemand s (served ++ inst :: rest) limit
      (s.run (served ++ inst :: rest) #[] (collectUpTo limit)) := by
  -- Whatever follows the instruction, the pass ends in the same way.
  have hrun : ∀ after, ∃ log, s.run (served ++ inst :: after) #[] (collectUpTo limit) =
      ⟨middle, (emitted ds served).toArray, served.length + 1, some e, log⟩ := by
    intro after
    obtain ⟨log, hlog⟩ := run_of_room hs hplan (inst :: after) hroom
    exact ⟨log, by simp only [hlog, proceed, hstep]⟩
  obtain ⟨log, hmine⟩ := hrun rest
  have hitems := items_of_failure hs hplan rest hstep
  have hserved : (s.run (served ++ inst :: rest) #[] (collectUpTo limit)).served =
      served.length := by
    simp [hmine, Pass.served]
  refine ⟨?_, ?_, ?_, ?_⟩
  · rw [hitems, List.take_of_length_le (by simpa using hroom), hmine]
    simp [Pass.items]
  · refine Or.inr ⟨served.length, by simp, by rw [hmine], ?_⟩
    apply owns_of_items hs hplan
    · simp [hmine, Pass.items]
    · rw [items_of_failure hs hplan [] hstep, hmine]
      simp [Pass.items]
  · exact fun _ => causal_of_run rest hrun
  · rw [hserved, List.take_left, hmine]
    obtain ⟨out, hout, hstats⟩ := stats_of_plan hs hplan
    exact ⟨out, hout, hstats.symm⟩

theorem onDemand_of_limit {limit : Nat} (hroom : (emitted ds served).length < limit) {d : Decision}
    {next : Scheduler} (hstep : middle.step served.length inst = .ok (d, next))
    (hlast : limit ≤ (emitted ds served).length + (d.emit inst).length) :
    OnDemand s (served ++ inst :: rest) limit
      (s.run (served ++ inst :: rest) #[] (collectUpTo limit)) := by
  let taken := (emitted ds served ++ d.emit inst).take limit
  have htaken : taken.length = limit := by
    simpa [taken] using hlast
  have hdeliver : deliver (collectUpTo limit) d inst (emitted ds served).toArray =
      .done taken.toArray := by
    rw [deliver_eq_feed, feed_collectUpTo _ (by simpa using hroom), if_pos (by simpa using hlast)]
    congr 1
    apply Array.ext'
    simp [taken, List.take_append, List.take_of_length_le hroom.le]
  have hrun : ∀ after, ∃ log, s.run (served ++ inst :: after) #[] (collectUpTo limit) =
      ⟨next, taken.toArray, served.length + 1, none, log⟩ := by
    intro after
    obtain ⟨log, hlog⟩ := run_of_room hs hplan (inst :: after) hroom
    exact ⟨_, by simp only [hlog, proceed, hstep, hdeliver]; rfl⟩
  obtain ⟨log, hmine⟩ := hrun rest
  have hitems : (s.run (served ++ inst :: rest) #[] (collectUpTo limit)).items =
      taken.map .ok := by
    simp [hmine, Pass.items]
  have hserved : (s.run (served ++ inst :: rest) #[] (collectUpTo limit)).served =
      served.length + 1 := by
    simp [hmine, Pass.served]
  refine ⟨?_, ?_, ?_, ?_⟩
  · obtain ⟨more, hmore, _⟩ := items_of_step hs hplan rest hstep
    rw [hitems, hmore, List.take_append_of_le_length (by simpa using hlast), List.map_take]
  · refine Or.inr ⟨served.length, by simp, by rw [hmine], ?_⟩
    obtain ⟨more, hmore, hno⟩ := items_of_step hs hplan [] hstep
    rw [hitems, List.length_map, htaken]
    apply owns_of_items hs hplan
    · omega
    · rw [hmore, hno rfl]
      simp only [List.append_nil, List.length_map, List.length_append]
      omega
  · exact fun _ => causal_of_run rest hrun
  · have hone : s.started.plan 0 (served ++ [inst]) = ⟨ds ++ [d], next, none⟩ := by
      rw [plan_append hplan, Nat.zero_add]
      simp [plan, hstep]
    rw [hserved, take_succ_length, hmine]
    obtain ⟨out, hout, hstats⟩ := stats_of_plan hs hone
    exact ⟨out, hout, hstats.symm⟩

end Fresh

theorem onDemand_run {s : Scheduler} (hs : s.consumed = false) (stream : List Instruction)
    {limit : Nat} (hlimit : 0 < limit) :
    OnDemand s stream limit (s.run stream #[] (collectUpTo limit)) := by
  rcases plan_reaches s.started 0 stream hlimit with
    ⟨ds, t, hplan, hroom⟩ | ⟨served, inst, rest, ds, middle, rfl, hplan, hroom, hend⟩
  · exact onDemand_of_end hs hplan hroom
  · rw [Nat.zero_add] at hend
    rcases hend with ⟨e, hstep⟩ | ⟨d, next, hstep, hlast⟩
    · exact onDemand_of_failure hs hplan rest hroom hstep
    · exact onDemand_of_limit hs hplan rest hroom hstep hlast

/-! ## A scheduler that is used up -/

/-- What a client can do with a scheduler: ask for the padded form of a stream, iterate one of the
sequences that it asked for up to a number of items, or schedule a stream as a whole. -/
inductive Use where
  | ask (stream : List Instruction)
  | iterate (sequence limit : Nat)
  | scheduleAll (stream : List Instruction)

/-- What an iteration hands out, and how many instructions it pulls. -/
structure Yield where
  items : List (Except ScheduleError Instruction)
  pulled : Nat

/-- A scheduler and the sequences that were asked of it. None of them does anything until it is
iterated. -/
structure Client where
  scheduler : Scheduler
  sequences : List (List Instruction) := []

namespace Client

/-- One use of the scheduler, and what it yields if it is an iteration. -/
def perform (c : Client) : Use → Client × Option Yield
  | .ask stream => ({ c with sequences := c.sequences ++ [stream] }, none)
  | .iterate sequence limit =>
    match c.sequences[sequence]? with
    | none => (c, none)
    | some stream =>
      let pass := c.scheduler.run stream #[] (collectUpTo limit)
      ({ c with scheduler := pass.scheduler }, some ⟨pass.items, pass.pulled⟩)
  | .scheduleAll stream =>
    let (result, scheduler) := c.scheduler.scheduleAll stream
    let items := match result with
      | .ok out => out.map .ok
      | .error e => [.error e]
    ({ c with scheduler }, some ⟨items, (c.scheduler.run stream #[] collect).pulled⟩)

/-- Several uses in a row, and what each iteration among them yields. -/
def performAll (c : Client) : List Use → Client × List Yield
  | [] => (c, [])
  | use :: rest =>
    let (next, yielded) := c.perform use
    let (last, later) := next.performAll rest
    (last, yielded.toList ++ later)

end Client

theorem run_of_consumed {s : Scheduler} (hs : s.consumed = true) {σ : Type}
    (stream : List Instruction) (init : σ) (consume : Instruction → σ → ForInStep σ) :
    s.run stream init consume = { scheduler := s, state := init, failure := some .consumed } := by
  simp only [run, runReporting, hs, if_true]

theorem scheduleAll_of_consumed {s : Scheduler} (hs : s.consumed = true)
    (stream : List Instruction) : s.scheduleAll stream = (.error .consumed, s) := by
  simp only [scheduleAll, run_of_consumed hs]

/-- A used up scheduler stays as it is, and an iteration yields nothing but that. -/
theorem Client.perform_of_consumed {c : Client} (hc : c.scheduler.consumed = true) (use : Use) :
    (c.perform use).1.scheduler = c.scheduler ∧
      ∀ yielded ∈ (c.perform use).2, yielded = ⟨[.error .consumed], 0⟩ := by
  cases use with
  | ask stream => exact ⟨rfl, by simp [perform]⟩
  | iterate sequence limit =>
      unfold perform
      dsimp only
      split
      next => exact ⟨rfl, by simp⟩
      next stream _ =>
        rw [run_of_consumed hc]
        exact ⟨rfl, by simp [Pass.items]⟩
  | scheduleAll stream =>
      unfold perform
      dsimp only
      rw [scheduleAll_of_consumed hc, run_of_consumed hc]
      exact ⟨rfl, by simp⟩

theorem Client.performAll_of_consumed {c : Client} (hc : c.scheduler.consumed = true)
    (uses : List Use) :
    (c.performAll uses).1.scheduler = c.scheduler ∧
      ∀ yielded ∈ (c.performAll uses).2, yielded = ⟨[.error .consumed], 0⟩ := by
  induction uses generalizing c with
  | nil => exact ⟨rfl, by simp [performAll]⟩
  | cons use rest ih =>
      obtain ⟨hsame, hyield⟩ := perform_of_consumed hc use
      obtain ⟨hlast, hlater⟩ := ih (c := (c.perform use).1) (by rw [hsame, hc])
      refine ⟨hlast.trans hsame, ?_⟩
      intro yielded hyielded
      simp only [performAll, List.mem_append, Option.mem_toList] at hyielded
      rcases hyielded with hnow | hthen
      · exact hyield yielded hnow
      · exact hlater yielded hthen

theorem step_consumed {s next : Scheduler} {position : Nat} {inst : Instruction} {d : Decision}
    (hstep : s.step position inst = .ok (d, next)) : next.consumed = s.consumed := by
  rcases step_eq_ok hstep with ⟨_, _, rfl⟩ | ⟨_, _, _, _, _, rfl⟩
  · rfl
  · rfl

theorem proceed_consumed {σ : Type}
    (report : Nat → Instruction → Decision → Scheduler → List String)
    (consume : Instruction → σ → ForInStep σ) (stream : List Instruction) (pass : Pass σ) :
    (proceed report consume pass stream).scheduler.consumed = pass.scheduler.consumed := by
  induction stream generalizing pass with
  | nil => rfl
  | cons inst rest ih =>
      unfold proceed
      cases hstep : pass.scheduler.step pass.pulled inst with
      | error e => rfl
      | ok result =>
          obtain ⟨d, next⟩ := result
          dsimp only
          cases deliver consume d inst pass.state with
          | done state => exact step_consumed hstep
          | yield state => exact (ih _).trans (step_consumed hstep)

theorem run_consumed (s : Scheduler) {σ : Type} (stream : List Instruction) (init : σ)
    (consume : Instruction → σ → ForInStep σ) :
    (s.run stream init consume).scheduler.consumed = true := by
  unfold run runReporting
  split
  next hconsumed => exact hconsumed
  next => exact proceed_consumed _ consume stream _

/-- A padded stream is produced on demand and once. A consumer that stops with an item is served on
demand; and whatever the first consumer did, the scheduler is used up after it: each later iteration
of a sequence, however many were asked for and when, yields only that, pulls nothing, and leaves the
account and all windows as they are. -/
theorem scheduled_on_demand_once (s : Scheduler) (hs : s.consumed = false)
    (stream : List Instruction) :
    (∀ limit, 1 ≤ limit → OnDemand s stream limit (s.run stream #[] (collectUpTo limit))) ∧
      ∀ (σ : Type) (init : σ) (consume : Instruction → σ → ForInStep σ)
        (sequences : List (List Instruction)) (uses : List Use),
        let after := (s.run stream init consume).scheduler
        let later := Client.performAll ⟨after, sequences⟩ uses
        later.1.scheduler = after ∧
          ∀ yielded ∈ later.2, yielded = ⟨[.error .consumed], 0⟩ := by
  refine ⟨fun limit hlimit => onDemand_run hs stream hlimit, ?_⟩
  intro σ init consume sequences uses
  exact Client.performAll_of_consumed (run_consumed s stream init consume) uses

theorem scheduled_on_demand_once_overwrittenResult :
    let s := Scheduler.new { family := .cdna3 } Catalogue.rules []
    let pass := s.run overwrittenResult #[] (collectUpTo 5)
    s.consumed = false ∧ pass.pulled = 3 ∧ OnDemand s overwrittenResult 5 pass := by
  intro s pass
  exact ⟨rfl, by decide +kernel, (scheduled_on_demand_once s rfl overwrittenResult).1 5 (by decide)⟩

end Interlock.Scheduler
