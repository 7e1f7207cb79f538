import Interlock.Proofs.Scheduler.Decision

/-! # The account of a pass

A pass inserts padding and nothing else: in front of every instruction stands what its monitors
demanded at that moment. The statistics say exactly how much that was, in all and for each rule. A
pass that fails leaves everything as a pass over the instructions before the failure does.
-/

namespace Interlock

namespace Tally

theorem Ascending.foldl_add {rules : List Rule} (hnames : (rules.map (·.name)).Nodup) (n : Int64)
    {t : Tally} (ht : t.Ascending) :
    (rules.foldl (fun t r => t.add r.name n) t).Ascending ∧
      ∀ key, (rules.foldl (fun t r => t.add r.name n) t).credits.lookup key =
        if key ∈ rules.map (·.name) then some (t.get key + n) else t.credits.lookup key := by
  induction rules generalizing t with
  | nil => simpa using ht
  | cons r rest ih =>
      obtain ⟨hfresh, hrest⟩ := List.nodup_cons.mp hnames
      obtain ⟨hascending, hlookup⟩ := ih hrest (ht.add r.name n)
      refine ⟨hascending, fun key => ?_⟩
      rw [List.foldl_cons, hlookup, List.map_cons]
      by_cases hkey : key = r.name
      · subst hkey
        simp [hfresh, ht.lookup_add]
      · have hget : (t.add r.name n).get key = t.get key := by
          simp [Tally.get, ht.lookup_add, hkey]
        simp [hkey, hget, ht.lookup_add]

end Tally

/-! ## Exact statistics -/

/-- The padding of the decisions that a rule of this name won. -/
def creditOf (name : String) (ds : List Decision) : Nat :=
  (ds.map fun d => if name ∈ d.winners.map (·.name) then d.pads else 0).sum

/-- A decision as a pass makes it: with little padding, which has winners of different names. -/
structure Decision.Regular (d : Decision) : Prop where
  nonneg : 0 ≤ d.padding
  pads_le : d.pads ≤ 20
  names : (d.winners.map (·.name)).Nodup
  idle : d.padding = 0 → d.winners = []

/-- The statistics are the exact account of the decisions. -/
structure Stats.Accounts (stats : Stats) (ds : List Decision) : Prop where
  regular : ∀ d ∈ ds, d.Regular
  instructions : stats.instructions.toInt = ds.length
  hazards : stats.hazards.toInt = ds.countP (0 < ·.pads)
  padding : stats.padding.toInt = (ds.map (·.pads)).sum
  ascending : stats.byRule.Ascending
  credits : ∀ name, (stats.byRule.credits.lookup name).map (·.toInt) =
    if creditOf name ds = 0 then none else some (creditOf name ds : Int)

namespace Stats.Accounts

variable {stats : Stats} {ds : List Decision}

theorem nil : Accounts {} [] :=
  ⟨by simp, rfl, rfl, rfl, List.Pairwise.nil, fun _ => rfl⟩

theorem sum_pads_le (h : stats.Accounts ds) : (ds.map (·.pads)).sum ≤ 20 * ds.length := by
  have hpads : ∀ pads ∈ ds.map (·.pads), pads ≤ 20 := by
    simpa using fun d hd => (h.regular d hd).pads_le
  have hle := List.sum_le_card_nsmul (ds.map (·.pads)) 20 hpads
  simpa [Nat.mul_comm] using hle

theorem creditOf_le (h : stats.Accounts ds) (name : String) :
    creditOf name ds ≤ 20 * ds.length := by
  refine le_trans (List.sum_le_sum fun d _ => ?_) h.sum_pads_le
  split <;> omega

theorem toInt_get (h : stats.Accounts ds) (name : String) :
    (stats.byRule.get name).toInt = creditOf name ds := by
  have hcredit := h.credits name
  unfold Tally.get
  cases hlookup : stats.byRule.credits.lookup name with
  | none =>
      rw [hlookup] at hcredit
      split at hcredit
      next hzero => simp [hzero]
      next => simp at hcredit
  | some n =>
      rw [hlookup] at hcredit
      split at hcredit
      next => simp at hcredit
      next => simpa using hcredit

/-- One more decision is added exactly, unless there are too many to count. -/
theorem record (h : stats.Accounts ds) (hlength : ds.length < 2 ^ 57) {d : Decision}
    (hd : d.Regular) : (stats.record d).Accounts (ds ++ [d]) := by
  have hpads := Decision.natCast_pads hd.nonneg
  have hsum := h.sum_pads_le
  have hle := hd.pads_le
  have hcount : ds.countP (0 < ·.pads) ≤ ds.length := List.countP_le_length
  have hinstructions : (stats.instructions + 1).toInt = stats.instructions.toInt + 1 :=
    Word.toInt_add (by rw [h.instructions]; simp; omega) (by rw [h.instructions]; simp; omega)
  have hregular : ∀ k ∈ ds ++ [d], k.Regular := by
    intro k hk
    rcases List.mem_append.mp hk with hk | hk
    · exact h.regular k hk
    · rw [List.mem_singleton.mp hk]
      exact hd
  have hcredit : ∀ name, creditOf name (ds ++ [d]) =
      creditOf name ds + if name ∈ d.winners.map (·.name) then d.pads else 0 := by
    intro name
    simp [creditOf]
  unfold Stats.record
  split
  next hzero =>
    have hnone : d.pads = 0 := by
      have : d.padding.toInt = 0 := by rw [hzero]; rfl
      omega
    refine ⟨hregular, ?_, ?_, ?_, h.ascending, fun name => ?_⟩
    · simp [hinstructions, h.instructions]
    · simp [h.hazards, hnone]
    · simp [h.padding, hnone]
    · rw [hcredit, hd.idle hzero]
      simpa using h.credits name
  next hpositive =>
    have hsome : 0 < d.pads := by
      rw [Nat.pos_iff_ne_zero]
      intro hnone
      apply hpositive
      rw [← Int64.toInt_inj, Int64.toInt_zero]
      omega
    obtain ⟨hascending, hlookup⟩ := h.ascending.foldl_add hd.names d.padding
    refine ⟨hregular, ?_, ?_, ?_, hascending, fun name => ?_⟩
    · simp [hinstructions, h.instructions]
    · have hhazards : (stats.hazards + 1).toInt = stats.hazards.toInt + 1 :=
        Word.toInt_add (by rw [h.hazards]; simp; omega) (by rw [h.hazards]; simp; omega)
      simp [hhazards, h.hazards, hsome]
    · have hpadding : (stats.padding + d.padding).toInt = stats.padding.toInt + d.padding.toInt :=
        Word.toInt_add (by rw [h.padding]; omega) (by rw [h.padding]; omega)
      simp [hpadding, h.padding, hpads]
    · rw [hcredit, hlookup]
      split
      next =>
        have hget := h.toInt_get name
        have hbound := h.creditOf_le name
        have hexact : (stats.byRule.get name + d.padding).toInt =
            (stats.byRule.get name).toInt + d.padding.toInt :=
          Word.toInt_add (by omega) (by omega)
        rw [Option.map_some, hexact, hget, if_neg (by omega), ← hpads]
        simp
      next => simpa using h.credits name

end Stats.Accounts

namespace Scheduler

/-! ## The account of a plan -/

section Plan

variable {s t : Scheduler} {position : Nat}

theorem Remembers.step_regular {history : List Issue} (h : s.Remembers history)
    (hmodest : ∀ issue ∈ history, issue.Modest) (hnames : (s.rules.map (·.name)).Nodup)
    {inst : Instruction} {d : Decision} (hstep : s.step position inst = .ok (d, t)) :
    d.Regular := by
  have hle := h.step_padding_le hmodest hstep
  have hnonneg := step_padding_nonneg hstep
  have hpads := Decision.natCast_pads hnonneg
  rcases step_eq_ok hstep with ⟨_, rfl, _⟩ | ⟨_, _, hdecide, _⟩
  · exact ⟨hnonneg, by omega, List.nodup_nil, fun _ => rfl⟩
  · have hasked := decide_asked hdecide
    refine ⟨hnonneg, by omega, ?_, fun hzero => by rw [hasked.winners, if_pos hzero]⟩
    rw [hasked.winners]
    split
    · exact List.nodup_nil
    · exact hnames.sublist ((List.filter_sublist.map _).map _)

theorem step_stats {inst : Instruction} {d : Decision}
    (hstep : s.step position inst = .ok (d, t)) : t.stats = s.stats.record d := by
  rcases step_eq_ok hstep with ⟨_, rfl, rfl⟩ | ⟨_, _, _, _, _, rfl⟩
  · rfl
  · rfl

/-- A pass adds its decisions to the account. -/
theorem Remembers.plan_accounts {history : List Issue} (h : s.Remembers history)
    (hmodest : ∀ issue ∈ history, issue.Modest) (hnames : (s.rules.map (·.name)).Nodup)
    {stream : List Instruction} (hwaits : ∀ inst ∈ stream, inst.waitStates.toInt ≤ 2 ^ 62)
    {earlier ds : List Decision} (haccounts : s.stats.Accounts earlier)
    (hlength : earlier.length + stream.length < 2 ^ 57)
    (hplan : s.plan position stream = ⟨ds, t, none⟩) : t.stats.Accounts (earlier ++ ds) := by
  induction stream generalizing s position ds history earlier with
  | nil =>
      simp only [Scheduler.plan, Plan.mk.injEq] at hplan
      obtain ⟨rfl, rfl, _⟩ := hplan
      simpa using haccounts
  | cons inst rest ih =>
      obtain ⟨d, next, ds', hstep, hrest, rfl⟩ := plan_cons_eq hplan
      rw [List.length_cons] at hlength
      have hnext : next.stats.Accounts (earlier ++ [d]) := by
        rw [step_stats hstep]
        exact haccounts.record (by omega) (h.step_regular hmodest hnames hstep)
      have hissue := h.step_modest hmodest (hwaits inst List.mem_cons_self) hstep
      have hrules : (next.rules.map (·.name)).Nodup := by rwa [step_rules hstep]
      have hall := ih (h.step hstep) (List.forall_mem_cons.mpr ⟨hissue, hmodest⟩) hrules
        (fun k hk => hwaits k (List.mem_cons_of_mem inst hk)) hnext (by simp; omega) hrest
      simpa using hall

theorem nodup_names_new (target : Target) (disabled : List String) :
    ((Scheduler.new target Catalogue.rules disabled).rules.map (·.name)).Nodup := by
  have hcatalogue : (Catalogue.rules.map (·.name)).Nodup := by decide
  refine hcatalogue.sublist ?_
  simp only [rules, new, List.map_map]
  exact List.filter_sublist.map _

/-- A plan that fails has planned the instructions before the failure. -/
theorem plan_failure {stream : List Instruction} {ds : List Decision} {e : ScheduleError}
    (h : s.plan position stream = ⟨ds, t, some e⟩) :
    ∃ before inst after rule cause, stream = before ++ inst :: after ∧
      e = .failed (position + before.length) inst rule cause ∧
      s.plan position before = ⟨ds, t, none⟩ := by
  induction stream generalizing s position ds with
  | nil => simp [plan] at h
  | cons inst rest ih =>
      unfold plan at h
      cases hstep : s.step position inst with
      | error e' =>
          simp only [hstep, Plan.mk.injEq, Option.some.injEq] at h
          obtain ⟨rfl, rfl, rfl⟩ := h
          obtain ⟨rule, cause, rfl⟩ := step_eq_error hstep
          exact ⟨[], inst, rest, rule, cause, rfl, rfl, rfl⟩
      | ok result =>
          obtain ⟨d, next⟩ := result
          simp only [hstep, Plan.mk.injEq] at h
          obtain ⟨rfl, rfl, hfailure⟩ := h
          obtain ⟨before, failing, after, rule, cause, rfl, rfl, hbefore⟩ := ih (by rw [← hfailure])
          refine ⟨inst :: before, failing, after, rule, cause, rfl, ?_, ?_⟩
          · rw [List.length_cons, Nat.add_comm before.length, ← Nat.add_assoc]
          · simp [plan, hstep, hbefore]

end Plan

/-! ## Demands -/

/-- What monitors ask for in front of an instruction: the largest padding, and the rules that ask
for it. -/
structure Demand where
  padding : Nat
  rules : List Rule

/-- The padding that a monitor asks for. -/
def asked (inst : Instruction) (m : Monitor) : Nat :=
  ((m.peek inst).toOption.getD 0).toNatClampNeg

/-- The demand of some monitors. -/
def demand (monitors : List Monitor) (inst : Instruction) : Demand :=
  let padding := (monitors.map (asked inst)).foldr max 0
  ⟨padding, (monitors.filter fun m => asked inst m = padding).map (·.rule)⟩

/-- What is handed out to meet a demand: the padding, and the instruction. -/
def Demand.emit (demand : Demand) (inst : Instruction) : List Instruction :=
  List.replicate demand.padding (.pad (mergedComment demand.rules)) ++ [inst]

/-- The monitors as they stand when a pass comes to a position. -/
def monitorsAt (s : Scheduler) (stream : List Instruction) (position : Nat) : List Monitor :=
  (s.scheduleAll (stream.take position)).2.monitors

/-- The demands of a stream, in front of each of its instructions. -/
def demands (s : Scheduler) (stream : List Instruction) : List Demand :=
  stream.mapIdx fun position inst => demand (s.monitorsAt stream position) inst

theorem foldr_max_eq {l : List Nat} {n : Nat} (hle : ∀ x ∈ l, x ≤ n) (hmem : n = 0 ∨ n ∈ l) :
    l.foldr max 0 = n := by
  apply le_antisymm
  · clear hmem
    induction l with
    | nil => simp
    | cons x rest ih =>
        obtain ⟨hx, hrest⟩ := List.forall_mem_cons.mp hle
        simpa using ⟨hx, ih hrest⟩
  · rcases hmem with rfl | hmem
    · exact Nat.zero_le _
    · clear hle
      induction l with
      | nil => simp at hmem
      | cons x rest ih =>
          rcases List.mem_cons.mp hmem with rfl | hmem
          · exact le_max_left _ _
          · exact (ih hmem).trans (le_max_right _ _)

/-- A step meets the demand that it finds. -/
theorem step_meets {s next : Scheduler} {position : Nat} {inst : Instruction} {d : Decision}
    (hstep : s.step position inst = .ok (d, next)) :
    (∀ m ∈ s.monitors, ∃ owed, m.peek inst = .ok owed) ∧
      d.pads = (demand s.monitors inst).padding ∧
      (0 < d.pads → d.winners = (demand s.monitors inst).rules) := by
  rcases step_eq_ok hstep with ⟨hempty, rfl, _⟩ | ⟨_, _, hdecide, _⟩
  · rw [hempty]
    refine ⟨by simp, rfl, fun h => absurd h (by decide)⟩
  · obtain ⟨hnonneg, hcovers, hattained⟩ := decide_spec hdecide
    have hpads := Decision.natCast_pads hnonneg
    have hasked : ∀ m ∈ s.monitors, ∃ owed, m.peek inst = .ok owed ∧
        (asked inst m : Int) = owed.toInt ∧ owed.toInt ≤ d.padding.toInt := by
      intro m hm
      obtain ⟨owed, howed, hle⟩ := hcovers m hm
      refine ⟨owed, howed, ?_, Int64.le_iff_toInt_le.mp hle⟩
      simp only [asked, howed]
      exact Int.toNat_of_nonneg (Word.toInt_nonneg.mp (Monitor.peek_nonneg howed))
    have hpadding : (demand s.monitors inst).padding = d.pads := by
      apply foldr_max_eq
      · rw [List.forall_mem_map]
        intro m hm
        obtain ⟨owed, _, heq, hle⟩ := hasked m hm
        omega
      · rcases hattained with hzero | ⟨m, hm, hpeek⟩
        · left
          have : d.padding.toInt = 0 := by rw [hzero]; rfl
          omega
        · right
          obtain ⟨owed, howed, heq, _⟩ := hasked m hm
          rw [hpeek, Except.ok.injEq] at howed
          refine List.mem_map.mpr ⟨m, hm, ?_⟩
          rw [howed] at hpads
          omega
    refine ⟨fun m hm => (hcovers m hm).imp fun _ h => h.1, hpadding.symm, fun hpos => ?_⟩
    have hne : d.padding ≠ 0 := by
      intro hzero
      have : d.padding.toInt = 0 := by rw [hzero]; rfl
      omega
    rw [(decide_asked hdecide).winners, if_neg hne]
    simp only [attaining, demand] at hpadding ⊢
    rw [hpadding]
    congr 1
    apply List.filter_congr
    intro m hm
    obtain ⟨owed, howed, heq, _⟩ := hasked m hm
    rw [howed, decide_eq_decide, Except.ok.injEq, ← Int64.toInt_inj]
    omega

section Pass

variable {s t : Scheduler} {stream : List Instruction} {ds : List Decision}

theorem scheduleAll_of_plan (hs : s.consumed = false)
    (h : s.started.plan 0 stream = ⟨ds, t, none⟩) :
    s.scheduleAll stream = (.ok (emitted ds stream), t) := by
  rw [scheduleAll_eq s hs, decisions, h]

/-- Every decision of a pass meets the demand at its position. -/
theorem plan_meets (hs : s.consumed = false) (h : s.started.plan 0 stream = ⟨ds, t, none⟩)
    {position : Nat} (hposition : position < stream.length) (hposition' : position < ds.length) :
    let demand := demand (s.monitorsAt stream position) stream[position]
    (∀ m ∈ s.monitorsAt stream position, ∃ owed, m.peek stream[position] = .ok owed) ∧
      ds[position].pads = demand.padding ∧
      (0 < ds[position].pads → ds[position].winners = demand.rules) := by
  have hsplit :
      stream = stream.take position ++ stream[position] :: stream.drop (position + 1) := by
    rw [List.getElem_cons_drop, List.take_append_drop]
  have hplan := h
  rw [hsplit] at hplan
  obtain ⟨ds₁, middle, d, next, ds₂, hbefore, hstep, _, hds⟩ := plan_split hplan
  have hlength : ds₁.length = position := by
    rw [plan_length hbefore, List.length_take]
    omega
  have hd : ds[position] = d := by
    simp [hds, hlength]
  have hmonitors : s.monitorsAt stream position = middle.monitors := by
    rw [monitorsAt, scheduleAll_of_plan hs hbefore]
  rw [hd, hmonitors]
  exact step_meets hstep

theorem emitted_eq_demands (hs : s.consumed = false)
    (h : s.started.plan 0 stream = ⟨ds, t, none⟩) :
    emitted ds stream = (List.zipWith Demand.emit (s.demands stream) stream).flatten := by
  have hlength := plan_length h
  unfold emitted
  congr 1
  apply List.ext_getElem
  · simp [demands, hlength]
  · intro k hk hk'
    have hkstream : k < stream.length := by simp at hk; omega
    obtain ⟨_, hpads, hwinners⟩ := plan_meets hs h hkstream (by omega)
    simp only [List.getElem_zipWith, demands, List.getElem_mapIdx, Decision.emit, Decision.fill,
      Demand.emit, ← hpads, Decision.comment_eq]
    rcases Nat.eq_zero_or_pos ds[k].pads with hzero | hpos
    · simp [hzero]
    · rw [hwinners hpos]

theorem map_pads_eq_demands (hs : s.consumed = false)
    (h : s.started.plan 0 stream = ⟨ds, t, none⟩) :
    ds.map (·.pads) = (s.demands stream).map (·.padding) := by
  have hlength := plan_length h
  apply List.ext_getElem
  · simp [demands, hlength]
  · intro k hk hk'
    rw [List.length_map] at hk
    obtain ⟨_, hpads, _⟩ := plan_meets hs h (hlength ▸ hk) hk
    simp [demands, hpads]

theorem creditOf_eq_demands (hs : s.consumed = false)
    (h : s.started.plan 0 stream = ⟨ds, t, none⟩) (name : String) :
    creditOf name ds = ((s.demands stream).map fun demand =>
      if name ∈ demand.rules.map (·.name) then demand.padding else 0).sum := by
  have hlength := plan_length h
  unfold creditOf
  congr 1
  apply List.ext_getElem
  · simp [demands, hlength]
  · intro k hk hk'
    rw [List.length_map] at hk
    obtain ⟨_, hpads, hwinners⟩ := plan_meets hs h (hlength ▸ hk) hk
    simp only [List.getElem_map, demands, List.getElem_mapIdx, ← hpads]
    rcases Nat.eq_zero_or_pos ds[k].pads with hzero | hpos
    · simp [hzero]
    · rw [hwinners hpos]

theorem stats_accounts {target : Target} {disabled : List String}
    (hlength : stream.length < 2 ^ 57)
    (hcounts : ∀ inst ∈ stream, inst.op = .nop → inst.count.toInt ≤ 2 ^ 62)
    (h : (Scheduler.new target Catalogue.rules disabled).started.plan 0 stream = ⟨ds, t, none⟩) :
    t.stats.Accounts ds := by
  have hwaits : ∀ inst ∈ stream, inst.waitStates.toInt ≤ 2 ^ 62 :=
    fun inst hinst => Instruction.waitStates_le (hcounts inst hinst)
  exact (remembers_started target disabled).plan_accounts (by simp)
    (nodup_names_new target disabled) hwaits .nil (by simpa using hlength) h

/-- A pass that fails hands out what comes before the failure, and stays as it was there. -/
theorem scheduleAll_eq_error (hs : s.consumed = false) {e : ScheduleError}
    (he : (s.scheduleAll stream).1 = .error e) :
    ∃ before inst after rule cause, stream = before ++ inst :: after ∧
      e = .failed before.length inst rule cause ∧
      (s.scheduleAll before).1 = .ok (s.run stream #[] collect).state.toList ∧
      (s.scheduleAll stream).2 = (s.scheduleAll before).2 := by
  have hfailure : (s.started.plan 0 stream).failure = some e := by
    rw [scheduleAll_eq s hs] at he
    cases hf : (s.started.plan 0 stream).failure with
    | none => simp [hf] at he
    | some e' => simpa [hf] using he
  obtain ⟨before, inst, after, rule, cause, rfl, rfl, hbefore⟩ :=
    plan_failure (show s.started.plan 0 stream = ⟨_, _, some e⟩ by rw [← hfailure])
  refine ⟨before, inst, after, rule, cause, rfl, by rw [Nat.zero_add], ?_, ?_⟩
  · have hemitted := emitted_append (plan_length hbefore) [] (inst :: after)
    rw [List.append_nil, emitted_nil, List.append_nil] at hemitted
    rw [scheduleAll_of_plan hs hbefore, run_collect s hs]
    exact congrArg Except.ok hemitted.symm
  · rw [scheduleAll_of_plan hs hbefore, scheduleAll_eq s hs]

end Pass

/-- A scheduler only inserts padding, and accounts for exactly what it inserted. A stream that is
scheduled comes out with every instruction behind as many pads as its monitors demanded, and the
statistics count the instructions, the pads, the places where there are any, and the pads for each
rule. A pass that fails hands out, and accounts for, what comes before the failure. -/
theorem scheduled_account (target : Target) (disabled : List String) (stream : List Instruction)
    (hlength : stream.length < 2 ^ 57)
    (hcounts : ∀ inst ∈ stream, inst.op = .nop → inst.count.toInt ≤ 2 ^ 62) :
    let s := Scheduler.new target Catalogue.rules disabled
    let stats := (s.scheduleAll stream).2.stats
    (∀ out, (s.scheduleAll stream).1 = .ok out →
      (∀ (k : Nat) (hk : k < stream.length), ∀ m ∈ s.monitorsAt stream k,
        ∃ owed, m.peek stream[k] = .ok owed) ∧
      out = (List.zipWith Demand.emit (s.demands stream) stream).flatten ∧
      stats.instructions.toInt = stream.length ∧
      stats.padding.toInt = ((s.demands stream).map (·.padding)).sum ∧
      stats.hazards.toInt = (s.demands stream).countP (0 < ·.padding) ∧
      ∀ name, let credit : Nat := ((s.demands stream).map fun demand =>
          if name ∈ demand.rules.map (·.name) then demand.padding else 0).sum
        (stats.byRule.credits.lookup name).map (·.toInt) =
          if credit = 0 then none else some (credit : Int)) ∧
    ∀ e, (s.scheduleAll stream).1 = .error e → ∃ position inst rule cause out,
      e = .failed position inst rule cause ∧ stream[position]? = some inst ∧
      (s.scheduleAll (stream.take position)).1 = .ok out ∧
      (s.run stream #[] collect).state.toList = out ∧
      stats = (s.scheduleAll (stream.take position)).2.stats := by
  intro s stats
  refine ⟨?_, ?_⟩
  · intro out hout
    obtain ⟨⟨t, hplan⟩, rfl⟩ := scheduleAll_eq_ok rfl hout
    have hstats : stats = t.stats := by
      simp only [stats, scheduleAll_of_plan rfl hplan]
    have haccounts := stats_accounts hlength hcounts hplan
    rw [← hstats] at haccounts
    have hdslength := plan_length hplan
    have hpads := map_pads_eq_demands rfl hplan
    refine ⟨?_, emitted_eq_demands rfl hplan, ?_, ?_, ?_, ?_⟩
    · exact fun k hk => (plan_meets rfl hplan hk (by omega)).1
    · rw [haccounts.instructions, hdslength]
    · rw [haccounts.padding, hpads]
    · have hcount := congrArg (List.countP (0 < ·)) hpads
      rw [List.countP_map, List.countP_map] at hcount
      rw [haccounts.hazards]
      exact congrArg Nat.cast hcount
    · intro name
      have hcredit := haccounts.credits name
      rwa [creditOf_eq_demands rfl hplan name] at hcredit
  · intro e he
    obtain ⟨before, inst, after, rule, cause, hstream, rfl, hbefore, hsame⟩ :=
      scheduleAll_eq_error rfl he
    have htake : stream.take before.length = before := by simp [hstream]
    refine ⟨before.length, inst, rule, cause, _, rfl, by simp [hstream], ?_, rfl, ?_⟩
    · rw [htake, hbefore]
    · rw [htake, ← hsame]

theorem scheduled_account_overwrittenResult :
    let s := Scheduler.new { family := .cdna3 } Catalogue.rules []
    (s.scheduleAll overwrittenResult).2.stats.padding = 11 ∧
      (s.scheduleAll overwrittenResult).2.stats.padding.toInt =
        ((s.demands overwrittenResult).map (·.padding)).sum := by
  have hout : ((Scheduler.new { family := .cdna3 } Catalogue.rules []).scheduleAll
      overwrittenResult).1 = .ok (emitted ((Scheduler.new { family := .cdna3 } Catalogue.rules
        []).decisions overwrittenResult) overwrittenResult) := by decide +kernel
  have haccount := (scheduled_account { family := .cdna3 } [] overwrittenResult (by decide)
    (by decide)).1 _ hout
  exact ⟨by decide +kernel, haccount.2.2.2.1⟩

end Scheduler

end Interlock
