import Interlock.Proofs.Benchmark.Tile

/-! # Padding scales with the number of tiles

A stream of tiles waits once for each of them, and always for the same rule. How long that is
depends on the processor alone: 18 wait states on most of the targets that wait at all, one more on
gfx950, and none on the first generation, whose rules let vector instructions read a result.
-/

namespace Interlock

namespace Scheduler

/-- Without its padding a padded stream is the stream, and its padding is what was decided. -/
theorem padding_emitted {ds : List Decision} {stream : List Instruction}
    (hlength : ds.length = stream.length) (hstream : ∀ inst ∈ stream, inst.padding = false) :
    (emitted ds stream).filter (!·.padding) = stream ∧
      (emitted ds stream).countP (·.padding) = (ds.map Decision.pads).sum := by
  induction ds generalizing stream with
  | nil =>
      cases stream with
      | nil => exact ⟨rfl, rfl⟩
      | cons inst stream => simp at hlength
  | cons d ds ih =>
      cases stream with
      | nil => simp at hlength
      | cons inst stream =>
          obtain ⟨hfilter, hcount⟩ :=
            ih (Nat.succ.inj hlength) fun k hk => hstream k (List.mem_cons_of_mem inst hk)
          have hinst := hstream inst List.mem_cons_self
          have hpad : (Instruction.pad d.comment).padding = true := rfl
          constructor
          · simp [Decision.emit, Decision.fill, hfilter, hinst, hpad]
          · simp [Decision.emit, Decision.fill, hcount, hinst, hpad, List.countP_replicate]

/-- The account of a pass records its decisions one by one. -/
theorem plan_stats {s t : Scheduler} {position : Nat} {stream : List Instruction}
    {ds : List Decision} (h : s.plan position stream = ⟨ds, t, none⟩) :
    t.stats = ds.foldl Stats.record s.stats := by
  induction stream generalizing s position ds with
  | nil =>
      simp only [plan, Plan.mk.injEq] at h
      obtain ⟨rfl, rfl, _⟩ := h
      rfl
  | cons inst rest ih =>
      obtain ⟨d, next, ds', hstep, hrest, rfl⟩ := plan_cons_eq h
      rw [ih hrest, step_stats hstep, List.foldl_cons]

end Scheduler

namespace Benchmark

/-! ## The account of some tiles -/

theorem foldl_record_idle (count : Nat) (stats : Stats) :
    (List.replicate count ({} : Decision)).foldl Stats.record stats =
      { stats with instructions := stats.instructions + .ofNat count } := by
  induction count generalizing stats with
  | zero => simp
  | succ count ih =>
      have hrecord : stats.record {} = { stats with instructions := stats.instructions + 1 } := rfl
      rw [List.replicate_succ, List.foldl_cons, hrecord, ih, Nat.add_comm, Int64.ofNat_add,
        Int64.add_assoc]
      rfl

/-- The account of `n` tiles that wait for a rule, or for none. -/
def account (waiting : Option Rule) (k n : Nat) : Stats :=
  let instructions := Int64.ofNat (n * (2 * k + 34))
  match waiting with
  | none => { instructions }
  | some r =>
    { instructions
      hazards := .ofNat n
      padding := .ofNat n * lackOf r
      byRule := if n = 0 then {} else ⟨[(r.name, .ofNat n * lackOf r)]⟩ }

theorem account_zero (waiting : Option Rule) (k : Nat) : account waiting k 0 = {} := by
  cases waiting <;> simp [account]

/-- One more tile. -/
theorem foldl_record_tile (waiting : Option Rule) (hwaits : ∀ r ∈ waiting, 0 < lackOf r)
    (k n : Nat) : (tileDecisions k (firstWait waiting)).foldl Stats.record (account waiting k n) =
      account waiting k (n + 1) := by
  have hrecord : ∀ stats : Stats,
      stats.record {} = { stats with instructions := stats.instructions + 1 } := fun _ => rfl
  have hinstructions : Int64.ofNat ((n + 1) * (2 * k + 34)) =
      Int64.ofNat (n * (2 * k + 34)) + Int64.ofNat (2 * k) + 1 + 1 + 1 + Int64.ofNat 31 := by
    have hcount : (n + 1) * (2 * k + 34) = n * (2 * k + 34) + 2 * k + 1 + 1 + 1 + 31 := by ring
    simp only [hcount, Int64.ofNat_add]
    rfl
  simp only [tileDecisions, List.foldl_append, List.foldl_cons, foldl_record_idle, hrecord]
  cases waiting with
  | none =>
      simp only [account, firstWait, hrecord, hinstructions]
  | some r =>
      have hpos : lackOf r ≠ 0 := (Int64.ne_of_lt (hwaits r rfl)).symm
      have hsucc : Int64.ofNat (n + 1) = Int64.ofNat n + 1 := Int64.ofNat_add n 1
      have hpadding : (Int64.ofNat n + 1) * lackOf r = Int64.ofNat n * lackOf r + lackOf r := by
        rw [Int64.add_mul, Int64.one_mul]
      have hcredit : (if n = 0 then {} else ⟨[(r.name, .ofNat n * lackOf r)]⟩ : Tally).add r.name
          (lackOf r) = ⟨[(r.name, Int64.ofNat n * lackOf r + lackOf r)]⟩ := by
        split
        next hzero => simp [hzero, Tally.add, Tally.addCredit]
        next => simp [Tally.add, Tally.addCredit]
      simp only [account, firstWait, hinstructions, Stats.record, if_neg hpos, List.foldl_cons,
        List.foldl_nil, hsucc, hpadding, hcredit, if_neg n.succ_ne_zero]

theorem foldl_record_tiles (waiting : Option Rule) (hwaits : ∀ r ∈ waiting, 0 < lackOf r)
    (k n : Nat) : (List.replicate n (tileDecisions k (firstWait waiting))).flatten.foldl
      Stats.record {} = account waiting k n := by
  induction n with
  | zero => exact (account_zero waiting k).symm
  | succ n ih =>
      rw [List.replicate_succ', List.flatten_append, List.flatten_singleton, List.foldl_append, ih,
        foldl_record_tile waiting hwaits]

theorem sum_pads_tiles (first : Decision) (k n : Nat) :
    ((List.replicate n (tileDecisions k first)).flatten.map Decision.pads).sum =
      first.pads * n := by
  have hidle : Decision.pads {} = 0 := rfl
  have htile : ((tileDecisions k first).map Decision.pads).sum = first.pads := by
    simp [tileDecisions, hidle]
  induction n with
  | zero => rfl
  | succ n ih =>
      rw [List.replicate_succ, List.flatten_cons, List.map_append, List.sum_append, htile, ih,
        Nat.mul_succ, Nat.add_comm]

/-! ## Streams of tiles -/

theorem working_started (target : Target) : Working (Scheduler.new target).started [] := by
  refine ⟨Scheduler.remembers_started target [], ?_, by simp, by simp⟩
  intro r hr
  obtain ⟨m, hm, rfl⟩ := List.mem_map.mp hr
  obtain ⟨r, hrequired, rfl⟩ := List.mem_map.mp hm
  exact List.mem_of_mem_filter hrequired

theorem ofTile_of_mem_gemmTile {k : Nat} {inst : Instruction} (h : inst ∈ gemmTile (k + 1)) :
    OfTile inst := by
  rw [gemmTile_succ, List.mem_append, List.mem_cons, List.mem_cons, List.mem_cons] at h
  rcases h with h | rfl | rfl | rfl | h
  · exact Or.inl (exists_of_mem_tileSteps h)
  · exact ofTile_product false k
  · exact ofTile_product true k
  · exact ofTile_conversion false (by decide)
  · exact Or.inr (exists_of_mem_laterConversions h)

/-- A stream of tiles comes out with the padding of its first conversions, and nothing else. -/
theorem scheduleAll_tiles (target : Target) {waiting : Option Rule}
    (hwaiting : (Scheduler.new target).rules.filter (0 < needOf ·) = waiting.toList) (k n : Nat) :
    let stream := (List.replicate n (gemmTile (k + 1))).flatten
    ∃ out t, (Scheduler.new target).scheduleAll stream = (.ok out, t) ∧
      out.filter (!·.padding) = stream ∧
      out.countP (·.padding) = (firstWait waiting).pads * n ∧
      t.stats = account waiting k n := by
  intro stream
  have hworking := working_started target
  obtain ⟨t, _, hplan, _⟩ := hworking.run_tiles hwaiting k n 0
  have hstream : ∀ inst ∈ stream, inst.padding = false := by
    intro inst hinst
    obtain ⟨tile, htile, hinst⟩ := List.mem_flatten.mp hinst
    rw [List.eq_of_mem_replicate htile] at hinst
    exact (ofTile_of_mem_gemmTile hinst).sound.2.1
  have hwaits : ∀ r ∈ waiting, 0 < lackOf r := by
    intro r hr
    have hmem : r ∈ (Scheduler.new target).rules.filter (0 < needOf ·) := by
      rw [hwaiting]
      exact Option.mem_toList.mpr hr
    obtain ⟨hrule, hneed⟩ := List.mem_filter.mp hmem
    exact (toInt_lackOf (hworking.rules r hrule) (by simpa using hneed)).1
  obtain ⟨hfilter, hcount⟩ := Scheduler.padding_emitted (Scheduler.plan_length hplan) hstream
  refine ⟨_, t, Scheduler.scheduleAll_of_plan rfl hplan, hfilter, ?_, ?_⟩
  · rw [hcount, sum_pads_tiles]
  · rw [Scheduler.plan_stats hplan]
    exact foldl_record_tiles waiting hwaits k n

/-! ## The documented padding -/

/-- The wait states of a tile on a processor. -/
def tilePadding (processor : String) : Nat :=
  if processor ∈ ["gfx90a", "gfx940", "gfx941", "gfx942"] then 18
  else if processor = "gfx950" then 19
  else 0

theorem tilePadding_lt (processor : String) : tilePadding processor < 2 ^ 63 := by
  unfold tilePadding
  split
  · norm_num
  · split <;> norm_num

/-- The rules about the results of matrix instructions. -/
def matrixWrites : List String :=
  [Catalogue.write908, Catalogue.write90a, Catalogue.write94x, Catalogue.write950].map (·.name)

/-- Where a tile waits at all, it waits for the active rule about matrix results. -/
theorem exists_waiting (target : Target)
    (htarget : (target.processor, target.family) ∈ Target.processors) :
    ∃ waiting : Option Rule,
      (Scheduler.new target).rules.filter (0 < needOf ·) = waiting.toList ∧
      firstWait waiting = ⟨.ofNat (tilePadding target.processor), waiting.toList⟩ ∧
      (waiting = none ↔ tilePadding target.processor = 0) ∧
      ∀ r ∈ waiting, (Scheduler.new target).rules.filter (·.name ∈ matrixWrites) = [r] := by
  have hall : ∀ known ∈ Target.processors, ∀ xnack sramecc : Bool,
      let rules := (Scheduler.new ⟨known.1, xnack, sramecc, known.2⟩).rules
      (rules.filter (0 < needOf ·)).map lackOf =
          (if tilePadding known.1 = 0 then [] else [.ofNat (tilePadding known.1)]) ∧
        (tilePadding known.1 ≠ 0 → ∀ r ∈ rules, 0 < needOf r ↔ r.name ∈ matrixWrites) := by
    decide +kernel
  obtain ⟨hlacks, hnames⟩ := hall _ htarget target.xnack target.sramecc
  change ((Scheduler.new target).rules.filter (0 < needOf ·)).map lackOf = _ at hlacks
  by_cases hzero : tilePadding target.processor = 0
  · rw [if_pos hzero, List.map_eq_nil_iff] at hlacks
    refine ⟨none, hlacks, ?_, by simp [hzero], by simp⟩
    rw [hzero]
    rfl
  · rw [if_neg hzero] at hlacks
    obtain ⟨r, hr, hlack⟩ := List.map_eq_singleton_iff.mp hlacks
    refine ⟨some r, hr, ?_, by simp [hzero], ?_⟩
    · rw [firstWait, hlack]
      rfl
    · intro r' hr'
      obtain rfl := Option.some.inj hr'
      rw [← hr]
      refine List.filter_congr fun k hk => ?_
      rw [decide_eq_decide]
      exact (hnames hzero k hk).symm

/-- The padding of `n` tiles is exactly `n` times that of one, on every known target and for any
number of steps in a tile. Where it is not zero, every tile is one hazard, and the rule about matrix
results that the target activates has all the credit. -/
theorem tiles_padding (target : Target)
    (htarget : (target.processor, target.family) ∈ Target.processors) (k : Nat) (hk : 1 ≤ k)
    (n : Nat) :
    let s := Scheduler.new target
    let stream := (List.replicate n (gemmTile k)).flatten
    let padding := tilePadding target.processor * n
    ∃ out t, s.scheduleAll stream = (.ok out, t) ∧
      out.filter (!·.padding) = stream ∧ out.countP (·.padding) = padding ∧
      t.stats.padding = .ofNat padding ∧
      (tilePadding target.processor = 0 → t.stats.hazards = 0 ∧ t.stats.byRule = {}) ∧
      (tilePadding target.processor ≠ 0 → t.stats.hazards = .ofNat n ∧
        ∃ r, s.rules.filter (·.name ∈ matrixWrites) = [r] ∧
          t.stats.byRule = if n = 0 then {} else ⟨[(r.name, .ofNat padding)]⟩) ∧
      (target.processor = "gfx942" →
        (s.scheduleAll (gemmLoop n)).2.stats.padding = .ofNat (18 * n)) := by
  intro s stream padding
  obtain ⟨waiting, hwaiting, hfirst, hnone, hrule⟩ := exists_waiting target htarget
  have hpads : (firstWait waiting).pads = tilePadding target.processor := by
    rw [hfirst]
    exact Int64.toNatClampNeg_ofNat_of_lt (tilePadding_lt target.processor)
  have hlack : ∀ r ∈ waiting, Int64.ofNat n * lackOf r = .ofNat padding := by
    intro r hr
    obtain rfl := Option.mem_def.mp hr
    have hpadding : lackOf r = .ofNat (tilePadding target.processor) :=
      congrArg Decision.padding hfirst
    rw [hpadding, ← Int64.ofNat_mul, Nat.mul_comm]
  have haccount : ∀ k, (account waiting k n).padding = .ofNat padding := by
    intro k
    cases waiting with
    | none => simp [account, padding, hnone.mp rfl]
    | some r => exact hlack r rfl
  obtain ⟨k, rfl⟩ := Nat.exists_eq_add_of_le' hk
  obtain ⟨out, t, hout, hfilter, hcount, hstats⟩ := scheduleAll_tiles target hwaiting k n
  refine ⟨out, t, hout, hfilter, by rw [hcount, hpads], by rw [hstats, haccount], ?_, ?_, ?_⟩
  · intro hzero
    rw [hstats, hnone.mpr hzero]
    exact ⟨rfl, rfl⟩
  · intro hpositive
    cases waiting with
    | none => exact absurd (hnone.mp rfl) hpositive
    | some r =>
        refine ⟨by rw [hstats]; rfl, r, hrule r rfl, ?_⟩
        rw [hstats, ← hlack r rfl]
        rfl
  · intro hprocessor
    obtain ⟨out, t, hout, _, _, hstats⟩ := scheduleAll_tiles target hwaiting 3 n
    have hloop : s.scheduleAll (gemmLoop n) = (.ok out, t) := hout
    have hpadding : padding = 18 * n := by simp [padding, hprocessor, tilePadding]
    rw [hloop, hstats, haccount, hpadding]

theorem tiles_padding_twoTiles :
    let target : Target := { processor := "gfx942", family := .cdna3 }
    (target.processor, target.family) ∈ Target.processors ∧ 1 ≤ 4 ∧
      ∃ out t, (Scheduler.new target).scheduleAll (gemmTile 4 ++ gemmTile 4) = (.ok out, t) ∧
        out.countP (·.padding) = 36 ∧ t.stats.padding = 36 ∧ t.stats.hazards = 2 := by
  intro target
  have hknown : (target.processor, target.family) ∈ Target.processors := by decide
  obtain ⟨out, t, hout, _, hcount, hpadding, _, hpositive, _⟩ :=
    tiles_padding target hknown 4 (by decide) 2
  exact ⟨hknown, by decide, out, t, hout, hcount, hpadding, (hpositive (by decide)).1⟩

end Benchmark

end Interlock
