import Interlock.Benchmark
import Interlock.Proofs.Scheduler.Comparison
import Interlock.Proofs.Scheduler.Idempotence

/-! # The padding of matrix tiles

A tile adds products to two accumulators in turn and then converts both. Products may follow each
other at once, because each adds to the very range that the one before it wrote. Only the first
conversion has to wait: it reads what was written one instruction earlier. By the time it issues,
the other accumulator has settled as well, so nothing else in the tile waits, and neither does the
tile behind it. This holds for any history of tiles, whatever windows are still open.
-/

namespace Interlock.Benchmark

/-! ## The instructions of a tile -/

/-- The accumulators of a tile. -/
def accumulator (second : Bool) : Register :=
  .vector (if second then 48 else 32) 16

/-- The product of step `i` on an accumulator. -/
def product (second : Bool) (i : Nat) : Instruction :=
  .mfma "v_mfma_f32_32x32x8f16" 16 (accumulator second) (.vector (4 * Int64.ofNat (i % 4)) 2)
    (.vector (4 * Int64.ofNat (i % 4) + 2) 2) (accumulator second)

/-- The conversion of result `j` of an accumulator. -/
def conversion (second : Bool) (j : Nat) : Instruction :=
  .valu "v_cvt_f16_f32" (.vector ((if second then 80 else 64) + Int64.ofNat j) 1)
    [.vector ((if second then 48 else 32) + Int64.ofNat j) 1]

/-- The conversions of a tile behind the first. -/
def laterConversions : List Instruction :=
  (List.range 15).map (fun j => conversion false (j + 1)) ++ (List.range 16).map (conversion true)

/-- The tile that ends with step `k`. -/
theorem gemmTile_succ (k : Nat) :
    gemmTile (k + 1) = (List.range k).flatMap tileStep ++
      product false k :: product true k :: conversion false 0 :: laterConversions := by
  rw [gemmTile, List.range_succ, List.flatMap_append, List.append_assoc, List.append_assoc]
  rfl

/-- What a tile is made of. -/
def OfTile (inst : Instruction) : Prop :=
  (∃ second i, inst = product second i) ∨ ∃ second, ∃ j < 16, inst = conversion second j

theorem ofTile_product (second : Bool) (i : Nat) : OfTile (product second i) :=
  Or.inl ⟨second, i, rfl⟩

theorem ofTile_conversion (second : Bool) {j : Nat} (hj : j < 16) : OfTile (conversion second j) :=
  Or.inr ⟨second, j, hj, rfl⟩

theorem product_mod (second : Bool) (i : Nat) : product second (i % 4) = product second i := by
  simp only [product, Nat.mod_mod]

theorem exists_of_mem_tileSteps {steps : List Nat} {inst : Instruction}
    (h : inst ∈ steps.flatMap tileStep) : ∃ second i, inst = product second i := by
  obtain ⟨i, _, hinst⟩ := List.mem_flatMap.mp h
  rcases List.mem_cons.mp hinst with rfl | hinst
  · exact ⟨false, i, rfl⟩
  · exact ⟨true, i, List.mem_singleton.mp hinst⟩

theorem exists_of_mem_laterConversions {inst : Instruction} (h : inst ∈ laterConversions) :
    ∃ second, ∃ j < 16, inst = conversion second j := by
  rcases List.mem_append.mp h with h | h
  · obtain ⟨j, hj, rfl⟩ := List.mem_map.mp h
    have hlt := List.mem_range.mp hj
    exact ⟨false, j + 1, by omega, rfl⟩
  · obtain ⟨j, hj, rfl⟩ := List.mem_map.mp h
    exact ⟨true, j, List.mem_range.mp hj, rfl⟩

/-! ## What the rules say about them -/

/-- The wait states that a rule requires between a product and the conversion of its result. -/
def needOf (r : Rule) : Int64 :=
  match r.separation (product false 0) (conversion false 0) with
  | .ok (some n) => n
  | _ => 0

/-- What is left of them behind the product of the other accumulator. -/
def lackOf (r : Rule) : Int64 :=
  if 0 < needOf r then needOf r - 1 else 0

theorem needOf_pos_of_lackOf_pos {r : Rule} (h : 0 < lackOf r) : 0 < needOf r := by
  unfold lackOf at h
  split at h
  next hneed => exact hneed
  next => exact absurd h Int64.lt_irrefl

section Rules

variable {r : Rule} (hr : r ∈ Catalogue.rules)

include hr

theorem toInt_lackOf (hneed : 0 < needOf r) :
    0 < lackOf r ∧ (lackOf r).toInt + 1 = (needOf r).toInt := by
  have hall : ∀ r ∈ Catalogue.rules, 0 < needOf r →
      0 < lackOf r ∧ (lackOf r).toInt + 1 = (needOf r).toInt := by
    decide +kernel
  exact hall r hr hneed

theorem need_of_products {first second : Bool} {i j : Nat} {n : Int64}
    (h : r.separation (product first i) (product second j) = .ok (some n)) : n = 0 := by
  have hall : ∀ r ∈ Catalogue.rules, ∀ first second : Bool, ∀ i < 4, ∀ j < 4,
      r.separation (product first i) (product second j) = .ok none ∨
        r.separation (product first i) (product second j) = .ok (some 0) := by
    decide +kernel
  rw [← product_mod first, ← product_mod second] at h
  have hsmall : ∀ i, i % 4 < 4 := fun i => Nat.mod_lt i (by decide)
  rcases hall r hr first second _ (hsmall i) _ (hsmall j) with hnone | hzero
  · simp [hnone] at h
  · rw [hzero, Except.ok.injEq, Option.some.injEq] at h
    exact h.symm

theorem separation_conversion (first second : Bool) (i : Nat) {j : Nat} (hj : j < 16) :
    r.separation (product first i) (conversion second j) =
      .ok (if first = second ∧ 0 < needOf r then some (needOf r) else none) := by
  have hall : ∀ r ∈ Catalogue.rules, ∀ first second : Bool, ∀ i < 4, ∀ j < 16,
      r.separation (product first i) (conversion second j) =
        .ok (if first = second ∧ 0 < needOf r then some (needOf r) else none) := by
    decide +kernel
  rw [← product_mod first]
  exact hall r hr first second _ (Nat.mod_lt i (by decide)) j hj

theorem need_of_conversion {first second : Bool} {i j : Nat} (hj : j < 16) {n : Int64}
    (h : r.separation (product first i) (conversion second j) = .ok (some n)) :
    first = second ∧ 0 < needOf r ∧ n = needOf r := by
  rw [separation_conversion hr first second i hj, Except.ok.injEq] at h
  split at h
  next hneed => exact ⟨hneed.1, hneed.2, (Option.some.inj h).symm⟩
  next => contradiction

theorem opening_conversion (second : Bool) {j : Nat} (hj : j < 16) :
    r.opening (conversion second j) = .ok none := by
  have hall : ∀ r ∈ Catalogue.rules, ∀ second : Bool, ∀ j < 16,
      r.opening (conversion second j) = .ok none := by
    decide +kernel
  exact hall r hr second j hj

theorem exists_opening_product (second : Bool) (i : Nat) :
    ∃ opened, r.opening (product second i) = .ok opened := by
  have hall : ∀ r ∈ Catalogue.rules, ∀ second : Bool, ∀ i < 4,
      (r.opening (product second i)).isOk = true := by
    decide +kernel
  have hok := hall r hr second _ (Nat.mod_lt i (by decide))
  rw [product_mod] at hok
  cases hopening : r.opening (product second i) with
  | error e => simp [hopening, Except.isOk, Except.toBool] at hok
  | ok opened => exact ⟨opened, rfl⟩

theorem exists_opening {inst : Instruction} (hinst : OfTile inst) :
    ∃ opened, r.opening inst = .ok opened := by
  rcases hinst with ⟨second, i, rfl⟩ | ⟨second, j, hj, rfl⟩
  · exact exists_opening_product hr second i
  · exact ⟨none, opening_conversion hr second hj⟩

end Rules

theorem OfTile.sound {inst : Instruction} (h : OfTile inst) :
    inst.defect? = none ∧ inst.padding = false ∧ inst.waitStates = 1 := by
  rcases h with ⟨second, i, rfl⟩ | ⟨second, j, hj, rfl⟩
  · have hall : ∀ second : Bool, ∀ i < 4, (product second i).defect? = none := by decide +kernel
    have hdefect := hall second _ (Nat.mod_lt i (by decide))
    rw [product_mod] at hdefect
    exact ⟨hdefect, rfl, rfl⟩
  · have hall : ∀ second : Bool, ∀ j < 16, (conversion second j).defect? = none := by
      decide +kernel
    exact ⟨hall second j hj, rfl, rfl⟩

/-! ## One instruction -/

/-- A scheduler in the midst of tiles: all that it remembers are instructions of tiles. -/
structure Working (s : Scheduler) (history : List Issue) : Prop where
  remembers : s.Remembers history
  rules : ∀ r ∈ s.rules, r ∈ Catalogue.rules
  tile : ∀ issue ∈ history, OfTile issue.inst
  modest : ∀ issue ∈ history, issue.Modest

/-- All results of the history may be converted. -/
def Settled (s : Scheduler) (history : List Issue) : Prop :=
  ∀ r ∈ s.rules, ∀ later opened, r.Current history later opened →
    (needOf r).toInt ≤ slotsOf later

/-- The decision on the first conversion of a tile, if it has to wait for one rule or for none. -/
def firstWait : Option Rule → Decision
  | none => {}
  | some r => ⟨lackOf r, [r]⟩

namespace Working

variable {s : Scheduler} {history : List Issue} {inst : Instruction}

/-- Only products leave requirements behind. -/
theorem exists_product_of_current (h : Working s history) {r : Rule} (hr : r ∈ s.rules)
    {later : List Issue} {opened : Window} (hcurrent : r.Current history later opened) {n : Int64}
    (hcheck : r.check opened inst = .ok (some n)) :
    ∃ first i, r.separation (product first i) inst = .ok (some n) := by
  have hcatalogue := h.rules r hr
  obtain ⟨issue, earlier, rfl, hopening⟩ := hcurrent.split
  have hissue : OfTile issue.inst := h.tile issue (by simp)
  rcases hissue with ⟨first, i, heq⟩ | ⟨second, j, hj, heq⟩
  · refine ⟨first, i, ?_⟩
    rw [← heq, (Catalogue.rules_sound r hcatalogue).separation_of_opening hopening, hcheck]
  · simp [heq, opening_conversion hcatalogue second hj] at hopening

/-- A monitor asks for nothing if all requirements of its history are met. -/
theorem peek_eq_zero (h : Working s history) {m : Monitor} (hm : m ∈ s.monitors)
    (hmet : ∀ later opened n, m.rule.Current history later opened →
      m.rule.check opened inst = .ok (some n) → n.toInt ≤ slotsOf later) :
    m.peek inst = .ok 0 := by
  obtain ⟨hsound, hremembers⟩ := h.remembers m hm
  obtain ⟨owed, howed⟩ := h.remembers.exists_owed inst m hm
  by_cases hpos : 0 < owed
  · obtain ⟨later, opened, n, hcurrent, hcheck, hn⟩ :=
      hremembers.exists_need_of_owed hsound h.modest howed hpos
    have hle := hmet later opened n hcurrent hcheck
    rw [Int64.lt_iff_toInt_lt, Int64.toInt_zero] at hpos
    omega
  · rw [howed, Int64.le_antisymm (Int64.not_lt.mp hpos) (Monitor.peek_nonneg howed)]

/-- A product never waits. -/
theorem peek_product (h : Working s history) (second : Bool) (i : Nat) :
    ∀ m ∈ s.monitors, m.peek (product second i) = .ok 0 := by
  intro m hm
  have hrule : m.rule ∈ s.rules := List.mem_map_of_mem hm
  apply h.peek_eq_zero hm
  intro later opened n hcurrent hcheck
  obtain ⟨first, k, hn⟩ := h.exists_product_of_current hrule hcurrent hcheck
  rw [need_of_products (h.rules _ hrule) hn, Int64.toInt_zero]
  exact (h.remembers m hm).2.slotsOf_later_nonneg hcurrent

/-- A conversion of settled results does not wait. -/
theorem peek_conversion (h : Working s history) (hsettled : Settled s history) (second : Bool)
    {j : Nat} (hj : j < 16) : ∀ m ∈ s.monitors, m.peek (conversion second j) = .ok 0 := by
  intro m hm
  have hrule : m.rule ∈ s.rules := List.mem_map_of_mem hm
  apply h.peek_eq_zero hm
  intro later opened n hcurrent hcheck
  obtain ⟨first, i, hn⟩ := h.exists_product_of_current hrule hcurrent hcheck
  rw [(need_of_conversion (h.rules _ hrule) hj hn).2.2]
  exact hsettled _ hrule later opened hcurrent

section First

variable {i : Nat} {past : List Issue}
  (h : Working s (⟨product true i, 0⟩ :: ⟨product false i, 0⟩ :: past)) {m : Monitor}
  (hm : m ∈ s.monitors) {owed : Int64} (howed : m.peek (conversion false 0) = .ok owed)

include h hm howed

/-- The product that the first conversion reads was issued just before the latest one. -/
theorem need_le_of_peek_first (hneed : 0 < needOf m.rule) :
    (needOf m.rule).toInt ≤ 1 + owed.toInt := by
  have hcatalogue := h.rules _ (List.mem_map_of_mem hm)
  obtain ⟨hsound, hremembers⟩ := h.remembers m hm
  have hseparation := separation_conversion hcatalogue false false i (by decide : 0 < 16)
  rw [if_pos ⟨rfl, hneed⟩] at hseparation
  have hopens := exists_opening_product hcatalogue false i
  rcases hsound.opening_of_separation hseparation hopens with hzero | ⟨opened, hopening, hcheck⟩
  · rw [hzero] at hneed
    exact absurd hneed Int64.lt_irrefl
  · have hsplit : (⟨product true i, 0⟩ :: ⟨product false i, 0⟩ :: past : List Issue) =
        [⟨product true i, 0⟩] ++ ⟨product false i, 0⟩ :: past := rfl
    have hbetween : slotsOf [⟨product true i, 0⟩] = 1 := rfl
    rw [← hbetween]
    refine hremembers.need_le_of_longer hsound hsplit hopening ?_ howed (Int64.le_refl _) hcheck
    intro issue hissue _
    rw [List.mem_singleton.mp hissue]
    exact Int64.le_refl _

/-- Older products lack no more, and the latest is on the other accumulator. -/
theorem le_need_of_peek_first (hpos : 0 < owed) :
    0 < needOf m.rule ∧ 1 + owed.toInt ≤ (needOf m.rule).toInt := by
  have hrule : m.rule ∈ s.rules := List.mem_map_of_mem hm
  have hcatalogue := h.rules _ hrule
  obtain ⟨hsound, hremembers⟩ := h.remembers m hm
  obtain ⟨later, opened, n, hcurrent, hcheck, hn⟩ :=
    hremembers.exists_need_of_owed hsound h.modest howed hpos
  obtain ⟨first, k, hseparation⟩ := h.exists_product_of_current hrule hcurrent hcheck
  obtain ⟨_, hneed, rfl⟩ := need_of_conversion hcatalogue (by decide) hseparation
  refine ⟨hneed, ?_⟩
  rcases hcurrent.of_cons with ⟨_, hopening⟩ | ⟨later', rfl, hbefore, _⟩
  · have hlatest := hsound.separation_of_opening hopening (conversion false 0)
    rw [hcheck] at hlatest
    have hsame := (need_of_conversion hcatalogue (by decide) hlatest).1
    contradiction
  · have hlater : 0 ≤ slotsOf later' := by
      apply slotsOf_nonneg
      intro issue hissue
      exact hremembers.padding_nonneg issue
        (List.mem_cons_of_mem _ (hbefore.later_subset issue hissue))
    have hslots : slotsOf (⟨product true i, 0⟩ :: later') = 1 + slotsOf later' :=
      slotsOf_cons _ _
    omega

end First

/-- The first conversion of a tile asks each rule for what its own product still lacks: the product
of the other accumulator came in between. -/
theorem peek_first {i : Nat} {past : List Issue}
    (h : Working s (⟨product true i, 0⟩ :: ⟨product false i, 0⟩ :: past)) :
    ∀ m ∈ s.monitors, m.peek (conversion false 0) = .ok (lackOf m.rule) := by
  intro m hm
  obtain ⟨owed, howed⟩ := h.remembers.exists_owed (conversion false 0) m hm
  rw [howed]
  by_cases hneed : 0 < needOf m.rule
  · obtain ⟨hlackPos, hlack⟩ := toInt_lackOf (h.rules _ (List.mem_map_of_mem hm)) hneed
    have hlow := h.need_le_of_peek_first hm howed hneed
    have hpos : 0 < owed := by
      rw [Int64.lt_iff_toInt_lt, Int64.toInt_zero] at hlackPos ⊢
      omega
    have hhigh := (h.le_need_of_peek_first hm howed hpos).2
    rw [← Int64.toInt_inj.mp (by omega : owed.toInt = (lackOf m.rule).toInt)]
  · rw [lackOf, if_neg hneed]
    by_cases hpos : 0 < owed
    · exact absurd (h.le_need_of_peek_first hm howed hpos).1 hneed
    · rw [Int64.le_antisymm (Int64.not_lt.mp hpos) (Monitor.peek_nonneg howed)]

/-- A scheduler takes any instruction of a tile. -/
theorem step (h : Working s history) (hinst : OfTile inst) {d : Decision}
    (hdecide : Scheduler.decide inst {} s.monitors = .ok d) (position : Nat) :
    ∃ next, s.step position inst = .ok (d, next) ∧ Working next (⟨inst, d.padding⟩ :: history) ∧
      next.rules = s.rules := by
  obtain ⟨hdefect, _, hwait⟩ := hinst.sound
  have hfree : ¬ Scheduler.Unschedulable s.rules inst := by
    rintro (hunsound | ⟨r, hr, hobstructs⟩)
    · exact hunsound hdefect
    · have hcatalogue := h.rules r hr
      obtain ⟨opened, hopening⟩ := exists_opening hcatalogue hinst
      have herror :=
        (Catalogue.rules_sound r hcatalogue).opening_eq_error_iff.mpr ⟨hobstructs, rfl⟩
      rw [hopening] at herror
      contradiction
  have hstep : ∃ next, s.step position inst = .ok (d, next) := by
    by_cases hidle : s.monitors = []
    · rw [hidle, Scheduler.decide, Except.ok.injEq] at hdecide
      refine ⟨{ s with stats := s.stats.record {} }, ?_⟩
      simp [Scheduler.step, hidle, ← hdecide]
    · rcases h.remembers.step_cases hidle position inst with
        ⟨⟨d', next, hstep⟩, _⟩ | ⟨rule, failure, _, hblames⟩
      · rcases Scheduler.step_eq_ok hstep with ⟨hempty, _⟩ | ⟨_, _, hdecide', _⟩
        · exact absurd hempty hidle
        · rw [hdecide, Except.ok.injEq] at hdecide'
          exact ⟨next, hdecide' ▸ hstep⟩
      · exact absurd hblames.unschedulable hfree
  obtain ⟨next, hstep⟩ := hstep
  have hrules := Scheduler.step_rules hstep
  have hmodest : Issue.Modest ⟨inst, d.padding⟩ :=
    h.remembers.step_modest h.modest (by rw [hwait]; decide) hstep
  refine ⟨next, hstep, ⟨h.remembers.step hstep, ?_, ?_, ?_⟩, hrules⟩
  · rw [hrules]
    exact h.rules
  · exact List.forall_mem_cons.mpr ⟨hinst, h.tile⟩
  · exact List.forall_mem_cons.mpr ⟨hmodest, h.modest⟩

/-- A step without padding at an instruction that no rule asks about. -/
theorem step_idle (h : Working s history) (hinst : OfTile inst)
    (hpeek : ∀ m ∈ s.monitors, m.peek inst = .ok 0) (position : Nat) :
    ∃ next, s.step position inst = .ok ({}, next) ∧ Working next (⟨inst, 0⟩ :: history) ∧
      next.rules = s.rules :=
  h.step hinst (Scheduler.decide_eq_of_peek_zero hpeek) position

end Working

/-- If one rule at most is to be waited for, the first conversion waits for it alone. -/
theorem decide_eq_firstWait {inst : Instruction} {monitors : List Monitor}
    (hrules : ∀ m ∈ monitors, m.rule ∈ Catalogue.rules)
    (hpeek : ∀ m ∈ monitors, m.peek inst = .ok (lackOf m.rule)) {waiting : Option Rule}
    (hwaiting : (monitors.map (·.rule)).filter (0 < needOf ·) = waiting.toList) :
    Scheduler.decide inst {} monitors = .ok (firstWait waiting) := by
  cases waiting with
  | none =>
      apply Scheduler.decide_eq_of_peek_zero
      intro m hm
      have hneed := List.filter_eq_nil_iff.mp hwaiting m.rule (List.mem_map_of_mem hm)
      rw [hpeek m hm, lackOf, if_neg (by simpa using hneed)]
  | some r =>
      have honly : ∀ m ∈ monitors, 0 < needOf m.rule → m.rule = r := by
        intro m hm hneed
        have hmem : m.rule ∈ (monitors.map (·.rule)).filter (0 < needOf ·) :=
          List.mem_filter.mpr ⟨List.mem_map_of_mem hm, by simpa using hneed⟩
        simpa [hwaiting] using hmem
      obtain ⟨m, hm, rfl, hneed⟩ : ∃ m ∈ monitors, m.rule = r ∧ 0 < needOf r := by
        have hmem : r ∈ (monitors.map (·.rule)).filter (0 < needOf ·) := by simp [hwaiting]
        obtain ⟨hmem, hneed⟩ := List.mem_filter.mp hmem
        obtain ⟨m, hm, heq⟩ := List.mem_map.mp hmem
        exact ⟨m, hm, heq, by simpa using hneed⟩
      have hlack := (toInt_lackOf (hrules m hm) hneed).1
      obtain ⟨d, hd⟩ := Scheduler.exists_decide (fun m hm => ⟨_, hpeek m hm⟩) {}
      have hasked := Scheduler.decide_asked hd
      have hpos : 0 < d.padding := by
        obtain ⟨owed, howed, hle⟩ := hasked.covers m hm
        rw [hpeek m hm, Except.ok.injEq] at howed
        exact Int64.lt_of_lt_of_le hlack (howed ▸ hle)
      have hpadding : d.padding = lackOf m.rule := by
        rcases (Scheduler.decide_spec hd).2.2 with hzero | ⟨k, hk, hkpeek⟩
        · rw [hzero] at hpos
          exact absurd hpos Int64.lt_irrefl
        · rw [hpeek k hk, Except.ok.injEq] at hkpeek
          rw [← hkpeek] at hpos ⊢
          rw [honly k hk (needOf_pos_of_lackOf_pos hpos)]
      have hwinners : d.winners = [m.rule] := by
        rw [hasked.winners, if_neg (Int64.ne_of_lt hpos).symm, Scheduler.attaining, hpadding]
        rw [List.filter_map] at hwaiting
        rw [← Option.toList_some, ← hwaiting]
        refine congrArg _ (List.filter_congr fun k hk => ?_)
        rw [Function.comp_apply, decide_eq_decide, hpeek k hk, Except.ok.injEq]
        constructor
        · intro heq
          exact needOf_pos_of_lackOf_pos (heq ▸ hlack)
        · intro hk'
          rw [honly k hk hk']
      rw [hd, firstWait, ← hpadding, ← hwinners]

/-! ## One tile -/

/-- The decisions on a tile that ends with step `k`: only the first conversion may wait. -/
def tileDecisions (k : Nat) (first : Decision) : List Decision :=
  let idle : Decision := {}
  List.replicate (2 * k) idle ++ idle :: idle :: first :: List.replicate 31 idle

theorem plan_of_step {s next t : Scheduler} {position : Nat} {inst : Instruction} {d : Decision}
    (hstep : s.step position inst = .ok (d, next)) {rest : List Instruction} {ds : List Decision}
    (hrest : next.plan (position + 1) rest = ⟨ds, t, none⟩) :
    s.plan position (inst :: rest) = ⟨d :: ds, t, none⟩ := by
  simp only [Scheduler.plan, hstep, hrest]

/-- What every instruction of a stream keeps without padding, a pass over the stream keeps. -/
theorem run_idle {Keeps : Scheduler → List Issue → Prop} {stream : List Instruction}
    (hstep : ∀ inst ∈ stream, ∀ s history position, Keeps s history →
      ∃ next history', s.step position inst = .ok ({}, next) ∧ Keeps next history')
    {s : Scheduler} {history : List Issue} (h : Keeps s history) (position : Nat) :
    ∃ t history', s.plan position stream = ⟨List.replicate stream.length {}, t, none⟩ ∧
      Keeps t history' := by
  induction stream generalizing s history position with
  | nil => exact ⟨s, history, rfl, h⟩
  | cons inst rest ih =>
      obtain ⟨next, history₁, hfirst, hnext⟩ := hstep inst List.mem_cons_self s history position h
      obtain ⟨t, history₂, hrest, ht⟩ :=
        ih (fun k hk => hstep k (List.mem_cons_of_mem inst hk)) hnext (position + 1)
      exact ⟨t, history₂, plan_of_step hfirst hrest, ht⟩

namespace Working

variable {s : Scheduler} {history : List Issue}

/-- Products go by untouched. -/
theorem run_products (h : Working s history) {stream : List Instruction}
    (hstream : ∀ inst ∈ stream, ∃ second i, inst = product second i) (position : Nat) :
    ∃ t history', s.plan position stream = ⟨List.replicate stream.length {}, t, none⟩ ∧
      Working t history' := by
  refine run_idle (fun inst hinst s history position h => ?_) h position
  obtain ⟨second, i, rfl⟩ := hstream inst hinst
  obtain ⟨next, hstep, hnext, _⟩ :=
    h.step_idle (ofTile_product second i) (h.peek_product second i) position
  exact ⟨next, _, hstep, hnext⟩

/-- A conversion opens no window, and gives the results before it one more wait state. -/
theorem settled_conversion (h : Working s history) {next : Scheduler}
    (hrules : next.rules = s.rules) (second : Bool) {j : Nat} (hj : j < 16) {padding : Int64}
    (hmet : ∀ r ∈ s.rules, ∀ later opened, r.Current history later opened →
      (needOf r).toInt ≤ padding.toInt + 1 + slotsOf later) :
    Settled next (⟨conversion second j, padding⟩ :: history) := by
  intro r hr later opened hcurrent
  rw [hrules] at hr
  rcases hcurrent.of_cons with ⟨_, hopening⟩ | ⟨later', rfl, hbefore, _⟩
  · simp [opening_conversion (h.rules r hr) second hj] at hopening
  · rw [slotsOf_cons, Issue.slots, (ofTile_conversion second hj).sound.2.2]
    exact hmet r hr later' opened hbefore

/-- Conversions of settled results go by untouched. -/
theorem run_conversions (h : Working s history) (hsettled : Settled s history)
    {stream : List Instruction}
    (hstream : ∀ inst ∈ stream, ∃ second, ∃ j < 16, inst = conversion second j) (position : Nat) :
    ∃ t history', s.plan position stream = ⟨List.replicate stream.length {}, t, none⟩ ∧
      Working t history' ∧ Settled t history' := by
  have hstart : Working s history ∧ Settled s history := ⟨h, hsettled⟩
  refine run_idle (fun inst hinst s history position ⟨h, hsettled⟩ => ?_) hstart position
  obtain ⟨second, j, hj, rfl⟩ := hstream inst hinst
  obtain ⟨next, hstep, hnext, hrules⟩ :=
    h.step_idle (ofTile_conversion second hj) (h.peek_conversion hsettled second hj) position
  refine ⟨next, _, hstep, hnext, h.settled_conversion hrules second hj ?_⟩
  intro r hr later opened hcurrent
  have hneed := hsettled r hr later opened hcurrent
  have hzero : (0 : Int64).toInt = 0 := rfl
  omega

/-- Behind the first conversion of a tile all results are settled. -/
theorem step_first {i : Nat} {past : List Issue}
    (h : Working s (⟨product true i, 0⟩ :: ⟨product false i, 0⟩ :: past)) {waiting : Option Rule}
    (hwaiting : s.rules.filter (0 < needOf ·) = waiting.toList) (position : Nat) :
    ∃ next history', s.step position (conversion false 0) = .ok (firstWait waiting, next) ∧
      Working next history' ∧ Settled next history' := by
  have hcatalogue : ∀ m ∈ s.monitors, m.rule ∈ Catalogue.rules :=
    fun m hm => h.rules _ (List.mem_map_of_mem hm)
  have hdecide := decide_eq_firstWait hcatalogue h.peek_first hwaiting
  obtain ⟨next, hstep, hnext, hrules⟩ :=
    h.step (ofTile_conversion false (by decide)) hdecide position
  refine ⟨next, _, hstep, hnext, h.settled_conversion hrules false (by decide) ?_⟩
  intro r hr later opened hcurrent
  obtain ⟨m, hm, rfl⟩ := List.mem_map.mp hr
  have hslots := (h.remembers m hm).2.slotsOf_later_nonneg hcurrent
  obtain ⟨owed, howed, hle⟩ := (Scheduler.decide_spec hdecide).2.1 m hm
  rw [h.peek_first m hm, Except.ok.injEq] at howed
  rw [← howed, Int64.le_iff_toInt_le] at hle
  by_cases hneed : 0 < needOf m.rule
  · have hlack := (toInt_lackOf (h.rules _ hr) hneed).2
    omega
  · have hpadding := Int64.le_iff_toInt_le.mp (Scheduler.step_padding_nonneg hstep)
    have hneed := Int64.le_iff_toInt_le.mp (Int64.not_lt.mp hneed)
    rw [Int64.toInt_zero] at hpadding hneed
    omega

/-- One tile waits in front of its first conversion at most, for the rule that requires it. -/
theorem run_tile (h : Working s history) {waiting : Option Rule}
    (hwaiting : s.rules.filter (0 < needOf ·) = waiting.toList) (k position : Nat) :
    ∃ t history', s.plan position (gemmTile (k + 1)) =
      ⟨tileDecisions k (firstWait waiting), t, none⟩ ∧ Working t history' := by
  have hsteps : ∀ inst ∈ (List.range k).flatMap tileStep, ∃ second i, inst = product second i :=
    fun inst hinst => exists_of_mem_tileSteps hinst
  obtain ⟨before, _, hbefore, hworking⟩ := h.run_products hsteps position
  have hlength : ((List.range k).flatMap tileStep).length = 2 * k := by
    simp [tileStep, Nat.mul_comm]
  rw [hlength] at hbefore
  -- The last step of the tile leaves its two products in front of the history.
  obtain ⟨first, hfirst, hworking, hrules₁⟩ := hworking.step_idle (ofTile_product false k)
    (hworking.peek_product false k) (position + 2 * k)
  obtain ⟨both, hboth, hworking, hrules₂⟩ := hworking.step_idle (ofTile_product true k)
    (hworking.peek_product true k) (position + 2 * k + 1)
  have hrules : both.rules = s.rules := by
    rw [hrules₂, hrules₁, Scheduler.plan_rules hbefore]
  rw [← hrules] at hwaiting
  obtain ⟨waited, _, hwaited, hworking, hsettled⟩ :=
    hworking.step_first hwaiting (position + 2 * k + 1 + 1)
  obtain ⟨t, history', hlater, ht, _⟩ := hworking.run_conversions hsettled
    (fun inst hinst => exists_of_mem_laterConversions hinst) (position + 2 * k + 1 + 1 + 1)
  refine ⟨t, history', ?_, ht⟩
  rw [gemmTile_succ, Scheduler.plan_append hbefore, hlength,
    plan_of_step hfirst (plan_of_step hboth (plan_of_step hwaited hlater))]
  rfl

/-- Tiles one after the other wait as each of them does. -/
theorem run_tiles (h : Working s history) {waiting : Option Rule}
    (hwaiting : s.rules.filter (0 < needOf ·) = waiting.toList) (k n position : Nat) :
    ∃ t history', s.plan position (List.replicate n (gemmTile (k + 1))).flatten =
      ⟨(List.replicate n (tileDecisions k (firstWait waiting))).flatten, t, none⟩ ∧
      Working t history' := by
  induction n generalizing s history position with
  | zero => exact ⟨s, history, rfl, h⟩
  | succ n ih =>
      obtain ⟨middle, _, htile, hmiddle⟩ := h.run_tile hwaiting k position
      rw [← Scheduler.plan_rules htile] at hwaiting
      obtain ⟨t, history', hrest, ht⟩ := ih hmiddle hwaiting (position + (gemmTile (k + 1)).length)
      refine ⟨t, history', ?_, ht⟩
      rw [List.replicate_succ, List.flatten_cons, Scheduler.plan_append htile, hrest]
      rfl

end Working

end Interlock.Benchmark
