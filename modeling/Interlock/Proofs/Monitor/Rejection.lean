import Interlock.Proofs.Monitor.Replacement

/-! # Commits that are rejected

A commit settles the windows in their order. The first that rejects the instruction ends it, and by
then the windows in front have aged and those that stay open stand at the front of the list. So a
rejected commit changes nothing only if the first window rejects it, or if it would have let no time
pass. Where nothing conflicts, no window looks at the padding at all, be it negative.
-/

namespace Interlock

namespace Rule

/-- The windows that a rejected commit shows. What stays open of `earlier` stands in front of the
windows whose places it did not take. -/
def halfSettled (r : Rule) (inst : Instruction) (padding : Int64) (earlier rest : List Window) :
    List Window :=
  let kept := earlier.filterMap (r.survivor inst padding)
  kept ++ (earlier.map (·.aged (padding + inst.waitStates)) ++ rest).drop kept.length

variable {r : Rule} {inst : Instruction} {padding : Int64} {earlier rest : List Window}

/-- If time has passed, it shows: a place that was not given back holds an aged window, and if all
were given back the first does. -/
theorem halfSettled_ne (hearlier : earlier ≠ []) (hslots : padding + inst.waitStates ≠ 0) :
    r.halfSettled inst padding earlier rest ≠ earlier ++ rest := by
  have hages : ∀ w : Window, w.aged (padding + inst.waitStates) ≠ w := by
    intro w heq
    apply hslots
    have helapsed := congrArg Window.elapsed heq
    rw [Window.aged_elapsed] at helapsed
    simpa using helapsed
  intro heq
  by_cases hgone : (earlier.filterMap (r.survivor inst padding)).length < earlier.length
  · have hplace := congrArg (·[(earlier.filterMap (r.survivor inst padding)).length]?) heq
    have hmapped : (earlier.filterMap (r.survivor inst padding)).length <
        (earlier.map (·.aged (padding + inst.waitStates))).length := by rwa [List.length_map]
    simp only [halfSettled, List.getElem?_append_right (Nat.le_refl _), Nat.sub_self,
      List.getElem?_drop, Nat.add_zero] at hplace
    rw [List.getElem?_append_left hmapped, List.getElem?_append_left hgone, List.getElem?_map,
      List.getElem?_eq_getElem hgone, Option.map_some, Option.some.injEq] at hplace
    exact hages _ hplace
  · obtain ⟨w, others, rfl⟩ := List.exists_cons_of_ne_nil hearlier
    have hstays := List.filterMap_length_eq_length.mp
      (Nat.le_antisymm (List.length_filterMap_le _ _) (Nat.not_lt.mp hgone))
    obtain ⟨next, hnext⟩ := Option.isSome_iff_exists.mp (hstays w List.mem_cons_self)
    rw [halfSettled, List.filterMap_cons_some hnext, List.cons_append, List.cons_append,
      List.cons.injEq] at heq
    exact hages w ((survivor_eq_some hnext).1 ▸ heq.1)

theorem halfSettled_of_no_time (hslots : padding + inst.waitStates = 0)
    (hearlier : ∀ w ∈ earlier, r.check w inst = .ok none ∧ w.inert = false) :
    r.halfSettled inst padding earlier rest = earlier ++ rest := by
  have hkept : earlier.filterMap (r.survivor inst padding) = earlier := by
    have hsame : ∀ w ∈ earlier, r.survivor inst padding w = some w := by
      intro w hw
      obtain ⟨hcheck, hopen⟩ := hearlier w hw
      rw [survivor_of_check hcheck (Or.inl rfl), hslots, Window.aged_zero, hopen]
      rfl
    rw [List.filterMap_congr hsame, List.filterMap_some]
  have haged : earlier.map (·.aged (padding + inst.waitStates)) = earlier := by
    rw [hslots, List.map_congr_left fun w _ => w.aged_zero, List.map_id']
  rw [halfSettled, hkept, haged, List.drop_left]

/-- A window of a sound rule is settled, or asks for more than it gets. -/
theorem Sound.settle_cases (hr : r.Sound) {w : Window} (hw : r.Admits w) (inst : Instruction)
    (padding : Int64) :
    (∃ next, r.settle inst padding w = .ok next) ∨
      ∃ n, r.check w inst = .ok (some n) ∧ padding < w.remaining n ∧ r.settle inst padding w =
        .error (.underPadded r.name inst.name.shown padding (w.remaining n)) := by
  obtain ⟨need, hcheck, _⟩ := hr.check_eq hw inst
  cases need with
  | none => exact Or.inl ⟨_, settle_of_check hcheck (Or.inl rfl)⟩
  | some n =>
      by_cases hlt : padding < w.remaining n
      · exact Or.inr ⟨n, hcheck, hlt, by simp [settle, hcheck, hlt]⟩
      · exact Or.inl ⟨_, settle_of_check hcheck (Or.inr (Int64.not_lt.mp hlt))⟩

theorem remaining_le_of_settle {w : Window} {next : Window × Bool} {n : Int64}
    (h : r.settle inst padding w = .ok next) (hcheck : r.check w inst = .ok (some n)) :
    w.remaining n ≤ padding := by
  obtain ⟨need, hneed, hlack⟩ := check_of_settle h
  rw [hcheck, Except.ok.injEq] at hneed
  subst hneed
  exact hlack.resolve_left (Option.some_ne_none n)

/-- A window that accepts less than nothing has no conflict. -/
theorem check_of_settle_neg {w : Window} {next : Window × Bool} (hneg : padding < 0)
    (h : r.settle inst padding w = .ok next) : r.check w inst = .ok none := by
  obtain ⟨need, hcheck, _⟩ := check_of_settle h
  cases need with
  | none => exact hcheck
  | some n =>
      have hless := Int64.lt_of_le_of_lt (remaining_le_of_settle h hcheck) hneg
      exact absurd (w.remaining_nonneg n) (Int64.not_le.mpr hless)

/-- Padding that every window accepts covers what they ask for, or they ask for nothing. -/
theorem owedAfter_le_of_settle {windows : List Window} {owed : Int64}
    (howed : r.owedAfter inst 0 windows = .ok owed)
    (hsettle : ∀ w ∈ windows, ∃ next, r.settle inst padding w = .ok next) :
    owed = 0 ∨ owed ≤ padding := by
  rcases (owedAfter_spec howed).2.2 with hzero | ⟨w, hw, hlack⟩
  · exact Or.inl hzero
  · obtain ⟨next, hnext⟩ := hsettle w hw
    obtain ⟨need, hcheck, hcovered⟩ := check_of_settle hnext
    rw [owedTo_of_check hcheck, Except.ok.injEq] at hlack
    rcases hcovered with rfl | hle
    · exact Or.inl hlack.symm
    · exact Or.inr (hlack ▸ hle)

end Rule

/-! ## What a rejected commit leaves behind -/

namespace Residue

theorem settlePlaces_append {rule : Rule} {inst : Instruction} {padding : Int64}
    {pool pool' last : Array Window} {before rest kept kept' : List Nat} {error : Option RuleError}
    (hbefore : settlePlaces rule inst padding pool before = (pool', kept, none))
    (hrest : settlePlaces rule inst padding pool' rest = (last, kept', error)) :
    settlePlaces rule inst padding pool (before ++ rest) = (last, kept ++ kept', error) := by
  induction before generalizing pool kept with
  | nil =>
      simp only [settlePlaces, Prod.mk.injEq, and_true] at hbefore
      obtain ⟨rfl, rfl⟩ := hbefore
      exact hrest
  | cons place before ih =>
      rw [settlePlaces] at hbefore
      rw [List.cons_append, settlePlaces]
      cases hw : pool[place]? with
      | none =>
          simp only [hw] at hbefore ⊢
          exact ih hbefore
      | some w =>
          cases hnext : rule.settle inst padding w with
          | error e => simp [hw, hnext] at hbefore
          | ok result =>
              obtain ⟨next, stays⟩ := result
              simp only [hw, hnext, Prod.mk.injEq] at hbefore ⊢
              obtain ⟨hpool, rfl, herror⟩ := hbefore
              simp only [ih (Prod.ext hpool (Prod.ext rfl herror))]
              cases stays <;> simp

theorem filterMap_drop {pool : Array Window} {places : List Nat}
    (hbounds : ∀ place ∈ places, place < pool.size) (count : Nat) :
    (places.drop count).filterMap (pool[·]?) = (places.filterMap (pool[·]?)).drop count := by
  induction places generalizing count with
  | nil => simp
  | cons place rest ih =>
      obtain ⟨hplace, hrest⟩ := List.forall_mem_cons.mp hbounds
      cases count with
      | zero => rfl
      | succ count =>
          rw [List.drop_succ_cons, ih hrest,
            List.filterMap_cons_some (Array.getElem?_eq_getElem hplace), List.drop_succ_cons]

variable {r : Residue} {inst : Instruction} {padding : Int64}

theorem Tidy.commit_of_rejection (h : r.Tidy) {earlier later : List Window} {w : Window}
    {e : RuleError} (hwindows : r.windows = earlier ++ w :: later)
    (hearlier : ∀ v ∈ earlier, ∃ next, r.rule.settle inst padding v = .ok next)
    (hw : r.rule.settle inst padding w = .error e) :
    ∃ left : Residue, r.commit inst padding = (.error e, left) ∧
      left.windows = r.rule.halfSettled inst padding earlier (w :: later) ∧
      (earlier = [] → left = r) := by
  obtain ⟨first, rest, hplaces, hfirst, hrest⟩ := List.filterMap_eq_append_iff.mp hwindows
  obtain ⟨gaps, place, behind, rfl, hgaps, hplace, hbehind⟩ := List.filterMap_eq_cons_iff.mp hrest
  -- Every place shows a window, so the place of `w` comes right after those of `earlier`.
  obtain rfl : gaps = [] := by
    refine List.eq_nil_iff_forall_not_mem.mpr fun k hk => ?_
    have hbound := h.bounds k (by simp [hplaces, hk])
    exact absurd (hgaps k hk) (by simp [hbound])
  rw [List.nil_append] at hplaces
  have hnodup := h.nodup
  rw [hplaces] at hnodup
  obtain ⟨hfirstNodup, _, hapart⟩ := List.nodup_append.mp hnodup
  have hbounds := h.bounds
  rw [hplaces] at hbounds
  obtain ⟨pool, kept, hsettled, hkept, hsize, hframe, haged, hkeptWindows⟩ :=
    settlePlaces_eq (fun k hk => hbounds k (List.mem_append_left _ hk)) hfirstNodup
      (by rwa [hfirst])
  have hshown : ∀ k ∈ place :: behind, pool[k]? = r.pool[k]? :=
    fun k hk => hframe k fun hmem => hapart k hmem k hk rfl
  have hstop : settlePlaces r.rule inst padding pool (place :: behind) = (pool, [], some e) := by
    have hsame : pool[place]? = some w := by rw [hshown place List.mem_cons_self, hplace]
    simp only [settlePlaces, hsame, hw]
  have hall := settlePlaces_append hsettled hstop
  refine ⟨{ r with pool, places := kept ++ r.places.drop kept.length }, ?_, ?_, ?_⟩
  · simp only [Residue.commit, hplaces, hall, List.append_nil]
  · have hkeptLength : (kept.filterMap (pool[·]?)).length = kept.length := by
      refine List.filterMap_length_eq_length.mpr fun k hk => ?_
      have hbound := hbounds k (List.mem_append_left _ (hkept.subset hk))
      rw [← hsize] at hbound
      simp [hbound]
    have hothers : (place :: behind).filterMap (pool[·]?) = w :: later := by
      rw [List.filterMap_congr hshown, List.filterMap_cons_some hplace, hbehind]
    simp only [windows, List.filterMap_append, hplaces]
    rw [filterMap_drop (by rwa [hsize]), List.filterMap_append, haged, hothers, hfirst,
      ← hkeptLength, hkeptWindows, hfirst]
    rfl
  · intro hnone
    have hnothing : first = [] := by
      refine List.eq_nil_iff_forall_not_mem.mpr fun k hk => ?_
      have hbound := hbounds k (List.mem_append_left _ hk)
      have hsome := List.filterMap_eq_nil_iff.mp (hfirst.trans hnone) k hk
      simp [Array.getElem?_eq_getElem hbound] at hsome
    subst hnothing
    simp only [settlePlaces, Prod.mk.injEq, and_true] at hsettled
    obtain ⟨rfl, rfl⟩ := hsettled
    rfl

/-- A commit is one to the monitor, or the first window that rejects it ends it. -/
theorem Tidy.commit_cases (h : r.Tidy) (inst : Instruction) (padding : Int64) :
    ((∀ w ∈ r.windows, ∃ next, r.rule.settle inst padding w = .ok next) ∧
      ∃ left : Residue, r.commit inst padding = ((r.rule.opening inst).map fun _ => (), left) ∧
        left.Tidy ∧ left.toMonitor = r.toMonitor.settled inst padding) ∨
    ∃ earlier w later e, ∃ left : Residue, r.windows = earlier ++ w :: later ∧
      (∀ v ∈ earlier, ∃ next, r.rule.settle inst padding v = .ok next) ∧
      r.rule.settle inst padding w = .error e ∧ r.commit inst padding = (.error e, left) ∧
      left.windows = r.rule.halfSettled inst padding earlier (w :: later) ∧
      (earlier = [] → left = r) := by
  have hok : ∀ w, (r.rule.settle inst padding w).isOk = true →
      ∃ next, r.rule.settle inst padding w = .ok next := by
    intro w hw
    cases hsettle : r.rule.settle inst padding w with
    | error e => simp [hsettle, Except.isOk, Except.toBool] at hw
    | ok next => exact ⟨next, rfl⟩
  cases hfind : r.windows.find? (fun w => !(r.rule.settle inst padding w).isOk) with
  | none =>
      have hsettle := fun w hw => hok w (by simpa using List.find?_eq_none.mp hfind w hw)
      exact Or.inl ⟨hsettle, h.commit_of_settle hsettle⟩
  | some w =>
      obtain ⟨hw, earlier, later, hwindows, hbefore⟩ := List.find?_eq_some_iff_append.mp hfind
      have hearlier := fun v hv => hok v (by simpa using hbefore v hv)
      cases hsettle : r.rule.settle inst padding w with
      | ok next => simp [hsettle, Except.isOk, Except.toBool] at hw
      | error e =>
          obtain ⟨left, hleft⟩ := h.commit_of_rejection hwindows hearlier hsettle
          exact Or.inr ⟨earlier, w, later, e, left, hwindows, hearlier, hsettle, hleft⟩

/-! ## Less padding than is asked for -/

/-- A commit with less padding than is asked for is rejected by the first window that asks for more.
What it leaves behind is what was there exactly if that window is the first of all, or no time
passes. If nothing conflicts there is no window to reject it: negative padding is then as good as
any. -/
theorem commit_underPadded {r : Rule} (hr : r ∈ Catalogue.rules) (insts : List Instruction)
    {inst : Instruction} {owed padding : Int64}
    (howed : (follow { rule := r } insts).peek inst = .ok owed) (hlt : padding < owed) :
    let reached := follow { rule := r } insts
    (owed = 0 ∧ (∀ w ∈ reached.windows, r.check w inst = .ok none) ∧
      (reached.commit inst padding).1 = (r.opening inst).map fun _ => ()) ∨
    ∃ earlier w later n left, reached.windows = earlier ++ w :: later ∧
      r.check w inst = .ok (some n) ∧ padding < w.remaining n ∧
      (∀ v ∈ earlier, ∀ m, r.check v inst = .ok (some m) → v.remaining m ≤ padding) ∧
      reached.commit inst padding =
        (.error (.underPadded r.name inst.name.shown padding (w.remaining n)), left) ∧
      left.windows = r.halfSettled inst padding earlier (w :: later) ∧
      (left.windows = reached.windows ↔ earlier = [] ∨ padding + inst.waitStates = 0) ∧
      (earlier = [] → left = reached) := by
  intro reached
  have hsound := Catalogue.rules_sound r hr
  obtain ⟨htidy, hopen, hrule⟩ := follow_open hsound insts
  have hrule : reached.rule = r := hrule
  rcases htidy.commit_cases inst padding with ⟨hsettle, left, hcommit, _⟩ |
    ⟨earlier, w, later, e, left, hwindows, hearlier, hrejects, hcommit, hleft, hsame⟩
  · left
    rw [hrule] at hsettle hcommit
    have hzero : owed = 0 := by
      rw [Residue.peek, hrule] at howed
      exact (Rule.owedAfter_le_of_settle howed hsettle).resolve_right (Int64.not_le.mpr hlt)
    refine ⟨hzero, fun w hw => ?_, congrArg Prod.fst hcommit⟩
    obtain ⟨next, hnext⟩ := hsettle w hw
    exact Rule.check_of_settle_neg (hzero ▸ hlt) hnext
  · right
    rw [hrule] at hearlier hrejects hleft
    have hshown : ∀ v ∈ earlier ++ w :: later, v ∈ reached.windows := fun v hv => hwindows ▸ hv
    have hw := hshown w (List.mem_append_right earlier List.mem_cons_self)
    rcases hsound.settle_cases (hopen w hw).1 inst padding with
      ⟨next, hnext⟩ | ⟨n, hcheck, hless, herror⟩
    · rw [hnext] at hrejects
      cases hrejects
    · rw [herror, Except.error.injEq] at hrejects
      subst hrejects
      refine ⟨earlier, w, later, n, left, hwindows, hcheck, hless, ?_, hcommit, hleft, ⟨?_, ?_⟩,
        hsame⟩
      · intro v hv m hm
        obtain ⟨next, hnext⟩ := hearlier v hv
        exact Rule.remaining_le_of_settle hnext hm
      · intro hunchanged
        by_contra hchanged
        rw [not_or] at hchanged
        rw [hleft, hwindows] at hunchanged
        exact Rule.halfSettled_ne hchanged.1 hchanged.2 hunchanged
      · rintro (hfirst | hslots)
        · rw [hsame hfirst]
        · rw [hleft, hwindows]
          refine Rule.halfSettled_of_no_time hslots fun v hv => ?_
          obtain ⟨next, hnext⟩ := hearlier v hv
          have hneg := Word.neg_of_add_eq_zero inst.one_le_waitStates hslots
          have hopen := hopen v (hshown v (List.mem_append_left _ hv))
          exact ⟨Rule.check_of_settle_neg hneg hnext, hopen.2⟩

-- One window is open, and it asks for eighteen wait states: three are rejected without a trace.
theorem commit_underPadded_first :
    let reached := follow { rule := Catalogue.write908 } [accumulate 16 0]
    ∃ e, reached.commit (fetch 0) 3 = (.error e, reached) := by
  intro reached
  have howed : reached.peek (fetch 0) = .ok 18 := by decide +kernel
  have hlength : reached.windows.length = 1 := by decide +kernel
  have hless : (3 : Int64) < 18 := by decide
  rcases commit_underPadded Catalogue.write908_mem_rules [accumulate 16 0] howed hless with
    ⟨hzero, _⟩ | ⟨earlier, w, later, n, left, hwindows, _, _, _, hcommit, _, _, hsame⟩
  · cases hzero
  · rw [hwindows, List.length_append, List.length_cons] at hlength
    have hfirst : earlier = [] := List.length_eq_zero_iff.mp (by omega)
    rw [hsame hfirst] at hcommit
    exact ⟨_, hcommit⟩

/-- A rejected commit is not always without effect: the second of two windows rejects it, when the
first has aged by one already and asks for one less from then on. Nor is less padding than asked for
always rejected: with no window open, padding below zero is accepted. -/
theorem rejected_commit_ages_windows :
    let reached := follow { rule := Catalogue.write908 } [accumulate 16 0, accumulate 16 16]
    let committed := reached.commit (fetch 16) 0
    Catalogue.write908 ∈ Catalogue.rules ∧
      (∀ inst ∈ [accumulate 16 0, accumulate 16 16, fetch 16, fetch 0], inst.defect? = none) ∧
      reached.peek (fetch 16) = .ok 18 ∧
      committed.1 = .error (.underPadded "XDLWrite908" "v_accvgpr_read_b32" 0 18) ∧
      reached.windows.map (·.elapsed) = [1, 0] ∧ committed.2.windows.map (·.elapsed) = [2, 0] ∧
      reached.peek (fetch 0) = .ok 17 ∧ committed.2.peek (fetch 0) = .ok 16 ∧
      ({ rule := Catalogue.write908 } : Residue).peek (fetch 0) = .ok 0 ∧
      (({ rule := Catalogue.write908 } : Residue).commit (fetch 0) (-1)).1 = .ok () := by
  exact ⟨Catalogue.write908_mem_rules, by decide, by decide +kernel, by decide +kernel,
    by decide +kernel, by decide +kernel, by decide +kernel, by decide +kernel, by decide +kernel,
    by decide +kernel⟩

end Residue

end Interlock
