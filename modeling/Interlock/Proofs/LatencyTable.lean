import Interlock.LatencyTable

/-! # Tables that agree with window sizes

A rule has one table for the sizes of its windows and may have further tables for its conflicts. The
tables agree if they know the same latency classes and no conflict asks for more than the window
holds. A table is ascending if longer classes never ask for less.
-/

namespace Interlock.LatencyTable

theorem mem_entries_of_lookup {t : LatencyTable} {c n : Int64} (h : t.lookup? c = some n) :
    (c, n) ∈ t.entries := by
  obtain ⟨before, after, heq, _⟩ := List.lookup_eq_some_iff.mp h
  rw [heq]
  exact List.mem_append_right before List.mem_cons_self

theorem le_foldl_max (entries : List (Int64 × Int64)) (m : Int64) :
    let largest := entries.foldl (fun m (_, n) => if m < n then n else m) m
    m ≤ largest ∧ ∀ entry ∈ entries, entry.2 ≤ largest := by
  induction entries generalizing m with
  | nil => exact ⟨Int64.le_refl m, by simp⟩
  | cons entry rest ih =>
      obtain ⟨hfirst, hrest⟩ := ih (if m < entry.2 then entry.2 else m)
      have hstep : m ≤ (if m < entry.2 then entry.2 else m) ∧
          entry.2 ≤ (if m < entry.2 then entry.2 else m) := by
        split
        next hlt => exact ⟨Int64.le_of_lt hlt, Int64.le_refl _⟩
        next hnot => exact ⟨Int64.le_refl _, Int64.not_lt.mp hnot⟩
      refine ⟨Int64.le_trans hstep.1 hfirst, ?_⟩
      exact List.forall_mem_cons.mpr ⟨Int64.le_trans hstep.2 hfirst, hrest⟩

/-- No class asks for more than the largest number of wait states in the table. -/
theorem le_max_of_lookup {t : LatencyTable} {c n : Int64} (h : t.lookup? c = some n) : n ≤ t.max :=
  (le_foldl_max t.entries 0).2 _ (mem_entries_of_lookup h)

theorem max_nonneg (t : LatencyTable) : 0 ≤ t.max :=
  (le_foldl_max t.entries 0).1

/-- Exactly the classes of a table can be looked up. -/
theorem exists_lookup_iff {t : LatencyTable} {c : Int64} :
    (∃ n, t.lookup? c = some n) ↔ c ∈ t.classes := by
  rw [← Option.isSome_iff_exists, lookup?, List.lookup_isSome_iff, classes, List.mem_map]
  constructor
  · rintro ⟨entry, hentry, hclass⟩
    exact ⟨entry, hentry, (beq_iff_eq.mp hclass).symm⟩
  · rintro ⟨entry, hentry, hclass⟩
    exact ⟨entry, hentry, beq_iff_eq.mpr hclass.symm⟩

theorem lookup_le_of_boundedBy {t bound : LatencyTable} (hbound : t.boundedBy bound = true)
    {c n : Int64} (h : t.lookup? c = some n) :
    ∃ limit, bound.lookup? c = some limit ∧ n ≤ limit := by
  have hentry := List.all_eq_true.mp hbound (c, n) (mem_entries_of_lookup h)
  dsimp only at hentry
  split at hentry
  next limit hlimit => exact ⟨limit, hlimit, of_decide_eq_true hentry⟩
  next => contradiction

/-- All requirements lie between two bounds. -/
def Within (t : LatencyTable) (low high : Int64) : Prop :=
  ∀ entry ∈ t.entries, low ≤ entry.2 ∧ entry.2 ≤ high

instance (t : LatencyTable) (low high : Int64) : Decidable (t.Within low high) :=
  decidable_of_iff ((t.entries.all fun entry => low ≤ entry.2 && entry.2 ≤ high) = true)
    (by simp [Within])

theorem Within.of_lookup {t : LatencyTable} {low high : Int64} (h : t.Within low high) {c n : Int64}
    (hn : t.lookup? c = some n) : low ≤ n ∧ n ≤ high :=
  h _ (mem_entries_of_lookup hn)

/-- Longer latency classes come later and never ask for less. -/
def Ascending (t : LatencyTable) : Prop :=
  t.entries.Pairwise fun shorter longer => shorter.1 < longer.1 ∧ shorter.2 ≤ longer.2

instance (t : LatencyTable) : Decidable t.Ascending :=
  inferInstanceAs (Decidable (t.entries.Pairwise _))

/-- In an ascending table a longer class needs at least what a shorter one does. -/
theorem Ascending.lookup_mono {t : LatencyTable} (ht : t.Ascending) {c c' n n' : Int64}
    (hc : c ≤ c') (hn : t.lookup? c = some n) (hn' : t.lookup? c' = some n') : n ≤ n' := by
  have hmem := mem_entries_of_lookup hn
  have hmem' := mem_entries_of_lookup hn'
  by_cases heq : c = c'
  · subst heq
    rw [hn, Option.some.injEq] at hn'
    rw [hn']
    exact Int64.le_refl n'
  · obtain ⟨i, hi, hiv⟩ := List.mem_iff_getElem.mp hmem
    obtain ⟨j, hj, hjv⟩ := List.mem_iff_getElem.mp hmem'
    have horder := List.pairwise_iff_getElem.mp ht
    rcases Nat.lt_trichotomy i j with hlt | hsame | hgt
    · have hpair := (horder i j hi hj hlt).2
      rwa [hiv, hjv] at hpair
    · subst hsame
      rw [hiv, Prod.mk.injEq] at hjv
      exact absurd hjv.1 heq
    · have hpair := (horder j i hj hi hgt).1
      rw [hiv, hjv] at hpair
      exact absurd (Int64.le_antisymm hc (Int64.le_of_lt hpair)) heq

/-- A conflict table that serves windows of the given sizes. -/
structure Serves (t sizes : LatencyTable) : Prop where
  classes_eq : t.classes = sizes.classes
  bounded : t.boundedBy sizes = true
  range : t.Within 0 20
  ascending : t.Ascending

instance (t sizes : LatencyTable) : Decidable (t.Serves sizes) :=
  decidable_of_iff (t.classes = sizes.classes ∧ t.boundedBy sizes = true ∧ t.Within 0 20 ∧
      t.Ascending)
    ⟨fun ⟨hclasses, hbounded, hrange, hascending⟩ => ⟨hclasses, hbounded, hrange, hascending⟩,
      fun h => ⟨h.classes_eq, h.bounded, h.range, h.ascending⟩⟩

/-- On a class that windows have, a table that serves them gives a requirement in range. -/
theorem Serves.exists_lookup {t sizes : LatencyTable} (h : t.Serves sizes) {c size : Int64}
    (hsize : sizes.lookup? c = some size) : ∃ n, t.lookup? c = some n ∧ 0 ≤ n ∧ n ≤ size := by
  have hclass : c ∈ t.classes := by
    rw [h.classes_eq]
    exact exists_lookup_iff.mp ⟨size, hsize⟩
  obtain ⟨n, hn⟩ := exists_lookup_iff.mpr hclass
  obtain ⟨limit, hlimit, hle⟩ := lookup_le_of_boundedBy h.bounded hn
  rw [hsize, Option.some.injEq] at hlimit
  subst hlimit
  exact ⟨n, hn, (h.range.of_lookup hn).1, hle⟩

/-! ## Tables that are built from entries -/

theorem lookup_insertEntry (c n key : Int64) (entries : List (Int64 × Int64)) :
    (insertEntry c n entries).lookup key = if key = c then some n else entries.lookup key := by
  induction entries with
  | nil => grind [insertEntry]
  | cons entry rest ih =>
      obtain ⟨first, m⟩ := entry
      -- The new entry stands before the head, replaces it, or goes on to the rest.
      by_cases hlt : c < first
      · grind [insertEntry]
      · by_cases heq : c = first <;> grind [insertEntry]

theorem lookup_foldl_insertEntry (nops : Int64 → Int64) (passes : List Int64) (key : Int64)
    (entries : List (Int64 × Int64)) :
    ((passes.map fun p => (p, nops p)).foldl (fun table (c, n) => insertEntry c n table)
        entries).lookup key =
      if key ∈ passes then some (nops key) else entries.lookup key := by
  induction passes generalizing entries with
  | nil => simp
  | cons p rest ih =>
      rw [List.map_cons, List.foldl_cons, ih, lookup_insertEntry]
      by_cases hrest : key ∈ rest
      · simp [hrest]
      · by_cases hkey : key = p <;> simp [hrest, hkey]

/-- A linear table knows exactly its pass counts. -/
theorem lookup?_linear (offset : Int64) (passes : List Int64) (c : Int64) :
    (linear offset passes).lookup? c = if c ∈ passes then some (c + offset) else none := by
  rw [linear, ofEntries, lookup?, lookup_foldl_insertEntry]
  rfl

end Interlock.LatencyTable
