import Interlock.CommandLine.Run
import Mathlib.Data.List.DropRight
import Mathlib.Data.List.Forall2

/-! # What a command line asks for

The settings and kernels that the shared flags and a path name in a tree of files, as relations, and
that loading them finds exactly these and changes no file. Whether a file can be written depends on
its path, and not on what it is to hold.
-/

namespace Interlock

/-! ## Files -/

namespace FileTree

/-- The path names a file, or a place in a directory where there is none yet. A slash at the end
would ask for a directory. -/
def Writable (t : FileTree) (path : String) : Prop :=
  (∀ h : path.toList ≠ [], path.toList.getLast h ≠ '/') ∧
    ∃ names, t.locate path = .ok (.file names) ∨ t.locate path = .ok (.free names)

/-- The part of a path in front of the slashes at its end is all of it, unless it has such. -/
theorem eq_named_iff (path : String) :
    path = String.ofList (path.toList.reverse.dropWhile (· = '/')).reverse ↔
      ∀ h : path.toList ≠ [], path.toList.getLast h ≠ '/' := by
  rw [← String.toList_inj, String.toList_ofList, eq_comm]
  simpa [List.rdropWhile] using
    List.rdropWhile_eq_self_iff (p := fun c : Char => decide (c = '/')) (l := path.toList)

theorem exists_write_iff (t : FileTree) (path : String) (content : FileContent) :
    (∃ after, t.write path content = .ok after) ↔ t.Writable path := by
  unfold write Writable
  rw [← eq_named_iff]
  dsimp only
  by_cases hnamed : path = String.ofList (path.toList.reverse.dropWhile (· = '/')).reverse
  · rw [← hnamed, ite_self]
    cases t.locate path with
    | error e => simp
    | ok place => cases place <;> simp
  · refine iff_of_false ?_ fun h => hnamed h.1
    rintro ⟨after, h⟩
    split at h
    · cases h
    · cases h
    all_goals simp [hnamed] at h

end FileTree

/-! ## Settings -/

/-- Settings that commands can work with. -/
structure Config.Usable (c : Config) : Prop where
  target : ∃ target, Target.parse c.target = .ok target
  clock : ¬ c.clockMHz ≤ 0.0
  workers : 0 < c.workers
  disabled : ∀ name ∈ c.disabledRules, ∃ r ∈ Catalogue.rules, r.name = name.shown

theorem Config.defect?_eq_none_iff {c : Config} : c.defect? = none ↔ c.Usable := by
  have hrules : (c.disabledRules.find? fun name => (Catalogue.find? name.shown).isNone) = none ↔
      ∀ name ∈ c.disabledRules, ∃ r ∈ Catalogue.rules, r.name = name.shown := by
    simp [List.find?_eq_none, Catalogue.find?]
  unfold Config.defect?
  cases htarget : Target.parse c.target with
  | error e =>
      refine iff_of_false (by simp) fun h => ?_
      obtain ⟨target, h⟩ := h.target
      rw [htarget] at h
      cases h
  | ok target =>
      by_cases hclock : c.clockMHz ≤ 0.0
      · refine iff_of_false (by simp [hclock]) fun h => h.clock hclock
      by_cases hworkers : c.workers ≤ 0
      · refine iff_of_false (by simp [hclock, hworkers]) fun h => ?_
        exact absurd h.workers (Int64.not_lt.mpr hworkers)
      simp only [hclock, hworkers, if_false, Option.map_eq_none_iff, hrules]
      constructor
      · exact fun h => ⟨⟨target, htarget⟩, hclock, Int64.not_le.mp hworkers, h⟩
      · exact fun h => h.disabled

namespace CommandLine

variable {s : Surroundings} {flags : SharedFlags} {files : FileTree} {path : String}

@[simp]
theorem run_read (s : Surroundings) (files : FileTree) (path : String) :
    ((Host.ofTree s).read path).run files = pure (files.read path, files) := rfl

/-- The settings under a path; without a path they are the defaults. -/
def SettingsAt (s : Surroundings) (files : FileTree) (path : String) (c : Config) : Prop :=
  path = "" ∧ c = {} ∨
    path ≠ "" ∧ ∃ text, files.read path = .ok text ∧ s.configFormat.read text = .ok c

/-- The settings that the shared flags name. A target that was asked for replaces the configured
one. -/
def SharedFlags.NamesSettings (flags : SharedFlags) (s : Surroundings) (files : FileTree)
    (c : Config) : Prop :=
  ∃ loaded : Config, SettingsAt s files flags.config loaded ∧
    c = { loaded with target := (flags.target.map RawText.unicode).getD loaded.target }

theorem run_loadSettings (s : Surroundings) (files : FileTree) (path : String) :
    ∃ loaded, (loadSettings (.ofTree s) path).run files = pure (loaded, files) ∧
      ∀ c, loaded = .ok c ↔ SettingsAt s files path c := by
  unfold loadSettings SettingsAt
  by_cases hpath : path = ""
  · exact ⟨.ok {}, by simp [hpath], by simp [hpath, eq_comm]⟩
  simp only [hpath, if_false, StateT.run_bind, run_read, pure_bind]
  cases hread : files.read path with
  | error f => exact ⟨.error (.unreadable f), rfl, by simp⟩
  | ok text =>
      cases hconfig : s.configFormat.read text with
      | error e => exact ⟨.error (.document e), by simp [Host.ofTree, hconfig], by simp [hconfig]⟩
      | ok c => exact ⟨.ok c, by simp [Host.ofTree, hconfig], by simp [hconfig, hpath]⟩

theorem SharedFlags.NamesSettings.unique {c c' : Config} (h : flags.NamesSettings s files c)
    (h' : flags.NamesSettings s files c') : c = c' := by
  obtain ⟨loaded, hloaded, rfl⟩ := h
  obtain ⟨loaded', hloaded', rfl⟩ := h'
  obtain ⟨found, _, hfound⟩ := run_loadSettings s files flags.config
  have heq := ((hfound loaded).mpr hloaded).symm.trans ((hfound loaded').mpr hloaded')
  rw [Except.ok.inj heq]

theorem checked_eq_ok_iff {c c' : Config} : checked c = .ok c' ↔ c' = c ∧ c.Usable := by
  rw [← Config.defect?_eq_none_iff]
  unfold checked
  cases c.defect? <;> simp [eq_comm]

theorem batchSettings_eq_ok_iff {c c' : Config} {workers : Option Int64} (hc : c.Usable) :
    batchSettings c workers = .ok c' ↔
      c' = { c with workers := workers.getD c.workers } ∧ ∀ n ∈ workers, 0 < n := by
  unfold batchSettings
  cases workers with
  | none =>
      rw [Except.ok.injEq]
      simpa using eq_comm
  | some n =>
      rw [checked_eq_ok_iff]
      have husable : ({ c with workers := n } : Config).Usable ↔ 0 < n :=
        ⟨fun h => h.workers, fun h => ⟨hc.target, hc.clock, h, hc.disabled⟩⟩
      simp [husable]

/-- Loading settings finds them if they are usable, and changes no file. -/
theorem run_settings (s : Surroundings) (flags : SharedFlags) (files : FileTree) :
    ∃ found, (settings (.ofTree s) flags).run files = pure (found, files) ∧
      ∀ c, found = .ok c ↔ flags.NamesSettings s files c ∧ c.Usable := by
  obtain ⟨loaded, hrun, hloaded⟩ := run_loadSettings s files flags.config
  simp only [settings, StateT.run_bind, hrun, pure_bind, SharedFlags.NamesSettings, ← hloaded]
  cases loaded with
  | error e => exact ⟨.error e, rfl, by simp⟩
  | ok c =>
      refine ⟨_, rfl, fun c' => ?_⟩
      rw [checked_eq_ok_iff]
      simp only [Except.ok.injEq, exists_eq_left']
      exact and_congr_right fun heq => by rw [heq]

/-! ## Kernels -/

/-- The kernel under a path. A kernel without a name is named after its file, and a target that was
asked for replaces its own. -/
def SharedFlags.NamesKernel (flags : SharedFlags) (s : Surroundings) (files : FileTree)
    (path : String) (k : Kernel) : Prop :=
  ∃ text parsed, files.read path = .ok text ∧ Kernel.parse text s.kernelFormat = .ok parsed ∧
    k = { parsed with
      name := if parsed.name = "" then nameOfFile path else parsed.name
      target := if flags.target.getD "" = "" then parsed.target else flags.target.getD "" }

/-- Loading a kernel finds it, and changes no file. -/
theorem run_loadKernel (s : Surroundings) (flags : SharedFlags) (files : FileTree)
    (path : String) :
    ∃ found, (loadKernel (.ofTree s) flags path).run files = pure (found, files) ∧
      ∀ k, found = .ok k ↔ flags.NamesKernel s files path k := by
  simp only [loadKernel, StateT.run_bind, run_read, pure_bind, SharedFlags.NamesKernel]
  cases files.read path with
  | error f => exact ⟨.error (.unreadable f), rfl, by simp⟩
  | ok text =>
      cases hparse : Kernel.parse text s.kernelFormat with
      | error e =>
          exact ⟨.error (.invalid path e), by simp [Host.ofTree, hparse], by simp [hparse]⟩
      | ok parsed =>
          refine ⟨.ok _, by simp only [Host.ofTree, hparse]; rfl, fun k => ?_⟩
          constructor
          · intro h
            cases h
            exact ⟨text, parsed, rfl, hparse, rfl⟩
          · rintro ⟨text', parsed', htext, hparse', rfl⟩
            cases htext
            cases hparse.symm.trans hparse'
            rfl

theorem SharedFlags.NamesKernel.unique {k k' : Kernel} (h : flags.NamesKernel s files path k)
    (h' : flags.NamesKernel s files path k') : k = k' := by
  obtain ⟨found, _, hfound⟩ := run_loadKernel s flags files path
  exact Except.ok.inj (((hfound k).mpr h).symm.trans ((hfound k').mpr h'))

theorem exists_namesKernels_iff {paths : List String} :
    (∃ ks, List.Forall₂ (flags.NamesKernel s files) paths ks) ↔
      ∀ path ∈ paths, ∃ k, flags.NamesKernel s files path k := by
  induction paths with
  | nil => exact iff_of_true ⟨[], .nil⟩ (by simp)
  | cons path rest ih =>
      rw [List.forall_mem_cons, ← ih]
      constructor
      · rintro ⟨_, hks⟩
        cases hks with
        | cons hk hrest => exact ⟨⟨_, hk⟩, _, hrest⟩
      · rintro ⟨⟨k, hk⟩, ks, hrest⟩
        exact ⟨k :: ks, .cons hk hrest⟩

theorem exists_mem_of_namesKernels {paths : List String} {ks : List Kernel} {p : Kernel → Prop}
    (h : List.Forall₂ (flags.NamesKernel s files) paths ks) :
    (∃ k ∈ ks, p k) ↔ ∃ path ∈ paths, ∃ k, flags.NamesKernel s files path k ∧ p k := by
  induction h with
  | nil => simp
  | @cons path k rest ks hk _ ih =>
      have hfirst : (∃ k', flags.NamesKernel s files path k' ∧ p k') ↔ p k := by
        constructor
        · rintro ⟨k', hk', hp⟩
          exact hk'.unique hk ▸ hp
        · exact fun hp => ⟨k, hk, hp⟩
      simp [ih, hfirst]

/-- Loading several kernels finds them if all of them can be found, and changes no file. -/
theorem run_loadKernels (s : Surroundings) (flags : SharedFlags) (files : FileTree)
    (paths : List String) :
    ∃ found, (loadKernels (.ofTree s) flags paths).run files = pure (found, files) ∧
      ∀ ks, found = .ok ks ↔ List.Forall₂ (flags.NamesKernel s files) paths ks := by
  induction paths with
  | nil => exact ⟨.ok [], rfl, by simp [eq_comm]⟩
  | cons path rest ih =>
      obtain ⟨first, hfirst, hfound⟩ := run_loadKernel s flags files path
      obtain ⟨others, hrest, hothers⟩ := ih
      simp only [loadKernels, StateT.run_bind, hfirst, pure_bind, List.forall₂_cons_left_iff,
        ← hfound, ← hothers]
      cases first with
      | error e => exact ⟨.error e, rfl, by simp⟩
      | ok k =>
          simp only [StateT.run_bind, hrest, pure_bind]
          cases others with
          | error e => exact ⟨.error e, rfl, by simp⟩
          | ok ks => exact ⟨.ok (k :: ks), rfl, by simp [eq_comm]⟩

end CommandLine

end Interlock
