import Interlock.Target
import Mathlib

/-! # The ids of targets

Whatever id a target was resolved from, its own id is resolved to the same target.
-/

namespace Interlock.Target

theorem withFeature?_keeps {target target' : Target} {feature : List Char}
    (h : target.withFeature? feature = some target') :
    target'.processor = target.processor ∧ target'.family = target.family := by
  unfold withFeature? at h
  split at h
  · cases h
    exact ⟨rfl, rfl⟩
  split at h
  · cases h
    exact ⟨rfl, rfl⟩
  split at h
  · cases h
    exact ⟨rfl, rfl⟩
  split at h
  · cases h
    exact ⟨rfl, rfl⟩
  · cases h

theorem withFeatures_keeps {id : RawText} {target target' : Target} {features : List (List Char)}
    (h : withFeatures id target features = .ok target') :
    target'.processor = target.processor ∧ target'.family = target.family := by
  induction features generalizing target with
  | nil =>
      cases h
      exact ⟨rfl, rfl⟩
  | cons feature rest ih =>
      unfold withFeatures at h
      cases hfeature : target.withFeature? feature with
      | none => simp [hfeature] at h
      | some next =>
          simp only [hfeature] at h
          have hnext := withFeature?_keeps hfeature
          have hrest := ih h
          exact ⟨hrest.1.trans hnext.1, hrest.2.trans hnext.2⟩

/-- A resolved target is one of the known processors with features. -/
theorem mem_processors_of_parse {id : RawText} {target : Target} (h : parse id = .ok target) :
    (target.processor, target.family) ∈ processors := by
  unfold parse at h
  split at h
  · cases h
  next processor features _ =>
    cases hlookup : processors.lookup (String.ofList processor) with
    | none => simp [hlookup] at h
    | some family =>
        simp only [hlookup] at h
        obtain ⟨hprocessor, hfamily⟩ := withFeatures_keeps h
        rw [hprocessor, hfamily]
        obtain ⟨before, after, hsplit, _⟩ := List.lookup_eq_some_iff.mp hlookup
        rw [hsplit]
        simp

theorem parse_text_of_known :
    ∀ known ∈ processors, ∀ xnack sramecc : Bool,
      parse (text ⟨known.1, xnack, sramecc, known.2⟩) = .ok ⟨known.1, xnack, sramecc, known.2⟩ := by
  decide +kernel

/-- The id of a resolved target is resolved to the target. -/
theorem parse_text {id : RawText} {target : Target} (h : parse id = .ok target) :
    parse target.text = .ok target :=
  parse_text_of_known _ (mem_processors_of_parse h) target.xnack target.sramecc

end Interlock.Target
