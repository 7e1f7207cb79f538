import Interlock.Catalogue
import Interlock.Proofs.Target

/-! # What a target id says

The parts of an id stand between colons. The first names a processor, and each of the others
switches a feature on or off, so that the last word on a feature holds. An id of any other form is
refused. The target that an id is resolved to has an id of its own, which tells it apart from every
other target.
-/

namespace Interlock

/-- What may be switched on and off in a target id. -/
inductive Feature where
  | xnack
  | sramecc
deriving DecidableEq, Repr

/-- The part of an id that switches a feature. -/
def Feature.switch : Feature → Bool → List Char
  | .xnack, true => "xnack+".toList
  | .xnack, false => "xnack-".toList
  | .sramecc, true => "sramecc+".toList
  | .sramecc, false => "sramecc-".toList

/-- Some part switches the feature on, and no part after it is about the feature. -/
def Feature.LastOn (feature : Feature) (parts : List (List Char)) : Prop :=
  ∃ before after, parts = before ++ feature.switch true :: after ∧ ∀ on, feature.switch on ∉ after

theorem Feature.switch_inj {feature feature' : Feature} {on on' : Bool} :
    feature.switch on = feature'.switch on' ↔ feature = feature' ∧ on = on' := by
  constructor
  · cases feature <;> cases feature' <;> cases on <;> cases on' <;> decide
  · rintro ⟨rfl, rfl⟩
    rfl

theorem Feature.lastOn_cons {feature : Feature} {part : List Char} {rest : List (List Char)} :
    feature.LastOn (part :: rest) ↔
      feature.LastOn rest ∨ (part = feature.switch true ∧ ∀ on, feature.switch on ∉ rest) := by
  constructor
  · rintro ⟨before, after, hparts, hafter⟩
    cases before with
    | nil =>
        obtain ⟨rfl, rfl⟩ := List.cons.inj hparts
        exact Or.inr ⟨rfl, hafter⟩
    | cons head before =>
        obtain ⟨_, rfl⟩ := List.cons.inj hparts
        exact Or.inl ⟨before, after, rfl, hafter⟩
  · rintro (⟨before, after, rfl, hafter⟩ | ⟨rfl, hrest⟩)
    · exact ⟨part :: before, after, rfl, hafter⟩
    · exact ⟨[], rest, rfl, hrest⟩

namespace Target

/-- Whether a feature is switched on. -/
def has (target : Target) : Feature → Bool
  | .xnack => target.xnack
  | .sramecc => target.sramecc

/-- The target with a feature switched on or off. -/
def set (target : Target) : Feature → Bool → Target
  | .xnack, on => { target with xnack := on }
  | .sramecc, on => { target with sramecc := on }

theorem has_set (target : Target) (feature : Feature) (on : Bool) (other : Feature) :
    (target.set feature on).has other = if other = feature then on else target.has other := by
  cases feature <;> cases other <;> rfl

/-! ## Switching features -/

theorem withFeature?_switch (target : Target) (feature : Feature) (on : Bool) :
    target.withFeature? (feature.switch on) = some (target.set feature on) := by
  cases feature <;> cases on <;> rfl

/-- Only a part that switches a feature is accepted. -/
theorem exists_switch_of_withFeature? {target next : Target} {part : List Char}
    (h : target.withFeature? part = some next) :
    ∃ feature on, part = Feature.switch feature on ∧ next = target.set feature on := by
  unfold withFeature? at h
  split at h
  next hpart => exact ⟨.xnack, true, hpart, (Option.some.inj h).symm⟩
  split at h
  next hpart => exact ⟨.xnack, false, hpart, (Option.some.inj h).symm⟩
  split at h
  next hpart => exact ⟨.sramecc, true, hpart, (Option.some.inj h).symm⟩
  split at h
  next hpart => exact ⟨.sramecc, false, hpart, (Option.some.inj h).symm⟩
  next => cases h

theorem exists_withFeatures_iff (id : RawText) (target : Target) (parts : List (List Char)) :
    (∃ resolved, withFeatures id target parts = .ok resolved) ↔
      ∀ part ∈ parts, ∃ feature on, part = Feature.switch feature on := by
  induction parts generalizing target with
  | nil => simp [withFeatures]
  | cons part rest ih =>
      unfold withFeatures
      rw [List.forall_mem_cons]
      cases hpart : target.withFeature? part with
      | none =>
          simp only [reduceCtorEq, exists_false, false_iff, not_and]
          rintro ⟨feature, on, rfl⟩
          rw [withFeature?_switch] at hpart
          contradiction
      | some next =>
          obtain ⟨feature, on, hswitch, _⟩ := exists_switch_of_withFeature? hpart
          rw [ih next]
          exact (and_iff_right ⟨feature, on, hswitch⟩).symm

/-- What is refused after a known processor is one of the features. -/
theorem withFeatures_ne_unknownProcessor (id given : RawText) (target : Target)
    (parts : List (List Char)) :
    withFeatures id target parts ≠ .error (.unknownProcessor given) := by
  induction parts generalizing target with
  | nil => simp [withFeatures]
  | cons part rest ih =>
      unfold withFeatures
      cases target.withFeature? part with
      | none => simp
      | some next => exact ih next

/-- The last word on a feature holds, and without one the feature stays as it was. -/
theorem has_of_withFeatures {id : RawText} {target resolved : Target} {parts : List (List Char)}
    (h : withFeatures id target parts = .ok resolved) (feature : Feature) :
    resolved.has feature = true ↔ feature.LastOn parts ∨
      (target.has feature = true ∧ ∀ on, feature.switch on ∉ parts) := by
  induction parts generalizing target with
  | nil =>
      cases h
      simp [Feature.LastOn]
  | cons part rest ih =>
      unfold withFeatures at h
      cases hpart : target.withFeature? part with
      | none => simp [hpart] at h
      | some next =>
          simp only [hpart] at h
          obtain ⟨switched, on, rfl, rfl⟩ := exists_switch_of_withFeature? hpart
          rw [ih h, has_set, Feature.lastOn_cons, Feature.switch_inj]
          simp only [List.mem_cons, Feature.switch_inj, not_or]
          -- The part is about this feature, or leaves what is said about it to the others.
          by_cases hfeature : feature = switched
          · subst hfeature
            cases on <;> simp
          · simp [hfeature, Ne.symm hfeature]

/-! ## The parts of an id -/

theorem splitAt_eq_splitOn (mark : Char) (text : List Char) :
    splitAt mark text = text.splitOn mark := by
  induction text with
  | nil => rfl
  | cons c rest ih =>
      have hcons : (c :: rest).splitOn mark = _ := List.splitOnP_cons_eq_if_modifyHead c rest
      rw [hcons, splitAt, ih, List.splitOn]
      by_cases hmark : c = mark
      · simp [hmark]
      · obtain ⟨piece, pieces, hpieces⟩ :=
          List.exists_cons_of_ne_nil (List.splitOnP_ne_nil (· == mark) rest)
        simp [hmark, hpieces]

/-- The target that an id names before its features are applied. -/
theorem parse_eq_of_parts {id : RawText} {processor : List Char} {features : List (List Char)}
    (hparts : (Text.lower (Text.trim id.shown.toList)).splitOn ':' = processor :: features) :
    parse id = match processors.lookup (String.ofList processor) with
      | none => .error (.unknownProcessor id)
      | some family =>
        withFeatures id { processor := String.ofList processor, family } features := by
  cases hlookup : processors.lookup (String.ofList processor) with
  | none => simp only [parse, splitAt_eq_splitOn, hparts, hlookup]
  | some family => simp only [parse, splitAt_eq_splitOn, hparts, hlookup]

theorem exists_lookup_iff {name : String} {entries : List (String × Family)} :
    (∃ family, entries.lookup name = some family) ↔ name ∈ entries.map Prod.fst := by
  rw [← Option.isSome_iff_exists, ← not_iff_not, Bool.not_eq_true, Option.isSome_eq_false_iff,
    Option.isNone_iff_eq_none, List.lookup_eq_none_iff, List.mem_map]
  constructor
  · rintro hnone ⟨entry, hentry, rfl⟩
    simpa using hnone entry hentry
  · intro hnone entry hentry
    rw [bne_iff_ne]
    exact fun heq => hnone ⟨entry, hentry, heq.symm⟩

theorem exists_switch_iff {part : List Char} :
    (∃ feature on, part = Feature.switch feature on) ↔
      String.ofList part ∈ ["xnack+", "xnack-", "sramecc+", "sramecc-"] := by
  constructor
  · rintro ⟨feature, on, rfl⟩
    cases feature <;> cases on <;> decide
  · simp only [List.mem_cons, List.not_mem_nil, or_false]
    intro h
    rw [← String.toList_ofList (l := part)]
    rcases h with h | h | h | h
    · exact ⟨.xnack, true, congrArg String.toList h⟩
    · exact ⟨.xnack, false, congrArg String.toList h⟩
    · exact ⟨.sramecc, true, congrArg String.toList h⟩
    · exact ⟨.sramecc, false, congrArg String.toList h⟩

/-- Targets with one id are one target. -/
theorem eq_of_text_eq {id id' : RawText} {target target' : Target} (h : parse id = .ok target)
    (h' : parse id' = .ok target') (htext : target.text = target'.text) : target = target' := by
  have hself := parse_text h
  rw [htext, parse_text h', Except.ok.injEq] at hself
  exact hself.symm

/-! ## The result -/

/-- An id is resolved exactly if its first part is a known processor and every other part switches a
feature, and the last word on each feature holds. The id of a resolved target is resolved to it, so
that targets with equal ids are equal and activate the same rules. An id of an unknown processor is
refused as such, and no other is. -/
theorem ids_resolved_exactly (id : RawText) :
    ∃ processor features,
      (Text.lower (Text.trim id.shown.toList)).splitOn ':' = processor :: features ∧
      ((∃ target, parse id = .ok target) ↔
        String.ofList processor ∈ processors.map Prod.fst ∧
          ∀ part ∈ features,
            String.ofList part ∈ ["xnack+", "xnack-", "sramecc+", "sramecc-"]) ∧
      (∀ target, parse id = .ok target →
        target.processor = String.ofList processor ∧
        (target.processor, target.family) ∈ processors ∧
        (target.xnack = true ↔ Feature.LastOn .xnack features) ∧
        (target.sramecc = true ↔ Feature.LastOn .sramecc features) ∧
        parse target.text = .ok target ∧
        ∀ id' target', parse id' = .ok target' → target.text = target'.text →
          target = target' ∧ Catalogue.requiredOn target = Catalogue.requiredOn target') ∧
      ∀ given, parse id = .error (.unknownProcessor given) ↔
        String.ofList processor ∉ processors.map Prod.fst ∧ given = id := by
  obtain ⟨processor, features, hparts⟩ := List.exists_cons_of_ne_nil
    (List.splitOnP_ne_nil (· == ':') (Text.lower (Text.trim id.shown.toList)))
  refine ⟨processor, features, hparts, ?_⟩
  have hparse := parse_eq_of_parts hparts
  rw [← exists_lookup_iff]
  cases hlookup : processors.lookup (String.ofList processor) with
  | none =>
      simp only [hlookup] at hparse
      rw [hparse]
      refine ⟨by simp, by simp, fun given => ?_⟩
      simp only [reduceCtorEq, exists_false, not_false_eq_true, true_and, Except.error.injEq,
        TargetError.unknownProcessor.injEq]
      exact eq_comm
  | some family =>
      simp only [hlookup] at hparse
      refine ⟨?_, ?_, ?_⟩
      · rw [and_iff_right ⟨family, rfl⟩, hparse, exists_withFeatures_iff]
        simp only [exists_switch_iff]
      · intro target htarget
        have hfeatures := hparse.symm.trans htarget
        refine ⟨(withFeatures_keeps hfeatures).1, mem_processors_of_parse htarget,
          ?_, ?_, parse_text htarget, ?_⟩
        · simpa [has] using has_of_withFeatures hfeatures .xnack
        · simpa [has] using has_of_withFeatures hfeatures .sramecc
        · intro id' target' htarget' htext
          have heq := eq_of_text_eq htarget htarget' htext
          exact ⟨heq, by rw [heq]⟩
      · intro given
        rw [hparse]
        simp [withFeatures_ne_unknownProcessor]

example : parse "gfx942:xnack+:sramecc+:XNACK-" = .ok ⟨"gfx942", false, true, .cdna3⟩ := by
  decide +kernel

end Target

end Interlock
