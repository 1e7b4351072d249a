import IngressBalancer.Proofs.Data.Results
import IngressBalancer.Proofs.Settings.Stems
import IngressBalancer.Settings.Basic
/-!
# Accepting settings

What comes of settings as they are given (`RawSettings.Outcome`): the first
fault in their order, or accepted settings that hold what was given; and these
are always accepted (`RawSettings.validate_eq_ok_iff`). Accepted settings are
fit for use (`Settings.IsFit`), and what is not accepted ends the start-up
(`RawSettings.validate_cases`). Where no stem is given, the one that is derived is refused only
for being empty (`RawSettings.validate_derived`).
-/

namespace IngressBalancer

variable {setting value : String} {span : Span} {fault : SettingsFault}

theorem positiveSpan_eq_ok_iff :
    positiveSpan setting value = .ok span ↔ SpanText.parse value = .ok span ∧ 0 < span := by
  unfold positiveSpan
  cases SpanText.parse value with
  | error fault => exact ⟨nofun, nofun⟩
  | ok span' =>
    dsimp only
    split
    · next hzero =>
      refine ⟨nofun, ?_⟩
      rintro ⟨⟨⟩, hpos⟩
      exact absurd hzero (Nat.ne_of_gt hpos)
    · next hzero =>
      constructor
      · rintro ⟨⟩
        exact ⟨rfl, Nat.pos_of_ne_zero hzero⟩
      · rintro ⟨⟨⟩, -⟩
        rfl

/-- A span is refused because it cannot be read or because it is zero. -/
theorem fault_of_positiveSpan (h : positiveSpan setting value = .error fault) :
    (∃ spanFault, fault = .badSpan setting value spanFault) ∨ fault = .zeroSpan setting := by
  unfold positiveSpan at h
  split at h
  · next spanFault _ =>
    cases h
    exact .inl ⟨spanFault, rfl⟩
  · split at h
    · cases h
      exact .inr rfl
    · cases h

/-- Whether settings are fit for use. -/
structure Settings.IsFit (settings : Settings) : Prop where
  stem : IsStem settings.stem
  syncInterval : 0 < settings.syncInterval
  reconcileTimeout : 0 < settings.reconcileTimeout
  nspace : Text.allBlank settings.restriction.nspace = false
  maxFailures : 1 ≤ settings.retry.maxFailures

namespace RawSettings

variable {raw : RawSettings} {settings : Settings}

theorem validate_eq_error_iff : raw.validate = .error (.config fault) ↔ raw.check = .error fault := by
  unfold validate
  cases raw.check with
  | error fault' => simp
  | ok settings => simp

/-- The stem that is given or, where none is, derived. -/
def stemInUse (raw : RawSettings) : String :=
  (raw.stem.filter (!·.isEmpty)).getD (Stem.derive raw.clusterName)

/-- Whether some settings are what comes of those that were given. -/
structure Accepts (raw : RawSettings) (settings : Settings) : Prop where
  named : Text.allBlank raw.clusterName = false
  clusterName : settings.clusterName = raw.clusterName
  stem : settings.stem = raw.stemInUse
  passes : Stem.validate raw.stemInUse = .ok ()
  restricted : truth? raw.restrictScheme = some settings.restriction.enabled
  nspace : settings.restriction.nspace = raw.restrictSchemeNamespace
  spaced : Text.allBlank raw.restrictSchemeNamespace = false
  syncInterval : positiveSpan "ALB_SYNC_INTERVAL" raw.syncInterval = .ok settings.syncInterval
  ingressClass : settings.ingressClass = raw.ingressClass
  reconcileTimeout :
    positiveSpan "ALB_RECONCILE_TIMEOUT" raw.reconcileTimeout = .ok settings.reconcileTimeout
  retry : settings.retry =
    { RetryPolicy.standard with maxFailures := max raw.maxReconcileFailures 1 }

/-- Whether settings pass up to the stem. -/
structure Named (raw : RawSettings) : Prop where
  named : Text.allBlank raw.clusterName = false
  passes : Stem.validate raw.stemInUse = .ok ()

/-- Whether settings pass up to the restriction. -/
structure Restricted (raw : RawSettings) : Prop extends raw.Named where
  restricted : ∃ enabled, truth? raw.restrictScheme = some enabled
  spaced : Text.allBlank raw.restrictSchemeNamespace = false

/-- What may come of settings: the first fault in their order, or what they are accepted as. -/
inductive Outcome (raw : RawSettings) : Except SettingsFault Settings → Prop
  | unnamed (h : Text.allBlank raw.clusterName = true) : Outcome raw (.error .noClusterName)
  | badStem {fault : SettingsFault} (hname : Text.allBlank raw.clusterName = false)
      (h : Stem.validate raw.stemInUse = .error fault) : Outcome raw (.error fault)
  | notBoolean (hnamed : raw.Named) (h : truth? raw.restrictScheme = none) :
      Outcome raw (.error (.notBoolean raw.restrictScheme))
  | unspaced {enabled : Bool} (hnamed : raw.Named) (htruth : truth? raw.restrictScheme = some enabled)
      (h : Text.allBlank raw.restrictSchemeNamespace = true) :
      Outcome raw (.error .blankNamespace)
  | badInterval {fault : SettingsFault} (hrestricted : raw.Restricted)
      (h : positiveSpan "ALB_SYNC_INTERVAL" raw.syncInterval = .error fault) :
      Outcome raw (.error fault)
  | badTimeout {interval : Span} {fault : SettingsFault} (hrestricted : raw.Restricted)
      (hinterval : positiveSpan "ALB_SYNC_INTERVAL" raw.syncInterval = .ok interval)
      (h : positiveSpan "ALB_RECONCILE_TIMEOUT" raw.reconcileTimeout = .error fault) :
      Outcome raw (.error fault)
  | accepted {settings : Settings} (h : raw.Accepts settings) : Outcome raw (.ok settings)

/-- **One of these comes of settings.** -/
theorem outcome (raw : RawSettings) : raw.Outcome raw.check := by
  unfold check
  dsimp only
  rw [← stemInUse]
  cases hname : Text.allBlank raw.clusterName with
  | true => exact .unnamed hname
  | false =>
  cases hstem : Stem.validate raw.stemInUse with
  | error fault => exact .badStem hname hstem
  | ok _ =>
  have hnamed : raw.Named := ⟨hname, hstem⟩
  cases htruth : truth? raw.restrictScheme with
  | none => exact .notBoolean hnamed htruth
  | some enabled =>
  cases hspace : Text.allBlank raw.restrictSchemeNamespace with
  | true => exact .unspaced hnamed htruth hspace
  | false =>
  have hrestricted : raw.Restricted := ⟨hnamed, ⟨enabled, htruth⟩, hspace⟩
  cases hinterval : positiveSpan "ALB_SYNC_INTERVAL" raw.syncInterval with
  | error fault => exact .badInterval hrestricted hinterval
  | ok interval =>
  cases htimeout : positiveSpan "ALB_RECONCILE_TIMEOUT" raw.reconcileTimeout with
  | error fault => exact .badTimeout hrestricted hinterval htimeout
  | ok timeout => exact .accepted ⟨hname, rfl, rfl, hstem, htruth, rfl, hspace, hinterval, rfl,
      htimeout, rfl⟩

theorem accepts_of_check (h : raw.check = .ok settings) : raw.Accepts settings := by
  have hout := raw.outcome
  rw [h] at hout
  cases hout with
  | accepted haccepts => exact haccepts

/-- What settings are accepted as is what comes of them. -/
theorem Accepts.check_eq (h : raw.Accepts settings) : raw.check = .ok settings := by
  obtain ⟨name, stem, ⟨enabled, nspace⟩, interval, ingressClass, timeout, retry⟩ := settings
  obtain ⟨hnamed, rfl, rfl, hpasses, htruth, rfl, hspaced, hinterval, rfl, htimeout, rfl⟩ := h
  unfold check
  dsimp only
  rw [← stemInUse, hnamed, hpasses, htruth, hspaced, hinterval, htimeout]
  rfl

/-- **Settings are accepted exactly as what `RawSettings.Accepts` says**, and no others are. -/
theorem validate_eq_ok_iff : raw.validate = .ok settings ↔ raw.Accepts settings := by
  refine ⟨fun h => accepts_of_check ?_, fun h => ?_⟩
  · unfold validate at h
    split at h
    · next hcheck =>
      cases h
      exact hcheck
    · cases h
  · rw [validate, h.check_eq]

/-- The stem of accepted settings has passed. -/
theorem validate_of_check (h : raw.check = .ok settings) : Stem.validate settings.stem = .ok () :=
  (accepts_of_check h).stem ▸ (accepts_of_check h).passes

/-- **Accepted settings are fit for use.** -/
theorem Accepts.isFit (h : raw.Accepts settings) : settings.IsFit where
  stem := Stem.validate_eq_ok_iff.1 (h.stem ▸ h.passes)
  syncInterval := (positiveSpan_eq_ok_iff.1 h.syncInterval).2
  reconcileTimeout := (positiveSpan_eq_ok_iff.1 h.reconcileTimeout).2
  nspace := h.nspace ▸ h.spaced
  maxFailures := by
    rw [h.retry]
    change 1 ≤ if raw.maxReconcileFailures ≤ 1 then 1 else raw.maxReconcileFailures
    split
    · exact UInt32.le_refl 1
    · next hmore => exact UInt32.le_of_lt (UInt32.not_le.1 hmore)

/-- **Settings are accepted or end the start-up**, and accepted ones are fit for use. -/
theorem validate_cases (raw : RawSettings) :
    (∃ fault, raw.validate = .error (.config fault) ∧ (Failure.config fault).isFatal = true) ∨
      ∃ settings, raw.validate = .ok settings ∧ settings.IsFit := by
  unfold validate
  cases hcheck : raw.check with
  | error fault => exact .inl ⟨fault, rfl, rfl⟩
  | ok settings => exact .inr ⟨settings, rfl, (accepts_of_check hcheck).isFit⟩

/-- **A fault of the stem** is found exactly where the stem in use does not pass. -/
theorem check_eq_error_iff (hfault : fault ∈ [.stemAlphabet, .stemTooLong, .stemEmpty]) :
    raw.check = .error fault ↔
      Text.allBlank raw.clusterName = false ∧ Stem.validate raw.stemInUse = .error fault := by
  constructor
  · intro h
    have hout := raw.outcome
    rw [h] at hout
    cases hout with
    | unnamed => simp at hfault
    | badStem hname hstem => exact ⟨hname, hstem⟩
    | notBoolean => simp at hfault
    | unspaced => simp at hfault
    | badInterval _ hspan | badTimeout _ _ hspan =>
      rcases fault_of_positiveSpan hspan with ⟨_, rfl⟩ | rfl <;> simp at hfault
  · rintro ⟨hname, hstem⟩
    unfold check
    dsimp only
    rw [← stemInUse, hname, hstem]
    rfl

/-- **A derived stem is refused only for being empty.** -/
theorem check_derived (h : raw.stem.filter (!·.isEmpty) = none) :
    raw.check ≠ .error .stemAlphabet ∧ raw.check ≠ .error .stemTooLong ∧
    (raw.check = .error .stemEmpty ↔
      Text.allBlank raw.clusterName = false ∧ Stem.derive raw.clusterName = "") := by
  have hstem : raw.stemInUse = Stem.derive raw.clusterName := by
    rw [stemInUse, h, Option.getD_none]
  rw [Ne, check_eq_error_iff (by simp), Ne, check_eq_error_iff (by simp),
    check_eq_error_iff (by simp), hstem, Stem.validate_derive]
  split
  · next hempty => simp [hempty]
  · next hempty => simp [hempty]

/-- So it is at the start-up. -/
theorem validate_derived (h : raw.stem.filter (!·.isEmpty) = none) :
    raw.validate ≠ .error (.config .stemAlphabet) ∧
    raw.validate ≠ .error (.config .stemTooLong) ∧
    (raw.validate = .error (.config .stemEmpty) ↔
      Text.allBlank raw.clusterName = false ∧ Stem.derive raw.clusterName = "") := by
  simp only [Ne, validate_eq_error_iff]
  exact check_derived h

end RawSettings

end IngressBalancer
