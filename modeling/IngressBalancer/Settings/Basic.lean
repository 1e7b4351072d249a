import IngressBalancer.Retry.Policy
import IngressBalancer.Settings.Stem
/-!
# Settings

What the controller is told at start-up. `RawSettings` is what flags and
environment say; `RawSettings.validate` is the one way to `Settings`, and
each fault that it finds ends the start-up. The first fault in the order of
the settings is the one reported.
-/

namespace IngressBalancer

/-- The settings as they are given. -/
structure RawSettings where
  clusterName : String
  /-- The stem of generated names; derived where it is absent or empty. -/
  stem : Option String
  restrictScheme : String
  restrictSchemeNamespace : String
  syncInterval : String
  ingressClass : String
  reconcileTimeout : String
  maxReconcileFailures : UInt32
deriving DecidableEq, Repr

namespace RawSettings

/-- The settings where nothing is given. -/
def standard : RawSettings where
  clusterName := ""
  stem := none
  restrictScheme := "false"
  restrictSchemeNamespace := "default"
  syncInterval := "60m"
  ingressClass := ""
  reconcileTimeout := "5m"
  maxReconcileFailures := 10

instance : Inhabited RawSettings := ⟨standard⟩

end RawSettings

/-- Whether internet-facing load balancers need permission, and where it is given. -/
structure SchemeRestriction where
  enabled : Bool
  /-- The namespace of the config map that lists the permitted ingresses. -/
  nspace : String
deriving DecidableEq, Repr

namespace SchemeRestriction

/-- No restriction. -/
def standard : SchemeRestriction := ⟨false, "default"⟩

end SchemeRestriction

/-- Accepted settings. -/
structure Settings where
  clusterName : String
  stem : String
  restriction : SchemeRestriction
  syncInterval : Span
  ingressClass : String
  reconcileTimeout : Span
  retry : RetryPolicy
deriving DecidableEq, Repr

/-- A truth value in one of its twelve spellings, blanks around it allowed. -/
def truth? (s : String) : Option Bool :=
  let word := Text.trim s
  if word ∈ ["1", "t", "T", "true", "TRUE", "True"] then some true
  else if word ∈ ["0", "f", "F", "false", "FALSE", "False"] then some false
  else none

/-- A span above zero, for the setting of the given name. -/
def positiveSpan (setting value : String) : Except SettingsFault Span :=
  match SpanText.parse value with
  | .error fault => .error (.badSpan setting value fault)
  | .ok span => if span = 0 then .error (.zeroSpan setting) else .ok span

namespace RawSettings

/-- Accept the settings, or report the first fault. -/
def check (raw : RawSettings) : Except SettingsFault Settings := do
  if Text.allBlank raw.clusterName then throw .noClusterName
  let stem := (raw.stem.filter (!·.isEmpty)).getD (Stem.derive raw.clusterName)
  Stem.validate stem
  let some restricted := truth? raw.restrictScheme | throw (.notBoolean raw.restrictScheme)
  if Text.allBlank raw.restrictSchemeNamespace then throw .blankNamespace
  let syncInterval ← positiveSpan "ALB_SYNC_INTERVAL" raw.syncInterval
  let reconcileTimeout ← positiveSpan "ALB_RECONCILE_TIMEOUT" raw.reconcileTimeout
  return {
    clusterName := raw.clusterName
    stem := stem
    restriction := ⟨restricted, raw.restrictSchemeNamespace⟩
    syncInterval := syncInterval
    ingressClass := raw.ingressClass
    reconcileTimeout := reconcileTimeout
    retry := { RetryPolicy.standard with maxFailures := max raw.maxReconcileFailures 1 } }

/-- Accept the settings, or fail. -/
def validate (raw : RawSettings) : Except Failure Settings :=
  match raw.check with
  | .ok settings => .ok settings
  | .error fault => .error (.config fault)

end RawSettings

end IngressBalancer
