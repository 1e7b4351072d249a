import IngressBalancer.CommandLine.Flag
import IngressBalancer.Settings.Basic
/-!
# The flags of the settings

One flag for each setting. All but one take any text, which is checked when
the settings are accepted; the number of failures has to be a number.
-/

namespace IngressBalancer

namespace CommandLine

/-- Accept any text. -/
def anyText : String → Except UsageFault Unit := fun _ => .ok ()

/-- A flag that takes any text. -/
def textFlag (name envName about : String) : Flag := ⟨name, envName, about, false, anyText⟩

/-- The 32-bit number that a text writes, with an optional sign; a zero may be negative. -/
def number32? (text : String) : Option UInt32 :=
  match text.toList with
  | '-' :: digits => if Text.decimal? digits = some 0 then some 0 else none
  | cs => (Text.readUpTo (UInt32.size - 1) cs).map UInt32.ofNat

def clusterNameFlag : Flag :=
  textFlag "cluster-name" "CLUSTER_NAME" "Cluster name (required)"

def stemFlag : Flag :=
  textFlag "alb-name-prefix" "ALB_PREFIX"
    "Prefix to add to ALB resources (11 lowercase alphanumeric characters or less)"

def restrictSchemeFlag : Flag :=
  textFlag "restrict-scheme" "ALB_CONTROLLER_RESTRICT_SCHEME"
    "Restrict the scheme to internal except for allowlisted ingresses"

def restrictSchemeNamespaceFlag : Flag :=
  textFlag "restrict-scheme-namespace" "ALB_CONTROLLER_RESTRICT_SCHEME_CONFIG_NAMESPACE"
    "Namespace holding the ConfigMap of ingresses allowed to be internet-facing"

def syncIntervalFlag : Flag :=
  textFlag "alb-sync-interval" "ALB_SYNC_INTERVAL"
    "Frequency with which to resync ALBs for external changes"

def ingressClassFlag : Flag :=
  textFlag "ingress-class" "INGRESS_CLASS"
    "Ingress class to handle; empty handles unclassed and \x60alb\x60 ingresses"

def reconcileTimeoutFlag : Flag :=
  textFlag "reconcile-timeout" "ALB_RECONCILE_TIMEOUT"
    "Deadline for one load balancer's reconciliation"

def maxReconcileFailuresFlag : Flag where
  name := "max-reconcile-failures"
  envName := "ALB_MAX_RECONCILE_FAILURES"
  about := "Consecutive failures after which a resource is parked"
  plural := false
  check text :=
    if (number32? text).isSome then .ok () else .error (.badValue "max-reconcile-failures" text)

/-- The flags of all settings, in the order of the settings. -/
def settingsFlags : List Flag :=
  [clusterNameFlag, stemFlag, restrictSchemeFlag, restrictSchemeNamespaceFlag, syncIntervalFlag,
    ingressClassFlag, reconcileTimeoutFlag, maxReconcileFailuresFlag]

/-- The settings that were given. -/
def Given.settings (given : Given) : RawSettings :=
  let std := RawSettings.standard
  { clusterName := (given.value? clusterNameFlag).getD std.clusterName
    stem := given.value? stemFlag
    restrictScheme := (given.value? restrictSchemeFlag).getD std.restrictScheme
    restrictSchemeNamespace :=
      (given.value? restrictSchemeNamespaceFlag).getD std.restrictSchemeNamespace
    syncInterval := (given.value? syncIntervalFlag).getD std.syncInterval
    ingressClass := (given.value? ingressClassFlag).getD std.ingressClass
    reconcileTimeout := (given.value? reconcileTimeoutFlag).getD std.reconcileTimeout
    maxReconcileFailures :=
      ((given.value? maxReconcileFailuresFlag).bind number32?).getD std.maxReconcileFailures }

/-- Read the settings from arguments and environment. -/
def readSettings (env : Environment) (arguments : List String) : Except Stop RawSettings :=
  (read settingsFlags env arguments).map Given.settings

end CommandLine

end IngressBalancer
