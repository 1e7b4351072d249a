import IngressBalancer.Resource.Id
import IngressBalancer.Time.SpanText
/-!
# Failures

What can go wrong, as causes. `Failure.message` gives the wording of each
cause; `Failure.kind` the label under which the metrics count it. A failure
of the settings is fatal; failures that the same attempt would meet again
are not retriable (`Failure.isRetriable`).
-/

namespace IngressBalancer

/-- Why the settings are refused. -/
inductive SettingsFault
  | noClusterName
  /-- The name stem holds something other than lower-case letters and digits. -/
  | stemAlphabet
  | stemTooLong
  | stemEmpty
  | notBoolean (value : String)
  | blankNamespace
  | badSpan (setting value : String) (fault : SpanFault)
  | zeroSpan (setting : String)
  /-- The watch of one kind of object ended before its first list was complete. -/
  | watchStopped (kind : String)
  | stated (text : String)
deriving DecidableEq, Repr

/-- Why a backend does not lead to a node port. -/
inductive LookupFault
  | noServiceReference (id : ResourceId)
  | unknownService (service : ResourceId)
  | noServiceSpec (service : ResourceId)
  | notNodePort (service : ResourceId)
  | unknownPort (service : ResourceId)
  | stated (text : String)
deriving DecidableEq, Repr

/-- Why the value of one annotation is refused. -/
inductive ValueFault
  | schemeNotAllowed (id : ResourceId)
  | unknownScheme (value : String)
  | malformedPorts
  | portZero
  | unknownProtocol (value : String)
  | noListeners
  | noCertificate
  | notKeyValue (pair : String)
  | relativePath (path : String)
  | notPort (value : String)
  | stated (text : String)
deriving DecidableEq, Repr

/-- What can go wrong. -/
inductive Failure
  | config (fault : SettingsFault)
  | kube (text : String)
  | http (text : String)
  | serialization (text : String)
  | lookup (fault : LookupFault)
  /-- The annotation `key` does not pass. -/
  | invalid (key : String) (fault : ValueFault)
  | reconcile (id : ResourceId) (text : String)
  /-- A reconciliation went past its deadline. -/
  | timeout (id : ResourceId)
  /-- The task of a reconciliation broke off. -/
  | aborted (id : ResourceId) (text : String)
  | provider (text : String)
  | io (text : String)
deriving DecidableEq, Repr

/-- The longest stem with which generated names fit into 32 characters. -/
def maxStemLength : Nat := 11

def SettingsFault.message : SettingsFault → String
  | .noClusterName => "A cluster name must be defined"
  | .stemAlphabet => "ALB prefix can only include lower case alphanumeric characters"
  | .stemTooLong =>
    "ALB prefix must be " ++ String.ofList (Text.showNat maxStemLength) ++ " characters or less"
  | .stemEmpty => "ALB prefix must not be empty; set ALB_PREFIX explicitly"
  | .notBoolean value =>
    "ALB_CONTROLLER_RESTRICT_SCHEME must be either true or false. Value was: " ++ value
  | .blankNamespace => "restrict-scheme-namespace must not be empty"
  | .badSpan setting value fault =>
    "Failed to parse duration from " ++ setting ++ " value of '" ++ value ++ "': " ++ fault.message
  | .zeroSpan setting => setting ++ " must be greater than zero"
  | .watchStopped kind => kind ++ " reflector stopped before syncing"
  | .stated text => text

def LookupFault.message : LookupFault → String
  | .noServiceReference id => id.text ++ " has a backend without a service reference"
  | .unknownService service => "Unable to find the " ++ service.text ++ " service"
  | .noServiceSpec service => service.text ++ " service has no spec"
  | .notNodePort service => service.text ++ " service is not of type NodePort"
  | .unknownPort service =>
    "Unable to find a port defined in the " ++ service.text ++ " service"
  | .stated text => text

def ValueFault.message : ValueFault → String
  | .schemeNotAllowed id => id.text ++ " is not allowed to use an internet-facing load balancer"
  | .unknownScheme value => value ++ " must be internal or internet-facing"
  | .malformedPorts => "malformed JSON"
  | .portZero => "port 0 is not allowed"
  | .unknownProtocol value => "unsupported protocol " ++ value
  | .noListeners => "no listeners defined"
  | .noCertificate => "an HTTPS listener requires a certificate-arn"
  | .notKeyValue pair => pair ++ " is not a key=value pair"
  | .relativePath path => path ++ " must start with /"
  | .notPort value => value ++ " is neither traffic-port nor a port number"
  | .stated text => text

namespace Failure

def message : Failure → String
  | .config fault => "Configuration error: " ++ fault.message
  | .kube text => "Kubernetes API error: " ++ text
  | .http text => "HTTP request failed: " ++ text
  | .serialization text => "Serialization error: " ++ text
  | .lookup fault => "Lookup failed: " ++ fault.message
  | .invalid key fault => "Invalid annotation " ++ key ++ ": " ++ fault.message
  | .reconcile id text => "Reconcile failed for " ++ id.text ++ ": " ++ text
  | .timeout id => "Reconcile of " ++ id.text ++ " timed out"
  | .aborted id text => "Reconcile task for " ++ id.text ++ " aborted: " ++ text
  | .provider text => "Provider error: " ++ text
  | .io text => "I/O error: " ++ text

/-- The label under which a failure is counted. -/
def kind : Failure → String
  | .config _ => "config"
  | .kube _ => "kube"
  | .http _ => "http"
  | .serialization _ => "serialization"
  | .lookup _ => "lookup"
  | .invalid .. => "annotation"
  | .reconcile .. => "reconcile"
  | .timeout _ => "timeout"
  | .aborted .. => "aborted"
  | .provider _ => "provider"
  | .io _ => "io"

/-- Whether a failure ends the start-up. -/
def isFatal : Failure → Bool
  | .config _ => true
  | _ => false

/-- Whether a later attempt may succeed. -/
def isRetriable : Failure → Bool
  | .config _ | .invalid .. | .serialization _ => false
  | _ => true

end Failure

end IngressBalancer
