import IngressBalancer.Annotations.Basic
import IngressBalancer.Annotations.Values
import IngressBalancer.Cluster.Object
import IngressBalancer.Settings.Basic
/-!
# Interpreting annotations

From the annotations of an object to checked settings. The settings are
read one after the other, and the first that does not pass is reported.
Internet-facing load balancers may need permission: then the ingress has to
be listed, under its namespace, in a config map of the restriction's own
namespace (`isPermitted`).
-/

namespace IngressBalancer

/-- How annotations of the object with an id are understood. -/
abbrev Interpreter := ResourceId → SortedMap String String → Except Failure Annotations

namespace Annotations

/-- The full key of a setting. -/
def key (setting : String) : String := "alb.ingress.kubernetes.io/" ++ setting

/-- The value of a setting without the blanks around it; an empty value does not count. -/
def value? (annotations : SortedMap String String) (setting : String) : Option String :=
  ((annotations.get? (key setting)).map Text.trim).filter (!·.isEmpty)

/-- Read a setting where it is given, or keep the default. -/
def readOr {α : Type} (annotations : SortedMap String String) (setting : String) (default : α)
    (read : String → Except ValueFault α) : Except Failure α :=
  match value? annotations setting with
  | none => .ok default
  | some value =>
    match read value with
    | .ok a => .ok a
    | .error fault => .error (.invalid (key setting) fault)

/-- The name of the config map that lists the ingresses that may be internet-facing. -/
def allowlistName : String := "alb-ingress-controller-internet-facing-ingresses"

/-- Whether a list with commas holds a name, blanks around it aside. -/
def lists (value name : String) : Bool :=
  ((Text.pieces ',' value.toList).map Text.trimChars).contains name.toList

/-- Whether the ingress is listed: the config map's entry for its namespace holds its name. -/
def isListed (configMap? : ResourceId → Option ConfigMap) (nspace : String) (id : ResourceId) :
    Bool :=
  match configMap? ⟨nspace, allowlistName⟩ with
  | none => false
  | some configMap =>
    match (configMap.data.getD ∅).get? id.nspace with
    | none => false
    | some names => lists names id.name

/-- Whether the ingress may be internet-facing. -/
def isPermitted (restriction : SchemeRestriction) (configMap? : ResourceId → Option ConfigMap)
    (id : ResourceId) : Bool :=
  !restriction.enabled || isListed configMap? restriction.nspace id

/-- The checked settings that annotations give. -/
def interpret (restriction : SchemeRestriction) (configMap? : ResourceId → Option ConfigMap) :
    Interpreter := fun id annotations => do
  let std := standard
  let scheme ← readOr annotations "scheme" std.scheme readScheme
  if scheme = .internetFacing ∧ !isPermitted restriction configMap? id then
    throw (.invalid (key "scheme") (.schemeNotAllowed id))
  let listenPorts ← readOr annotations "listen-ports" std.listenPorts readListenPorts
  let certificateArn := value? annotations "certificate-arn"
  if listenPorts.any (·.1 = .https) ∧ certificateArn.isNone then
    throw (.invalid (key "listen-ports") .noCertificate)
  let tags ← readOr annotations "tags" std.tags readTags
  let healthCheckPath ← readOr annotations "healthcheck-path" std.healthCheckPath readPath
  let healthCheckPort ← readOr annotations "healthcheck-port" std.healthCheckPort readCheckPort
  let backendProtocol ←
    readOr annotations "backend-protocol" std.backendProtocol readProtocol
  return {
    scheme := scheme
    subnets := ((value? annotations "subnets").map commaList).getD std.subnets
    securityGroups :=
      ((value? annotations "security-groups").map commaList).getD std.securityGroups
    listenPorts := listenPorts
    certificateArn := certificateArn
    sslPolicy := value? annotations "ssl-policy"
    webAclId := value? annotations "waf-acl-id"
    tags := tags
    healthCheckPath := healthCheckPath
    healthCheckPort := healthCheckPort
    backendProtocol := backendProtocol
    successCodes := (value? annotations "success-codes").getD std.successCodes }

end Annotations

end IngressBalancer
