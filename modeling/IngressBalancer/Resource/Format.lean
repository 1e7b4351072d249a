import IngressBalancer.Json.Printer
import IngressBalancer.Json.Reader
import IngressBalancer.Json.Record
import IngressBalancer.Resource.Managed
/-!
# Resources in JSON

The JSON form of specs, handles and resources. Each record has one list of
fields, in the order in which they are written; an optional field is left
out where it is absent, except that a resource writes null for a missing
spec or handle.
-/

namespace IngressBalancer

open Json (required? optional? listOf? mapOf? record?)

namespace ResourceId

def toJson (id : ResourceId) : Json :=
  .object [("namespace", .string id.nspace), ("name", .string id.name)]

def ofJson? (j : Json) : Option ResourceId := do
  let ms ← record? ["namespace", "name"] j
  return {
    nspace := ← required? Json.string? "namespace" ms
    name := ← required? Json.string? "name" ms }

end ResourceId

def Scheme.ofJson? : Json → Option Scheme := Json.word? Scheme.ofWord?

def Protocol.ofJson? : Json → Option Protocol := Json.word? Protocol.ofWord?

namespace Listener

def toJson (l : Listener) : Json :=
  .ofMembers [
    ("port", some (.ofNat l.port.toNat)),
    ("protocol", some (.string l.protocol.word)),
    ("certificateArn", l.certificateArn.map .string),
    ("sslPolicy", l.sslPolicy.map .string)]

def ofJson? (j : Json) : Option Listener := do
  let ms ← record? ["port", "protocol", "certificateArn", "sslPolicy"] j
  return {
    port := ← required? Json.uint16? "port" ms
    protocol := ← required? Protocol.ofJson? "protocol" ms
    certificateArn := ← optional? Json.string? "certificateArn" ms
    sslPolicy := ← optional? Json.string? "sslPolicy" ms }

end Listener

namespace TargetGroup

def toJson (t : TargetGroup) : Json :=
  .object [
    ("name", .string t.name),
    ("serviceName", .string t.serviceName),
    ("servicePort", .ofInt t.servicePort.toInt),
    ("nodePort", .ofInt t.nodePort.toInt),
    ("protocol", .string t.protocol.word),
    ("healthCheckPath", .string t.healthCheckPath),
    ("healthCheckPort", .string t.healthCheckPort),
    ("successCodes", .string t.successCodes)]

def ofJson? (j : Json) : Option TargetGroup := do
  let ms ← record? ["name", "serviceName", "servicePort", "nodePort", "protocol",
    "healthCheckPath", "healthCheckPort", "successCodes"] j
  return {
    name := ← required? Json.string? "name" ms
    serviceName := ← required? Json.string? "serviceName" ms
    servicePort := ← required? Json.int32? "servicePort" ms
    nodePort := ← required? Json.int32? "nodePort" ms
    protocol := ← required? Protocol.ofJson? "protocol" ms
    healthCheckPath := ← required? Json.string? "healthCheckPath" ms
    healthCheckPort := ← required? Json.string? "healthCheckPort" ms
    successCodes := ← required? Json.string? "successCodes" ms }

end TargetGroup

namespace Rule

def toJson (r : Rule) : Json :=
  .ofMembers [
    ("priority", some (.ofNat r.priority.toNat)),
    ("host", r.host.map .string),
    ("path", r.path.map .string),
    ("targetGroup", some (.string r.targetGroup))]

def ofJson? (j : Json) : Option Rule := do
  let ms ← record? ["priority", "host", "path", "targetGroup"] j
  return {
    priority := ← required? Json.uint32? "priority" ms
    host := ← optional? Json.string? "host" ms
    path := ← optional? Json.string? "path" ms
    targetGroup := ← required? Json.string? "targetGroup" ms }

end Rule

namespace Spec

def toJson (s : Spec) : Json :=
  .ofMembers [
    ("loadBalancerName", some (.string s.loadBalancerName)),
    ("scheme", some (.string s.scheme.word)),
    ("subnets", some (.strings s.subnets)),
    ("securityGroups", some (.strings s.securityGroups)),
    ("listeners", some (.list (s.listeners.map Listener.toJson))),
    ("targetGroups", some (.list (s.targetGroups.map TargetGroup.toJson))),
    ("rules", some (.list (s.rules.map Rule.toJson))),
    ("targets", some (.strings s.targets)),
    ("webAclId", s.webAclId.map .string),
    ("tags", some (.ofMap .string s.tags))]

def ofJson? (j : Json) : Option Spec := do
  let ms ← record? ["loadBalancerName", "scheme", "subnets", "securityGroups", "listeners",
    "targetGroups", "rules", "targets", "webAclId", "tags"] j
  return {
    loadBalancerName := ← required? Json.string? "loadBalancerName" ms
    scheme := ← required? Scheme.ofJson? "scheme" ms
    subnets := ← required? (listOf? Json.string?) "subnets" ms
    securityGroups := ← required? (listOf? Json.string?) "securityGroups" ms
    listeners := ← required? (listOf? Listener.ofJson?) "listeners" ms
    targetGroups := ← required? (listOf? TargetGroup.ofJson?) "targetGroups" ms
    rules := ← required? (listOf? Rule.ofJson?) "rules" ms
    targets := ← required? (listOf? Json.string?) "targets" ms
    webAclId := ← optional? Json.string? "webAclId" ms
    tags := ← required? (mapOf? Json.string?) "tags" ms }

/-- The spec as text. -/
def encode (s : Spec) : String := s.toJson.compact

/-- The spec that a text holds. -/
def decode? (text : String) : Option Spec := (Json.parse? text).bind ofJson?

end Spec

namespace Handle

def toJson (h : Handle) : Json :=
  .ofMembers [
    ("arn", some (.string h.arn)),
    ("dnsName", h.dnsName.map .string),
    ("deleted", some (.bool h.deleted))]

def ofJson? (j : Json) : Option Handle := do
  let ms ← record? ["arn", "dnsName", "deleted"] j
  return {
    arn := ← required? Json.string? "arn" ms
    dnsName := ← optional? Json.string? "dnsName" ms
    deleted := ← required? Json.bool? "deleted" ms }

end Handle

namespace Resource

/-- The members of a resource; a missing spec or handle is null. -/
def members (r : Resource) : List (String × Json) := [
  ("id", r.id.toJson),
  ("desired", r.desired.elim .null Spec.toJson),
  ("handle", r.handle.elim .null Handle.toJson)]

def toJson (r : Resource) : Json := .object r.members

def ofJson? (j : Json) : Option Resource := do
  let ms ← record? ["id", "desired", "handle"] j
  return {
    id := ← required? ResourceId.ofJson? "id" ms
    desired := ← optional? Spec.ofJson? "desired" ms
    handle := ← optional? Handle.ofJson? "handle" ms }

/-- The resource as text. -/
def encode (r : Resource) : String := r.toJson.compact

/-- The resource that a text holds. -/
def decode? (text : String) : Option Resource := (Json.parse? text).bind ofJson?

end Resource

end IngressBalancer
