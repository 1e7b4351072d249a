import IngressBalancer.Cluster.Objects
import IngressBalancer.Json.Record
/-!
# Cluster objects in JSON

Reading objects from the JSON of the Kubernetes API, and writing them back.
A missing member and a null one are both absent; members that the
controller has no use for are passed over.
-/

namespace IngressBalancer

namespace Json

/-- A member that is present and not null. -/
def present? (key : String) (j : Json) : Option Json :=
  match j.get? key with
  | some .null => none
  | m => m

def text? (key : String) (j : Json) : Option String := (j.present? key).bind Json.string?

def items (key : String) (j : Json) : List Json :=
  ((j.present? key).bind Json.list?).getD []

def texts? (key : String) (j : Json) : Option (SortedMap String String) :=
  (j.present? key).bind (mapOf? Json.string?)

def number32? (key : String) (j : Json) : Option Int32 := (j.present? key).bind Json.int32?

end Json

namespace ObjectMeta

def ofJson (j : Json) : ObjectMeta where
  nspace := j.text? "namespace"
  name := j.text? "name"
  annotations := j.texts? "annotations"
  labels := j.texts? "labels"
  deleting := (j.present? "deletionTimestamp").isSome

/-- The metadata of the object that `j` is. -/
def ofObject (j : Json) : ObjectMeta := ofJson ((j.present? "metadata").getD .null)

def toJson (m : ObjectMeta) : Json :=
  .ofMembers [
    ("annotations", m.annotations.map (Json.ofMap .string)),
    ("labels", m.labels.map (Json.ofMap .string)),
    ("name", m.name.map .string),
    ("namespace", m.nspace.map .string)]

end ObjectMeta

/-- The JSON of an object of a kind, with the further members given. -/
def objectJson (apiVersion kind : String) (m : ObjectMeta)
    (members : List (String × Option Json)) : Json :=
  .ofMembers ([
    ("apiVersion", some (.string apiVersion)),
    ("kind", some (.string kind)),
    ("metadata", some m.toJson)] ++ members)

namespace Backend

def ofJson (j : Json) : Backend where
  service := (j.present? "service").map fun s => {
    name := (s.text? "name").getD ""
    port := (s.present? "port").map fun p => ⟨p.number32? "number", p.text? "name"⟩ }

def toJson (b : Backend) : Json :=
  .ofMembers [("service", b.service.map fun s => .ofMembers [
    ("name", some (.string s.name)),
    ("port", s.port.map fun p => .ofMembers [
      ("name", p.name.map .string),
      ("number", p.number.map fun n => .ofInt n.toInt)])])]

end Backend

namespace StatusPoint

def ofJson (j : Json) : StatusPoint where
  hostname := j.text? "hostname"
  ip := j.text? "ip"
  listsPorts := (j.present? "ports").isSome

def toJson (p : StatusPoint) : Json :=
  .ofMembers [("hostname", p.hostname.map .string), ("ip", p.ip.map .string)]

end StatusPoint

namespace Ingress

def ofJson (j : Json) : Ingress where
  metadata := .ofObject j
  spec := (j.present? "spec").map fun s => {
    className := s.text? "ingressClassName"
    defaultBackend := (s.present? "defaultBackend").map Backend.ofJson
    rules := (s.items "rules").map fun r => {
      host := r.text? "host"
      paths := (r.present? "http").map fun h => (h.items "paths").map fun p =>
        ⟨p.text? "path", .ofJson ((p.present? "backend").getD .null)⟩ } }
  status :=
    let balancer := (j.present? "status").bind (·.present? "loadBalancer")
    ((balancer.map (·.items "ingress")).getD []).map StatusPoint.ofJson

/-- The JSON of an ingress all of whose paths are prefixes. -/
def toJson (i : Ingress) : Json :=
  objectJson "networking.k8s.io/v1" "Ingress" i.metadata [
    ("spec", i.spec.map fun s => .ofMembers [
      ("defaultBackend", s.defaultBackend.map Backend.toJson),
      ("ingressClassName", s.className.map .string),
      ("rules", some (.list (s.rules.map fun r => .ofMembers [
        ("host", r.host.map .string),
        ("http", r.paths.map fun ps => .object [("paths", .list (ps.map fun p => .ofMembers [
          ("backend", some p.backend.toJson),
          ("path", p.path.map .string),
          ("pathType", some (.string "Prefix"))]))])])))])]

end Ingress

namespace Service

def ofJson (j : Json) : Service where
  metadata := .ofObject j
  spec := (j.present? "spec").map fun s => {
    type := s.text? "type"
    ports := (s.items "ports").map fun p =>
      ⟨p.text? "name", (p.number32? "port").getD 0, p.number32? "nodePort"⟩ }

def toJson (s : Service) : Json :=
  objectJson "v1" "Service" s.metadata [
    ("spec", s.spec.map fun s => .ofMembers [
      ("ports", some (.list (s.ports.map fun p => .ofMembers [
        ("name", p.name.map .string),
        ("nodePort", p.nodePort.map fun n => .ofInt n.toInt),
        ("port", some (.ofInt p.port.toInt))]))),
      ("type", s.type.map .string)])]

end Service

namespace Node

def ofJson (j : Json) : Node where
  metadata := .ofObject j
  providerId := (j.present? "spec").bind (·.text? "providerID")

def toJson (n : Node) : Json :=
  objectJson "v1" "Node" n.metadata [
    ("spec", n.providerId.map fun p => .object [("providerID", .string p)])]

end Node

namespace ConfigMap

def ofJson (j : Json) : ConfigMap where
  metadata := .ofObject j
  data := j.texts? "data"

def toJson (c : ConfigMap) : Json :=
  objectJson "v1" "ConfigMap" c.metadata [("data", c.data.map (Json.ofMap .string))]

end ConfigMap

namespace ClusterObject

/-- The object of a kind that `j` is. -/
def ofJson (kind : Kind) (j : Json) : ClusterObject :=
  match kind with
  | .ingress => .ingress (.ofJson j)
  | .service => .service (.ofJson j)
  | .node => .node (.ofJson j)
  | .configMap => .configMap (.ofJson j)

def toJson : ClusterObject → Json
  | .ingress i => i.toJson
  | .service s => s.toJson
  | .node n => n.toJson
  | .configMap c => c.toJson

end ClusterObject

end IngressBalancer
