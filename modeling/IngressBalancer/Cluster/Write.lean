import IngressBalancer.Address.Target
import IngressBalancer.Cluster.Format
import IngressBalancer.Event
/-!
# Writes to the cluster

What the controller writes to the Kubernetes API: an event about an ingress,
and the places that the status of an ingress names. Names stand in the
address as they are, so that some of them leave no request to be made.
-/

namespace IngressBalancer

/-- A request that writes. -/
structure ClusterWrite where
  method : String
  target : Target
  body : Json

namespace ClusterWrite

/-- The write at a place, with a query that says nothing; none where that is no place to ask. -/
def at? (place method : String) (body : Json) : Option ClusterWrite :=
  (Target.parse? (place ++ "?")).map fun target => ⟨method, target, body⟩

/-- Who reports events. -/
def component : String := "alb-ingress-controller"

/-- The object that stands for an event of a moment. -/
def eventBody (stamp : String) (e : Event) : Json :=
  .object [
    ("apiVersion", .string "v1"),
    ("kind", .string "Event"),
    ("count", .ofNat 1),
    ("firstTimestamp", .string stamp),
    ("involvedObject", .object [
      ("apiVersion", .string "networking.k8s.io/v1"),
      ("kind", .string "Ingress"),
      ("name", .string e.id.name),
      ("namespace", .string e.id.nspace)]),
    ("lastTimestamp", .string stamp),
    ("message", .string e.message),
    ("metadata", .object [("generateName", .string (e.id.name ++ "-event-"))]),
    ("reason", .string e.reason),
    ("source", .object [("component", .string component)]),
    ("type", .string e.severity.word)]

/-- Publish an event in the namespace of its ingress. -/
def ofEvent? (stamp : String) (e : Event) : Option ClusterWrite :=
  at? ("/api/v1/namespaces/" ++ e.id.nspace ++ "/events") "POST" (eventBody stamp e)

/-- Replace the places that the status of an ingress names; it takes a name to find the ingress. -/
def ofStatus? (id : ResourceId) (wanted : List StatusPoint) : Option ClusterWrite :=
  if id.name.isEmpty then none
  else
    at? ("/apis/networking.k8s.io/v1/namespaces/" ++ id.nspace ++ "/ingresses/" ++ id.name ++
      "/status") "PATCH"
      (.object [("status", .object [("loadBalancer", .object [
        ("ingress", .list (wanted.map StatusPoint.toJson))])])])

end ClusterWrite

end IngressBalancer
