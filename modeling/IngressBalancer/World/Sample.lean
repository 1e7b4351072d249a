import IngressBalancer.Cluster.Objects
import IngressBalancer.World.Rig
/-!
# Samples

Small objects of every kind for trying the controller out: an ingress with
one path, the service behind it, a node, a spec and a live resource, all of
a cluster called `prod`, and the mishaps that can befall an attempt.
-/

namespace IngressBalancer

namespace Sample

/-- The settings of the sample cluster. -/
def settings : RawSettings := { RawSettings.standard with clusterName := "prod", stem := some "prod" }

/-- Settings that were accepted, with a cluster called `prod`. -/
def accepted : Settings where
  clusterName := "prod"
  stem := "prod"
  restriction := .standard
  syncInterval := Span.ofSecs 3600
  ingressClass := ""
  reconcileTimeout := Span.ofSecs 300
  retry := .standard

/-- An ingress with one host and one path, which leads to a port of a service. -/
def ingress (nspace name service : String) (port : Int32) : Ingress where
  metadata := .named nspace name
  spec := some {
    className := none
    defaultBackend := none
    rules := [{
      host := some (name ++ ".example.com")
      paths := some [⟨some "/", ⟨some ⟨service, some ⟨some port, none⟩⟩⟩⟩] }] }
  status := []

/-- A service that opens one port on every node. -/
def nodePortService (nspace name : String) (port nodePort : Int32) : Service where
  metadata := .named nspace name
  spec := some ⟨some "NodePort", [⟨some "http", port, some nodePort⟩]⟩

/-- A node behind a provider id, with labels. -/
def node (name providerId : String) (labels : SortedMap String String) : Node where
  metadata := ⟨none, some name, none, some labels, false⟩
  providerId := some providerId

def configMap (nspace name : String) (data : SortedMap String String) : ConfigMap where
  metadata := .named nspace name
  data := some data

/-- An ingress and the service behind it, both of one name. -/
def served (nspace name : String) : List ClusterObject :=
  [.service (nodePortService nspace name 80 30080), .ingress (ingress nspace name name 80)]

/-- A spec without routes, for the ingress with an id. -/
def specFor (id : ResourceId) (loadBalancerName : String) : Spec where
  loadBalancerName := loadBalancerName
  scheme := .internal
  subnets := ["subnet-1"]
  securityGroups := []
  listeners := [⟨80, .http, none, none⟩]
  targetGroups := []
  rules := []
  targets := ["i-1"]
  webAclId := none
  tags := Blueprint.ownedTags "prod" id ∅

/-- The spec with a name; what follows the first hyphen is the name of the ingress. -/
def spec (loadBalancerName : String) : Spec :=
  let name := match Text.cut? '-' loadBalancerName.toList with
    | some (_, rest) => String.ofList rest
    | none => loadBalancerName
  specFor ⟨"default", name⟩ loadBalancerName

/-- A resource whose load balancer stands. -/
def live (id : ResourceId) : Resource :=
  let name := "prod-" ++ id.name
  { id := id
    desired := some (specFor id name)
    handle := some {
      arn := "arn:aws:elasticloadbalancing:us-east-1:" ++ Provider.account ++
        ":loadbalancer/app/" ++ name ++ "/0"
      dnsName := some (name ++ ".us-east-1.elb.amazonaws.com")
      deleted := false } }

/-- What can befall the attempts of a resource. -/
inductive Mishap
  | fail
  /-- A failure that no retry mends. -/
  | invalid
  | hang
  | panic
deriving DecidableEq, Repr

namespace Mishap

/-- The mishap that a word names. -/
def ofWord? (s : String) : Option Mishap :=
  if s = "fail" then some .fail
  else if s = "invalid" then some .invalid
  else if s = "hang" then some .hang
  else if s = "panic" then some .panic
  else none

def conduct (id : ResourceId) : Mishap → Conduct
  | .fail => .fail (.reconcile id "injected failure")
  | .invalid => .fail (.invalid (Annotations.key "certificate-arn") (.stated "injected invalid value"))
  | .hang => .hang
  | .panic => .panic ("injected panic for " ++ id.text)

/-- The fault by which a mishap comes about, for as long as it is set. -/
def fault (m : Mishap) (id : ResourceId) : Fault := ⟨m.conduct id, 0, none⟩

end Mishap

/-- A discovery that fails. -/
def failedDiscovery : Except Failure (List Resource) := .error (.provider "inventory unavailable")

end Sample

namespace Objects

/-- Add a node at the end, whatever nodes there are. -/
def addNode (o : Objects) (n : Node) : Objects := { o with nodes := o.nodes ++ [n] }

end Objects

end IngressBalancer
