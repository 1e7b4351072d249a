import IngressBalancer.Cluster.Object
import IngressBalancer.Text.Fields
/-!
# What is selected

Which ingresses the controller is responsible for, and which instances
carry the traffic of the load balancers.
-/

namespace IngressBalancer

namespace Ingress

/-- The class of an ingress: its annotation, or else its spec. -/
def class? (i : Ingress) : Option String :=
  (i.annotations.get? "kubernetes.io/ingress.class").or (i.spec.bind (·.className))

/-- Whether the ingress is of the configured class. With no class configured, ingresses without
a class are managed as well as those of class `alb`. -/
def isManaged (i : Ingress) (configured : String) : Bool :=
  match i.class? with
  | none => configured.isEmpty
  | some c => c = if configured.isEmpty then "alb" else configured

end Ingress

namespace Node

/-- Whether a node carries traffic: it is no control-plane node, and no label excludes it. -/
def isEligible (n : Node) : Bool :=
  let labels := n.metadata.labels.getD ∅
  !labels.contains "node-role.kubernetes.io/master" &&
    !labels.contains "node-role.kubernetes.io/control-plane" &&
    match labels.get? "alpha.service-controller.kubernetes.io/exclude-balancer" with
    | none => true
    | some v => v.toList.map Char.toLower != ['t', 'r', 'u', 'e']

/-- The instance behind a node: what follows the last slash of its provider id. -/
def instance? (n : Node) : Option String :=
  (n.providerId.map fun p => String.ofList (Text.lastPiece '/' p.toList)).filter (!·.isEmpty)

end Node

namespace Blueprint

/-- The instances of the eligible nodes, in increasing order and each once. -/
def targets (nodes : List Node) : List String :=
  (SortedMap.setOf ((nodes.filter Node.isEligible).filterMap Node.instance?)).keys

end Blueprint

end IngressBalancer
