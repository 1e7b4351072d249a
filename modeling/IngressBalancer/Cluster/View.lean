import IngressBalancer.Cluster.Object
/-!
# Views of the cluster

What the controller can ask about the cluster: all ingresses, all nodes,
and a service or a config map by its id. Services are looked up one by one
while a spec is built, and the cluster may change in between; so a view
answers the first, the second and each later look-up of a service on its
own. A view is steady where the answers agree (`View.Steady`).
-/

namespace IngressBalancer

/-- The cluster as the controller sees it. -/
structure View where
  ingresses : List Ingress
  nodes : List Node
  /-- The answer to a look-up of a service that was looked up `n` times before. -/
  service? (service : ResourceId) (n : Nat) : Option Service
  configMap? (configMap : ResourceId) : Option ConfigMap

namespace View

/-- Every look-up of one service has the same answer. -/
def Steady (v : View) : Prop := ∀ s n, v.service? s n = v.service? s 0

/-- A view without objects. -/
def empty : View := ⟨[], [], fun _ _ => none, fun _ => none⟩

end View

end IngressBalancer
