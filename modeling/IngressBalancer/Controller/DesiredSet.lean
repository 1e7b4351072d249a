import IngressBalancer.Blueprint.Build
import IngressBalancer.Registry
/-!
# The desired set

What the declarations of one moment ask for. Each managed ingress that is
not being deleted is declared. Where its spec can be built, its resource
gets that spec; where not, the resource is held: it keeps its prior entry,
or a blank one, and the problem is noted. Of two ingresses with one id, the
later decides about the entry, while a hold stays.
-/

namespace IngressBalancer

/-- The resources that are declared. -/
structure DesiredSet where
  resources : Registry
  /-- The ids of resources without a spec that could be built. -/
  held : SortedSet ResourceId
  problems : List (ResourceId × Failure)
deriving DecidableEq, Repr

namespace DesiredSet

def empty : DesiredSet := ⟨∅, ∅, []⟩

/-- Add a resource with a spec that was built; its handle is that of the prior entry. -/
def want (d : DesiredSet) (prior : Registry) (id : ResourceId) (spec : Spec) : DesiredSet :=
  { d with resources :=
      d.resources.insert { (prior.get? id).getD (.blank id) with desired := some spec } }

/-- Add a resource whose spec cannot be built. -/
def hold (d : DesiredSet) (prior : Registry) (id : ResourceId) (problem : Failure) :
    DesiredSet where
  resources := d.resources.insert ((prior.get? id).getD (.blank id))
  held := d.held.insert id ()
  problems := d.problems ++ [(id, problem)]

/-- Add what one ingress declares. -/
def declare (ctx : Blueprint.Context) (targets : List String) (prior : Registry)
    (d : DesiredSet) (ingress : Ingress) : DesiredSet :=
  match Blueprint.desiredSpec ctx ingress targets with
  | .ok spec => d.want prior ingress.id spec
  | .error problem => d.hold prior ingress.id problem

end DesiredSet

/-- Whether an ingress declares a load balancer: it is managed and not being deleted. -/
def Ingress.isDeclared (i : Ingress) (configured : String) : Bool :=
  i.isManaged configured && !i.metadata.deleting

/-- What specs are built with under some settings. -/
def Settings.context (settings : Settings) (view : View) : Blueprint.Context where
  clusterName := settings.clusterName
  stem := settings.stem
  view := view
  interpret := Annotations.interpret settings.restriction view.configMap?

/-- What the cluster declares, with the handles of the prior entries. -/
def DesiredSet.build (settings : Settings) (view : View) (prior : Registry) : DesiredSet :=
  (view.ingresses.filter (·.isDeclared settings.ingressClass)).foldl
    (DesiredSet.declare (settings.context view) (Blueprint.targets view.nodes) prior) .empty

end IngressBalancer
