import IngressBalancer.Annotations.Interpret
import IngressBalancer.Cluster.Objects
import IngressBalancer.Text.FormEncoding
/-!
# The watch cache

What the controller knows about a cluster that it watches: for each kind of
object one list, kept up to date by the events of a watch. Objects are known
by what they call themselves, so that a service or a config map without a
namespace is never found. Every event that is not a failure wakes the
driver.
-/

namespace IngressBalancer

/-- The objects seen so far. -/
structure Cache where
  ingresses : SortedMap ObjectKey Ingress
  services : SortedMap ObjectKey Service
  nodes : SortedMap ObjectKey Node
  configMaps : SortedMap ObjectKey ConfigMap

/-- What a watch reports. -/
inductive WatchEvent
  /-- An object is there, or has changed. -/
  | applied (o : ClusterObject)
  | deleted (kind : Kind) (m : ObjectMeta)
  /-- The watch failed; it goes on later. -/
  | failed

/-- Whether an event wakes the driver. -/
def WatchEvent.wakes : WatchEvent → Bool
  | .failed => false
  | _ => true

namespace Cache

def empty : Cache := ⟨∅, ∅, ∅, ∅⟩

/-- Put an object in the place of the one with its key. -/
def apply (c : Cache) : ClusterObject → Cache
  | .ingress i => { c with ingresses := c.ingresses.insert i.metadata.key i }
  | .service s => { c with services := c.services.insert s.metadata.key s }
  | .node n => { c with nodes := c.nodes.insert n.metadata.key n }
  | .configMap m => { c with configMaps := c.configMaps.insert m.metadata.key m }

/-- The cache after an event. -/
def handle (c : Cache) : WatchEvent → Cache
  | .applied o => c.apply o
  | .deleted .ingress m => { c with ingresses := c.ingresses.erase m.key }
  | .deleted .service m => { c with services := c.services.erase m.key }
  | .deleted .node m => { c with nodes := c.nodes.erase m.key }
  | .deleted .configMap m => { c with configMaps := c.configMaps.erase m.key }
  | .failed => c

/-- The cache after the first lists. -/
def ofList (objects : List ClusterObject) : Cache := objects.foldl apply empty

/-- The key of a namespaced object. -/
def keyOf (id : ResourceId) : ObjectKey := ⟨some id.nspace, some id.name⟩

/-- What the controller sees. -/
def view (c : Cache) : View where
  ingresses := c.ingresses.values
  nodes := c.nodes.values
  service? s _ := c.services.get? (keyOf s)
  configMap? m := c.configMaps.get? (keyOf m)

theorem steady_view (c : Cache) : c.view.Steady := fun _ _ => rfl

/-! ## First lists -/

/-- A request for the list of one kind. -/
structure ListRequest where
  path : String
  /-- The query that picks some of the objects; empty for all. -/
  query : String
deriving DecidableEq, Repr

/-- The request for the first list of a kind. Of the config maps only the one that matters is
watched, in the namespace of the restriction. -/
def listRequest (allowlistNamespace : String) : Kind → ListRequest
  | .ingress => ⟨"/apis/networking.k8s.io/v1/ingresses", ""⟩
  | .service => ⟨"/api/v1/services", ""⟩
  | .node => ⟨"/api/v1/nodes", ""⟩
  | .configMap => ⟨"/api/v1/namespaces/" ++ allowlistNamespace ++ "/configmaps",
      "fieldSelector=" ++ Text.formEncode ("metadata.name=" ++ Annotations.allowlistName)⟩

/-- Wait for the first lists of all kinds, where the watches of some kinds have stopped. The
first of them is reported. -/
def awaitLists (stopped : List Kind) : Except Failure Unit :=
  match Kind.all.find? (· ∈ stopped) with
  | some kind => .error (.config (.watchStopped kind.word))
  | none => .ok ()

end Cache

end IngressBalancer
