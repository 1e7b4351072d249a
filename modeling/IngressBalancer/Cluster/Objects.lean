import IngressBalancer.Cluster.View
/-!
# The objects of a cluster

A snapshot of all objects, each under its key, and the view of it. Services
and config maps are known by their ids. An ingress is known by the namespace
and the name that it gives itself: one without a namespace and one in the
namespace `default` are two objects, although they have one id.
-/

namespace IngressBalancer

/-- What an object calls itself; missing parts come before present ones. -/
structure ObjectKey where
  nspace : Option String
  name : Option String
deriving DecidableEq, Repr

namespace ObjectKey

instance : Ord ObjectKey where
  compare := compareLex (compareOn ObjectKey.nspace) (compareOn ObjectKey.name)

instance : Std.TransOrd ObjectKey :=
  inferInstanceAs (Std.TransCmp (compareLex (compareOn ObjectKey.nspace) (compareOn ObjectKey.name)))

instance : Std.LawfulEqOrd ObjectKey where
  eq_of_compare {a b} h := by
    have h' := compareLex_eq_eq.1 h
    obtain ⟨ns, n⟩ := a
    obtain ⟨ns', n'⟩ := b
    have h1 : ns = ns' := Std.LawfulEqCmp.eq_of_compare h'.1
    have h2 : n = n' := Std.LawfulEqCmp.eq_of_compare h'.2
    rw [h1, h2]

end ObjectKey

/-- The key of the object with some metadata. -/
def ObjectMeta.key (m : ObjectMeta) : ObjectKey := ⟨m.nspace, m.name⟩

/-- The objects of a cluster. -/
structure Objects where
  ingresses : SortedMap ObjectKey Ingress
  services : SortedMap ResourceId Service
  nodes : List Node
  configMaps : SortedMap ResourceId ConfigMap

/-- An object of one of the kinds that the controller watches. -/
inductive ClusterObject
  | ingress (i : Ingress)
  | service (s : Service)
  | node (n : Node)
  | configMap (c : ConfigMap)

/-- The kinds of objects that the controller watches. -/
inductive Kind
  | ingress
  | service
  | node
  | configMap
deriving DecidableEq, Repr

namespace Kind

def word : Kind → String
  | .ingress => "Ingress"
  | .service => "Service"
  | .node => "Node"
  | .configMap => "ConfigMap"

/-- All kinds, in the order in which the controller waits for their first lists. -/
def all : List Kind := [.ingress, .service, .node, .configMap]

/-- The kind that a word names. -/
def ofWord? (s : String) : Option Kind := all.find? (·.word = s)

end Kind

namespace Objects

def empty : Objects := ⟨∅, ∅, [], ∅⟩

instance : EmptyCollection Objects := ⟨empty⟩

instance : Inhabited Objects := ⟨empty⟩

/-- Put a node in the place of the one with its name, or at the end. -/
def placeNode (n : Node) (nodes : List Node) : List Node :=
  if nodes.any (·.metadata.name = n.metadata.name) then
    nodes.map fun m => if m.metadata.name = n.metadata.name then n else m
  else nodes ++ [n]

/-- Put an object in the place of the one with its key. -/
def apply (o : Objects) : ClusterObject → Objects
  | .ingress i => { o with ingresses := o.ingresses.insert i.metadata.key i }
  | .service s => { o with services := o.services.insert s.metadata.id s }
  | .node n => { o with nodes := placeNode n o.nodes }
  | .configMap c => { o with configMaps := o.configMaps.insert c.metadata.id c }

/-- Take away the object of a kind with the key that some metadata gives. -/
def delete (o : Objects) (kind : Kind) (m : ObjectMeta) : Objects :=
  match kind with
  | .ingress => { o with ingresses := o.ingresses.erase m.key }
  | .service => { o with services := o.services.erase m.id }
  | .node => { o with nodes := o.nodes.filter (·.metadata.name ≠ m.name) }
  | .configMap => { o with configMaps := o.configMaps.erase m.id }

/-- Put objects one after the other. -/
def applyAll (o : Objects) (objects : List ClusterObject) : Objects := objects.foldl apply o

/-- A view of the objects as they are. -/
def view (o : Objects) : View where
  ingresses := o.ingresses.values
  nodes := o.nodes
  service? s _ := o.services.get? s
  configMap? c := o.configMaps.get? c

theorem steady_view (o : Objects) : o.view.Steady := fun _ _ => rfl

end Objects

namespace View

/-- The view in which a service is gone after so many look-ups. -/
def vanishing (v : View) (service : ResourceId) (lookUps : Nat) : View :=
  { v with service? := fun s n => if s = service ∧ lookUps ≤ n then none else v.service? s n }

end View

end IngressBalancer
