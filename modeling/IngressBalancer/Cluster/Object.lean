import IngressBalancer.Resource.Id
import IngressBalancer.Data.SortedMap
/-!
# Cluster objects

The parts of Kubernetes objects that the controller reads: ingresses, the
services behind them, the nodes that carry traffic, and config maps.
-/

namespace IngressBalancer

/-- What every object says about itself. -/
structure ObjectMeta where
  nspace : Option String
  name : Option String
  annotations : Option (SortedMap String String)
  labels : Option (SortedMap String String)
  /-- Whether the object is being deleted. -/
  deleting : Bool
deriving DecidableEq, Repr

/-- A service port, by number or by name. -/
structure PortReference where
  number : Option Int32
  name : Option String
deriving DecidableEq, Repr

/-- The service that a backend names. -/
structure ServiceReference where
  name : String
  port : Option PortReference
deriving DecidableEq, Repr

/-- Where a path leads; without a service it leads to something else. -/
structure Backend where
  service : Option ServiceReference
deriving DecidableEq, Repr

structure IngressPath where
  path : Option String
  backend : Backend
deriving DecidableEq, Repr

/-- The paths of one host; absent where the rule says nothing about them. -/
structure IngressRule where
  host : Option String
  paths : Option (List IngressPath)
deriving DecidableEq, Repr

structure IngressSpec where
  className : Option String
  defaultBackend : Option Backend
  rules : List IngressRule
deriving DecidableEq, Repr

/-- One place at which an ingress can be reached. -/
structure StatusPoint where
  hostname : Option String
  ip : Option String
  /-- Whether a list of ports is given. -/
  listsPorts : Bool
deriving DecidableEq, Repr

namespace StatusPoint

/-- A place given by its host name alone. -/
def ofHostname (h : String) : StatusPoint := ⟨some h, none, false⟩

end StatusPoint

/-- An ingress: what is declared to be reachable from outside. -/
structure Ingress where
  metadata : ObjectMeta
  spec : Option IngressSpec
  status : List StatusPoint
deriving DecidableEq, Repr

structure ServicePort where
  name : Option String
  port : Int32
  nodePort : Option Int32
deriving DecidableEq, Repr

structure ServiceSpec where
  type : Option String
  ports : List ServicePort
deriving DecidableEq, Repr

structure Service where
  metadata : ObjectMeta
  spec : Option ServiceSpec
deriving DecidableEq, Repr

structure Node where
  metadata : ObjectMeta
  providerId : Option String
deriving DecidableEq, Repr

structure ConfigMap where
  metadata : ObjectMeta
  data : Option (SortedMap String String)
deriving DecidableEq, Repr

namespace ObjectMeta

/-- The id of a namespaced object; the namespace is `default` where none is given. -/
def id (m : ObjectMeta) : ResourceId := ⟨m.nspace.getD "default", m.name.getD ""⟩

/-- The metadata of an object with a name and a namespace. -/
def named (nspace name : String) : ObjectMeta := ⟨some nspace, some name, none, none, false⟩

end ObjectMeta

namespace Ingress

/-- The id under which the ingress is managed. -/
def id (i : Ingress) : ResourceId := i.metadata.id

/-- The annotations, none where the object has no map of them. -/
def annotations (i : Ingress) : SortedMap String String := i.metadata.annotations.getD ∅

end Ingress

end IngressBalancer
