import IngressBalancer.Data.SortedMap
import IngressBalancer.Resource.Managed
/-!
# The registry

The managed resources, each under its own id, in the order of the ids. From
one registry to the next, the resources that went missing are to be removed
(`removed`); what has no live load balancer is dropped (`retainLive`); and
the entries are counted by namespace (`namespaceCounts`).
-/

namespace IngressBalancer

/-- Managed resources by id. -/
structure Registry where
  map : SortedMap ResourceId Resource
  /-- Every resource stands under its own id. -/
  keyed : ∀ e ∈ map.entries, e.2.id = e.1
deriving DecidableEq, Repr

/-- How many resources there are in each namespace. -/
abbrev NamespaceCounts := SortedMap String Nat

namespace Registry

def empty : Registry := ⟨∅, fun _ h => absurd h List.not_mem_nil⟩

instance : EmptyCollection Registry := ⟨empty⟩

instance : Inhabited Registry := ⟨empty⟩

def size (g : Registry) : Nat := g.map.size

def isEmpty (g : Registry) : Bool := g.map.isEmpty

def get? (g : Registry) (id : ResourceId) : Option Resource := g.map.get? id

def contains (g : Registry) (id : ResourceId) : Bool := g.map.contains id

/-- The resources in the order of their ids. -/
def toList (g : Registry) : List Resource := g.map.values

/-- The ids in order. -/
def ids (g : Registry) : List ResourceId := g.map.keys

/-- Put a resource under its id; one that stood there is replaced. -/
def insert (g : Registry) (r : Resource) : Registry where
  map := g.map.insert r.id r
  keyed e he := by
    rcases SortedMap.mem_place he with rfl | he
    · rfl
    · exact g.keyed e he

/-- Keep the resources that satisfy `p`. -/
def filter (p : Resource → Bool) (g : Registry) : Registry where
  map := g.map.filter fun _ r => p r
  keyed e he := g.keyed e (List.mem_filter.1 he).1

/-- Put resources one after the other. -/
def insertAll (g : Registry) (rs : List Resource) : Registry := rs.foldl insert g

/-- The registry of some resources; of two with one id, the later stays. -/
def ofList (rs : List Resource) : Registry := empty.insertAll rs

/-- The resources that `current` lacks, with their specs cleared. -/
def removed (g current : Registry) : List Resource :=
  (g.toList.filter fun r => !current.contains r.id).map Resource.toRemoval

/-- What remains of a registry, and what was dropped from it. -/
structure Purge where
  live : Registry
  dropped : List Resource

/-- Drop every resource without a live load balancer. -/
def retainLive (g : Registry) : Purge where
  live := g.filter Resource.isLive
  dropped := g.toList.filter fun r => !r.isLive

/-- One more resource in a namespace. -/
def countUp (counts : NamespaceCounts) (nspace : String) : NamespaceCounts :=
  counts.insert nspace (counts.getD nspace 0 + 1)

/-- One resource fewer in a namespace that has a count. -/
def countDown (counts : NamespaceCounts) (nspace : String) : NamespaceCounts :=
  match counts.get? nspace with
  | some n => counts.insert nspace (n - 1)
  | none => counts

/-- How many resources each namespace has. -/
def namespaceCounts (g : Registry) : NamespaceCounts :=
  g.toList.foldl (fun counts r => countUp counts r.id.nspace) ∅

end Registry

end IngressBalancer
