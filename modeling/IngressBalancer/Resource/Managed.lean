import IngressBalancer.Resource.Id
import IngressBalancer.Resource.Spec
/-!
# Managed resources

The unit of reconciliation: an ingress, the spec that it asks for, and the
load balancer that was provisioned for it. A resource without a spec asks
for its load balancer to be torn down; a resource is live while its load
balancer stands.
-/

namespace IngressBalancer

/-- A reference to a provisioned load balancer. -/
structure Handle where
  arn : String
  dnsName : Option String
  deleted : Bool
deriving DecidableEq, Repr

/-- An ingress and the load balancer behind it. -/
structure Resource where
  id : ResourceId
  /-- Absent where the load balancer is to be torn down. -/
  desired : Option Spec
  handle : Option Handle
deriving DecidableEq, Repr

namespace Resource

/-- A resource of which nothing but its id is known. -/
def blank (id : ResourceId) : Resource := ⟨id, none, none⟩

/-- The handle of a load balancer that has not been torn down. -/
def liveHandle? (r : Resource) : Option Handle := r.handle.filter fun h => !h.deleted

/-- Whether the load balancer exists and has not been torn down. -/
def isLive (r : Resource) : Bool := r.liveHandle?.isSome

/-- The resource with its spec cleared, so that its load balancer goes. -/
def toRemoval (r : Resource) : Resource := { r with desired := none }

/-- Whether the resource asks for its load balancer to go. -/
def isRemoval (r : Resource) : Bool := r.desired.isNone

end Resource

end IngressBalancer
