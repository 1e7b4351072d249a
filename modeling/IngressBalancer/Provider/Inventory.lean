import IngressBalancer.Blueprint.Build
/-!
# The inventory

The provisioned load balancers of a provider, by name. Everything about a
load balancer follows from its spec and the region (`provision`), but a
changed one keeps the address that it was created with. The tags of a load
balancer say which cluster and which ingress it belongs to.
-/

namespace IngressBalancer

/-- A provisioned load balancer. -/
structure LoadBalancer where
  arn : String
  dnsName : String
  spec : Spec
deriving DecidableEq, Repr

namespace LoadBalancer

/-- The live handle of a load balancer. -/
def handle (lb : LoadBalancer) : Handle := ⟨lb.arn, some lb.dnsName, false⟩

/-- The ingress that the tags name. -/
def owner? (lb : LoadBalancer) : Option ResourceId := do
  let nspace ← lb.spec.tags.get? Blueprint.namespaceTag
  let name ← lb.spec.tags.get? Blueprint.nameTag
  return ⟨nspace, name⟩

end LoadBalancer

/-- The load balancers of a provider, each under the name in its spec. -/
abbrev Inventory := SortedMap String LoadBalancer

namespace Provider

/-- The account under which load balancers are provisioned. -/
def account : String := "000000000000"

/-- The last part of an address: the first sixteen digits of the name's hash. -/
def suffix (name : String) : String := String.ofList ((Digest.hexDigest name).take 16)

def arn (region name : String) : String :=
  "arn:aws:elasticloadbalancing:" ++ region ++ ":" ++ account ++ ":loadbalancer/app/" ++ name ++
    "/" ++ suffix name

/-- The host name of a load balancer; an internal one says so in front. -/
def dnsName (region name : String) (scheme : Scheme) : String :=
  (match scheme with
    | .internal => "internal-"
    | .internetFacing => "") ++
    name ++ "-" ++ suffix name ++ "." ++ region ++ ".elb.amazonaws.com"

/-- The load balancer that a spec creates. -/
def provision (region : String) (spec : Spec) : LoadBalancer where
  arn := arn region spec.loadBalancerName
  dnsName := dnsName region spec.loadBalancerName spec.scheme
  spec := spec

end Provider

namespace Inventory

/-- The first load balancer with an address. -/
def findByArn (inv : Inventory) (arn : String) : Option LoadBalancer :=
  inv.values.find? (·.arn = arn)

/-- Create a load balancer from outside. -/
def insertExternal (inv : Inventory) (region : String) (spec : Spec) : Inventory :=
  inv.insert spec.loadBalancerName (Provider.provision region spec)

end Inventory

/-- Which load balancers are those of one controller. -/
structure Scope where
  clusterName : String
  stem : String
deriving DecidableEq, Repr

/-- Whether a load balancer is in the scope: its name starts with the stem and a hyphen, and it
has the tag of the cluster. -/
def Scope.holds (scope : Scope) (lb : LoadBalancer) : Bool :=
  (scope.stem.toList ++ ['-']).isPrefixOf lb.spec.loadBalancerName.toList &&
    lb.spec.tags.contains (Blueprint.clusterTag scope.clusterName)

namespace Inventory

/-- The resources behind the load balancers of a scope, in the order of their names; a load
balancer whose tags name no ingress is passed over. -/
def discover (inv : Inventory) (scope : Scope) : List Resource :=
  (inv.values.filter scope.holds).filterMap fun lb =>
    lb.owner?.map fun id => ⟨id, none, some lb.handle⟩

end Inventory

namespace Resource

/-- The host names that the status of the ingress should show. -/
def hostnames (r : Resource) : List String := (r.liveHandle?.bind (·.dnsName)).toList

end Resource

end IngressBalancer
