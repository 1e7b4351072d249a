import IngressBalancer.Blueprint.Selection
import IngressBalancer.Registry
/-!
# Ingress statuses

The places that the status of an ingress should name: the host names of its
load balancer, as far as they are known. A status is pending where an
ingress shows something else.
-/

namespace IngressBalancer

/-- How the host names of a resource are found. -/
abbrev HostnameSource (ε : Type) := Resource → Except ε (List String)

namespace Registry

/-- The places that the status of an ingress should name. -/
def statusFor {ε : Type} (g : Registry) (hostnames : HostnameSource ε) (id : ResourceId) :
    List StatusPoint :=
  match g.get? id with
  | none => []
  | some r =>
    match hostnames r with
    | .ok hs => hs.map StatusPoint.ofHostname
    | .error _ => []

/-- The managed ingresses that show another status than they should, with the right one. -/
def pendingStatuses {ε : Type} (g : Registry) (hostnames : HostnameSource ε) (className : String)
    (ingresses : List Ingress) : List (ResourceId × List StatusPoint) :=
  (ingresses.filter (·.isManaged className)).filterMap fun i =>
    let wanted := g.statusFor hostnames i.id
    if i.status = wanted then none else some (i.id, wanted)

end Registry

end IngressBalancer
