import IngressBalancer.Digest.Sha256
import IngressBalancer.Resource.Id
import IngressBalancer.Text.Digits
/-!
# Generated names

The names of load balancers and target groups: a stem, a hyphen, and the
first hexadecimal digits of the hash of what the name stands for. With a
stem of at most eleven characters a load balancer's name has at most 27
characters and a target group's at most 32.
-/

namespace IngressBalancer

namespace Blueprint

/-- The stem, a hyphen, and the first `n` digits of the hash of a text. -/
def hashedName (stem : String) (n : Nat) (text : String) : String :=
  String.ofList (stem.toList ++ '-' :: (Digest.hexDigest text).take n)

/-- The name of the load balancer of an ingress. -/
def loadBalancerName (stem : String) (id : ResourceId) : String := hashedName stem 15 id.text

/-- What a target group stands for: the ingress, a service and one of its ports. -/
def targetGroupText (id : ResourceId) (service : String) (port : Int32) : String :=
  id.text ++ "/" ++ service ++ ":" ++ String.ofList (Text.showInt port.toInt)

/-- The name of the target group of a service port. -/
def targetGroupName (stem : String) (id : ResourceId) (service : String) (port : Int32) : String :=
  hashedName stem 20 (targetGroupText id service port)

theorem length_hashedName (stem : String) {n : Nat} (h : n ≤ 64) (text : String) :
    (hashedName stem n text).toList.length = stem.toList.length + 1 + n := by
  simp [hashedName, Digest.length_hexDigest]
  omega

end Blueprint

end IngressBalancer
