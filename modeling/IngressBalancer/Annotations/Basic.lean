import IngressBalancer.Resource.Spec
/-!
# Annotations

What an ingress asks for in its annotations, with the default of each
setting that it leaves out.
-/

namespace IngressBalancer

/-- Checked settings of one ingress, or of one service behind it. -/
structure Annotations where
  scheme : Scheme
  subnets : List String
  securityGroups : List String
  /-- What the load balancer listens to, in the order of the ports. -/
  listenPorts : List (Protocol × UInt16)
  certificateArn : Option String
  sslPolicy : Option String
  webAclId : Option String
  tags : SortedMap String String
  healthCheckPath : String
  healthCheckPort : String
  backendProtocol : Protocol
  successCodes : String
deriving DecidableEq, Repr

namespace Annotations

/-- An internal load balancer that listens to HTTP on port 80. -/
def standard : Annotations where
  scheme := .internal
  subnets := []
  securityGroups := []
  listenPorts := [(.http, 80)]
  certificateArn := none
  sslPolicy := none
  webAclId := none
  tags := ∅
  healthCheckPath := "/"
  healthCheckPort := "traffic-port"
  backendProtocol := .http
  successCodes := "200"

end Annotations

end IngressBalancer
