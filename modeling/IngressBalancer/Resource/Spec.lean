import IngressBalancer.Data.SortedMap
/-!
# Load balancer specs

Everything that has to be known to provision one load balancer: its name
and scheme, where it stands, what it listens to, the target groups behind
it and the rules that route to them.
-/

namespace IngressBalancer

/-- Who can reach a load balancer. -/
inductive Scheme
  | internal
  | internetFacing
deriving DecidableEq, Repr, Inhabited

namespace Scheme

def word : Scheme → String
  | .internal => "internal"
  | .internetFacing => "internet-facing"

/-- The scheme that a word names. -/
def ofWord? (s : String) : Option Scheme :=
  if s = "internal" then some .internal
  else if s = "internet-facing" then some .internetFacing
  else none

theorem ofWord?_word (s : Scheme) : ofWord? s.word = some s := by cases s <;> decide

end Scheme

/-- The protocol of a listener or a target group. -/
inductive Protocol
  | http
  | https
deriving DecidableEq, Repr, Inhabited

namespace Protocol

def word : Protocol → String
  | .http => "HTTP"
  | .https => "HTTPS"

/-- The protocol that a word names, in capital letters. -/
def ofWord? (s : String) : Option Protocol :=
  if s = "HTTP" then some .http
  else if s = "HTTPS" then some .https
  else none

theorem ofWord?_word (p : Protocol) : ofWord? p.word = some p := by cases p <;> decide

end Protocol

/-- A port on which a load balancer accepts connections. -/
structure Listener where
  port : UInt16
  protocol : Protocol
  certificateArn : Option String
  sslPolicy : Option String
deriving DecidableEq, Repr, Inhabited

/-- The node port of one service port, with the health check of its targets. -/
structure TargetGroup where
  name : String
  serviceName : String
  servicePort : Int32
  nodePort : Int32
  protocol : Protocol
  healthCheckPath : String
  healthCheckPort : String
  successCodes : String
deriving DecidableEq, Repr

/-- A route from a host and a path to a target group, by its name. -/
structure Rule where
  priority : UInt32
  host : Option String
  path : Option String
  targetGroup : String
deriving DecidableEq, Repr

/-- The desired state of one load balancer. -/
structure Spec where
  loadBalancerName : String
  scheme : Scheme
  subnets : List String
  securityGroups : List String
  listeners : List Listener
  targetGroups : List TargetGroup
  rules : List Rule
  /-- The instances behind every target group. -/
  targets : List String
  webAclId : Option String
  tags : SortedMap String String
deriving DecidableEq, Repr

end IngressBalancer
