import IngressBalancer.Resource.Id
import IngressBalancer.Text.Steady
/-!
# Events

What the controller reports about an ingress while it works on it.
-/

namespace IngressBalancer

inductive Severity
  | normal
  | warning
deriving DecidableEq, Repr

def Severity.word : Severity → String
  | .normal => "Normal"
  | .warning => "Warning"

/-- A report about one ingress. -/
structure Event where
  id : ResourceId
  severity : Severity
  reason : String
  message : String
deriving DecidableEq, Repr

/-- The event with the steady part of its message. -/
def Event.steady (e : Event) : Event := { e with message := Text.steady e.message }

end IngressBalancer
