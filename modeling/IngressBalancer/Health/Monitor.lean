import IngressBalancer.Data.SortedMap
import IngressBalancer.Time.Span
/-!
# The health monitor

Named probes, all run at once. A probe that does not answer within five
seconds has failed; the run ends when the last probe has answered or timed
out. A probe registered under a name that is taken replaces the other.
-/

namespace IngressBalancer

/-- How a probe behaves: when it answers, if it ever does, and what. -/
structure Probe where
  /-- The time to the answer; absent where none comes. -/
  delay : Option Span
  /-- Success, or an error and its causes, the outermost first. -/
  answer : Except (List String) Unit

/-- How long a probe may take. -/
def probeLimit : Span := Span.ofSecs 5

namespace Probe

/-- Whether an answer comes in time; one that comes exactly at the limit does. -/
def isInTime (p : Probe) : Bool := p.delay.any (· ≤ probeLimit)

/-- How long a run waits for the probe. -/
def span (p : Probe) : Span := min (p.delay.getD probeLimit) probeLimit

/-- Whether the probe succeeds in time. -/
def passes (p : Probe) : Bool := p.isInTime && p.answer.isOk

/-- The result in words. -/
def result (p : Probe) : String :=
  if p.isInTime then
    match p.answer with
    | .ok () => "OK"
    | .error chain => ": ".intercalate chain
  else "timed out after 5s"

end Probe

/-- The results of all probes, and whether every one of them passed. -/
structure HealthReport where
  results : SortedMap String String
  healthy : Bool
deriving DecidableEq, Repr

/-- Probes by name. -/
structure Monitor where
  probes : SortedMap String Probe

namespace Monitor

def empty : Monitor := ⟨∅⟩

/-- Register a probe. -/
def withCheck (m : Monitor) (name : String) (p : Probe) : Monitor := ⟨m.probes.insert name p⟩

/-- The monitor with the given registrations, made in order. -/
def ofList (checks : List (String × Probe)) : Monitor :=
  checks.foldl (fun m c => m.withCheck c.1 c.2) empty

/-- What a run reports. -/
def report (m : Monitor) : HealthReport where
  results := m.probes.mapValues Probe.result
  healthy := m.probes.values.all Probe.passes

/-- How long a run takes. -/
def span (m : Monitor) : Span := (m.probes.values.map Probe.span).foldl max 0

end Monitor

end IngressBalancer
