import IngressBalancer.Time.Span
/-!
# The watchdog's rule

Every ten seconds the watchdog looks whether a pass was committed within the
last minute, and forces one if not.
-/

namespace IngressBalancer

namespace Watchdog

/-- How long the watchdog sleeps. -/
def tick : Span := Span.ofSecs 10

/-- How long there may be no pass. -/
def threshold : Span := Span.ofSecs 60

/-- Whether more than the threshold has gone by since the last pass, or there was none. -/
def isDue (lastUpdate : Option Instant) (now : Instant) : Bool :=
  match lastUpdate with
  | none => true
  | some last => last + threshold < now

end Watchdog

end IngressBalancer
