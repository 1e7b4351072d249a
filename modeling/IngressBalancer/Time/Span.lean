/-!
# Instants and spans

Time in whole nanoseconds: a span is a length of time, an instant the span
since the clock started. The clock ends; a moment beyond its end is put off
by thirty years (`Instant.after`).
-/

namespace IngressBalancer

/-- A length of time in nanoseconds. -/
abbrev Span := Nat

/-- A point in time, in nanoseconds since the clock started. -/
abbrev Instant := Nat

namespace Span

def ofSecs (n : Nat) : Span := n * 1000000000

def ofMillis (n : Nat) : Span := n * 1000000

/-- Whole seconds of a span. -/
def secs (s : Span) : Nat := s / 1000000000

/-- Nanoseconds of a span after its whole seconds. -/
def subsecNanos (s : Span) : Nat := s % 1000000000

/-- Whole milliseconds of a span. -/
def millis (s : Span) : Nat := s / 1000000

/-- A span in seconds, in binary floating point. -/
def toFloatSecs (s : Span) : Float := Float.ofNat (secs s) + Float.ofNat (subsecNanos s) / 1e9

end Span

namespace Instant

/-- Seconds that the clock can count, less those for which the machine may have run before. -/
def horizon : Instant := Span.ofSecs (Nat.pow 2 63 - 86400)

/-- As far away as a moment is put that the clock cannot tell: thirty years. -/
def farAway : Span := Span.ofSecs (30 * 365 * 86400)

/-- The moment a span after `now`; one that the clock cannot tell is put far away. -/
def after (now : Instant) (s : Span) : Instant :=
  if now + s < horizon then now + s else now + farAway

/-- No moment after a span lies behind. -/
theorem le_after (now : Instant) (s : Span) : now ≤ after now s := by
  unfold after
  split <;> exact Nat.le_add_right _ _

end Instant

end IngressBalancer
