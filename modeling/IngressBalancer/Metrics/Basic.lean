import IngressBalancer.Registry
/-!
# Metrics

What the controller counts and measures: how many ingresses it manages in
each namespace, how many passes it started, how many resources are parked,
how long passes and resyncs took, and how often attempts failed.
-/

namespace IngressBalancer

/-- Measured values, sorted into buckets. -/
structure Histogram where
  count : Nat
  sum : Float
  /-- How many values fell into each bucket; the last one holds what exceeds every bound. -/
  buckets : List Nat
deriving Repr

namespace Histogram

/-- The upper bounds of the buckets in seconds: ten milliseconds, and double that for each
further one. -/
def bounds : List Float := (List.range 16).map fun i => 0.01 * Float.ofNat (Nat.pow 2 i)

def empty : Histogram := ⟨0, 0.0, List.replicate 17 0⟩

/-- Count a value in the first bucket whose bound is not below it. -/
def observe (h : Histogram) (x : Float) : Histogram where
  count := h.count + 1
  sum := h.sum + x
  buckets := h.buckets.modify (bounds.findIdx fun b => x ≤ b) (· + 1)

end Histogram

/-- What is measured. -/
structure Metrics where
  managed : NamespaceCounts
  /-- Passes started. -/
  updates : Nat
  parked : Nat
  /-- Durations by kind, `converge` or `resync`. -/
  durations : SortedMap String Histogram
  /-- Failures by kind. -/
  errors : SortedMap String Nat

namespace Metrics

def empty : Metrics := ⟨∅, 0, 0, ∅, ∅⟩

instance : Inhabited Metrics := ⟨empty⟩

def countUpdate (m : Metrics) : Metrics := { m with updates := m.updates + 1 }

def countError (m : Metrics) (kind : String) : Metrics :=
  { m with errors := m.errors.insert kind (m.errors.getD kind 0 + 1) }

def setParked (m : Metrics) (count : Nat) : Metrics := { m with parked := count }

def observe (m : Metrics) (kind : String) (seconds : Float) : Metrics :=
  { m with durations :=
      m.durations.insert kind ((m.durations.getD kind .empty).observe seconds) }

/-- Publish the counts of all namespaces; those that dropped out go back to zero. -/
def setManaged (m : Metrics) (previous current : NamespaceCounts) : Metrics :=
  let gone := previous.keys.filter fun ns => !current.contains ns
  { m with managed := (gone.foldl (fun g ns => g.insert ns 0) m.managed).union current }

end Metrics

end IngressBalancer
