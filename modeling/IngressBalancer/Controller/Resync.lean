import IngressBalancer.Controller.State
import IngressBalancer.Metrics.Basic
/-!
# Resyncs

The registry rebuilt from what the provider holds. Every live load balancer
that was discovered becomes an entry without a spec, which the next pass
fills in or tears down. A failed discovery changes nothing.
-/

namespace IngressBalancer

/-- A committed resync. -/
structure Resync where
  state : SyncState
  metrics : Metrics

namespace Resync

/-- The entries for discovered resources: the live ones, with their specs cleared. -/
def adopt (discovered : List Resource) : Registry :=
  Registry.ofList ((discovered.filter Resource.isLive).map Resource.toRemoval)

/-- Rebuild the registry from discovered resources. -/
def run (state : SyncState) (metrics : Metrics) (discovered : List Resource) (now : Instant)
    (elapsed : Span) : Resync :=
  let registry := adopt discovered
  let counts := registry.namespaceCounts
  { state := {
      registry := registry
      lastUpdate := state.lastUpdate
      lastResync := some now
      namespaceCounts := counts
      retries := ∅
      passes := state.passes }
    metrics := ((metrics.setManaged state.namespaceCounts counts).setParked 0).observe "resync"
      (Span.toFloatSecs elapsed) }

end Resync

end IngressBalancer
