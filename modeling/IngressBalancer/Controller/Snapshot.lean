import IngressBalancer.Controller.State
import IngressBalancer.Resource.Format
import IngressBalancer.Text.Steady
/-!
# Snapshots

The committed state as others see it: each resource with its failures, the
counts of the namespaces, and when the last pass and the last resync were
committed.
-/

namespace IngressBalancer

/-- A resource together with its failures. -/
structure ResourceSnapshot where
  resource : Resource
  consecutiveFailures : UInt32
  lastError : Option String
deriving DecidableEq, Repr

/-- The resource with the steady part of its last error. -/
def ResourceSnapshot.steady (r : ResourceSnapshot) : ResourceSnapshot :=
  { r with lastError := r.lastError.map Text.steady }

/-- A copy of the committed state. -/
structure Snapshot where
  lastUpdate : Option Instant
  lastResync : Option Instant
  passes : Nat
  namespaces : NamespaceCounts
  ingresses : List ResourceSnapshot
deriving DecidableEq, Repr

namespace SyncState

/-- The state as others see it. -/
def snapshot (s : SyncState) : Snapshot where
  lastUpdate := s.lastUpdate
  lastResync := s.lastResync
  passes := s.passes
  namespaces := s.namespaceCounts
  ingresses := s.registry.toList.map fun r =>
    ⟨r, s.retries.failures r.id, s.retries.lastError r.id⟩

end SyncState

namespace ResourceSnapshot

/-- The members of the resource, and its failures where there are any. -/
def toJson (r : ResourceSnapshot) : Json :=
  .object (r.resource.members ++
    (if r.consecutiveFailures = 0 then []
      else [("consecutiveFailures", .ofNat r.consecutiveFailures.toNat)]) ++
    (r.lastError.map fun e => ("lastError", Json.string e)).toList)

end ResourceSnapshot

namespace Snapshot

/-- The snapshot with the steady part of every error. -/
def steady (s : Snapshot) : Snapshot :=
  { s with ingresses := s.ingresses.map ResourceSnapshot.steady }

/-- The snapshot in JSON, with `stamp` to write instants. -/
def toJson (stamp : Instant → String) (s : Snapshot) : Json :=
  .object [
    ("lastUpdate", s.lastUpdate.elim .null fun t => .string (stamp t)),
    ("lastResync", s.lastResync.elim .null fun t => .string (stamp t)),
    ("passes", .ofNat s.passes),
    ("namespaces", .ofMap .ofNat s.namespaces),
    ("ingresses", .list (s.ingresses.map ResourceSnapshot.toJson))]

end Snapshot

end IngressBalancer
