import IngressBalancer.Registry
import IngressBalancer.Retry.Book
/-!
# The committed state

The registry and the bookkeeping that changes together with it. Passes and
resyncs replace the state as a whole; whoever reads it between them sees
what one of them committed.
-/

namespace IngressBalancer

/-- What the controller knows between passes and resyncs. -/
structure SyncState where
  registry : Registry
  /-- When the last pass was committed. -/
  lastUpdate : Option Instant
  /-- When the last resync was committed. -/
  lastResync : Option Instant
  /-- How many resources each namespace had after the last commit. -/
  namespaceCounts : NamespaceCounts
  retries : RetryBook
  /-- Committed passes. -/
  passes : Nat
deriving DecidableEq, Repr

namespace SyncState

/-- The state of a controller that has just been made. -/
def initial : SyncState := ⟨∅, none, none, ∅, ∅, 0⟩

instance : Inhabited SyncState := ⟨initial⟩

end SyncState

end IngressBalancer
