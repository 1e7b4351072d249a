import IngressBalancer.Cluster.Cache
import IngressBalancer.Cluster.Write
import IngressBalancer.World.Operator
/-!
# Watching a cluster

A controller whose view is a watch cache, with a driver that runs a pass
after every change and a publisher that brings the statuses in line after
every pass. Its events and statuses are written to the cluster; what is
written does not change the cache, and a write that fails or cannot be made
is passed over.
-/

namespace IngressBalancer

/-- A controller and the cache that it looks at. -/
structure Watching where
  world : World
  cache : Cache

namespace Watching

/-- The world as far as the cache is concerned. -/
def refresh (s : Watching) : Watching := { s with world := { s.world with view := s.cache.view } }

/-- Start to watch, after the first lists have been read: those cause one pass. The driver is added
before the publisher; `driverLeads` says whether it also goes as far as it can before the
publisher takes its first step, or only after that. -/
def start (driverLeads : Bool) (world : World) (cache : Cache) : Watching :=
  let s := (⟨((world.notify).spawn .driver).spawn .publisher, cache⟩ : Watching).refresh
  let led := if driverLeads then s.world.goOn .driver World.stepBound else s.world
  { s with world := led.goOn .publisher 1 }

/-- Wake the driver. -/
def notify (s : Watching) : Watching := { s with world := s.world.notify }

/-- Take an event of a watch. -/
def handle (s : Watching) (e : WatchEvent) : Watching :=
  let s := ({ s with cache := s.cache.handle e } : Watching).refresh
  if e.wakes then s.notify else s

/-- Make every move that is possible at once. -/
def settle (s : Watching) : Watching := { s with world := s.world.settle }

/-- Let some time pass. -/
def sleep (s : Watching) (span : Span) : Watching :=
  { s with world := (s.world.sleep span).settle }

/-- What has been written, with `stamp` in the stead of every moment and the steady part of every
message. -/
def writes (s : Watching) (stamp : String) : List ClusterWrite :=
  s.world.events.filterMap (fun e => ClusterWrite.ofEvent? stamp e.what.steady) ++
    s.world.statuses.filterMap fun p => ClusterWrite.ofStatus? p.1 p.2

/-- The same without what has been written so far. -/
def clearWrites (s : Watching) : Watching := { s with world := s.world.clearRecords }

end Watching

end IngressBalancer
