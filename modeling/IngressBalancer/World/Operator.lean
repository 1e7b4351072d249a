import IngressBalancer.Controller.Snapshot
import IngressBalancer.Controller.Status
import IngressBalancer.World.Schedule
/-!
# Orders

What can be asked of a running controller from outside. Each order waits in
the queue of the lock like everybody else, runs the world until it is
served, and leaves the clock where its own result was ready.
-/

namespace IngressBalancer

namespace World

/-- Run one pass. -/
def update (w : World) : World × Option PassReport :=
  match w.perform .converge none with
  | (w, some (.report report)) => (w, some report)
  | (w, _) => (w, none)

/-- Rebuild the registry from what the provider holds; the number of its entries. -/
def sync (w : World) : World × Option (Except Failure Nat) :=
  match w.perform .resync none with
  | (w, some (.resynced count)) => (w, some count)
  | (w, _) => (w, none)

/-- Read the committed state, if the lock becomes free within a span. -/
def readState (w : World) (within : Option Span) : World × Option SyncState :=
  match w.perform .inspect within with
  | (w, some (.state state)) => (w, some state)
  | (w, _) => (w, none)

/-- The state as others see it, if the lock becomes free within a span. -/
def snapshot (w : World) (within : Option Span) : World × Option Snapshot :=
  let (w, state) := w.readState within
  (w, state.map SyncState.snapshot)

/-- Run the probes. -/
def check (w : World) : World × Option HealthReport :=
  match w.perform .probe none with
  | (w, some (.health report)) => (w, some report)
  | (w, _) => (w, none)

/-- The places that the status of an ingress should name. -/
def statusOf (w : World) (id : ResourceId) : World × List StatusPoint :=
  let (w, state) := w.readState none
  (w, (state.map fun s => s.registry.statusFor w.rig.hostnamesOf id).getD [])

/-- The managed ingresses among some that show another status than they should. -/
def pendingAmong (w : World) (ingresses : List Ingress) :
    World × List (ResourceId × List StatusPoint) :=
  let (w, state) := w.readState none
  (w, (state.map fun s =>
    s.registry.pendingStatuses w.rig.hostnamesOf w.settings.ingressClass ingresses).getD [])

/-- Try the initial resync, then start the loops for drift and watchdog. -/
def startUp (w : World) : World :=
  let (w, _) := w.sync
  (({ w with ready := true }).spawn .drift).spawn .watchdog

/-- Whether a task runs one pass that has not been committed. -/
def isUnderWay (t : Task) : Bool := t.role = .update && t.yield.isNone

/-- Wait for the passes that were started on their own, and take their reports in the order in
which they were started. -/
def join (w : World) : World × List PassReport :=
  let w := runFor (fun w => !w.tasks.any isUnderWay) none stepBound w
  let (own, others) := w.tasks.partition (·.role = .update)
  ({ w with tasks := others }, own.filterMap fun t =>
    match t.yield with
    | some (.report report) => some report
    | _ => none)

/-- Wake the driver so many times in a row. -/
def notifyTimes (w : World) : Nat → World
  | 0 => w
  | n + 1 => w.notify.notifyTimes n

/-- Put some resources in the place of the registry. -/
def setRegistry (w : World) (resources : List Resource) : World :=
  let registry := Registry.ofList resources
  { w with state := { w.state with
      registry := registry, namespaceCounts := registry.namespaceCounts } }

/-- The world without what was observed so far. -/
def clearRecords (w : World) : World := { w with events := [], calls := [], statuses := [] }

end World

end IngressBalancer
