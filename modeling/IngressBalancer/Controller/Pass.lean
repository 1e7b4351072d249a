import IngressBalancer.Controller.DesiredSet
import IngressBalancer.Controller.State
import IngressBalancer.Event
import IngressBalancer.Metrics.Basic
/-!
# Convergence passes

One pass in two halves. The first (`Flight.start`) computes what is
declared, adds what is no longer declared with its spec cleared, and picks
the resources to be reconciled now. Each of those is then reconciled on its
own copy. The second half (`Flight.commit`) takes all outcomes, in the
order of the ids, records successes and failures, drops what has no live
load balancer, and gives the next committed state.

A failed resource keeps its entry as it stood before the attempt.
-/

namespace IngressBalancer

/-- What a pass did. -/
structure PassReport where
  declared : Nat
  /-- The ids that are no longer declared. -/
  removed : List ResourceId
  dispatched : Nat
  succeeded : Nat
  failed : Nat
  held : Nat
  deferred : Nat
  parked : Nat
  /-- Entries dropped because they have no live load balancer. -/
  purged : Nat
  tracked : Nat
deriving DecidableEq, Repr

/-- A pass between its two halves. -/
structure Flight where
  startedAt : Instant
  desired : DesiredSet
  removed : List Resource
  /-- What is declared together with what is to be removed. -/
  working : Registry
  /-- The retry book after the checks. -/
  retries : RetryBook
  /-- The resources to be reconciled, in the order of their ids. -/
  batch : List Resource
  deferred : Nat
  parked : Nat
deriving DecidableEq, Repr

namespace Flight

/-- Resources sorted into those that run and those that wait. -/
structure Selection where
  retries : RetryBook
  batch : List Resource
  deferred : Nat
  parked : Nat
deriving DecidableEq, Repr

/-- Decide about one resource; held ones are passed over. -/
def Selection.consider (held : SortedSet ResourceId) (policy : RetryPolicy) (now : Instant)
    (s : Selection) (r : Resource) : Selection :=
  if held.contains r.id then s
  else
    match s.retries.check r policy now with
    | (.run, retries) => { s with retries := retries, batch := s.batch ++ [r] }
    | (.backoff _, retries) => { s with retries := retries, deferred := s.deferred + 1 }
    | (.parked _, retries) => { s with retries := retries, parked := s.parked + 1 }

/-- The first half of a pass. -/
def start (settings : Settings) (view : View) (state : SyncState) (now : Instant) : Flight :=
  let desired := DesiredSet.build settings view state.registry
  let removed := state.registry.removed desired.resources
  let working := desired.resources.insertAll removed
  let selection := working.toList.foldl
    (Selection.consider desired.held settings.retry now) ⟨state.retries, [], 0, 0⟩
  { startedAt := now
    desired := desired
    removed := removed
    working := working
    retries := selection.retries
    batch := selection.batch
    deferred := selection.deferred
    parked := selection.parked }

/-- The report about a resource whose spec cannot be built. -/
def problemEvent (problem : ResourceId × Failure) : Event :=
  let reason := match problem.2 with
    | .lookup _ => "LookupFailed"
    | _ => "InvalidIngress"
  ⟨problem.1, .warning, reason, problem.2.message⟩

/-- What the first half reports. -/
def problemEvents (f : Flight) : List Event := f.desired.problems.map problemEvent

/-- What the first half counts. -/
def countStart (f : Flight) (m : Metrics) : Metrics :=
  f.desired.problems.foldl (fun m p => m.countError p.2.kind) m.countUpdate

/-! ## The second half -/

/-- The outcome of one attempt. -/
abbrev Outcome := ResourceId × Except Failure Resource

/-- Outcomes taken so far. -/
structure Tally where
  registry : Registry
  retries : RetryBook
  metrics : Metrics
  events : List Event
  succeeded : Nat
  failed : Nat

/-- The report about a failed attempt. -/
def failureEvent (id : ResourceId) (failure : Failure) : FailureOutcome → Event
  | .retrying .. => ⟨id, .warning, "ReconcileFailed", failure.message⟩
  | .parked failures =>
    ⟨id, .warning, "ReconcileParked",
      "Giving up after " ++ String.ofList (Text.showNat failures.toNat) ++
        " consecutive failures: " ++ failure.message⟩

/-- Take a failure. The registry still holds the entry from before the attempt. -/
def Tally.fail (policy : RetryPolicy) (now : Instant) (t : Tally) (id : ResourceId)
    (failure : Failure) : Tally :=
  let t := { t with metrics := t.metrics.countError failure.kind, failed := t.failed + 1 }
  match t.registry.get? id with
  | none => t
  | some r =>
    let (outcome, retries) :=
      t.retries.recordFailure r failure.message failure.isRetriable policy now
    { t with retries := retries, events := t.events ++ [failureEvent id failure outcome] }

/-- Take one outcome. -/
def Tally.take (policy : RetryPolicy) (now : Instant) (t : Tally) (outcome : Outcome) : Tally :=
  match outcome.2 with
  | .ok r =>
    { t with
      retries := t.retries.recordSuccess outcome.1
      registry := t.registry.insert r
      succeeded := t.succeeded + 1 }
  | .error failure => t.fail policy now outcome.1 failure

/-- A committed pass. -/
structure Commit where
  state : SyncState
  metrics : Metrics
  events : List Event
  report : PassReport

/-- The counts of the working set without the dropped resources. -/
def remainingCounts (working : Registry) (dropped : List Resource) : NamespaceCounts :=
  (dropped.foldl (fun counts r => Registry.countDown counts r.id.nspace)
    working.namespaceCounts).filter fun _ n => 0 < n

/-- The second half of a pass, for outcomes in the order of the ids. -/
def commit (f : Flight) (settings : Settings) (state : SyncState) (metrics : Metrics)
    (outcomes : List Outcome) (now : Instant) : Commit :=
  let policy := settings.retry
  let tally := outcomes.foldl (Tally.take policy f.startedAt)
    ⟨f.working, f.retries, metrics, [], 0, 0⟩
  let purge := tally.registry.retainLive
  let counts := remainingCounts f.working purge.dropped
  let retries := tally.retries.retain fun id =>
    f.desired.resources.contains id || purge.live.contains id
  { state := {
      registry := purge.live
      lastUpdate := some now
      lastResync := state.lastResync
      namespaceCounts := counts
      retries := retries
      passes := state.passes + 1 }
    metrics :=
      ((tally.metrics.setParked (retries.parked policy.maxFailures)).setManaged
        state.namespaceCounts counts).observe "converge" (Span.toFloatSecs (now - f.startedAt))
    events := tally.events
    report := {
      declared := f.desired.resources.size
      removed := f.removed.map (·.id)
      dispatched := f.batch.length
      succeeded := tally.succeeded
      failed := tally.failed
      held := f.desired.held.size
      deferred := f.deferred
      parked := f.parked
      purged := purge.dropped.length
      tracked := purge.live.size } }

end Flight

end IngressBalancer
