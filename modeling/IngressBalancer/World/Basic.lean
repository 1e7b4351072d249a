import IngressBalancer.Controller.Pass
import IngressBalancer.Controller.Resync
import IngressBalancer.Health.Monitor
import IngressBalancer.World.Lock
import IngressBalancer.World.Rig
import IngressBalancer.World.Watchdog
/-!
# The running controller

The controller with its tasks, its lock and a clock. A task sleeps, waits
for a wake-up or for the lock, or holds the lock: for one moment to read the
state or to resync, for as long as its attempts take to run a pass, or for
as long as the probes take to check the health.

`World.move` is one move of one task, or of one attempt inside a pass. Any
move that is possible may be the next one; the clock may go on at any time
(`World.Step`). Whoever runs the world chooses among the moves.
-/

namespace IngressBalancer

/-- What a task is there for. -/
inductive Role
  /-- Whoever gives orders from outside; has number zero. -/
  | operator
  /-- One pass. -/
  | update
  /-- A pass for every wake-up. -/
  | driver
  /-- A pass where there was none for too long. -/
  | watchdog
  /-- A resync in regular intervals. -/
  | drift
  /-- The statuses of the ingresses after every pass. -/
  | publisher
deriving DecidableEq, Repr

/-- What a task needs the lock for. -/
inductive Errand
  | converge
  | resync
  | inspect
  | probe
deriving DecidableEq, Repr

/-- How the lock is held for an errand. -/
def Errand.access : Errand → Access
  | .converge | .resync => .exclusive
  | .inspect | .probe => .shared

/-- How far an attempt has come. -/
inductive Progress
  | atGate (gate : Nat)
  | waiting (conduct : Conduct) (wake : Instant)
  | hanging
  /-- Has looked at the inventory, and will make a change. -/
  | decided (change : Change)
  /-- Has made the change, and waits until it is published, if it ever is. -/
  | reporting (change : Change) (wake : Option Instant)
  | done (outcome : Except Failure Resource)

/-- One resource of a pass, being reconciled on its own copy. -/
structure Attempt where
  resource : Resource
  deadline : Instant
  progress : Progress

/-- What a task is doing. -/
inductive Activity
  /-- Has not taken its first step. -/
  | starting
  | asleep (wake : Instant)
  /-- Waits for a wake-up, or for a committed pass. -/
  | listening
  /-- Has been woken up. -/
  | woken
  /-- Waits for the lock. -/
  | queued (errand : Errand)
  /-- Holds the lock and runs a pass. -/
  | converging (flight : Flight) (attempts : List Attempt)
  /-- Holds the lock until the probes have answered. -/
  | probing (wake : Instant)
  | finished

/-- What an errand yields. -/
inductive Yield
  | report (report : PassReport)
  | resynced (count : Except Failure Nat)
  | state (state : SyncState)
  | health (report : HealthReport)

structure Task where
  number : Nat
  role : Role
  activity : Activity
  yield : Option Yield
  /-- The committed passes that a publisher has taken note of. -/
  seen : Nat
  /-- The ingresses that it took down when it was woken up last. -/
  listed : List Ingress

/-- A call of the provider for one resource. -/
structure Call where
  time : Instant
  id : ResourceId
  removal : Bool
  live : Bool
deriving DecidableEq, Repr

/-- Something that happened, and when. -/
structure Stamped (α : Type) where
  time : Instant
  what : α
deriving DecidableEq, Repr

/-- A controller, what surrounds it, and what has been observed of it. -/
structure World where
  settings : Settings
  now : Instant
  view : View
  rig : Rig
  monitor : Monitor
  state : SyncState
  metrics : Metrics
  /-- Whether the initial resync was tried. -/
  ready : Bool
  lock : Lock
  /-- How long it takes to publish a change; absent where that never ends. -/
  publication : Option Span
  /-- Whether a wake-up is stored for the driver. -/
  signal : Bool
  tasks : List Task
  events : List (Stamped Event)
  calls : List Call
  /-- The statuses that publishers wrote. -/
  statuses : List (ResourceId × List StatusPoint)

namespace World

/-- A controller that has just been made, with an operator who is at rest. -/
def new (settings : Settings) (view : View) (rig : Rig) (monitor : Monitor) : World where
  settings := settings
  now := 0
  view := view
  rig := rig
  monitor := monitor
  state := .initial
  metrics := .empty
  ready := false
  lock := .free
  publication := some 0
  signal := false
  tasks := [⟨0, .operator, .finished, none, 0, []⟩]
  events := []
  calls := []
  statuses := []

/-- What the controller looks for at the provider. -/
def scope (w : World) : Scope := ⟨w.settings.clusterName, w.settings.stem⟩

def task? (w : World) (number : Nat) : Option Task := w.tasks.find? (·.number = number)

/-- Put a task in the stead of the one with its number. -/
def put (w : World) (t : Task) : World :=
  { w with tasks := w.tasks.map fun u => if u.number = t.number then t else u }

/-- Note events of this moment. -/
def note (w : World) (events : List Event) : World :=
  { w with events := w.events ++ events.map fun e => ⟨w.now, e⟩ }

/-- Change the provider. -/
def alterRig (w : World) (f : Rig → Rig) : World := { w with rig := f w.rig }

/-- The task goes on to wait for the lock. -/
def ask (w : World) (t : Task) (errand : Errand) : World :=
  ({ w with lock := w.lock.request t.number errand.access }).put
    { t with activity := .queued errand }

/-- The task gives the lock back and goes on with `activity`. -/
def leave (w : World) (t : Task) (activity : Activity) : World :=
  ({ w with lock := w.lock.release t.number }).put { t with activity := activity }

/-- What a task does after its errand, which yielded something. -/
def finish (w : World) (t : Task) (yield : Yield) : World :=
  match t.role with
  | .driver | .publisher => w.leave t .listening
  | .watchdog => w.leave t (.asleep (w.now + Watchdog.tick))
  | .drift => w.leave t (.asleep (Instant.after w.now w.settings.syncInterval))
  | .operator | .update => w.leave { t with yield := some yield } .finished

/-! ## Attempts -/

/-- The progress of an attempt that acts under a fault from now on. -/
def progressOf (now : Instant) (f : Fault) : Progress :=
  match f.conduct with
  | .hang => .hanging
  | conduct => .waiting conduct (now + f.delay)

/-- Call the provider for one resource: the attempt waits at the gate in use, or meets the
fault that is set. -/
def call (w : World) (r : Resource) : Attempt × World :=
  let call : Call := ⟨w.now, r.id, r.isRemoval, r.isLive⟩
  let w := { w with calls := w.calls ++ [call] }
  let deadline := Instant.after w.now w.settings.reconcileTimeout
  if w.rig.gates.isEmpty then
    let (f, rig) := w.rig.meet r.id
    (⟨r, deadline, progressOf w.now f⟩, { w with rig := rig })
  else (⟨r, deadline, .atGate (w.rig.gates.length - 1)⟩, w)

/-- Call the provider for every resource of a batch. -/
def callAll : List Resource → World → List Attempt × World
  | [], w => ([], w)
  | r :: rs, w =>
    let (a, w) := w.call r
    let (as, w) := callAll rs w
    (a :: as, w)

/-- One move of an attempt, if it can make one. What is ready at the deadline is in time. -/
def advance (w : World) (a : Attempt) : Option (Attempt × World) :=
  let late : Option (Attempt × World) :=
    if a.deadline ≤ w.now then
      some ({ a with progress := .done (.error (.timeout a.resource.id)) }, w)
    else none
  match a.progress with
  | .done _ => none
  | .hanging => late
  | .atGate gate =>
    if w.rig.isOpen gate then
      let (f, rig) := w.rig.meet a.resource.id
      some ({ a with progress := progressOf w.now f }, { w with rig := rig })
    else late
  | .waiting conduct wake =>
    if wake ≤ w.now then
      let progress := match conduct.outcome? a.resource with
        | some outcome => .done outcome
        | none => .decided (.plan w.rig.region w.rig.inventory a.resource)
      some ({ a with progress := progress }, w)
    else late
  | .decided change =>
    -- no deadline strikes between the look and the change
    let w := w.alterRig fun g => { g with inventory := change.applyTo g.inventory }
    match change.event? a.resource.id with
    | none => some ({ a with progress := .done (change.outcome a.resource) }, w)
    | some event =>
      some ({ a with progress := .reporting change (w.publication.map (w.now + ·)) },
        w.note [event])
  | .reporting change wake =>
    if wake.any (· ≤ w.now) then
      some ({ a with progress := .done (change.outcome a.resource) }, w)
    else late

/-- The outcomes of attempts that are all done. -/
def outcomes? (attempts : List Attempt) : Option (List Flight.Outcome) :=
  attempts.mapM fun a =>
    match a.progress with
    | .done outcome => some (a.resource.id, outcome)
    | _ => none

/-! ## Moves -/

/-- Start a pass. -/
def takeOff (w : World) (t : Task) : World :=
  let flight := Flight.start w.settings w.view w.state w.now
  let w := ({ w with metrics := flight.countStart w.metrics }).note flight.problemEvents
  let (attempts, w) := callAll flight.batch w
  w.put { t with activity := .converging flight attempts }

/-- Commit a pass. -/
def land (w : World) (t : Task) (flight : Flight) (outcomes : List Flight.Outcome) : World :=
  let commit := flight.commit w.settings w.state w.metrics outcomes w.now
  (({ w with state := commit.state, metrics := commit.metrics }).note commit.events).finish t
    (.report commit.report)

/-- Resync, which a failed discovery leaves undone. -/
def resync (w : World) (t : Task) : World :=
  match w.rig.discover w.scope with
  | .error failure => w.finish t (.resynced (.error failure))
  | .ok discovered =>
    let done := Resync.run w.state w.metrics discovered w.now 0
    ({ w with state := done.state, metrics := done.metrics }).finish t
      (.resynced (.ok done.state.registry.size))

/-- Read the state. A publisher writes the statuses of the ingresses that it took down before it
waited for the lock. -/
def inspect (w : World) (t : Task) : World :=
  match t.role with
  | .watchdog =>
    if Watchdog.isDue w.state.lastUpdate w.now then
      ({ w with lock := w.lock.release t.number }).ask t .converge
    else w.finish t (.state w.state)
  | .publisher =>
    let pending := w.state.registry.pendingStatuses w.rig.hostnamesOf w.settings.ingressClass
      t.listed
    ({ w with statuses := w.statuses ++ pending }).finish t (.state w.state)
  | _ => w.finish t (.state w.state)

/-- One move of a task, if it can make one. -/
def moveTask (w : World) (t : Task) : Option World :=
  match t.activity with
  | .finished => none
  | .starting =>
    match t.role with
    | .operator => none
    | .update => some (w.ask t .converge)
    | .driver => some (w.put { t with activity := .listening })
    | .watchdog => some (w.put { t with activity := .asleep (w.now + Watchdog.tick) })
    | .drift => some (w.put { t with activity := .asleep (Instant.after w.now w.settings.syncInterval) })
    | .publisher => some (w.put { t with activity := .listening, seen := w.state.passes })
  | .asleep wake =>
    if wake ≤ w.now then
      some (w.ask t (if t.role = .watchdog then .inspect else .resync))
    else none
  | .listening =>
    if t.role = .publisher then
      if t.seen ≠ w.state.passes then
        some (w.ask { t with seen := w.state.passes, listed := w.view.ingresses } .inspect)
      else none
    else if w.signal then some (({ w with signal := false }).put { t with activity := .woken })
    else none
  | .woken => some (w.ask t .converge)
  | .queued errand =>
    if w.lock.isHeldBy t.number then
      match errand with
      | .converge => some (w.takeOff t)
      | .resync => some (w.resync t)
      | .inspect => some (w.inspect t)
      | .probe => some (w.put { t with activity := .probing (w.now + w.monitor.span) })
    else none
  | .converging flight attempts => (outcomes? attempts).map (w.land t flight)
  | .probing wake =>
    if wake ≤ w.now then some (w.finish t (.health w.monitor.report)) else none

/-- One move of the attempt for a resource, if a pass of the task has one that can move. -/
def moveAttempt (w : World) (t : Task) (id : ResourceId) : Option World :=
  match t.activity with
  | .converging flight attempts =>
    match attempts.find? (·.resource.id = id) with
    | none => none
    | some a => (w.advance a).map fun (a, w) =>
      let attempts := attempts.map fun b => if b.resource.id = id then a else b
      w.put { t with activity := .converging flight attempts }
  | _ => none

/-- Who moves next. -/
inductive Move
  | task (number : Nat)
  | attempt (number : Nat) (id : ResourceId)
deriving DecidableEq, Repr

/-- Make a move, if it is possible. -/
def move (w : World) : Move → Option World
  | .task number => (w.task? number).bind w.moveTask
  | .attempt number id => (w.task? number).bind fun t => w.moveAttempt t id

/-- One step of the world: a move, or the clock going on. -/
inductive Step : World → World → Prop
  | move {w w' : World} (m : Move) (h : w.move m = some w') : Step w w'
  | tick {w : World} {t : Instant} (h : w.now ≤ t) : Step w { w with now := t }

/-! ## From outside -/

/-- Add a task. -/
def spawn (w : World) (role : Role) : World :=
  let number := (w.tasks.map (·.number)).foldl max 0 + 1
  { w with tasks := w.tasks ++ [⟨number, role, .starting, none, 0, []⟩] }

/-- Take the tasks with some roles away. -/
def stop (w : World) (roles : List Role) : World :=
  let (gone, kept) := w.tasks.partition fun t => t.role ∈ roles
  { w with
    tasks := kept
    lock := gone.foldl (fun l t => l.release t.number) w.lock }

/-- Wake the driver: one that listens wakes up at once, else one wake-up is stored. -/
def notify (w : World) : World :=
  match w.tasks.find? fun t => t.role = .driver && t.activity matches .listening with
  | some t => w.put { t with activity := .woken }
  | none => { w with signal := true }

end World

end IngressBalancer
