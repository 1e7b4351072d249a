import IngressBalancer.World.Basic
/-!
# Running the world

One way through the moves of a world: the first task that can move moves,
and its attempts before itself; where nobody can, the clock goes on to the
next moment at which somebody may. Every step of such a run is a step of
the world (`step_of_next?`).

A run ends when its goal is reached or when nothing is left to wait for. The
number of steps is bounded by `stepBound`, which no run of use comes near.
-/

namespace IngressBalancer

namespace World

/-- The moves to try for one task: its attempts, then itself. -/
def movesOf (t : Task) : List Move :=
  let attempts := match t.activity with
    | .converging _ attempts => attempts.map fun a => .attempt t.number a.resource.id
    | _ => []
  attempts ++ [.task t.number]

/-- The world after the first move that is possible. -/
def next? (w : World) : Option World := (w.tasks.flatMap movesOf).findSome? w.move

/-- A move that was chosen is a step. -/
theorem step_of_next? {w w' : World} (h : w.next? = some w') : w.Step w' := by
  obtain ⟨m, -, hm⟩ := List.exists_of_findSome?_eq_some h
  exact .move m hm

/-- When an attempt may move by itself. -/
def attemptTimers (a : Attempt) : List Instant :=
  match a.progress with
  | .done _ | .decided _ => []
  | .waiting _ wake => [wake, a.deadline]
  | .reporting _ wake => a.deadline :: wake.toList
  | .hanging | .atGate _ => [a.deadline]

/-- When a task may move by itself. -/
def timers (t : Task) : List Instant :=
  match t.activity with
  | .asleep wake | .probing wake => [wake]
  | .converging _ attempts => attempts.flatMap attemptTimers
  | _ => []

/-- The next moment, up to a limit if there is one, at which somebody may move. -/
def nextTimer? (w : World) (limit : Option Instant) : Option Instant :=
  (w.tasks.flatMap timers ++ limit.toList).min?

/-- How many steps a run may take. -/
def stepBound : Nat := 1000000000

/-- Run until the goal is reached; the clock stops at the limit. -/
def runFor (goal : World → Bool) (limit : Option Instant) : Nat → World → World
  | 0, w => w
  | n + 1, w =>
    if goal w then w
    else
      match w.next? with
      | some w => runFor goal limit n w
      | none =>
        match w.nextTimer? limit with
        | some t => if w.now < t then runFor goal limit n { w with now := t } else w
        | none => w

/-- Make every move that is possible without the clock going on. -/
def settleFor : Nat → World → World
  | 0, w => w
  | n + 1, w =>
    match w.next? with
    | some w => settleFor n w
    | none => w

def settle (w : World) : World := settleFor stepBound w

/-- Let some time pass. -/
def sleep (w : World) (span : Span) : World :=
  let wake := w.now + span
  runFor (fun w => wake ≤ w.now) (some wake) stepBound w

/-- Whether a task has a pass in the air that found problems, and waits until they are
published. -/
def isReporting (t : Task) : Bool :=
  match t.activity with
  | .converging flight _ => !flight.desired.problems.isEmpty
  | _ => false

/-- Let the task with a role go on until it has to wait for somebody. -/
def goOn (role : Role) : Nat → World → World
  | 0, w => w
  | n + 1, w =>
    match w.tasks.find? (·.role = role) with
    | none => w
    | some t =>
      if isReporting t then w
      else
        match w.moveTask t with
        | some w => goOn role n w
        | none => w

/-- The task that gives orders. -/
def operator (w : World) : Task := (w.task? 0).getD ⟨0, .operator, .finished, none, 0, []⟩

/-- Run an errand for the operator, and wait for it, up to a span if one is given. Where the
lock does not become free in time, the operator gives up. -/
def perform (w : World) (errand : Errand) (within : Option Span) : World × Option Yield :=
  let limit := within.map (w.now + ·)
  let w := w.ask { w.operator with yield := none } errand
  let w := runFor (fun w => w.operator.yield.isSome) limit stepBound w
  match w.operator.yield with
  | some yield => (w, some yield)
  | none => (w.leave w.operator .finished, none)

end World

end IngressBalancer
