/-!
# The state lock

A lock that many readers or one writer may hold. Whoever asks joins the end
of a queue, and the queue is served from its front as far as the lock
allows, so that no one is overtaken: readers in a row share the lock, and
nobody passes a waiting writer.
-/

namespace IngressBalancer

/-- How a lock is held. -/
inductive Access
  | shared
  | exclusive
deriving DecidableEq, Repr

/-- A lock, with its holders and its queue by task number. -/
structure Lock where
  readers : List Nat
  writer : Option Nat
  /-- Who waits, in the order of asking. -/
  queue : List (Nat × Access)
deriving DecidableEq, Repr

namespace Lock

/-- A lock that nobody holds. -/
def free : Lock := ⟨[], none, []⟩

/-- Whether the lock can be given to one more. -/
def admits (l : Lock) : Access → Bool
  | .shared => l.writer.isNone
  | .exclusive => l.writer.isNone && l.readers.isEmpty

/-- Give the lock to a task. -/
def grant (l : Lock) (task : Nat) : Access → Lock
  | .shared => { l with readers := l.readers ++ [task] }
  | .exclusive => { l with writer := some task }

/-- Give the lock to the first of a queue, as many as it allows; the rest keeps waiting. -/
def serve (l : Lock) : List (Nat × Access) → Lock
  | [] => { l with queue := [] }
  | (task, access) :: rest =>
    if l.admits access then (l.grant task access).serve rest
    else { l with queue := (task, access) :: rest }

/-- Ask for the lock. -/
def request (l : Lock) (task : Nat) (access : Access) : Lock :=
  l.serve (l.queue ++ [(task, access)])

/-- Give the lock back, or give up waiting for it. -/
def release (l : Lock) (task : Nat) : Lock :=
  let l' : Lock := ⟨l.readers.filter (· != task), l.writer.filter (· != task), []⟩
  l'.serve (l.queue.filter (·.1 != task))

/-- Whether a task holds the lock. -/
def isHeldBy (l : Lock) (task : Nat) : Bool := l.writer == some task || l.readers.contains task

end Lock

end IngressBalancer
