import IngressBalancer.Data.SortedMap
import IngressBalancer.Resource.Managed
import IngressBalancer.Retry.Policy
/-!
# The retry book

One record for each resource whose last attempt failed: how often it failed
in a row, when it may be tried again, and with which spec it failed. A
resource is parked when it failed too often or in a way that no retry
mends; a spec other than the recorded one wipes its record.
-/

namespace IngressBalancer

/-- The failures of one resource since its last success. -/
structure RetryRecord where
  failures : UInt32
  nextAttempt : Instant
  /-- The spec with which the last attempt failed. -/
  desired : Option Spec
  lastError : String
  /-- Whether a failure was such that no retry mends it. -/
  permanent : Bool
deriving DecidableEq, Repr

/-- Whether the resource is not tried again until its spec changes. -/
def RetryRecord.isParked (record : RetryRecord) (maxFailures : UInt32) : Bool :=
  record.permanent || maxFailures ≤ record.failures

/-- What to do with a resource. -/
inductive Dispatch
  | run
  | backoff (remaining : Span)
  | parked (failures : UInt32)
deriving DecidableEq, Repr

/-- What follows from a failure. -/
inductive FailureOutcome
  | retrying (failures : UInt32) (delay : Span)
  | parked (failures : UInt32)
deriving DecidableEq, Repr

/-- The records of the resources that failed. -/
structure RetryBook where
  records : SortedMap ResourceId RetryRecord
deriving DecidableEq, Repr

namespace RetryBook

def empty : RetryBook := ⟨∅⟩

instance : EmptyCollection RetryBook := ⟨empty⟩

instance : Inhabited RetryBook := ⟨empty⟩

def get? (b : RetryBook) (id : ResourceId) : Option RetryRecord := b.records.get? id

/-- Forget the failures of a resource. -/
def recordSuccess (b : RetryBook) (id : ResourceId) : RetryBook := ⟨b.records.erase id⟩

/-- What to do with a resource now. A spec other than the recorded one wipes the record. -/
def check (b : RetryBook) (r : Resource) (policy : RetryPolicy) (now : Instant) :
    Dispatch × RetryBook :=
  match b.get? r.id with
  | none => (.run, b)
  | some record =>
    if record.desired ≠ r.desired then (.run, b.recordSuccess r.id)
    else if record.isParked policy.maxFailures then (.parked record.failures, b)
    else if now < record.nextAttempt then (.backoff (record.nextAttempt - now), b)
    else (.run, b)

/-- The record after one more failure. -/
def nextRecord (prior : Option RetryRecord) (r : Resource) (error : String) (retriable : Bool)
    (policy : RetryPolicy) (now : Instant) : RetryRecord :=
  let failures := (prior.map (·.failures)).getD 0 + 1
  { failures := failures
    nextAttempt := now + policy.delayAfter failures
    desired := r.desired
    lastError := error
    permanent := (prior.map (·.permanent)).getD false || !retriable }

/-- Record a failure. One that no retry mends parks the resource at once. -/
def recordFailure (b : RetryBook) (r : Resource) (error : String) (retriable : Bool)
    (policy : RetryPolicy) (now : Instant) : FailureOutcome × RetryBook :=
  let record := nextRecord (b.get? r.id) r error retriable policy now
  let outcome : FailureOutcome :=
    if record.isParked policy.maxFailures then .parked record.failures
    else .retrying record.failures (policy.delayAfter record.failures)
  (outcome, ⟨b.records.insert r.id record⟩)

/-- How often a resource failed in a row. -/
def failures (b : RetryBook) (id : ResourceId) : UInt32 :=
  ((b.get? id).map (·.failures)).getD 0

/-- The text of the last failure of a resource. -/
def lastError (b : RetryBook) (id : ResourceId) : Option String := (b.get? id).map (·.lastError)

/-- How many resources are parked. -/
def parked (b : RetryBook) (maxFailures : UInt32) : Nat :=
  (b.records.values.filter (·.isParked maxFailures)).length

/-- Keep the records of the ids that satisfy `p`. -/
def retain (p : ResourceId → Bool) (b : RetryBook) : RetryBook := ⟨b.records.filter fun id _ => p id⟩

end RetryBook

end IngressBalancer
