import IngressBalancer.Proofs.Retry.Checks
import IngressBalancer.World.Sample
import Mathlib.Data.List.Nodup
/-!
# The history of a retry book

A book has one record for an id, and that is all that is left of what happened
to it: of its failures since it was last reset (`RetryBook.since`), the record
has their number, the time to wait for after the last one, and whether one of
them was such that no retry mends it (`RetryBook.recordOf`). Each action on a
book keeps to this, whatever is done to other ids in between
(`RetryBook.get?_applyTo`, `RetryBook.get?_after`). So a book answers as the
failures say that stand against the ids (`RetryBook.answers_for_history`).
-/

namespace IngressBalancer

/-- A failure as it was recorded. -/
structure Setback where
  desired : Option Spec
  error : String
  retriable : Bool
  policy : RetryPolicy
  time : Instant
deriving DecidableEq, Repr

namespace RetryBook

/-- What is done to a book. -/
inductive Action
  | check (r : Resource) (policy : RetryPolicy) (now : Instant)
  | fail (r : Resource) (error : String) (retriable : Bool) (policy : RetryPolicy) (now : Instant)
  | succeed (id : ResourceId)
  | retain (p : ResourceId → Bool)
  | clear

namespace Action

/-- The book after an action. -/
def applyTo (b : RetryBook) : Action → RetryBook
  | .check r policy now => (b.check r policy now).2
  | .fail r error retriable policy now => (b.recordFailure r error retriable policy now).2
  | .succeed id => b.recordSuccess id
  | .retain p => b.retain p
  | .clear => ∅

/-- The failure of an id that an action records. -/
def setback? (id : ResourceId) : Action → Option Setback
  | .fail r error retriable policy now =>
    if r.id = id then some ⟨r.desired, error, retriable, policy, now⟩ else none
  | _ => none

/-- Whether an action, after others, resets an id: a success, a retention that rejects the id, a
clearance, and a check for another spec than that of the last failure of the id. -/
def resets (id : ResourceId) (before : List Action) : Action → Bool
  | .check r _ _ => r.id = id ∧ (before.findSome? (setback? id)).any (·.desired ≠ r.desired)
  | .fail .. => false
  | .succeed id' => id' = id
  | .retain p => !p id
  | .clear => true

end Action

/-- The book after a history of actions, the latest of which comes first. -/
def after : List Action → RetryBook
  | [] => ∅
  | a :: before => a.applyTo (after before)

/-- The failures of an id since its last reset, the earliest first. -/
def since (id : ResourceId) : List Action → List Setback
  | [] => []
  | a :: before => if a.resets id before then [] else since id before ++ (a.setback? id).toList

/-- Whether failures park a resource where so many are allowed: no retry mends one of them, or they
are that many. -/
def Parks (limit : UInt32) (ms : List Setback) : Prop :=
  (∃ m ∈ ms, m.retriable = false) ∨ limit.toNat ≤ ms.length

instance (limit : UInt32) (ms : List Setback) : Decidable (Parks limit ms) :=
  inferInstanceAs (Decidable ((∃ m ∈ ms, m.retriable = false) ∨ limit.toNat ≤ ms.length))

/-- The record of some failures. -/
def recordOf (ms : List Setback) : Option RetryRecord :=
  ms.getLast?.map fun m => {
    failures := .ofNat ms.length
    nextAttempt := m.time + m.policy.delayAfter (.ofNat ms.length)
    desired := m.desired
    lastError := m.error
    permanent := ms.any (!·.retriable) }

variable {b : RetryBook} {id : ResourceId} {r : Resource} {policy : RetryPolicy} {now : Instant}
variable {ms : List Setback} {m : Setback} {record : RetryRecord} {limit : UInt32}
variable {history before : List Action}

/-! ## Records of failures -/

theorem recordOf_eq_none_iff : recordOf ms = none ↔ ms = [] := by
  rw [recordOf, Option.map_eq_none_iff, List.getLast?_eq_none_iff]

theorem recordOf_eq_some (h : ms.getLast? = some m) : recordOf ms = some {
    failures := .ofNat ms.length
    nextAttempt := m.time + m.policy.delayAfter (.ofNat ms.length)
    desired := m.desired
    lastError := m.error
    permanent := ms.any (!·.retriable) } := by
  rw [recordOf, h, Option.map_some]

theorem failures_recordOf (ms : List Setback) :
    ((recordOf ms).map (·.failures)).getD 0 = .ofNat ms.length := by
  rw [recordOf]
  cases hlast : ms.getLast? with
  | none =>
    rw [List.getLast?_eq_none_iff.1 hlast]
    rfl
  | some m => rfl

theorem permanent_recordOf (ms : List Setback) :
    ((recordOf ms).map (·.permanent)).getD false = ms.any (!·.retriable) := by
  rw [recordOf]
  cases hlast : ms.getLast? with
  | none =>
    rw [List.getLast?_eq_none_iff.1 hlast]
    rfl
  | some m => rfl

/-- One more failure is taken into the record. -/
theorem nextRecord_recordOf (error : String) (retriable : Bool) :
    some (nextRecord (recordOf ms) r error retriable policy now) =
      recordOf (ms ++ [⟨r.desired, error, retriable, policy, now⟩]) := by
  have hcount : UInt32.ofNat ms.length + 1 = .ofNat (ms.length + 1) :=
    (UInt32.ofNat_add ms.length 1).symm
  simp only [nextRecord, failures_recordOf, permanent_recordOf, hcount]
  simp only [recordOf, List.getLast?_concat, Option.map_some, List.length_append,
    List.length_singleton, List.any_append, List.any_cons, List.any_nil, Bool.or_false]

/-- **A record is parked where its failures park.** -/
theorem isParked_iff_parks (h : recordOf ms = some record) (hlen : ms.length < UInt32.size) :
    record.isParked limit = true ↔ Parks limit ms := by
  obtain ⟨m, -, rfl⟩ := Option.map_eq_some_iff.1 h
  rw [RetryRecord.isParked, Bool.or_eq_true, decide_eq_true_eq, UInt32.le_iff_toNat_le,
    UInt32.toNat_ofNat_of_lt' hlen, Parks, List.any_eq_true]
  simp only [Bool.not_eq_true']

/-! ## What an action leaves -/

/-- The last failure that stands is the last there was. -/
theorem findSome?_setback_eq (h : since id history ≠ []) :
    history.findSome? (Action.setback? id) = (since id history).getLast? := by
  induction history with
  | nil => exact absurd rfl h
  | cons a before ih =>
    rw [since] at h ⊢
    split at h
    · exact absurd rfl h
    · next hkept =>
      rw [if_neg hkept, List.findSome?_cons]
      cases ha : a.setback? id with
      | none =>
        rw [ha, Option.toList_none, List.append_nil] at h
        rw [Option.toList_none, List.append_nil]
        exact ih h
      | some m => rw [Option.toList_some, List.getLast?_concat]

/-- No more failures stand than were recorded. -/
theorem length_since_le (id : ResourceId) (history : List Action) :
    (since id history).length ≤ (history.filterMap (Action.setback? id)).length := by
  induction history with
  | nil => exact Nat.le_refl 0
  | cons a before ih =>
    rw [since]
    split
    · exact Nat.zero_le _
    · rw [List.length_append]
      cases ha : a.setback? id with
      | none =>
        rw [List.filterMap_cons_none ha]
        exact ih
      | some m =>
        rw [List.filterMap_cons_some ha]
        exact Nat.succ_le_succ ih

/-- A check resets what stands where that ends in a failure with another spec. -/
theorem since_check (policy : RetryPolicy) (now : Instant) :
    since r.id (.check r policy now :: before) =
      if (since r.id before).getLast?.any (·.desired ≠ r.desired) then []
      else since r.id before := by
  rw [since, show Action.setback? r.id (.check r policy now) = none from rfl, Option.toList_none,
    List.append_nil]
  by_cases hnone : since r.id before = []
  · rw [hnone, ite_self, ite_self]
  · simp only [Action.resets, findSome?_setback_eq hnone, true_and, Bool.decide_eq_true]

/-- **Each action keeps the record of an id to the failures that stand**, whatever id it is about. -/
theorem get?_applyTo (h : b.get? id = recordOf (since id before)) (a : Action) :
    (a.applyTo b).get? id = recordOf (since id (a :: before)) := by
  cases a with
  | check r policy now =>
    by_cases hid : id = r.id
    · subst hid
      rw [since_check, Action.applyTo, get?_check_self, h, recordOf]
      cases hlast : (since r.id before).getLast? with
      | none => simp [recordOf, hlast]
      | some m => by_cases hd : m.desired = r.desired <;> simp [recordOf, hlast, hd]
    · rw [Action.applyTo, get?_check_of_ne hid, h]
      simp [since, Action.resets, Action.setback?, Ne.symm hid]
  | fail r error retriable policy now =>
    by_cases hid : id = r.id
    · subst hid
      rw [Action.applyTo, get?_recordFailure_self, h, nextRecord_recordOf]
      simp [since, Action.resets, Action.setback?]
    · rw [Action.applyTo, get?_recordFailure_of_ne hid, h]
      simp [since, Action.resets, Action.setback?, Ne.symm hid]
  | succeed id' =>
    by_cases hid : id = id'
    · subst hid
      rw [Action.applyTo, get?_recordSuccess_self]
      simp [since, Action.resets, recordOf]
    · rw [Action.applyTo, get?_recordSuccess_of_ne hid, h]
      simp [since, Action.resets, Action.setback?, Ne.symm hid]
  | retain p =>
    rw [Action.applyTo, get?_retain, h]
    cases hp : p id with
    | true =>
      have hall : ∀ o : Option RetryRecord, o.filter (fun _ => true) = o := by rintro (_ | _) <;> rfl
      rw [hall]
      simp [since, Action.resets, Action.setback?, hp]
    | false => simp [since, Action.resets, recordOf, hp]
  | clear => rfl

/-- **After any history the record of an id is that of the failures that stand.** -/
theorem get?_after (id : ResourceId) (history : List Action) :
    (after history).get? id = recordOf (since id history) := by
  induction history with
  | nil => rfl
  | cons a before ih => exact get?_applyTo ih a

/-! ## What a book answers -/

/-- What a book answers where failures stand against the ids. -/
structure Answers (b : RetryBook) (stand : ResourceId → List Setback) : Prop where
  failures : ∀ id, (b.failures id).toNat = (stand id).length
  lastError : ∀ id, b.lastError id = (stand id).getLast?.map (·.error)
  /-- A resource runs where nothing stands, or what stands ends in a failure with another spec; then
  nothing counts any more. -/
  fresh : ∀ r policy now, (∀ m ∈ (stand r.id).getLast?, m.desired ≠ r.desired) →
    (b.check r policy now).1 = .run ∧ (b.check r policy now).2.failures r.id = 0
  /-- Otherwise it is parked by what stands, or has to wait from the time of the last failure on for
  as long as the policy of that failure says. -/
  same : ∀ r policy now m, (stand r.id).getLast? = some m → m.desired = r.desired →
    let next := m.time + m.policy.delayAfter (.ofNat (stand r.id).length)
    (b.check r policy now).1 =
      if Parks policy.maxFailures (stand r.id) then .parked (.ofNat (stand r.id).length)
      else if now < next then .backoff (next - now)
      else .run
  /-- A failure that is recorded now is one of those that count. -/
  outcome : ∀ r error retriable policy now,
    let ms := stand r.id ++ [⟨r.desired, error, retriable, policy, now⟩]
    ms.length < UInt32.size → (b.recordFailure r error retriable policy now).1 =
      if Parks policy.maxFailures ms then .parked (.ofNat ms.length)
      else .retrying (.ofNat ms.length) (policy.delayAfter (.ofNat ms.length))
  /-- Those are parked against whom something stands that parks them. -/
  count : ∀ limit, ∃ ids : List ResourceId, ids.Nodup ∧ b.parked limit = ids.length ∧
    ∀ id, id ∈ ids ↔ stand id ≠ [] ∧ Parks limit (stand id)

/-- The ids whose records are parked. -/
def parkedIds (b : RetryBook) (limit : UInt32) : List ResourceId :=
  (b.records.filter fun _ record => record.isParked limit).keys

theorem length_parkedIds : (b.parkedIds limit).length = b.parked limit := by
  simp only [parkedIds, parked, SortedMap.keys, SortedMap.values, SortedMap.filter,
    List.length_map, List.filter_map]
  rfl

theorem mem_parkedIds_iff : id ∈ b.parkedIds limit ↔
    ∃ record, b.get? id = some record ∧ record.isParked limit = true := by
  rw [parkedIds, ← SortedMap.contains_iff, SortedMap.contains_eq_isSome, SortedMap.get?_filter,
    Option.isSome_iff_exists]
  simp only [Option.filter_eq_some_iff]
  rfl

/-- **A book whose records are those of some failures answers for these.** -/
theorem answers_of_records {stand : ResourceId → List Setback}
    (h : ∀ id, b.get? id = recordOf (stand id)) (hlen : ∀ id, (stand id).length < UInt32.size) :
    b.Answers stand where
  failures id := by
    rw [failures, h, failures_recordOf, UInt32.toNat_ofNat_of_lt' (hlen id)]
  lastError id := by
    rw [lastError, h, recordOf, Option.map_map]
    rfl
  fresh r policy now hfresh := by
    have hnone : (recordOf (stand r.id)).filter (·.desired = r.desired) = none := by
      rw [Option.filter_eq_none_iff]
      intro record hrecord
      obtain ⟨m, hm, rfl⟩ := Option.map_eq_some_iff.1 hrecord
      simpa using hfresh m hm
    refine ⟨check_fst_eq_run_iff.2 fun record hrecord => ?_, ?_⟩
    · rw [h, hnone] at hrecord
      cases hrecord
    · rw [failures, get?_check_self, h, hnone]
      rfl
  same r policy now m hlast hd := by
    have hrecord := recordOf_eq_some hlast
    rw [check_fst_of_same ((h r.id).trans hrecord) hd]
    simp only [isParked_iff_parks hrecord (hlen r.id)]
  outcome r error retriable policy now := by
    intro ms hms
    have hnext : recordOf ms = some (nextRecord (b.get? r.id) r error retriable policy now) := by
      rw [h, nextRecord_recordOf]
    have hparked : (nextRecord (b.get? r.id) r error retriable policy now).isParked
        policy.maxFailures = true ↔ Parks policy.maxFailures ms := isParked_iff_parks hnext hms
    have hcount : (nextRecord (b.get? r.id) r error retriable policy now).failures =
        .ofNat ms.length := by
      rw [← failures_recordOf ms, hnext]
      rfl
    simp only [recordFailure, hparked, hcount]
  count limit := by
    refine ⟨b.parkedIds limit, SortedMap.nodup_keys _, length_parkedIds.symm, fun id => ?_⟩
    rw [mem_parkedIds_iff, h]
    constructor
    · rintro ⟨record, hrecord, hparked⟩
      refine ⟨fun hnone => ?_, (isParked_iff_parks hrecord (hlen id)).1 hparked⟩
      rw [recordOf_eq_none_iff.2 hnone] at hrecord
      cases hrecord
    · rintro ⟨hsome, hparks⟩
      obtain ⟨record, hrecord⟩ := Option.ne_none_iff_exists'.1 (mt recordOf_eq_none_iff.1 hsome)
      exact ⟨record, hrecord, (isParked_iff_parks hrecord (hlen id)).2 hparks⟩

/-- **A book answers for its history.** Take any checks, failures, successes, retentions and
clearances, of any resources, each under a policy of its own and at any time, be it earlier than the
one before; so long as the number of failures that stand against an id fits into 32 bits, the book
counts them, knows the text of the last one, and decides by them about a resource, as if it had kept
them all. -/
theorem answers_for_history (history : List Action)
    (h : ∀ id, (since id history).length < UInt32.size) :
    (after history).Answers fun id => since id history :=
  answers_of_records (fun id => get?_after id history) h

end RetryBook

namespace Sample

/-- What happens to a shop and a cafe, the latest first: the shop fails, succeeds, and fails twice
more, the second time with a clock that was put back; in between the cafe fails for good. -/
def setbacks (shop cafe : Resource) : List RetryBook.Action := [
  .fail shop "three" true .standard (Span.ofSecs 5),
  .check shop .standard (Span.ofSecs 40),
  .fail cafe "invalid" false .standard (Span.ofSecs 20),
  .fail shop "two" true ⟨60, 60, 2⟩ (Span.ofSecs 10),
  .succeed shop.id,
  .fail shop "one" true .standard 0]

end Sample

namespace RetryBook

/-- The shop waits by the policy of its last failure, the cafe is parked, and two failures count
against the shop where three were recorded. -/
theorem answers_for_history_setbacks :
    let shop := Sample.live ⟨"default", "shop"⟩
    let cafe := Sample.live ⟨"default", "cafe"⟩
    let b := after (Sample.setbacks shop cafe)
    (∀ id, (since id (Sample.setbacks shop cafe)).length < UInt32.size) ∧
      (b.failures shop.id).toNat = 2 ∧ b.lastError shop.id = some "three" ∧
      (b.check shop .standard (Span.ofSecs 20)).1 = .backoff (Span.ofSecs 15) ∧
      (b.check cafe .standard (Span.ofSecs 1000)).1 = .parked 1 := by
  intro shop cafe b
  have hlen : ∀ id, (since id (Sample.setbacks shop cafe)).length < UInt32.size := fun id =>
    Nat.lt_of_le_of_lt (Nat.le_trans (length_since_le id _) (List.length_filterMap_le _ _))
      (by decide)
  have hanswers := answers_for_history (Sample.setbacks shop cafe) hlen
  have hshop : since shop.id (Sample.setbacks shop cafe) =
      [⟨shop.desired, "two", true, ⟨60, 60, 2⟩, Span.ofSecs 10⟩,
        ⟨shop.desired, "three", true, .standard, Span.ofSecs 5⟩] := by decide
  have hcafe : since cafe.id (Sample.setbacks shop cafe) =
      [⟨cafe.desired, "invalid", false, .standard, Span.ofSecs 20⟩] := by decide
  refine ⟨hlen, ?_, ?_, ?_, ?_⟩
  · rw [hanswers.failures, hshop]
    rfl
  · rw [hanswers.lastError, hshop]
    rfl
  · rw [hanswers.same shop .standard (Span.ofSecs 20) _ (by rw [hshop]; rfl) rfl, hshop]
    decide
  · rw [hanswers.same cafe .standard (Span.ofSecs 1000) _ (by rw [hcafe]; rfl) rfl, hcafe]
    decide

end RetryBook

end IngressBalancer
