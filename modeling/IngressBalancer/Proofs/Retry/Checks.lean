import IngressBalancer.Proofs.Data.SortedMap
import IngressBalancer.Retry.Book
/-!
# Records apart

What is decided about a resource depends on its own record alone
(`check_fst_congr`), and deciding about it, or recording its success or its
failure, touches no other record. A check keeps the record of the resource
where that is for the same spec (`get?_check_self`), and lets it run unless
such a record holds it back (`check_fst_eq_run_iff`).
-/

namespace IngressBalancer

namespace RetryBook

variable {b b' : RetryBook} {r : Resource} {policy : RetryPolicy} {now : Instant}
variable {id id' : ResourceId}

theorem get?_recordSuccess_of_ne (h : id' ≠ id) : (b.recordSuccess id).get? id' = b.get? id' :=
  SortedMap.get?_erase_of_ne h

/-- A check decides by the record of the resource alone. -/
theorem check_fst_congr (h : b.get? r.id = b'.get? r.id) :
    (b.check r policy now).1 = (b'.check r policy now).1 := by
  unfold check
  rw [h]
  cases b'.get? r.id with
  | none => rfl
  | some record =>
    simp only
    split
    · rfl
    · split
      · rfl
      · split <;> rfl

/-- A check leaves every other record alone. -/
theorem get?_check_of_ne (h : id ≠ r.id) : (b.check r policy now).2.get? id = b.get? id := by
  unfold check
  cases b.get? r.id with
  | none => rfl
  | some record =>
    simp only
    split
    · exact get?_recordSuccess_of_ne h
    · split
      · rfl
      · split <;> rfl

/-- **A check keeps the record of its resource for the same spec**, and wipes any other. -/
theorem get?_check_self : (b.check r policy now).2.get? r.id =
    (b.get? r.id).filter (·.desired = r.desired) := by
  unfold check
  cases hb : b.get? r.id with
  | none => exact hb
  | some record =>
    simp only
    split
    · next hne =>
      rw [Option.filter_some_neg (by simpa using hne)]
      exact SortedMap.get?_erase_self
    · next heq =>
      rw [Option.filter_some_pos (by simpa using heq)]
      split
      · exact hb
      · split <;> exact hb

/-- **A resource runs unless its record for the same spec is parked or ahead of the time.** -/
theorem check_fst_eq_run_iff : (b.check r policy now).1 = .run ↔
    ∀ record ∈ (b.get? r.id).filter (·.desired = r.desired),
      record.isParked policy.maxFailures = false ∧ record.nextAttempt ≤ now := by
  unfold check
  cases b.get? r.id with
  | none => simp
  | some record =>
    by_cases hd : record.desired = r.desired
    · cases hp : record.isParked policy.maxFailures
      · by_cases hn : now < record.nextAttempt
        · simp [hd, hp, hn]
        · simp [hd, hp, hn, Nat.le_of_not_lt hn]
      · simp [hd, hp]
    · simp [hd]

/-- What a check says by a record for the same spec. -/
theorem check_fst_of_same {record : RetryRecord} (h : b.get? r.id = some record)
    (hd : record.desired = r.desired) : (b.check r policy now).1 =
      if record.isParked policy.maxFailures then .parked record.failures
      else if now < record.nextAttempt then .backoff (record.nextAttempt - now)
      else .run := by
  unfold check
  rw [h]
  simp only [hd, ne_eq, not_true_eq_false, if_false]
  split
  · rfl
  · split <;> rfl

/-- What is held back is so by its record for the same spec. -/
theorem exists_record_of_check_ne_run (h : (b.check r policy now).1 ≠ .run) :
    ∃ record, b.get? r.id = some record ∧ record.desired = r.desired := by
  cases hf : (b.get? r.id).filter (·.desired = r.desired) with
  | none => exact absurd (check_fst_eq_run_iff.2 fun record hr => by rw [hf] at hr; cases hr) h
  | some record =>
    obtain ⟨hget, hd⟩ := Option.filter_eq_some_iff.1 hf
    exact ⟨record, hget, of_decide_eq_true hd⟩

/-! ## Successes and failures -/

@[simp] theorem get?_recordSuccess_self : (b.recordSuccess id).get? id = none :=
  SortedMap.get?_erase_self

variable {error : String} {retriable : Bool}

theorem get?_recordFailure_self : (b.recordFailure r error retriable policy now).2.get? r.id =
    some (nextRecord (b.get? r.id) r error retriable policy now) :=
  SortedMap.get?_insert_self

theorem get?_recordFailure_of_ne (h : id ≠ r.id) :
    (b.recordFailure r error retriable policy now).2.get? id = b.get? id :=
  SortedMap.get?_insert_of_ne h

/-! ## Retention -/

theorem get?_retain {p : ResourceId → Bool} :
    (b.retain p).get? id = (b.get? id).filter fun _ => p id :=
  SortedMap.get?_filter

/-- **Books with the same records are equal.** -/
theorem ext_get? (h : ∀ id, b.get? id = b'.get? id) : b = b' := by
  have hrecords : b.records = b'.records := SortedMap.ext_get? h
  cases b
  cases b'
  cases hrecords
  rfl

/-- What is retained was asked to be. -/
theorem of_get?_retain {p : ResourceId → Bool} {record : RetryRecord}
    (h : (b.retain p).get? id = some record) : p id = true := by
  rw [get?, retain, SortedMap.get?_filter, Option.filter_eq_some_iff] at h
  exact h.2

end RetryBook

end IngressBalancer
