import IngressBalancer.Failure
import IngressBalancer.Proofs.Retry.Checks
import Mathlib.Logic.Basic
/-!
# Failures in a row

What becomes of the record of one resource while its attempts fail one after
the other, with one desired value (`Streak`). Each failure is counted
(`Streak.countFor_eq`), so there are no more of them than the policy allows
(`Streak.length_le`); only the last one can park the resource
(`Streak.retried`); and each waits for the one before it
(`Streak.spaced`).
-/

namespace IngressBalancer

/-- An attempt that failed. -/
structure Miss where
  startedAt : Instant
  failure : Failure

/-- What follows from a failure that is number `n` in a row: the resource is parked where that
is as many as the policy allows, or where no retry mends the failure. -/
def RetryPolicy.outcomeOf (policy : RetryPolicy) (n : Nat) (failure : Failure) : FailureOutcome :=
  if failure.isRetriable = true ∧ n < policy.maxFailures.toNat then
    .retrying (.ofNat n) (policy.delayAfter (.ofNat n))
  else .parked (.ofNat n)

namespace RetryBook

variable {policy : RetryPolicy} {d : Option Spec} {now : Instant} {b : RetryBook} {r : Resource}
variable {first record : Option RetryRecord} {ms : List Miss} {m : Miss} {e : Failure}

/-- Whether a record holds back no resource with a desired value. -/
def Due (policy : RetryPolicy) (d : Option Spec) (now : Instant) (record : Option RetryRecord) :
    Prop :=
  ∀ known ∈ record.filter (·.desired = d),
    known.isParked policy.maxFailures = false ∧ known.nextAttempt ≤ now

/-- How many failures a record counts for a desired value. -/
def countFor (d : Option Spec) (record : Option RetryRecord) : Nat :=
  ((record.filter (·.desired = d)).map (·.failures.toNat)).getD 0

theorem countFor_of_desired {known : RetryRecord} (h : known.desired = d) :
    countFor d (some known) = known.failures.toNat := by
  rw [countFor, Option.filter_some_pos (by simpa using h)]
  rfl

/-- A record for another desired value is no matter. -/
theorem countFor_filter : countFor d (record.filter (·.desired = d)) = countFor d record := by
  rw [countFor, countFor, Option.filter_filter]
  simp only [Bool.and_self]

theorem Due.filter (h : Due policy d now record) :
    Due policy d now (record.filter (·.desired = d)) := by
  intro known hknown
  rw [Option.filter_filter] at hknown
  exact h known (by simpa using hknown)

/-- A record that is not parked counts fewer failures than are allowed. -/
theorem lt_of_not_parked {known : RetryRecord} (h : known.isParked policy.maxFailures = false) :
    known.failures.toNat < policy.maxFailures.toNat ∧ known.permanent = false := by
  unfold RetryRecord.isParked at h
  rw [Bool.or_eq_false_iff, decide_eq_false_iff_not, UInt32.not_le, UInt32.lt_iff_toNat_lt] at h
  exact ⟨h.2, h.1⟩

/-- Where nothing holds a resource back, one more failure is within the bound. -/
theorem Due.countFor_lt (h : Due policy d now record) :
    countFor d record < max 1 policy.maxFailures.toNat := by
  unfold countFor
  cases hf : record.filter (·.desired = d) with
  | none => exact Nat.lt_of_lt_of_le Nat.zero_lt_one (Nat.le_max_left _ _)
  | some known =>
    exact Nat.lt_of_lt_of_le (lt_of_not_parked (h known hf).1).1 (Nat.le_max_right _ _)

/-! ## One more failure -/

section Next

variable (h : Due policy d now record) (hr : r.desired = d) (error : String) (retriable : Bool)
variable (at' : Instant)
include h

/-- **A failure is counted.** -/
theorem Due.toNat_failures_nextRecord :
    (nextRecord (record.filter (·.desired = d)) r error retriable policy at').failures.toNat =
      countFor d record + 1 := by
  unfold countFor nextRecord
  cases hf : record.filter (·.desired = d) with
  | none => rfl
  | some known =>
    have hlt := (lt_of_not_parked (h known hf).1).1
    have hsize := policy.maxFailures.toNat_lt
    simp only [Option.map_some, Option.getD_some, UInt32.toNat_add, UInt32.toNat_one]
    omega

/-- It is what parks the resource, if anything does. -/
theorem Due.isParked_nextRecord :
    (nextRecord (record.filter (·.desired = d)) r error retriable policy at').isParked
        policy.maxFailures =
      !(retriable && decide (countFor d record + 1 < policy.maxFailures.toNat)) := by
  have hcount := h.toNat_failures_nextRecord (r := r) error retriable at'
  have hpermanent : (nextRecord (record.filter (·.desired = d)) r error retriable policy
      at').permanent = !retriable := by
    unfold nextRecord
    cases hf : record.filter (·.desired = d) with
    | none => rfl
    | some known => simp [(lt_of_not_parked (h known hf).1).2]
  rw [RetryRecord.isParked, hpermanent, ← hcount, Bool.not_and]
  congr 1
  simp only [UInt32.le_iff_toNat_le, ← decide_not, Nat.not_lt]

include hr in
theorem Due.countFor_nextRecord :
    countFor d (some (nextRecord (record.filter (·.desired = d)) r error retriable policy at')) =
      countFor d record + 1 := by
  rw [countFor_of_desired (show (nextRecord _ r error retriable policy at').desired = d from hr),
    h.toNat_failures_nextRecord]

end Next

/-- **What follows from a failure** depends on its number in the row. -/
theorem recordFailure_fst_eq (h : Due policy r.desired now (b.get? r.id))
    (hb : ∀ known, b.get? r.id = some known → known.desired = r.desired) :
    (b.recordFailure r e.message e.isRetriable policy now).1 =
      policy.outcomeOf (countFor r.desired (b.get? r.id) + 1) e := by
  have hsame : (b.get? r.id).filter (·.desired = r.desired) = b.get? r.id := by
    cases hg : b.get? r.id with
    | none => rfl
    | some known => exact Option.filter_some_pos (by simpa using hb known hg)
  have hcount := h.toNat_failures_nextRecord (r := r) e.message e.isRetriable now
  have hparked := h.isParked_nextRecord (r := r) e.message e.isRetriable now
  rw [hsame] at hcount hparked
  have hfailures : (nextRecord (b.get? r.id) r e.message e.isRetriable policy now).failures =
      .ofNat (countFor r.desired (b.get? r.id) + 1) := by
    rw [← hcount, UInt32.ofNat_toNat]
  simp only [recordFailure, hparked, hfailures, RetryPolicy.outcomeOf]
  by_cases hretry : e.isRetriable = true ∧
      countFor r.desired (b.get? r.id) + 1 < policy.maxFailures.toNat
  · simp [hretry]
  · have hstop : (!(e.isRetriable && decide (countFor r.desired (b.get? r.id) + 1 <
        policy.maxFailures.toNat))) = true := by
      rwa [Bool.not_eq_true', Bool.and_eq_false_iff, decide_eq_false_iff_not,
        ← Bool.not_eq_true, ← not_and_or]
    rw [if_neg hretry, if_pos hstop]

/-! ## Streaks -/

/-- From one record of a resource to another, by attempts that failed in a row with one desired
value. None of them was held back. -/
inductive Streak (policy : RetryPolicy) (d : Option Spec) (first : Option RetryRecord) :
    List Miss → Option RetryRecord → Prop
  | start : Streak policy d first [] first
  | miss {ms : List Miss} {record : Option RetryRecord} {r : Resource} {m : Miss}
    (h : Streak policy d first ms record) (hr : r.desired = d)
    (hdue : Due policy d m.startedAt record) :
    Streak policy d first (ms ++ [m]) (some (nextRecord (record.filter (·.desired = d)) r
      m.failure.message m.failure.isRetriable policy m.startedAt))

namespace Streak

/-- **Each failure is counted.** -/
theorem countFor_eq (h : Streak policy d first ms record) :
    countFor d record = countFor d first + ms.length := by
  induction h with
  | start => rfl
  | miss _ hr hdue ih =>
    rw [hdue.countFor_nextRecord hr, ih, List.length_append, List.length_singleton, Nat.add_assoc]

/-- A streak that has begun counts no more failures than are allowed. -/
theorem countFor_le (h : Streak policy d first ms record) (hne : ms ≠ []) :
    countFor d record ≤ max 1 policy.maxFailures.toNat := by
  cases h with
  | start => exact absurd rfl hne
  | miss _ hr hdue =>
    rw [hdue.countFor_nextRecord hr]
    exact hdue.countFor_lt

/-- **There are no more failures in a row than are allowed.** -/
theorem length_le (h : Streak policy d first ms record) :
    ms.length ≤ max 1 policy.maxFailures.toNat := by
  by_cases hne : ms = []
  · rw [hne]
    exact Nat.zero_le _
  · have hle := h.countFor_le hne
    rw [h.countFor_eq] at hle
    omega

/-- The record after the last failure. -/
theorem exists_record (h : Streak policy d first ms record) (hm : ms.getLast? = some m) :
    ∃ known, record = some known ∧ known.desired = d ∧
      known.failures = .ofNat (countFor d first + ms.length) ∧
      known.nextAttempt = m.startedAt + policy.delayAfter known.failures ∧
      known.isParked policy.maxFailures = !(m.failure.isRetriable &&
        decide (countFor d first + ms.length < policy.maxFailures.toNat)) := by
  cases h with
  | start => cases hm
  | @miss ms record r m' h hr hdue =>
    rw [List.getLast?_concat] at hm
    cases hm
    have hcount : countFor d record + 1 = countFor d first + (ms ++ [m]).length := by
      rw [h.countFor_eq, List.length_append, List.length_singleton, Nat.add_assoc]
    refine ⟨_, rfl, hr, ?_, rfl, ?_⟩
    · rw [← hcount, ← hdue.toNat_failures_nextRecord, UInt32.ofNat_toNat]
    · rw [hdue.isParked_nextRecord, hcount]

/-- The last of some failures, by its number. -/
theorem getLast?_eq (k : Nat) (hk : k < ms.length) (hlast : ms.length ≤ k + 1) :
    ms.getLast? = some ms[k] := by
  have hpred : k = ms.length - 1 := by omega
  simp only [List.getLast?_eq_getElem?, ← hpred]
  exact List.getElem?_eq_getElem hk

/-- **After the last failure a resource runs again only when it is not parked and has waited.** -/
theorem due (h : Streak policy d first ms record) (hm : ms.getLast? = some m)
    (hdue : Due policy d now record) :
    m.failure.isRetriable = true ∧ countFor d first + ms.length < policy.maxFailures.toNat ∧
      m.startedAt + policy.delayAfter (.ofNat (countFor d first + ms.length)) ≤ now := by
  obtain ⟨known, rfl, hd, hfailures, hnext, hparked⟩ := h.exists_record hm
  obtain ⟨hfree, hwaited⟩ := hdue known (Option.filter_some_pos (by simpa using hd))
  rw [hparked] at hfree
  rw [hnext, hfailures] at hwaited
  rw [Bool.not_eq_false', Bool.and_eq_true, decide_eq_true_eq] at hfree
  exact ⟨hfree.1, hfree.2, hwaited⟩

/-- **Each failure but the last was one to be retried, and the next attempt waited for it.** -/
theorem spaced (h : Streak policy d first ms record) {k : Nat} (hk : k + 1 < ms.length) :
    (ms[k].failure.isRetriable = true ∧
      countFor d first + (k + 1) < policy.maxFailures.toNat) ∧
    ms[k].startedAt + policy.delayAfter (.ofNat (countFor d first + (k + 1))) ≤
      ms[k + 1].startedAt := by
  induction h with
  | start => exact absurd hk (Nat.not_lt_zero _)
  | @miss ms record r m h hr hdue ih =>
    rw [List.length_append, List.length_singleton] at hk
    by_cases hlast : k + 1 < ms.length
    · obtain ⟨hretried, hwaited⟩ := ih hlast
      rw [List.getElem_append_left (Nat.lt_of_succ_lt hlast), List.getElem_append_left hlast]
      exact ⟨hretried, hwaited⟩
    · -- the last failure before this one
      have hlen : ms.length = k + 1 := by omega
      have hkm : k < ms.length := by omega
      have hm := getLast?_eq k hkm (by omega)
      have hnext : (ms ++ [m])[k + 1] = m := List.getElem_concat_length hlen.symm _
      have hdue' := h.due hm hdue
      rw [List.getElem_append_left hkm, hnext, and_assoc]
      simp only [hlen] at hdue'
      exact hdue'

/-- **So each attempt of a streak waits for the one before it**, one that comes after the last
failure as well. -/
theorem starts_spaced (h : Streak policy d first ms record) {last : List Instant}
    (hlast : last = [] ∨ ∃ t, last = [t] ∧ Due policy d t record) {k : Nat} {x y : Instant}
    (hx : (ms.map (·.startedAt) ++ last)[k]? = some x)
    (hy : (ms.map (·.startedAt) ++ last)[k + 1]? = some y) :
    x + policy.delayAfter (.ofNat (countFor d first + (k + 1))) ≤ y := by
  have hlen : (ms.map (·.startedAt)).length = ms.length := List.length_map _
  have hend : k + 1 < ms.length + last.length := by
    rw [← hlen, ← List.length_append]
    exact (List.getElem?_eq_some_iff.1 hy).1
  by_cases hk : k + 1 < ms.length
  · rw [List.getElem?_append_left (by omega), List.getElem?_map, List.getElem?_eq_getElem
      (by omega)] at hx hy
    cases hx
    cases hy
    exact (h.spaced hk).2
  · rcases hlast with rfl | ⟨t, rfl, hdue⟩
    · rw [List.length_nil] at hend
      omega
    · rw [List.length_singleton] at hend
      have hnumber : k + 1 = ms.length := by omega
      have hkm : k < ms.length := by omega
      have hm := getLast?_eq k hkm (by omega)
      rw [List.getElem?_append_left (by omega), List.getElem?_map,
        List.getElem?_eq_getElem hkm] at hx
      rw [List.getElem?_append_right (by omega), hlen, hnumber, Nat.sub_self] at hy
      cases hx
      cases hy
      rw [hnumber]
      exact (h.due hm hdue).2.2

/-- From a fresh start the record counts the failures of the streak. -/
theorem failures_eq (h : Streak policy d none ms record) :
    ((record.map RetryRecord.failures).getD 0).toNat = ms.length := by
  have hcount := h.countFor_eq
  have hzero : countFor d none = 0 := rfl
  rw [hzero, Nat.zero_add] at hcount
  rw [← hcount]
  cases h with
  | start => rfl
  | miss _ hr _ => rw [countFor_of_desired (show (nextRecord _ _ _ _ _ _).desired = d from hr)]; rfl

end Streak

end RetryBook

end IngressBalancer
