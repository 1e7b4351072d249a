import IngressBalancer.Proofs.Controller.Committed
import Mathlib.Algebra.Ring.Nat
/-!
# What the metrics read

The gauge of the managed ingresses is moved from one set of counts to the
next, by their difference (`Metrics.Shows.setManaged`); the counters of the
failures are added up over their kinds (`Metrics.failures`), and every
failure adds one. What a pass measures when it sets out and when it lands,
and what a resync measures, is put together from these.
-/

namespace IngressBalancer

/-- **Adding to the value under a key adds to the sum of all.** -/
theorem SortedMap.sum_values_insert_add {κ : Type} [Ord κ] [Std.TransOrd κ] (m : SortedMap κ Nat)
    (k : κ) (n : Nat) : (m.insert k (m.getD k 0 + n)).values.sum = m.values.sum + n := by
  have hplace : ∀ es : List (κ × Nat), (es.Pairwise fun a b => compare a.1 b.1 = .lt) →
      ((place k ((lookup k es).getD 0 + n) es).map (·.2)).sum = (es.map (·.2)).sum + n := by
    intro es
    induction es with
    | nil => simp [place, lookup]
    | cons e es ih =>
      intro hsorted
      rw [List.pairwise_cons] at hsorted
      cases hc : compare k e.1 with
      | lt =>
        have hnone : lookup k es = none := lookup_eq_none fun e' he' =>
          Std.TransCmp.lt_trans hc (hsorted.1 e' he')
        simp [place, lookup, hc, hnone, Nat.add_comm]
      | eq => simp [place, lookup, hc, Nat.add_right_comm]
      | gt =>
        have hrest := ih hsorted.2
        simp only [lookup, place, hc, List.map_cons, List.sum_cons, reduceCtorEq, if_false]
        omega
  exact hplace m.entries m.sorted

namespace Metrics

variable {m m' : Metrics} {previous current : NamespaceCounts}

/-- All failures counted, of whatever kind. -/
def failures (m : Metrics) : Nat := m.errors.values.sum

/-- Whether the gauge of the managed ingresses reads as some counts do. -/
def Shows (m : Metrics) (counts : NamespaceCounts) : Prop :=
  ∀ ns, m.managed.getD ns 0 = counts.getD ns 0

theorem shows_empty : Metrics.empty.Shows ∅ := fun _ => rfl

/-- **A gauge that read as the previous counts do reads as the current ones afterwards.** -/
theorem Shows.setManaged (h : m.Shows previous) (current : NamespaceCounts) :
    (m.setManaged previous current).Shows current := by
  intro ns
  have hprevious := h ns
  simp only [SortedMap.getD, Metrics.setManaged, SortedMap.get?_union,
    SortedMap.get?_foldl_insert] at hprevious ⊢
  cases hcurrent : current.get? ns with
  | some n => rfl
  | none =>
    rw [Option.none_or]
    by_cases hgone : ns ∈ previous.keys
    · have hlacks : current.contains ns = false := by
        rw [SortedMap.contains_eq_isSome, hcurrent]
        rfl
      rw [if_pos (List.mem_filter.2 ⟨hgone, by rw [hlacks]; rfl⟩)]
      rfl
    · -- it was not there before either
      have hlacked : previous.get? ns = none := by
        rw [← Option.not_isSome_iff_eq_none, ← SortedMap.contains_eq_isSome]
        exact fun hc => hgone (SortedMap.contains_iff.1 hc)
      rw [if_neg fun hmem => hgone (List.mem_filter.1 hmem).1, hprevious, hlacked]

/-- **Every failure adds one to the failures.** -/
@[simp] theorem failures_countError (m : Metrics) (kind : String) :
    (m.countError kind).failures = m.failures + 1 :=
  SortedMap.sum_values_insert_add m.errors kind 1

end Metrics

namespace Flight

variable {state : SyncState} {m : Metrics}

/-! ## Setting out -/

/-- Counting failures leaves the other readings. -/
theorem foldl_countError (ps : List (ResourceId × Failure)) (m : Metrics) :
    ∃ errors, ps.foldl (fun m p => m.countError p.2.kind) m = { m with errors := errors } ∧
      errors.values.sum = m.failures + ps.length := by
  induction ps generalizing m with
  | nil => exact ⟨m.errors, rfl, rfl⟩
  | cons p ps ih =>
    obtain ⟨errors, hm, hsum⟩ := ih (m.countError p.2.kind)
    refine ⟨errors, hm, ?_⟩
    rw [hsum, Metrics.failures_countError, List.length_cons]
    omega

/-- **A pass that sets out adds one to the passes started, and its problems to the failures.** -/
theorem countStart_adds (f : Flight) (m : Metrics) :
    ∃ errors, f.countStart m = { m with updates := m.updates + 1, errors := errors } ∧
      errors.values.sum = m.failures + f.desired.problems.length := by
  obtain ⟨errors, hm, hsum⟩ := foldl_countError f.desired.problems m.countUpdate
  exact ⟨errors, hm, hsum⟩

/-! ## Landing -/

/-- The outcomes that are taken add the failed ones to the failures. -/
theorem metrics_foldl_take (policy : RetryPolicy) (now : Instant) (os : List Outcome)
    (t : Tally) :
    ∃ errors, (os.foldl (Tally.take policy now) t).metrics =
        { t.metrics with errors := errors } ∧
      errors.values.sum = t.metrics.failures + failures os := by
  induction os generalizing t with
  | nil => exact ⟨t.metrics.errors, rfl, rfl⟩
  | cons o os ih =>
    obtain ⟨id, e | r⟩ := o
    · obtain ⟨errors, hm, hsum⟩ := ih (t.fail policy now id e)
      have hfail : (t.fail policy now id e).metrics = t.metrics.countError e.kind := by
        simp only [Tally.fail]
        split <;> rfl
      have hcount : failures ((id, .error e) :: os) = failures os + 1 :=
        List.countP_cons_of_pos rfl
      rw [hfail] at hm hsum
      refine ⟨errors, hm, ?_⟩
      rw [hsum, Metrics.failures_countError, hcount]
      omega
    · obtain ⟨errors, hm, hsum⟩ := ih (t.take policy now (id, .ok r))
      have hcount : failures ((id, .ok r) :: os) = failures os :=
        List.countP_cons_of_neg Bool.false_ne_true
      exact ⟨errors, hm, by rw [hsum, hcount]; rfl⟩

/-- **A pass that lands** shows the counts that it commits, where those from before were shown,
and the parked resources of the book that it commits; it adds its failures. -/
theorem metrics_commit (f : Flight) (settings : Settings) (os : List Outcome) (now : Instant)
    (h : m.Shows state.namespaceCounts) :
    let c := f.commit settings state m os now
    c.metrics.Shows c.state.namespaceCounts ∧
      c.metrics.parked = c.state.retries.parked settings.retry.maxFailures ∧
      c.metrics.updates = m.updates ∧ c.metrics.failures = m.failures + failures os := by
  obtain ⟨errors, hm, hsum⟩ := metrics_foldl_take settings.retry f.startedAt os
    ⟨f.working, f.retries, m, [], 0, 0⟩
  refine ⟨?_, rfl, ?_, ?_⟩
  · refine Metrics.Shows.setManaged (fun ns => ?_) _
    simp only [hm]
    exact h ns
  · simp only [commit, Metrics.observe, Metrics.setManaged, Metrics.setParked, hm]
  · simp only [commit, Metrics.failures, Metrics.observe, Metrics.setManaged,
      Metrics.setParked, hm]
    exact hsum

end Flight

namespace Resync

/-- **A resync** shows the counts that it commits, where those from before were shown, and
nothing as parked; the counters stay. -/
theorem metrics_run {state : SyncState} {m : Metrics} (discovered : List Resource) (now : Instant)
    (elapsed : Span) (maxFailures : UInt32) (h : m.Shows state.namespaceCounts) :
    let r := run state m discovered now elapsed
    r.metrics.Shows r.state.namespaceCounts ∧
      r.metrics.parked = r.state.retries.parked maxFailures ∧
      r.metrics.updates = m.updates ∧ r.metrics.failures = m.failures :=
  ⟨h.setManaged _, rfl, rfl, rfl⟩

end Resync

end IngressBalancer
