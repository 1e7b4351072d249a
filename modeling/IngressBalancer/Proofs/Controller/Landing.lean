import IngressBalancer.Proofs.Controller.Departure
import IngressBalancer.Proofs.Registry.Counts
/-!
# What a pass commits

The second half of a pass, id by id. An attempt that succeeded decides about
its entry; an entry whose attempt failed, or that was not attempted, stays
as it stood in the working set; and whatever is not live in the end is
dropped (`get?_commit_ok`, `get?_commit_error`, `get?_commit_idle`). The
committed counts are those of the committed registry
(`namespaceCounts_commit`), although they come from the working set.
-/

namespace IngressBalancer

namespace Flight

variable {f : Flight} {settings : Settings} {state : SyncState} {metrics : Metrics}
variable {os : List Outcome} {policy : RetryPolicy} {now : Instant}
variable {id : ResourceId} {r : Resource} {e : Failure}

/-- The resources of the attempts that succeeded. -/
def successes (os : List Outcome) : List Resource := os.filterMap fun o => o.2.toOption

/-- How many attempts failed. -/
def failures (os : List Outcome) : Nat := os.countP fun o => !o.2.isOk

/-- Whether the outcomes are those of the whole batch, in its order. -/
def Covers (f : Flight) (os : List Outcome) : Prop := os.map (·.1) = f.batch.map (·.id)

/-- Whether every success is a resource with the id of its attempt. -/
def KeepIds (os : List Outcome) : Prop := ∀ o ∈ os, ∀ r, o.2 = .ok r → r.id = o.1

theorem mem_successes : r ∈ successes os ↔ ∃ id, (id, .ok r) ∈ os := by
  rw [successes, List.mem_filterMap]
  constructor
  · rintro ⟨⟨id, e | r'⟩, ho, hr⟩
    · cases hr
    · cases hr
      exact ⟨id, ho⟩
  · rintro ⟨id, ho⟩
    exact ⟨_, ho, rfl⟩

theorem mem_successes_of_keepIds (hk : KeepIds os) : r ∈ successes os ↔ (r.id, .ok r) ∈ os := by
  rw [mem_successes]
  constructor
  · rintro ⟨id, ho⟩
    rwa [hk _ ho r rfl]
  · exact fun ho => ⟨_, ho⟩

/-! ## Taking the outcomes -/

@[simp] theorem registry_fail (t : Tally) :
    (t.fail policy now id e).registry = t.registry := by
  simp only [Tally.fail]
  split <;> rfl

@[simp] theorem failed_fail (t : Tally) : (t.fail policy now id e).failed = t.failed + 1 := by
  simp only [Tally.fail]
  split <;> rfl

/-- **Outcomes put the successes into the registry and count the failures.** -/
theorem foldl_take (os : List Outcome) (t : Tally) :
    (os.foldl (Tally.take policy now) t).registry = t.registry.insertAll (successes os) ∧
      (os.foldl (Tally.take policy now) t).failed = t.failed + failures os := by
  induction os generalizing t with
  | nil => exact ⟨rfl, rfl⟩
  | cons o os ih =>
    obtain ⟨id, e | r⟩ := o
    · obtain ⟨hr, hf⟩ := ih (t.fail policy now id e)
      refine ⟨hr.trans ?_, hf.trans ?_⟩
      · rw [registry_fail]
        rfl
      · have hcount : failures ((id, .error e) :: os) = failures os + 1 :=
          List.countP_cons_of_pos rfl
        rw [failed_fail, hcount]
        omega
    · obtain ⟨hr, hf⟩ := ih (t.take policy now (id, .ok r))
      refine ⟨hr, hf.trans ?_⟩
      have hcount : failures ((id, .ok r) :: os) = failures os :=
        List.countP_cons_of_neg Bool.false_ne_true
      rw [hcount]
      rfl

/-- The registry after all outcomes, and before the purge. -/
def settled (f : Flight) (os : List Outcome) : Registry := f.working.insertAll (successes os)

/-! ## The committed registry -/

theorem registry_commit : (f.commit settings state metrics os now).state.registry =
    (f.settled os).retainLive.live := by
  rw [settled, ← (foldl_take os ⟨f.working, f.retries, metrics, [], 0, 0⟩).1]
  rfl

theorem failed_commit : (f.commit settings state metrics os now).report.failed = failures os :=
  (foldl_take os ⟨f.working, f.retries, metrics, [], 0, 0⟩).2.trans (Nat.zero_add _)

/-- What is committed under an id: its last success or else its entry in the working set, as
far as that is live. -/
theorem get?_commit : (f.commit settings state metrics os now).state.registry.get? id =
    (((successes os).reverse.find? (·.id = id)).or (f.working.get? id)).filter
      Resource.isLive := by
  rw [registry_commit, Registry.get?_live, settled, Registry.get?_insertAll]

section Outcomes

variable (hnd : (os.map (·.1)).Nodup) (hk : KeepIds os)
include hnd hk

/-- **A success decides about its entry.** -/
theorem get?_commit_ok (h : (id, .ok r) ∈ os) :
    (f.commit settings state metrics os now).state.registry.get? id =
      (some r).filter Resource.isLive := by
  have hid : r.id = id := hk _ h r rfl
  have hfind : (successes os).reverse.find? (·.id = id) = some r := by
    cases hf : (successes os).reverse.find? (·.id = id) with
    | none =>
      rw [List.find?_eq_none] at hf
      exact absurd (decide_eq_true hid)
        (hf r (List.mem_reverse.2 (mem_successes.2 ⟨id, h⟩)))
    | some s =>
      have hs := List.mem_reverse.1 (List.mem_of_find?_eq_some hf)
      have hsid : s.id = id := by simpa using List.find?_some hf
      rw [mem_successes_of_keepIds hk, hsid] at hs
      cases List.inj_on_of_nodup_map hnd hs h rfl
      rfl
  rw [get?_commit, hfind, Option.some_or]

/-- **An entry whose attempt failed stays as it stood in the working set.** -/
theorem get?_commit_error (h : (id, .error e) ∈ os) :
    (f.commit settings state metrics os now).state.registry.get? id =
      (f.working.get? id).filter Resource.isLive := by
  have hfind : (successes os).reverse.find? (·.id = id) = none := by
    rw [List.find?_eq_none]
    intro s hs hsid
    rw [List.mem_reverse, mem_successes_of_keepIds hk, of_decide_eq_true hsid] at hs
    cases List.inj_on_of_nodup_map hnd hs h rfl
  rw [get?_commit, hfind, Option.none_or]

end Outcomes

/-- **An entry that was not attempted stays as it stood in the working set.** -/
theorem get?_commit_idle (hk : KeepIds os) (h : id ∉ os.map (·.1)) :
    (f.commit settings state metrics os now).state.registry.get? id =
      (f.working.get? id).filter Resource.isLive := by
  have hfind : (successes os).reverse.find? (·.id = id) = none := by
    rw [List.find?_eq_none]
    intro s hs hsid
    rw [List.mem_reverse, mem_successes_of_keepIds hk, of_decide_eq_true hsid] at hs
    exact h (List.mem_map_of_mem hs)
  rw [get?_commit, hfind, Option.none_or]

/-! ## The committed state -/

/-- The records and the reports after all outcomes do not depend on what was measured before. -/
theorem foldl_take_congr (os : List Outcome) (t t' : Tally) (hreg : t.registry = t'.registry)
    (hret : t.retries = t'.retries) (hev : t.events = t'.events) :
    (os.foldl (Tally.take policy now) t).retries =
        (os.foldl (Tally.take policy now) t').retries ∧
      (os.foldl (Tally.take policy now) t).events =
        (os.foldl (Tally.take policy now) t').events := by
  induction os generalizing t t' with
  | nil => exact ⟨hret, hev⟩
  | cons o os ih =>
    obtain ⟨id, e | r⟩ := o
    · refine ih _ _ ?_ ?_ ?_
      · simp only [Tally.take, registry_fail, hreg]
      · simp only [Tally.take, Tally.fail, hreg]
        cases t'.registry.get? id <;> simp only [hret]
      · simp only [Tally.take, Tally.fail, hreg]
        cases t'.registry.get? id <;> simp only [hret, hev]
    · refine ih _ _ ?_ ?_ hev
      · simp only [Tally.take, hreg]
      · simp only [Tally.take, hret]

/-- A commit does not depend on what was measured before. -/
theorem state_commit_congr (metrics' : Metrics) :
    (f.commit settings state metrics os now).state =
      (f.commit settings state metrics' os now).state := by
  simp only [commit, (foldl_take os _).1,
    (foldl_take_congr os ⟨f.working, f.retries, metrics, [], 0, 0⟩
      ⟨f.working, f.retries, metrics', [], 0, 0⟩ rfl rfl rfl).1]

/-- What is measured makes no other difference to the outcomes taken. -/
theorem foldl_take_metrics (policy : RetryPolicy) (now : Instant) (os : List Outcome) (t : Tally)
    (m : Metrics) :
    ∃ m', os.foldl (Tally.take policy now) { t with metrics := m } =
      { os.foldl (Tally.take policy now) t with metrics := m' } := by
  induction os generalizing t m with
  | nil => exact ⟨m, rfl⟩
  | cons o os ih =>
    have hfirst : ∃ m', Tally.take policy now { t with metrics := m } o =
        { t.take policy now o with metrics := m' } := by
      obtain ⟨id, e | r⟩ := o
      · simp only [Tally.take, Tally.fail]
        cases t.registry.get? id with
        | none => exact ⟨_, rfl⟩
        | some r => exact ⟨_, rfl⟩
      · exact ⟨m, rfl⟩
    obtain ⟨m', hm'⟩ := hfirst
    rw [List.foldl_cons, List.foldl_cons, hm']
    exact ih (t.take policy now o) m'

/-- The report depends neither on what was measured nor on the moment. -/
theorem report_commit_congr {now' : Instant} (metrics' : Metrics) :
    (f.commit settings state metrics os now).report =
      (f.commit settings state metrics' os now').report := by
  obtain ⟨m, hm⟩ := foldl_take_metrics settings.retry f.startedAt os
    ⟨f.working, f.retries, metrics', [], 0, 0⟩ metrics
  simp only [commit, hm]

/-- The moment shows in the state as that of the last update only. -/
theorem state_commit_later {now' : Instant} :
    { (f.commit settings state metrics os now).state with lastUpdate := none } =
      { (f.commit settings state metrics os now').state with lastUpdate := none } := rfl

theorem isLive_of_mem_commit
    (h : r ∈ (f.commit settings state metrics os now).state.registry.toList) :
    r.isLive = true := by
  rw [registry_commit] at h
  exact Registry.isLive_of_mem_live h

/-- Outcomes of resources of the working set add no id to it. -/
theorem ids_settled (hw : ∀ r ∈ f.batch, f.working.contains r.id = true) (hc : f.Covers os)
    (hk : KeepIds os) : (f.settled os).ids = f.working.ids := by
  refine Registry.ids_insertAll fun r hr => ?_
  have hmem : r.id ∈ os.map (·.1) :=
    List.mem_map_of_mem ((mem_successes_of_keepIds hk).1 hr)
  rw [hc, List.mem_map] at hmem
  obtain ⟨s, hs, hid⟩ := hmem
  exact hid ▸ hw s hs

/-- **The committed counts are those of the committed registry.** They are counted before the
attempts and counted down after them, and no attempt changes which ids there are. -/
theorem namespaceCounts_commit (hw : ∀ r ∈ f.batch, f.working.contains r.id = true)
    (hc : f.Covers os) (hk : KeepIds os) :
    (f.commit settings state metrics os now).state.namespaceCounts =
      (f.commit settings state metrics os now).state.registry.namespaceCounts := by
  rw [registry_commit, ← remainingCounts_eq (ids_settled hw hc hk).symm, settled,
    ← (foldl_take os ⟨f.working, f.retries, metrics, [], 0, 0⟩).1]
  rfl

/-- A record that is kept belongs to a declared resource or to one that is tracked. -/
theorem contains_of_retries_commit {record : RetryRecord}
    (h : (f.commit settings state metrics os now).state.retries.get? id = some record) :
    f.desired.resources.contains id = true ∨
      (f.commit settings state metrics os now).state.registry.contains id = true := by
  have hp := RetryBook.of_get?_retain h
  rwa [Bool.or_eq_true] at hp

end Flight

end IngressBalancer
