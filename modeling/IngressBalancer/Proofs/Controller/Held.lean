import IngressBalancer.Proofs.Controller.Records
/-!
# What is held

A pass holds an ingress whose spec it cannot build, and leaves it alone. It
has no resource in the batch (`not_mem_batch_of_held`), and nobody asks the
retry book about it, so a whole pass keeps its record
(`get?_retries_commit_of_error`). Where no two declaring ingresses share an
id, it also keeps its entry (`get?_registry_commit_of_error`), and is reported
about once (`problemEvents_of_error`).
-/

namespace IngressBalancer

/-- Whether something that was looked up was not there or of no use. -/
def Failure.isLookup : Failure → Bool
  | .lookup _ => true
  | _ => false

namespace Flight

variable {settings : Settings} {v : View} {s : SyncState} {now endedAt : Instant} {i : Ingress}
variable {e : Failure} {id : ResourceId} {os : List Outcome}

/-- A problem is reported as a warning, whose reason tells what kind of problem it is. -/
theorem problemEvent_eq (id : ResourceId) (e : Failure) : problemEvent (id, e) =
    ⟨id, .warning, if e.isLookup then "LookupFailed" else "InvalidIngress", e.message⟩ := by
  cases e <;> rfl

/-- A held id is not in the batch. -/
theorem not_mem_batch_of_held
    (h : (DesiredSet.build settings v s.registry).held.contains id = true) :
    id ∉ (start settings v s now).batch.map (·.id) := by
  intro hmem
  obtain ⟨r, hr, rfl⟩ := List.mem_map.1 hmem
  rw [not_held_of_mem_batch hr] at h
  cases h

section Held

variable (hi : i ∈ v.declared settings) (he : settings.specOf v i = .error e)
include hi he

theorem held_of_error : (DesiredSet.build settings v s.registry).held.contains i.id = true :=
  DesiredSet.isHeld_build.2 ⟨i, hi, rfl, e, he⟩

/-- Nobody asks the retry book about it. -/
theorem checked?_of_error : (start settings v s now).checked? i.id = none :=
  if_pos (held_of_error hi he)

variable (hnd : ((v.declared settings).map (·.id)).Nodup)
include hnd

/-- In the working set it has its prior entry, or a blank one. -/
theorem get?_working_of_error :
    (start settings v s now).working.get? i.id = some (s.registry.carried i.id) := by
  have hentry : DesiredSet.entryOf settings v s.registry i = s.registry.carried i.id := by
    rw [DesiredSet.entryOf, DesiredSet.entry, show Blueprint.desiredSpec _ i _ = .error e from he]
  rw [get?_working, DesiredSet.get?_build_of_nodup hnd hi, Option.some_or, hentry]

/-- **The pass reports about it once.** -/
theorem problemEvents_of_error : (start settings v s now).problemEvents.filter (·.id = i.id) =
    [problemEvent (i.id, e)] := by
  have hmem : (i.id, e) ∈ (DesiredSet.build settings v s.registry).problems := by
    rw [DesiredSet.problems_build, List.mem_filterMap]
    exact ⟨i, hi, by rw [DesiredSet.problemOf?, he]⟩
  have hone : (DesiredSet.build settings v s.registry).problems.filter (·.1 = i.id) =
      [(i.id, e)] := filter_key_eq_singleton (DesiredSet.nodup_problems hnd) hmem
  have hfilter : (start settings v s now).problemEvents.filter (·.id = i.id) =
      ((DesiredSet.build settings v s.registry).problems.filter (·.1 = i.id)).map problemEvent :=
    List.filter_map
  rw [hfilter, hone, List.map_singleton]

end Held

section Whole

variable (hi : i ∈ v.declared settings) (he : settings.specOf v i = .error e)
variable (hc : (start settings v s now).Covers os)
include hi he hc

/-- No outcome is about it. -/
theorem not_mem_outcomes_of_error : i.id ∉ os.map (·.1) := by
  rw [hc]
  exact not_mem_batch_of_held (held_of_error hi he)

variable (hk : KeepIds os)
include hk

/-- Nor does a landing report about it. -/
theorem reports_of_error (policy : RetryPolicy) :
    ((start settings v s now).tally policy os).events.filter (·.id = i.id) = [] :=
  reports_idle hk (not_mem_outcomes_of_error hi he hc)

/-- **Its record stays as it is.** -/
theorem get?_retries_commit_of_error {settings' : Settings} {s' : SyncState} {metrics : Metrics} :
    ((start settings v s now).commit settings' s' metrics os endedAt).state.retries.get? i.id =
      s.retries.get? i.id := by
  have htracks : (start settings v s now).tracks os i.id = true := by
    rw [tracks, show (start settings v s now).desired.resources.contains i.id = true from
      (DesiredSet.contains_build s.registry).2 ⟨i, hi, rfl⟩, Bool.true_or]
  rw [get?_retries_commit_idle hk (not_mem_outcomes_of_error hi he hc),
    get?_retries_start_of_unchecked (checked?_of_error hi he), htracks]
  cases s.retries.get? i.id <;> rfl

/-- **And so does its entry**, where the entries before were live; without one, none is left. -/
theorem get?_registry_commit_of_error (hnd : ((v.declared settings).map (·.id)).Nodup)
    (hlive : ∀ r ∈ s.registry.toList, r.isLive = true) {settings' : Settings} {s' : SyncState}
    {metrics : Metrics} :
    ((start settings v s now).commit settings' s' metrics os endedAt).state.registry.get? i.id =
      s.registry.get? i.id := by
  rw [get?_commit_idle hk (not_mem_outcomes_of_error hi he hc),
    get?_working_of_error hi he hnd, Registry.carried]
  cases hr : s.registry.get? i.id with
  | none => rfl
  | some r =>
    have hid : r.id = i.id := Registry.id_of_get? hr
    have hmem : r ∈ s.registry.toList := Registry.mem_toList_iff.2 (hid ▸ hr)
    exact Option.filter_eq_some_iff.2 ⟨rfl, hlive r hmem⟩

end Whole

/-- What is declared is not removed. -/
theorem not_mem_removed_of_declared (hi : i ∈ v.declared settings) :
    i.id ∉ (start settings v s now).removed.map (·.id) := by
  intro hmem
  have hremoved : (start settings v s now).removed.map (·.id) = s.registry.ids.filter fun id =>
      !(DesiredSet.build settings v s.registry).resources.contains id :=
    Registry.map_id_removed _ _
  rw [hremoved, List.mem_filter, (DesiredSet.contains_build s.registry).2 ⟨i, hi, rfl⟩] at hmem
  cases hmem.2

end Flight

end IngressBalancer
