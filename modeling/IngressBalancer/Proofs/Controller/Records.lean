import IngressBalancer.Proofs.Controller.Landing
import IngressBalancer.Proofs.Retry.Streak
/-!
# Records through a pass

What a pass makes of the record of one id, and what it reports about that.
The retry book is asked about a resource of the working set that is not held
(`Flight.checked?`); what is checked keeps a record for its own spec, and
runs where that does not hold it back (`mem_batch_iff_due`). Of the outcomes
only the one of the id matters (`Tally.Agree`): a success wipes the record, a
failure adds to it and is reported, and all else leaves it as it is
(`get?_retries_commit_ok`, `get?_retries_commit_error`,
`get?_retries_commit_idle`).
-/

namespace IngressBalancer

namespace Flight

variable {held : SortedSet ResourceId} {policy : RetryPolicy} {settings : Settings} {v : View}
variable {state : SyncState} {metrics : Metrics} {now : Instant} {id : ResourceId} {r : Resource}
variable {f : Flight} {os : List Outcome} {e : Failure}

/-- The resource of an id about which the retry book is asked; about what is held it is not. -/
def checked? (f : Flight) (id : ResourceId) : Option Resource :=
  if f.desired.held.contains id then none else f.working.get? id

theorem checked?_eq_some : f.checked? id = some r ↔
    f.desired.held.contains id = false ∧ f.working.get? id = some r := by
  unfold checked?
  split
  · next h => simp [h]
  · next h => simp [h]

/-! ## The checks -/

theorem retries_consider_of_held (s : Selection) (h : held.contains r.id = true) :
    (s.consider held policy now r).retries = s.retries := by
  rw [Selection.consider, if_pos h]

theorem retries_consider (s : Selection) (h : held.contains r.id = false) :
    (s.consider held policy now r).retries = (s.retries.check r policy now).2 := by
  rw [Selection.consider, if_neg (by rw [h]; exact Bool.false_ne_true)]
  rcases s.retries.check r policy now with ⟨_ | _ | _, _⟩ <;> rfl

/-- What is not among the resources, or is held, keeps its record. -/
theorem get?_foldl_consider_of_unchecked (rs : List Resource) (s : Selection)
    (h : ∀ r ∈ rs, r.id = id → held.contains id = true) :
    (rs.foldl (Selection.consider held policy now) s).retries.get? id = s.retries.get? id := by
  induction rs generalizing s with
  | nil => rfl
  | cons r rs ih =>
    rw [List.foldl_cons, ih _ fun r' hr' => h r' (List.mem_cons_of_mem _ hr')]
    by_cases hid : r.id = id
    · rw [retries_consider_of_held s (hid ▸ h r List.mem_cons_self hid)]
    · exact get?_consider_of_ne s (Ne.symm hid)

/-- What is checked keeps its record for its own spec. -/
theorem get?_foldl_consider_of_mem (rs : List Resource) (s : Selection)
    (hnd : (rs.map (·.id)).Nodup) (hr : r ∈ rs) (hheld : held.contains r.id = false) :
    (rs.foldl (Selection.consider held policy now) s).retries.get? r.id =
      (s.retries.get? r.id).filter (·.desired = r.desired) := by
  induction rs generalizing s with
  | nil => exact absurd hr List.not_mem_nil
  | cons r' rs ih =>
    rw [List.map_cons, List.nodup_cons] at hnd
    rw [List.foldl_cons]
    rcases List.mem_cons.1 hr with rfl | hr
    · have hrest : ∀ r' ∈ rs, r'.id = r.id → held.contains r.id = true := fun r' hr' hid =>
        absurd (List.mem_map_of_mem hr') (hid ▸ hnd.1)
      rw [get?_foldl_consider_of_unchecked rs _ hrest, retries_consider s hheld,
        RetryBook.get?_check_self]
    · have hne : r.id ≠ r'.id := fun hid => hnd.1 (hid ▸ List.mem_map_of_mem hr)
      rw [ih _ hnd.2 hr, get?_consider_of_ne s hne]

/-- **What is checked keeps its record for its own spec.** -/
theorem get?_retries_start (h : (start settings v state now).checked? id = some r) :
    (start settings v state now).retries.get? id =
      (state.retries.get? id).filter (·.desired = r.desired) := by
  obtain ⟨hheld, hget⟩ := checked?_eq_some.1 h
  have hid : r.id = id := Registry.id_of_get? hget
  subst hid
  refine get?_foldl_consider_of_mem _ _ ?_ (Registry.mem_toList_iff.2 hget) hheld
  rw [Registry.map_id_toList]
  exact Registry.nodup_ids _

/-- And what is not checked keeps it whole. -/
theorem get?_retries_start_of_unchecked (h : (start settings v state now).checked? id = none) :
    (start settings v state now).retries.get? id = state.retries.get? id := by
  refine get?_foldl_consider_of_unchecked _ _ fun r hr hid => ?_
  have hget : (start settings v state now).working.get? id = some r :=
    hid ▸ Registry.mem_toList_iff.1 hr
  by_contra hheld
  have hsome := checked?_eq_some.2 ⟨Bool.eq_false_iff.2 hheld, hget⟩
  rw [h] at hsome
  cases hsome

/-- **The batch is what is checked and not held back.** -/
theorem mem_batch_iff_due : r ∈ (start settings v state now).batch ↔
    (start settings v state now).checked? r.id = some r ∧
      RetryBook.Due settings.retry r.desired now (state.retries.get? r.id) := by
  rw [mem_batch_iff, checked?_eq_some, verdictOf, verdict]
  have hheld : (start settings v state now).desired.held.contains r.id =
    (DesiredSet.build settings v state.registry).held.contains r.id := rfl
  rw [hheld]
  cases (DesiredSet.build settings v state.registry).held.contains r.id with
  | true => simp
  | false =>
    simp only [Bool.false_eq_true, if_false, Option.some.injEq, true_and,
      RetryBook.check_fst_eq_run_iff]
    rfl

/-- What is checked and does not run has a record for its spec. -/
theorem exists_record_of_not_mem_batch (h : (start settings v state now).checked? r.id = some r)
    (hr : r ∉ (start settings v state now).batch) :
    ∃ record, state.retries.get? r.id = some record ∧ record.desired = r.desired :=
  RetryBook.exists_record_of_check_ne_run fun hrun =>
    hr (mem_batch_iff_due.2 ⟨h, RetryBook.check_fst_eq_run_iff.1 hrun⟩)

/-! ## The outcomes -/

/-- Whether two tallies say the same about an id. -/
structure Tally.Agree (id : ResourceId) (t t' : Tally) : Prop where
  entry : t.registry.get? id = t'.registry.get? id
  record : t.retries.get? id = t'.retries.get? id
  reports : t.events.filter (·.id = id) = t'.events.filter (·.id = id)

theorem id_failureEvent (id : ResourceId) (e : Failure) (outcome : FailureOutcome) :
    (failureEvent id e outcome).id = id := by
  cases outcome <;> rfl

namespace Tally

variable {t t' t'' : Tally} {o : Outcome}

namespace Agree

theorem refl (id : ResourceId) (t : Tally) : Agree id t t := ⟨rfl, rfl, rfl⟩

theorem symm (h : Agree id t t') : Agree id t' t := ⟨h.entry.symm, h.record.symm, h.reports.symm⟩

theorem trans (h : Agree id t t') (h' : Agree id t' t'') : Agree id t t'' :=
  ⟨h.entry.trans h'.entry, h.record.trans h'.record, h.reports.trans h'.reports⟩

/-- The outcome of an id is taken by what is known of the id. -/
theorem take (h : Agree id t t') (hid : o.1 = id) :
    Agree id (t.take policy now o) (t'.take policy now o) := by
  obtain ⟨id', e | r⟩ := o
  · cases hid
    simp only [Tally.take, fail]
    rw [h.entry]
    cases hget : t'.registry.get? id' with
    | none => exact ⟨h.entry, h.record, h.reports⟩
    | some r =>
      have hr : r.id = id' := Registry.id_of_get? hget
      subst hr
      have hrecord : (t.retries.get? r.id) = t'.retries.get? r.id := h.record
      refine ⟨h.entry, ?_, ?_⟩
      · simp only [RetryBook.get?_recordFailure_self, hrecord]
      · simp only [RetryBook.recordFailure, hrecord, List.filter_append, h.reports]
  · cases hid
    refine ⟨?_, ?_, h.reports⟩
    · simp only [Tally.take, Registry.get?_insert, h.entry]
    · simp only [Tally.take, RetryBook.get?_recordSuccess_self]

end Agree

/-- The outcome of another id tells nothing about an id. -/
theorem agree_take_of_ne (hne : o.1 ≠ id) (hk : ∀ r, o.2 = .ok r → r.id = o.1) :
    Agree id (t.take policy now o) t := by
  obtain ⟨id', e | r⟩ := o
  · simp only [take, fail]
    cases hget : t.registry.get? id' with
    | none => exact ⟨rfl, rfl, rfl⟩
    | some r =>
      have hr : r.id = id' := Registry.id_of_get? hget
      refine ⟨rfl, RetryBook.get?_recordFailure_of_ne (hr ▸ Ne.symm hne), ?_⟩
      have hother : (failureEvent id' e (t.retries.recordFailure r e.message e.isRetriable policy
          now).1).id ≠ id := by rwa [id_failureEvent]
      rw [List.filter_append, List.filter_cons_of_neg (by simpa using hother), List.filter_nil,
        List.append_nil]
  · have hr : r.id = id' := hk r rfl
    refine ⟨?_, RetryBook.get?_recordSuccess_of_ne (Ne.symm hne), rfl⟩
    simp only [take, Registry.get?_insert, if_neg (hr ▸ Ne.symm hne)]

theorem agree_foldl_take (hk : KeepIds os) (h : id ∉ os.map (·.1)) :
    Agree id (os.foldl (take policy now) t) t := by
  induction os generalizing t with
  | nil => exact .refl id t
  | cons o os ih =>
    rw [List.map_cons, List.mem_cons, not_or] at h
    have hfirst : Agree id (t.take policy now o) t :=
      agree_take_of_ne (Ne.symm h.1) (hk o List.mem_cons_self)
    exact (ih (fun o' ho' => hk o' (List.mem_cons_of_mem _ ho')) h.2).trans hfirst

/-- **Of all outcomes the one of an id decides about it.** -/
theorem agree_foldl_take_of_mem {out : Except Failure Resource} (hnd : (os.map (·.1)).Nodup)
    (hk : KeepIds os) (h : (id, out) ∈ os) :
    Agree id (os.foldl (take policy now) t) (t.take policy now (id, out)) := by
  obtain ⟨before, after, rfl⟩ := List.append_of_mem h
  rw [List.map_append, List.map_cons, List.nodup_append, List.nodup_cons] at hnd
  obtain ⟨-, ⟨hafter, -⟩, hbefore⟩ := hnd
  have hkeep : KeepIds before ∧ KeepIds after :=
    ⟨fun o ho => hk o (List.mem_append_left _ ho),
      fun o ho => hk o (List.mem_append_right _ (List.mem_cons_of_mem _ ho))⟩
  have hnot : id ∉ before.map (·.1) := fun hmem => hbefore _ hmem _ List.mem_cons_self rfl
  rw [List.foldl_append, List.foldl_cons]
  exact (agree_foldl_take hkeep.2 hafter).trans ((agree_foldl_take hkeep.1 hnot).take rfl)

/-- **So outcomes that say the same about an id make the same of it.** -/
theorem agree_foldl_take_of_iff {os' : List Outcome} (hnd : (os.map (·.1)).Nodup)
    (hnd' : (os'.map (·.1)).Nodup) (hk : KeepIds os) (hk' : KeepIds os')
    (h : ∀ out, (id, out) ∈ os ↔ (id, out) ∈ os') :
    Agree id (os.foldl (take policy now) t) (os'.foldl (take policy now) t) := by
  by_cases hid : id ∈ os.map (·.1)
  · obtain ⟨⟨_, out⟩, ho, rfl⟩ := List.mem_map.1 hid
    exact (agree_foldl_take_of_mem hnd hk ho).trans
      (agree_foldl_take_of_mem hnd' hk' ((h out).1 ho)).symm
  · have hid' : id ∉ os'.map (·.1) := by
      intro hmem
      obtain ⟨⟨_, out⟩, ho, rfl⟩ := List.mem_map.1 hmem
      exact hid (List.mem_map_of_mem ((h out).2 ho))
    exact (agree_foldl_take hk hid).trans (agree_foldl_take hk' hid').symm

end Tally

/-! ## The commit -/

/-- The outcomes of a pass, taken. -/
def tally (f : Flight) (policy : RetryPolicy) (os : List Outcome) : Tally :=
  os.foldl (Tally.take policy f.startedAt) ⟨f.working, f.retries, .empty, [], 0, 0⟩

/-- Whether an id is tracked after a pass: it is declared, or in the registry that the pass
leaves. -/
def tracks (f : Flight) (os : List Outcome) (id : ResourceId) : Bool :=
  f.desired.resources.contains id || (f.settled os).retainLive.live.contains id

/-- What a commit reports does not depend on what was measured before. -/
theorem events_commit : (f.commit settings state metrics os now).events =
    (f.tally settings.retry os).events :=
  (foldl_take_congr os ⟨f.working, f.retries, metrics, [], 0, 0⟩
    ⟨f.working, f.retries, .empty, [], 0, 0⟩ rfl rfl rfl).2

/-- The records of what is tracked are kept. -/
theorem get?_retries_commit : (f.commit settings state metrics os now).state.retries.get? id =
    ((f.tally settings.retry os).retries.get? id).filter fun _ => f.tracks os id := by
  rw [state_commit_congr .empty]
  simp only [commit, RetryBook.get?_retain, (foldl_take os _).1]
  rfl

theorem get?_registry_commit : (f.commit settings state metrics os now).state.registry.get? id =
    ((f.tally settings.retry os).registry.get? id).filter Resource.isLive := by
  rw [registry_commit, Registry.get?_live, settled, tally, (foldl_take os _).1]

/-- **Passes whose outcomes make the same of an id commit the same for it.** -/
theorem commit_agree {os' : List Outcome} {metrics' : Metrics} {now' : Instant}
    (hagree : Tally.Agree id (f.tally settings.retry os) (f.tally settings.retry os')) :
    let state₁ := (f.commit settings state metrics os now).state
    let state₂ := (f.commit settings state metrics' os' now').state
    state₁.registry.get? id = state₂.registry.get? id ∧
      state₁.retries.get? id = state₂.retries.get? id := by
  have hentry : (f.commit settings state metrics os now).state.registry.get? id =
      (f.commit settings state metrics' os' now').state.registry.get? id := by
    rw [get?_registry_commit, get?_registry_commit, hagree.entry]
  have htracks : f.tracks os id = f.tracks os' id := by
    rw [registry_commit, registry_commit] at hentry
    exact congrArg (f.desired.resources.contains id || Option.isSome ·) hentry
  refine ⟨hentry, ?_⟩
  rw [get?_retries_commit, get?_retries_commit, hagree.record, htracks]

/-- **A record without an attempt stays**, where the id is tracked. -/
theorem get?_retries_commit_idle (hk : KeepIds os) (h : id ∉ os.map (·.1)) :
    (f.commit settings state metrics os now).state.retries.get? id =
      (f.retries.get? id).filter fun _ => f.tracks os id := by
  rw [get?_retries_commit, tally, (Tally.agree_foldl_take hk h).record]

theorem reports_idle (hk : KeepIds os) (h : id ∉ os.map (·.1)) :
    (f.tally policy os).events.filter (·.id = id) = [] :=
  (Tally.agree_foldl_take hk h).reports

section Outcomes

variable (hnd : (os.map (·.1)).Nodup) (hk : KeepIds os)
include hnd hk

/-- **A success wipes the record.** -/
theorem get?_retries_commit_ok (h : (id, .ok r) ∈ os) :
    (f.commit settings state metrics os now).state.retries.get? id = none := by
  rw [get?_retries_commit, tally, (Tally.agree_foldl_take_of_mem hnd hk h).record, Tally.take]
  simp only [RetryBook.get?_recordSuccess_self, Option.filter_none]

section Failed

variable (h : (id, .error e) ∈ os) (hr : f.working.get? id = some r)
include h hr

/-- **A failure is recorded**, where the id is tracked. -/
theorem get?_retries_commit_error :
    (f.commit settings state metrics os now).state.retries.get? id =
      (some (RetryBook.nextRecord (f.retries.get? id) r e.message e.isRetriable settings.retry
        f.startedAt)).filter fun _ => f.tracks os id := by
  have hid : r.id = id := Registry.id_of_get? hr
  rw [get?_retries_commit, tally, (Tally.agree_foldl_take_of_mem hnd hk h).record, Tally.take]
  simp only [Tally.fail, hr]
  rw [← hid, RetryBook.get?_recordFailure_self]

/-- **And reported**, once. -/
theorem reports_error : (f.tally policy os).events.filter (·.id = id) =
    [failureEvent id e
      (f.retries.recordFailure r e.message e.isRetriable policy f.startedAt).1] := by
  rw [tally, (Tally.agree_foldl_take_of_mem hnd hk h).reports, Tally.take]
  simp only [Tally.fail, hr, List.nil_append]
  rw [List.filter_eq_self]
  simp [id_failureEvent]

end Failed

end Outcomes

end Flight

end IngressBalancer
