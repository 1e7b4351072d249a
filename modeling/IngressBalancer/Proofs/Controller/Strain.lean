import IngressBalancer.Proofs.Controller.Committed
import IngressBalancer.Proofs.Controller.Records
/-!
# Passes that strain an id

A pass strains an id when it leaves the id tracked and no attempt for it
succeeds (`Flight.Strains`). Such a pass adds to the failures in a row what
its attempt for the id failed with, if there was one (`Streak.pass`), and
reports just that (`Streak.reports_pass`).
-/

namespace IngressBalancer

namespace Flight

variable {f : Flight} {os : List Outcome} {id : ResourceId} {d : Option Spec}
variable {out : Except Failure Resource} {settings : Settings} {s : SyncState}
variable {endedAt : Instant}

/-- What an outcome failed with, if it did. -/
def miss? (f : Flight) : Outcome → Option Miss
  | (_, .ok _) => none
  | (_, .error e) => some ⟨f.startedAt, e⟩

/-- The attempts for an id that failed; there is one at most. -/
def misses (f : Flight) (os : List Outcome) (id : ResourceId) : List Miss :=
  (os.filter (·.1 = id)).filterMap f.miss?

/-- Whether a pass strains an id: it leaves the id tracked, what is checked under it desires
`d`, and no attempt for it succeeds. -/
structure Strains (f : Flight) (os : List Outcome) (id : ResourceId) (d : Option Spec) :
    Prop where
  tracked : f.tracks os id = true
  steady : ∀ r, f.checked? id = some r → r.desired = d
  fails : ∀ r, (id, .ok r) ∉ os

theorem misses_of_mem (hnd : (os.map (·.1)).Nodup) (h : (id, out) ∈ os) :
    f.misses os id = (f.miss? (id, out)).toList := by
  rw [misses, filter_key_eq_singleton hnd h, List.filterMap_cons]
  cases f.miss? (id, out) <;> rfl

theorem misses_of_not_mem (h : id ∉ os.map (·.1)) : f.misses os id = [] := by
  rw [misses, filter_key_eq_nil h, List.filterMap_nil]

/-- In a pass that strains an id, an attempt for it fails. -/
theorem Strains.exists_error (hf : f.Strains os id d) (h : id ∈ os.map (·.1)) :
    ∃ e, (id, .error e) ∈ os := by
  obtain ⟨⟨id', e | r⟩, ho, hid⟩ := List.mem_map.1 h
  · exact ⟨e, hid ▸ ho⟩
  · exact absurd (hid ▸ ho) (hf.fails r)

/-- A whole pass has one outcome for each id. -/
theorem nodup_of_isWhole (he : (Episode.pass f os endedAt).IsWhole settings s) :
    (os.map (·.1)).Nodup := by
  obtain ⟨⟨v, startedAt, rfl⟩, hc, -⟩ := he
  have hbatch : ((start settings v s startedAt).batch.map (·.id)).Nodup := nodup_batch
  rwa [hc]

/-- An id without an attempt is not checked, or is held back. -/
theorem checked?_of_not_mem (he : (Episode.pass f os endedAt).IsWhole settings s)
    (h : id ∉ os.map (·.1)) : f.checked? id = none ∨
      ∃ r record, f.checked? id = some r ∧ s.retries.get? id = some record ∧
        record.desired = r.desired := by
  obtain ⟨⟨v, startedAt, rfl⟩, hc, -⟩ := he
  cases hr : (start settings v s startedAt).checked? id with
  | none => exact .inl rfl
  | some r =>
    have hid : r.id = id := Registry.id_of_get? (checked?_eq_some.1 hr).2
    subst hid
    obtain ⟨record, hrecord, hd⟩ := exists_record_of_not_mem_batch hr fun hmem =>
      h (hc ▸ List.mem_map_of_mem hmem)
    exact .inr ⟨r, record, rfl, hrecord, hd⟩

/-- An id with an attempt is checked, and not held back. -/
theorem exists_due_of_mem (he : (Episode.pass f os endedAt).IsWhole settings s)
    (h : id ∈ os.map (·.1)) : ∃ r, f.checked? id = some r ∧ r.id = id ∧
      RetryBook.Due settings.retry r.desired f.startedAt (s.retries.get? id) ∧
      f.retries.get? id = (s.retries.get? id).filter (·.desired = r.desired) := by
  obtain ⟨⟨v, startedAt, rfl⟩, hc, -⟩ := he
  rw [hc] at h
  obtain ⟨r, hr, rfl⟩ := List.mem_map.1 h
  obtain ⟨hchecked, hdue⟩ := mem_batch_iff_due.1 hr
  exact ⟨r, hchecked, rfl, hdue, get?_retries_start hchecked⟩

end Flight

namespace RetryBook.Streak

variable {settings : Settings} {s : SyncState} {f : Flight} {os : List Flight.Outcome}
variable {endedAt : Instant} {id : ResourceId} {d : Option Spec} {first : Option RetryRecord}
variable {ms : List Miss}

/-- **A pass that strains an id adds its failure to those in a row.** -/
theorem pass (h : Streak settings.retry d first ms (s.retries.get? id))
    (he : (Episode.pass f os endedAt).IsWhole settings s) (hf : f.Strains os id d) :
    Streak settings.retry d first (ms ++ f.misses os id)
      (((Episode.pass f os endedAt).commit settings s).retries.get? id) := by
  have hk : Flight.KeepIds os := he.2.2
  have hnd := Flight.nodup_of_isWhole he
  by_cases hmem : id ∈ os.map (·.1)
  · -- the attempt failed, and its failure is recorded
    obtain ⟨r, hchecked, hid, hdue, hretries⟩ := Flight.exists_due_of_mem he hmem
    obtain ⟨e, ho⟩ := hf.exists_error hmem
    have hget := (Flight.checked?_eq_some.1 hchecked).2
    have hd := hf.steady r hchecked
    rw [hd] at hdue hretries
    rw [Flight.misses_of_mem hnd ho, Episode.commit,
      Flight.get?_retries_commit_error hnd hk ho hget, hf.tracked, Option.filter_some_pos rfl,
      hretries]
    exact h.miss hd hdue
  · -- without an attempt, the record stays as it was
    have hsame : f.retries.get? id = s.retries.get? id := by
      have hidle := Flight.checked?_of_not_mem he hmem
      obtain ⟨⟨v, startedAt, rfl⟩, -⟩ := he
      rcases hidle with hnone | ⟨r, record, hr, hrecord, hd⟩
      · exact Flight.get?_retries_start_of_unchecked hnone
      · rw [Flight.get?_retries_start hr, hrecord, Option.filter_some_pos (by simpa using hd)]
    rw [Flight.misses_of_not_mem hmem, List.append_nil, Episode.commit,
      Flight.get?_retries_commit_idle hk hmem, hsame, hf.tracked]
    cases hrec : s.retries.get? id <;> rwa [hrec] at h

/-- **And reports it**, by its number in the row. -/
theorem reports_pass (h : Streak settings.retry d first ms (s.retries.get? id))
    (he : (Episode.pass f os endedAt).IsWhole settings s) (hf : f.Strains os id d) :
    (f.tally settings.retry os).events.filter (·.id = id) = (f.misses os id).map fun m =>
      Flight.failureEvent id m.failure
        (settings.retry.outcomeOf (countFor d first + ms.length + 1) m.failure) := by
  have hk : Flight.KeepIds os := he.2.2
  have hnd := Flight.nodup_of_isWhole he
  by_cases hmem : id ∈ os.map (·.1)
  · obtain ⟨r, hchecked, rfl, hdue, hretries⟩ := Flight.exists_due_of_mem he hmem
    obtain ⟨e, ho⟩ := hf.exists_error hmem
    have hget := (Flight.checked?_eq_some.1 hchecked).2
    obtain rfl := hf.steady r hchecked
    rw [Flight.misses_of_mem hnd ho, Flight.reports_error hnd hk ho hget,
      recordFailure_fst_eq (hretries ▸ hdue.filter) fun known hknown => ?_, hretries,
      countFor_filter, h.countFor_eq]
    · rfl
    · rw [hretries, Option.filter_eq_some_iff] at hknown
      exact of_decide_eq_true hknown.2
  · rw [Flight.misses_of_not_mem hmem, Flight.reports_idle hk hmem]
    rfl

end RetryBook.Streak

end IngressBalancer
