import IngressBalancer.Proofs.Controller.Handles
import IngressBalancer.Proofs.Controller.Strain
/-!
# What is no longer declared

What a pass does about an id that nobody declares. Where the id is tracked,
the pass lists it once among what is removed, and its resource is checked
with no spec (`count_removed`, `checked?_of_undeclared`). After a pass that
had declared the id and not held it, a record that is left is for a spec, so
it does not hold the removal back (`Committed.desired_ne_none`,
`removal_mem_batch`). Where the id is not tracked, the pass has nothing to do
with it (`working_of_absent`) and commits nothing for it (`commit_of_absent`).
-/

namespace IngressBalancer

namespace Flight

variable {settings : Settings} {v : View} {s : SyncState} {now endedAt : Instant}
variable {id : ResourceId} {r : Resource} {f : Flight} {os : List Outcome} {metrics : Metrics}

/-- A desired set has no entry for an id that nobody declares. -/
theorem get?_build_of_undeclared (hdecl : ¬ v.Declares settings id) :
    (DesiredSet.build settings v s.registry).resources.get? id = none := by
  rw [← Option.not_isSome_iff_eq_none, ← Registry.contains_eq_isSome,
    DesiredSet.contains_build s.registry]
  exact hdecl

/-- Nor does it hold one. -/
theorem held_of_undeclared (hdecl : ¬ v.Declares settings id) :
    (start settings v s now).desired.held.contains id = false := by
  refine Bool.eq_false_iff.2 fun hheld => hdecl ?_
  obtain ⟨i, hi, hid, -⟩ := DesiredSet.isHeld_build.1 hheld
  exact ⟨i, hi, hid⟩

/-- What is checked under a declared id that is not held has a spec. -/
theorem exists_spec_of_checked (hdecl : (start settings v s now).desired.resources.contains id = true)
    (hheld : (start settings v s now).desired.held.contains id = false) :
    ∃ r spec, (start settings v s now).checked? id = some r ∧ r.desired = some spec := by
  obtain ⟨r, hr⟩ := Option.isSome_iff_exists.1 (Registry.contains_eq_isSome.symm.trans hdecl)
  have hbuild : (DesiredSet.build settings v s.registry).resources.get? id = some r := hr
  obtain ⟨i, -, -, spec, -, hspec⟩ := DesiredSet.exists_spec_of_not_held hbuild hheld
  refine ⟨r, spec, checked?_eq_some.2 ⟨hheld, ?_⟩, by rw [hspec]⟩
  rw [get?_working, hbuild, Option.some_or]

/-- A record that a pass leaves for what it has checked is for what that desires. -/
theorem desired_of_get?_retries_commit (he : (Episode.pass f os endedAt).IsWhole settings s)
    (hr : f.checked? id = some r) {known : RetryRecord}
    (h : ((Episode.pass f os endedAt).commit settings s).retries.get? id = some known) :
    known.desired = r.desired := by
  have hk : KeepIds os := he.2.2
  have hnd := nodup_of_isWhole he
  rw [Episode.commit] at h
  by_cases hmem : id ∈ os.map (·.1)
  · obtain ⟨⟨id', e | r'⟩, ho, hid⟩ := List.mem_map.1 hmem
    · obtain rfl : id' = id := hid
      rw [get?_retries_commit_error hnd hk ho (checked?_eq_some.1 hr).2] at h
      cases (Option.filter_eq_some_iff.1 h).1
      rfl
    · obtain rfl : id' = id := hid
      rw [get?_retries_commit_ok hnd hk ho] at h
      cases h
  · obtain ⟨⟨v, startedAt, rfl⟩, -⟩ := he
    rw [get?_retries_commit_idle hk hmem, get?_retries_start hr, Option.filter_filter,
      Option.filter_eq_some_iff] at h
    rw [Bool.and_eq_true, decide_eq_true_eq] at h
    exact h.2.1

end Flight

/-- **After a pass that declared an id and did not hold it, a record that is left for the id is
for a spec**, whatever resyncs there were since. -/
theorem Committed.desired_ne_none {settings : Settings} {es : List Episode} {s : SyncState}
    {f : Flight} {id : ResourceId} (h : Committed settings es s)
    (hlast : Episode.lastPass? es = some f) (hdecl : f.desired.resources.contains id = true)
    (hheld : f.desired.held.contains id = false) {known : RetryRecord}
    (hknown : s.retries.get? id = some known) : known.desired ≠ none := by
  cases h with
  | initial => cases hlast
  | @next es s e _ he =>
    cases e with
    | resync discovered endedAt => cases hknown
    | pass f' os endedAt =>
      rw [Episode.lastPass?_concat_pass] at hlast
      cases hlast
      obtain ⟨r, spec, hr, hspec⟩ : ∃ r spec, f.checked? id = some r ∧ r.desired = some spec := by
        obtain ⟨⟨v, startedAt, rfl⟩, -⟩ := he
        exact Flight.exists_spec_of_checked hdecl hheld
      rw [Flight.desired_of_get?_retries_commit he hr hknown, hspec]
      exact Option.some_ne_none _

namespace Flight

variable {settings : Settings} {v : View} {s : SyncState} {now endedAt : Instant}
variable {id : ResourceId} {r : Resource} {f : Flight} {os : List Outcome} {metrics : Metrics}

section Tracked

variable (hdecl : ¬ v.Declares settings id) (hr : s.registry.get? id = some r)
include hdecl hr

/-- **A tracked id that nobody declares is listed once among what is removed.** -/
theorem count_removed : ((start settings v s now).removed.map (·.id)).count id = 1 := by
  refine List.count_eq_one_of_mem (Registry.nodup_removed _ _) ?_
  have hlacks : (start settings v s now).desired.resources.contains id = false := by
    rw [Bool.eq_false_iff]
    exact mt (DesiredSet.contains_build s.registry).1 hdecl
  have hid : r.toRemoval.id = id := (Registry.id_of_get? hr : r.id = id)
  have hmem : r.toRemoval ∈ (start settings v s now).removed :=
    Registry.mem_removed.2 ⟨r, hid.symm ▸ hr, hid.symm ▸ hlacks, rfl⟩
  exact hid ▸ List.mem_map_of_mem hmem

/-- Its resource is checked with no spec. -/
theorem checked?_of_undeclared : (start settings v s now).checked? id = some r.toRemoval := by
  refine checked?_eq_some.2 ⟨held_of_undeclared hdecl, ?_⟩
  rw [get?_working, get?_build_of_undeclared hdecl, Option.none_or, hr, Option.map_some]

/-- **And runs, where no record for a removal holds it back.** -/
theorem removal_mem_batch (hrecord : ∀ known, s.retries.get? id = some known →
    known.desired ≠ none) : r.toRemoval ∈ (start settings v s now).batch := by
  have hid : r.toRemoval.id = id := (Registry.id_of_get? hr : r.id = id)
  refine mem_batch_iff_due.2 ⟨hid.symm ▸ checked?_of_undeclared hdecl hr, fun known hknown => ?_⟩
  rw [hid, Option.mem_def, Option.filter_eq_some_iff] at hknown
  exact absurd (of_decide_eq_true hknown.2) (hrecord known hknown.1)

end Tracked

section Absent

variable (hdecl : (start settings v s now).desired.resources.contains id = false)
variable (h : s.registry.get? id = none)
include hdecl h

/-- **With an id that is neither declared nor tracked a pass has nothing to do.** -/
theorem working_of_absent : (start settings v s now).working.get? id = none := by
  have hnone : (DesiredSet.build settings v s.registry).resources.get? id = none := by
    rwa [← Option.not_isSome_iff_eq_none, ← Registry.contains_eq_isSome, Bool.not_eq_true]
  rw [get?_working, hnone, h]
  rfl

/-- It does not list it, nor call the provider for it. -/
theorem not_mem_of_absent : id ∉ (start settings v s now).removed.map (·.id) ∧
    id ∉ (start settings v s now).batch.map (·.id) := by
  constructor
  · intro hmem
    obtain ⟨r, hr, rfl⟩ := List.mem_map.1 hmem
    obtain ⟨r', hr', -⟩ := Registry.mem_removed.1 hr
    rw [h] at hr'
    cases hr'
  · intro hmem
    obtain ⟨r, hr, rfl⟩ := List.mem_map.1 hmem
    have hget := (mem_batch_iff.1 hr).1
    rw [working_of_absent hdecl h] at hget
    cases hget

/-- And it commits neither an entry nor a record. -/
theorem commit_of_absent (settings' : Settings) (s' : SyncState) (metrics : Metrics)
    (endedAt : Instant) (hcovers : (start settings v s now).Covers os) (hkeep : KeepIds os) :
    let state := ((start settings v s now).commit settings' s' metrics os endedAt).state
    state.registry.get? id = none ∧ state.retries.get? id = none := by
  intro state
  have hidle : id ∉ os.map (·.1) := hcovers ▸ (not_mem_of_absent hdecl h).2
  have hentry : state.registry.get? id = none := by
    rw [get?_commit_idle hkeep hidle, working_of_absent hdecl h, Option.filter_none]
  have huntracked : (start settings v s now).tracks os id = false := by
    have hregistry : state.registry = ((start settings v s now).settled os).retainLive.live :=
      registry_commit
    rw [tracks, hdecl, Bool.false_or, Registry.contains_eq_isSome, ← hregistry, hentry]
    rfl
  refine ⟨hentry, ?_⟩
  rw [get?_retries_commit_idle hkeep hidle, huntracked]
  cases (start settings v s now).retries.get? id <;> rfl

end Absent

end Flight

end IngressBalancer
