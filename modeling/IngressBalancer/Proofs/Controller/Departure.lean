import IngressBalancer.Controller.Pass
import IngressBalancer.Proofs.Controller.Declarations
import IngressBalancer.Proofs.Retry.Checks
/-!
# What a pass sets out with

The first half of a pass, id by id. Its working set is the desired set and,
with their specs cleared, the resources that are no longer declared
(`get?_working`). Each resource of it is held or gets one verdict of the
retry book; the batch is those that may run (`mem_batch_iff`), in the order
of their ids. A resource of the batch is a removal exactly when no ingress
declares its id (`desired_eq_none_iff`).
-/

namespace IngressBalancer

namespace Flight

variable {held : SortedSet ResourceId} {book : RetryBook} {policy : RetryPolicy}
variable {settings : Settings} {v : View} {state : SyncState} {now : Instant}
variable {id : ResourceId} {r : Resource}

/-- The verdict about one resource; about a held one there is none. -/
def verdict (held : SortedSet ResourceId) (book : RetryBook) (policy : RetryPolicy)
    (now : Instant) (r : Resource) : Option Dispatch :=
  if held.contains r.id then none else some (book.check r policy now).1

/-- Whether a verdict is to wait. -/
def waits : Option Dispatch → Bool
  | some (.backoff _) => true
  | _ => false

/-- Whether a verdict is that the resource is parked. -/
def parks : Option Dispatch → Bool
  | some (.parked _) => true
  | _ => false

theorem verdict_congr {book' : RetryBook} (h : book.get? r.id = book'.get? r.id) :
    verdict held book policy now r = verdict held book' policy now r := by
  unfold verdict
  rw [RetryBook.check_fst_congr h]

/-! ## The selection -/

/-- Considering a resource sorts it by its verdict. -/
theorem consider_sorts (held : SortedSet ResourceId) (policy : RetryPolicy) (now : Instant)
    (s : Selection) (r : Resource) :
    (s.consider held policy now r).batch =
        s.batch ++ [r].filter (verdict held s.retries policy now · = some .run) ∧
      (s.consider held policy now r).deferred =
        s.deferred + [r].countP (waits <| verdict held s.retries policy now ·) ∧
      (s.consider held policy now r).parked =
        s.parked + [r].countP (parks <| verdict held s.retries policy now ·) := by
  unfold Selection.consider verdict
  cases hh : held.contains r.id with
  | true => simp [hh, waits, parks]
  | false =>
    rcases hc : s.retries.check r policy now with ⟨_ | _ | _, _⟩ <;>
      simp [hh, hc, waits, parks]

/-- Considering a resource leaves the records of all others alone. -/
theorem get?_consider_of_ne (s : Selection) (h : id ≠ r.id) :
    (s.consider held policy now r).retries.get? id = s.retries.get? id := by
  unfold Selection.consider
  split
  · rfl
  · have hne : (s.retries.check r policy now).2.get? id = s.retries.get? id :=
      RetryBook.get?_check_of_ne h
    rcases hc : s.retries.check r policy now with ⟨_ | _ | _, _⟩ <;> rw [hc] at hne <;> exact hne

/-- **Resources with distinct ids are sorted by what the book said before.** -/
theorem foldl_consider (held : SortedSet ResourceId) (policy : RetryPolicy) (now : Instant)
    (rs : List Resource) (hnd : (rs.map (·.id)).Nodup) (s : Selection) :
    (rs.foldl (Selection.consider held policy now) s).batch =
        s.batch ++ rs.filter (verdict held s.retries policy now · = some .run) ∧
      (rs.foldl (Selection.consider held policy now) s).deferred =
        s.deferred + rs.countP (waits <| verdict held s.retries policy now ·) ∧
      (rs.foldl (Selection.consider held policy now) s).parked =
        s.parked + rs.countP (parks <| verdict held s.retries policy now ·) := by
  induction rs generalizing s with
  | nil => simp
  | cons r rs ih =>
    rw [List.map_cons, List.nodup_cons] at hnd
    -- the records of the rest are as they were, since their ids differ from this one
    have hsame : ∀ r' ∈ rs, verdict held (s.consider held policy now r).retries policy now r' =
        verdict held s.retries policy now r' := fun r' hr' =>
      verdict_congr (get?_consider_of_ne s fun h => hnd.1 (h ▸ List.mem_map_of_mem hr'))
    have hbatch : rs.filter (verdict held (s.consider held policy now r).retries policy now · =
        some .run) = rs.filter (verdict held s.retries policy now · = some .run) :=
      List.filter_congr fun r' hr' => by rw [hsame r' hr']
    have hcount : ∀ p : Option Dispatch → Bool,
        rs.countP (p <| verdict held (s.consider held policy now r).retries policy now ·) =
          rs.countP (p <| verdict held s.retries policy now ·) := fun p =>
      List.countP_congr fun r' hr' => by rw [hsame r' hr']
    obtain ⟨hb, hd, hp⟩ := ih hnd.2 (s.consider held policy now r)
    obtain ⟨hb', hd', hp'⟩ := consider_sorts held policy now s r
    rw [List.foldl_cons, hb, hd, hp, hb', hd', hp', hbatch, hcount, hcount]
    refine ⟨?_, ?_, ?_⟩
    · rw [List.append_assoc, ← List.filter_append, List.singleton_append]
    · rw [Nat.add_assoc, ← List.countP_append, List.singleton_append]
    · rw [Nat.add_assoc, ← List.countP_append, List.singleton_append]

/-! ## The first half of a pass -/

/-- **The working set**: what is declared, and what is to be removed. -/
theorem get?_working : (start settings v state now).working.get? id =
    ((DesiredSet.build settings v state.registry).resources.get? id).or
      ((state.registry.get? id).map Resource.toRemoval) :=
  Registry.get?_insertAll_removed _ _ _

/-- What was decided about a resource when the pass set out. -/
def verdictOf (settings : Settings) (v : View) (state : SyncState) (now : Instant)
    (r : Resource) : Option Dispatch :=
  verdict (DesiredSet.build settings v state.registry).held state.retries settings.retry now r

theorem selection_start :
    (start settings v state now).batch =
        (start settings v state now).working.toList.filter
          (verdictOf settings v state now · = some .run) ∧
      (start settings v state now).deferred =
        (start settings v state now).working.toList.countP
          (waits <| verdictOf settings v state now ·) ∧
      (start settings v state now).parked =
        (start settings v state now).working.toList.countP
          (parks <| verdictOf settings v state now ·) := by
  have hnd : ((start settings v state now).working.toList.map (·.id)).Nodup := by
    rw [Registry.map_id_toList]
    exact Registry.nodup_ids _
  obtain ⟨hb, hd, hp⟩ := foldl_consider (DesiredSet.build settings v state.registry).held
    settings.retry now _ hnd ⟨state.retries, [], 0, 0⟩
  exact ⟨hb.trans (List.nil_append _), hd.trans (Nat.zero_add _), hp.trans (Nat.zero_add _)⟩

/-- **The batch is the resources of the working set that may run.** -/
theorem mem_batch_iff : r ∈ (start settings v state now).batch ↔
    (start settings v state now).working.get? r.id = some r ∧
      verdictOf settings v state now r = some .run := by
  rw [selection_start.1, List.mem_filter, Registry.mem_toList_iff, decide_eq_true_eq]

theorem contains_of_mem_batch (h : r ∈ (start settings v state now).batch) :
    (start settings v state now).working.contains r.id = true := by
  rw [Registry.contains_eq_isSome, (mem_batch_iff.1 h).1]
  rfl

/-- No id is in the batch twice. -/
theorem nodup_batch : ((start settings v state now).batch.map (·.id)).Nodup := by
  rw [selection_start.1]
  refine List.Nodup.sublist (List.filter_sublist.map _) ?_
  rw [Registry.map_id_toList]
  exact Registry.nodup_ids _

/-- No held resource is in the batch. -/
theorem not_held_of_mem_batch (h : r ∈ (start settings v state now).batch) :
    (DesiredSet.build settings v state.registry).held.contains r.id = false := by
  have hv := (mem_batch_iff.1 h).2
  unfold verdictOf verdict at hv
  split at hv
  · cases hv
  · next hheld => exact Bool.eq_false_iff.2 hheld

/-- **Where nobody waits and nobody is parked, all that is not held runs.** -/
theorem mem_batch_of_none_waiting (hd : (start settings v state now).deferred = 0)
    (hp : (start settings v state now).parked = 0)
    (hr : (start settings v state now).working.get? r.id = some r)
    (hheld : (DesiredSet.build settings v state.registry).held.contains r.id = false) :
    r ∈ (start settings v state now).batch := by
  refine mem_batch_iff.2 ⟨hr, ?_⟩
  rw [selection_start.2.1, List.countP_eq_zero] at hd
  rw [selection_start.2.2, List.countP_eq_zero] at hp
  have hwait := hd r (Registry.mem_toList_iff.2 hr)
  have hpark := hp r (Registry.mem_toList_iff.2 hr)
  unfold verdictOf verdict at hwait hpark ⊢
  rw [if_neg (by rw [hheld]; exact Bool.false_ne_true)] at hwait hpark ⊢
  cases hc : (state.retries.check r settings.retry now).1 with
  | run => rfl
  | backoff remaining => simp [hc, waits] at hwait
  | parked failures => simp [hc, parks] at hpark

/-! ## Specs and removals -/

/-- A resource of the batch with a declared id has the spec of an ingress that declares it, and
its prior handle. -/
theorem exists_spec_of_mem_batch (h : r ∈ (start settings v state now).batch)
    (hdecl : v.Declares settings r.id) :
    ∃ i ∈ v.declared settings, i.id = r.id ∧ ∃ spec, settings.specOf v i = .ok spec ∧
      r = { state.registry.carried r.id with desired := some spec } := by
  have hc := (DesiredSet.contains_build state.registry).2 hdecl
  obtain ⟨s, hs⟩ := Option.isSome_iff_exists.1 (Registry.contains_eq_isSome.symm.trans hc)
  have hw := (mem_batch_iff.1 h).1
  rw [get?_working, hs, Option.some_or] at hw
  cases hw
  exact DesiredSet.exists_spec_of_not_held hs (not_held_of_mem_batch h)

/-- A resource of the batch that nobody declares is a prior entry with its spec cleared. -/
theorem removal_of_mem_batch (h : r ∈ (start settings v state now).batch)
    (hdecl : ¬ v.Declares settings r.id) :
    ∃ s, state.registry.get? r.id = some s ∧ r = s.toRemoval := by
  have hc : (DesiredSet.build settings v state.registry).resources.get? r.id = none := by
    rw [← Option.not_isSome_iff_eq_none, ← Registry.contains_eq_isSome,
      DesiredSet.contains_build state.registry]
    exact hdecl
  have hw := (mem_batch_iff.1 h).1
  rw [get?_working, hc, Option.none_or, Option.map_eq_some_iff] at hw
  obtain ⟨s, hs, hr⟩ := hw
  exact ⟨s, hs, hr.symm⟩

section NoneWaiting

variable (hd : (start settings v state now).deferred = 0)
variable (hp : (start settings v state now).parked = 0)
include hd hp

/-- Where nobody waits, an ingress with a spec has its resource in the batch. -/
theorem mem_batch_of_spec (hnd : ((v.declared settings).map (·.id)).Nodup) {i : Ingress}
    (hi : i ∈ v.declared settings) {spec : Spec} (hs : settings.specOf v i = .ok spec) :
    { state.registry.carried i.id with desired := some spec } ∈
      (start settings v state now).batch := by
  have hentry : DesiredSet.entryOf settings v state.registry i =
      { state.registry.carried i.id with desired := some spec } := by
    rw [DesiredSet.entryOf, DesiredSet.entry, show Blueprint.desiredSpec _ i _ = .ok spec from hs]
  have hid : (DesiredSet.entryOf settings v state.registry i).id = i.id := DesiredSet.id_entry
  rw [← hentry]
  refine mem_batch_of_none_waiting hd hp ?_ ?_
  · rw [get?_working, hid, DesiredSet.get?_build_of_nodup hnd hi, Option.some_or]
  · rw [hid, Bool.eq_false_iff, Ne, DesiredSet.isHeld_build_of_nodup hnd hi]
    rintro ⟨e, he⟩
    rw [hs] at he
    cases he

/-- And a tracked resource that nobody declares is in the batch, to be torn down. -/
theorem mem_batch_of_undeclared (hdecl : ¬ v.Declares settings id) {s : Resource}
    (hs : state.registry.get? id = some s) : s.toRemoval ∈ (start settings v state now).batch := by
  have hid : s.toRemoval.id = id := (Registry.id_of_get? hs : s.id = id)
  have hlacks := mt (DesiredSet.contains_build state.registry).1 hdecl
  rw [Bool.not_eq_true] at hlacks
  refine mem_batch_of_none_waiting hd hp ?_ ?_
  · rw [Registry.contains_eq_isSome, Option.isSome_eq_false_iff, Option.isNone_iff_eq_none]
      at hlacks
    rw [get?_working, hid, hlacks, Option.none_or, hs, Option.map_some]
  · rw [hid, Bool.eq_false_iff, Ne, DesiredSet.isHeld_build]
    rintro ⟨i, hi, hi', -⟩
    exact hdecl ⟨i, hi, hi'⟩

end NoneWaiting

/-- **A resource of the batch asks for its load balancer to go exactly when nobody declares
it.** -/
theorem desired_eq_none_iff (h : r ∈ (start settings v state now).batch) :
    r.desired = none ↔ ¬ v.Declares settings r.id := by
  constructor
  · intro hnone hdecl
    obtain ⟨i, -, -, spec, -, hr⟩ := exists_spec_of_mem_batch h hdecl
    rw [hr] at hnone
    cases hnone
  · intro hdecl
    obtain ⟨s, -, hr⟩ := removal_of_mem_batch h hdecl
    rw [hr]
    rfl

end Flight

end IngressBalancer
