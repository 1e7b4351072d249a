import IngressBalancer.Proofs.Controller.Undeclared
import IngressBalancer.Proofs.Provider.Addresses
/-!
# States that a pass leaves alone

A state is quiescent for a view where a pass would find all as it should be
(`SyncState.Quiescent`): the registry has what the view declares, as far as
that is live; whatever is not held rests; and there are records of what is
held only. A pass in which all run and succeed leaves such a state
(`Flight.Attains.quiescent_commit`), since what an ingress asks for, it asks for again
(`DesiredSet.entry_again`). And a pass that sets out from there has nothing to
remove, lets nobody wait, and commits the same registry and the same records
(`SyncState.Quiescent.commit_eq`).
-/

namespace IngressBalancer

namespace DesiredSet

variable {ctx : Blueprint.Context} {targets : List String} {prior prior' : Registry}
variable {settings : Settings} {v : View} {id : ResourceId} {i : Ingress}

/-- **What an ingress asks for, it asks for again** where that is tracked. -/
theorem entry_again (h : prior'.get? i.id = some (entry ctx targets prior i)) :
    entry ctx targets prior' i = entry ctx targets prior i := by
  have hcarried : prior'.carried i.id = entry ctx targets prior i := by
    rw [Registry.carried, h, Option.getD_some]
  cases hs : Blueprint.desiredSpec ctx i targets with
  | error e => simp only [entry, hs] at hcarried ⊢; exact hcarried
  | ok spec => simp only [entry, hs] at hcarried ⊢; rw [hcarried]

/-- So it does as far as that is live: what is dropped starts from nothing, and is dropped
again. -/
theorem filter_entry_again
    (h : prior'.get? i.id = (some (entry ctx targets prior i)).filter Resource.isLive) :
    (some (entry ctx targets prior' i)).filter Resource.isLive =
      (some (entry ctx targets prior i)).filter Resource.isLive := by
  cases hlive : (entry ctx targets prior i).isLive with
  | true =>
    rw [Option.filter_some_pos hlive] at h
    rw [entry_again h]
  | false =>
    rw [Option.filter_some_neg hlive] at h
    have hblank : (entry ctx targets prior' i).handle = none := by
      rw [handle_entry, Registry.carried, h]
      rfl
    have hdead : (entry ctx targets prior' i).isLive = false := by
      rw [Resource.isLive, Resource.liveHandle?, hblank]
      rfl
    rw [Option.filter_some_neg hlive, Option.filter_some_neg hdead]

/-- What is held is the same, whatever was tracked. -/
theorem held_build (prior prior' : Registry) (id : ResourceId) :
    (build settings v prior).held.contains id = (build settings v prior').held.contains id := by
  rw [Bool.eq_iff_iff, isHeld_build, isHeld_build]

/-- What is held is declared. -/
theorem contains_of_isHeld (h : (build settings v prior).held.contains id = true) :
    (build settings v prior).resources.contains id = true := by
  obtain ⟨i, hi, hid, -⟩ := isHeld_build.1 h
  exact (contains_build prior).2 ⟨i, hi, hid⟩

end DesiredSet

/-- Whether a state is one that a pass for a view leaves alone, with some load balancers. -/
structure SyncState.Quiescent (settings : Settings) (v : View) (inv : Inventory) (s : SyncState) :
    Prop where
  entry : ∀ id, s.registry.get? id =
    ((DesiredSet.build settings v s.registry).resources.get? id).filter Resource.isLive
  rests : ∀ id r, (DesiredSet.build settings v s.registry).resources.get? id = some r →
    (DesiredSet.build settings v s.registry).held.contains id = false →
      r.Rests (inv.standing settings.scope id)
  held : ∀ id record, s.retries.get? id = some record →
    (DesiredSet.build settings v s.registry).held.contains id = true

variable {settings : Settings} {v : View} {inv : Inventory} {s : SyncState}
variable {now endedAt : Instant} {metrics : Metrics} {os : List Flight.Outcome}
variable {id : ResourceId} {r : Resource}

namespace SyncState.Quiescent

open Flight

variable (h : s.Quiescent settings v inv)
include h

/-! ## A pass that sets out -/

/-- **There is nothing to remove.** -/
theorem removed_eq_nil : (start settings v s now).removed = [] := by
  rw [List.eq_nil_iff_forall_not_mem]
  intro r hr
  obtain ⟨r', hr', hlacks, -⟩ := Registry.mem_removed.1 hr
  rw [h.entry, Option.filter_eq_some_iff] at hr'
  rw [Registry.contains_eq_isSome, hr'.1] at hlacks
  cases hlacks

theorem get?_working_eq : (start settings v s now).working.get? id =
    (DesiredSet.build settings v s.registry).resources.get? id := by
  rw [get?_working]
  cases hbuild : (DesiredSet.build settings v s.registry).resources.get? id with
  | some r => rw [Option.some_or]
  | none => rw [h.entry, hbuild, Option.none_or, Option.filter_none, Option.map_none]

/-- What is not held has no record, and runs. -/
theorem verdictOf_eq (now : Instant) (r : Resource) :
    verdictOf settings v s now r = none ∨ verdictOf settings v s now r = some .run := by
  rw [verdictOf, verdict]
  split
  · exact .inl rfl
  · next hfree =>
    right
    rw [RetryBook.check_fst_eq_run_iff.2 fun record hrecord => ?_]
    exact absurd (h.held r.id record (Option.filter_eq_some_iff.1 hrecord).1) hfree

/-- **Nobody waits, and nobody is parked.** -/
theorem none_waiting :
    (start settings v s now).deferred = 0 ∧ (start settings v s now).parked = 0 := by
  rw [selection_start.2.1, selection_start.2.2, List.countP_eq_zero, List.countP_eq_zero]
  constructor <;>
  · intro r _
    rcases h.verdictOf_eq now r with hv | hv <;> rw [hv] <;> exact Bool.false_ne_true

theorem retries_start : (start settings v s now).retries = s.retries := by
  refine RetryBook.ext_get? fun id => ?_
  cases hchecked : (start settings v s now).checked? id with
  | none => exact get?_retries_start_of_unchecked hchecked
  | some r =>
    rw [get?_retries_start hchecked]
    cases hrecord : s.retries.get? id with
    | none => rfl
    | some record =>
      have hfree := (checked?_eq_some.1 hchecked).1
      have hheld : (start settings v s now).desired.held.contains id = true :=
        h.held id record hrecord
      rw [hheld] at hfree
      cases hfree

/-- Whoever runs rests. -/
theorem rests_of_mem_batch (hr : r ∈ (start settings v s now).batch) :
    r.Rests (inv.standing settings.scope r.id) :=
  h.rests r.id r (h.get?_working_eq ▸ (mem_batch_iff.1 hr).1) (not_held_of_mem_batch hr)

/-! ## And lands -/

/-- **Where every attempt succeeds with what it was given, the registry and the records are as
they were.** -/
theorem commit_eq (hcovers : (start settings v s now).Covers os)
    (hsame : ∀ o ∈ os, ∃ r ∈ (start settings v s now).batch, o = (r.id, .ok r)) :
    ((start settings v s now).commit settings s metrics os endedAt).state.registry = s.registry ∧
      ((start settings v s now).commit settings s metrics os endedAt).state.retries =
        s.retries := by
  have hnd : (os.map (·.1)).Nodup := by
    rw [hcovers]
    exact nodup_batch
  have hkeep : KeepIds os := by
    intro o ho r hr
    obtain ⟨r', -, rfl⟩ := hsame o ho
    cases hr
    rfl
  -- what was attempted is what is worked on
  have hmem : ∀ id ∈ os.map (·.1), ∃ r ∈ (start settings v s now).batch, r.id = id ∧
      (id, .ok r) ∈ os := by
    intro id hid
    obtain ⟨o, ho, rfl⟩ := List.mem_map.1 hid
    obtain ⟨r, hr, rfl⟩ := hsame o ho
    exact ⟨r, hr, rfl, ho⟩
  constructor
  · refine Registry.ext_get? fun id => ?_
    have hworking : (start settings v s now).working.get? id =
        (DesiredSet.build settings v s.registry).resources.get? id := h.get?_working_eq
    rw [h.entry, ← hworking]
    by_cases hid : id ∈ os.map (·.1)
    · obtain ⟨r, hr, rfl, ho⟩ := hmem id hid
      rw [get?_commit_ok hnd hkeep ho, (mem_batch_iff.1 hr).1]
    · exact get?_commit_idle hkeep hid
  · refine RetryBook.ext_get? fun id => ?_
    by_cases hid : id ∈ os.map (·.1)
    · obtain ⟨r, hr, rfl, ho⟩ := hmem id hid
      rw [get?_retries_commit_ok hnd hkeep ho]
      cases hrecord : s.retries.get? r.id with
      | none => rfl
      | some record =>
        have hfree := not_held_of_mem_batch hr
        rw [h.held r.id record hrecord] at hfree
        cases hfree
    · rw [get?_retries_commit_idle hkeep hid, h.retries_start]
      cases hrecord : s.retries.get? id with
      | none => rfl
      | some record =>
        have hdeclared : (start settings v s now).desired.resources.contains id = true :=
          DesiredSet.contains_of_isHeld (h.held id record hrecord)
        rw [Option.filter_some_pos (by rw [tracks, hdeclared, Bool.true_or])]

end SyncState.Quiescent

/-! ## A pass that leaves a quiescent state -/

namespace Flight

/-- What is held is left alone. -/
theorem get?_commit_of_held
    (hwhole : (Episode.pass (start settings v s now) os endedAt).IsWhole settings s)
    (hheld : (DesiredSet.build settings v s.registry).held.contains id = true) :
    ((start settings v s now).commit settings s .empty os endedAt).state.registry.get? id =
      ((start settings v s now).working.get? id).filter Resource.isLive := by
  obtain ⟨-, hcovers, hkeep⟩ := hwhole
  refine get?_commit_idle hkeep ?_
  rw [hcovers]
  intro hmem
  obtain ⟨r, hr, rfl⟩ := List.mem_map.1 hmem
  rw [not_held_of_mem_batch hr] at hheld
  cases hheld

/-- Whether a pass that lands has come to all that it was to: nobody had to wait, and whoever ran
has become what it asked for. -/
structure Attains (settings : Settings) (v : View) (s : SyncState) (now : Instant)
    (os : List Outcome) (endedAt : Instant) (inv : Inventory) : Prop where
  deferred : (start settings v s now).deferred = 0
  parked : (start settings v s now).parked = 0
  whole : (Episode.pass (start settings v s now) os endedAt).IsWhole settings s
  becomes : ∀ r ∈ (start settings v s now).batch, ∃ r', (r.id, .ok r') ∈ os ∧
    r.Becomes r' (inv.standing settings.scope r.id)

namespace Attains

variable (h : Attains settings v s now os endedAt inv)
include h

theorem nodup : (os.map (·.1)).Nodup := by
  rw [h.whole.2.1]
  exact nodup_batch

/-- What is worked on and not held runs. -/
theorem mem_batch (hr : (start settings v s now).working.get? id = some r)
    (hheld : (DesiredSet.build settings v s.registry).held.contains id = false) :
    r ∈ (start settings v s now).batch ∧ r.id = id := by
  have hid : r.id = id := Registry.id_of_get? hr
  subst hid
  exact ⟨mem_batch_of_none_waiting h.deferred h.parked hr hheld, rfl⟩

/-- And has the entry that it has become. -/
theorem exists_becomes (hr : (start settings v s now).working.get? id = some r)
    (hheld : (DesiredSet.build settings v s.registry).held.contains id = false) :
    ∃ r', r.Becomes r' (inv.standing settings.scope id) ∧
      ((start settings v s now).commit settings s .empty os endedAt).state.registry.get? id =
        (some r').filter Resource.isLive := by
  obtain ⟨hmem, rfl⟩ := h.mem_batch hr hheld
  obtain ⟨r', ho, hr'⟩ := h.becomes r hmem
  exact ⟨r', hr', get?_commit_ok h.nodup h.whole.2.2 ho⟩

/-- What nobody declares is gone. -/
theorem get?_commit_of_undeclared (hdecl : ¬ v.Declares settings id) :
    ((start settings v s now).commit settings s .empty os endedAt).state.registry.get? id =
      none := by
  have hworking : (start settings v s now).working.get? id =
      (s.registry.get? id).map Resource.toRemoval := by
    rw [get?_working, get?_build_of_undeclared hdecl, Option.none_or]
  cases hs : s.registry.get? id with
  | some r =>
    rw [hs, Option.map_some] at hworking
    have hheld : (start settings v s now).desired.held.contains id = false :=
      held_of_undeclared hdecl
    obtain ⟨r', hr', hget⟩ := h.exists_becomes hworking hheld
    rw [hget, Option.filter_some_neg (hr'.dead rfl)]
  | none =>
    rw [hs, Option.map_none] at hworking
    have hidle : id ∉ os.map (·.1) := by
      rw [h.whole.2.1]
      rintro hmem
      obtain ⟨r, hr, rfl⟩ := List.mem_map.1 hmem
      rw [(mem_batch_iff.1 hr).1] at hworking
      cases hworking
    rw [get?_commit_idle h.whole.2.2 hidle, hworking, Option.filter_none]

/-- What is declared and not held has the entry that it asks for again, and rests. -/
theorem exists_rests {i : Ingress}
    (hlast : (v.declared settings).reverse.find? (·.id = i.id) = some i)
    (hheld : (DesiredSet.build settings v s.registry).held.contains i.id = false) :
    let registry := ((start settings v s now).commit settings s .empty os endedAt).state.registry
    ∃ r, registry.get? i.id = some r ∧ DesiredSet.entryOf settings v registry i = r ∧
      r.Rests (inv.standing settings.scope i.id) := by
  intro registry
  obtain ⟨spec, hs⟩ : ∃ spec, settings.specOf v i = .ok spec := by
    cases hs : settings.specOf v i with
    | ok spec => exact ⟨spec, rfl⟩
    | error e =>
      have hi := List.mem_reverse.1 (List.mem_of_find?_eq_some hlast)
      rw [DesiredSet.isHeld_build.2 ⟨i, hi, rfl, e, hs⟩] at hheld
      cases hheld
  have hentry : ∀ prior, DesiredSet.entryOf settings v prior i =
      { prior.carried i.id with desired := some spec } := by
    intro prior
    rw [DesiredSet.entryOf, DesiredSet.entry, show Blueprint.desiredSpec _ i _ = .ok spec from hs]
  have hworking : (start settings v s now).working.get? i.id =
      some { s.registry.carried i.id with desired := some spec } := by
    rw [get?_working, DesiredSet.get?_build, hlast, Option.map_some, Option.some_or, hentry]
  obtain ⟨r', hr', hget⟩ := h.exists_becomes hworking hheld
  have hrests := hr'.rests (Option.some_ne_none spec)
  rw [Option.filter_some_pos hrests.isLive] at hget
  refine ⟨r', hget, ?_, hrests⟩
  have hdesired : r'.desired = some spec := hr'.desired
  rw [hentry, Registry.carried, hget, Option.getD_some, ← hdesired]

/-- A record that is left is that of a held id. -/
theorem held_of_get?_retries {record : RetryRecord}
    (hrecord : ((start settings v s now).commit settings s .empty os endedAt).state.retries.get? id =
      some record) :
    (DesiredSet.build settings v s.registry).held.contains id = true := by
  by_contra hfree
  rw [Bool.not_eq_true] at hfree
  obtain ⟨-, hcovers, hkeep⟩ := h.whole
  -- the id is tracked, so it was worked on
  have hworked : (start settings v s now).working.contains id = true := by
    rcases contains_of_retries_commit hrecord with hdesired | hregistry
    · exact contains_working.2 (.inl ((DesiredSet.contains_build s.registry).1 hdesired))
    · exact contains_of_commit hkeep (fun r hr => contains_of_mem_batch hr) hcovers hregistry
  -- and it was not held, so it has succeeded, which wipes its record
  obtain ⟨r, hr⟩ := Option.isSome_iff_exists.1 (Registry.contains_eq_isSome.symm.trans hworked)
  obtain ⟨hmem, rfl⟩ := h.mem_batch hr hfree
  obtain ⟨r', ho, -⟩ := h.becomes r hmem
  rw [get?_retries_commit_ok h.nodup hkeep ho] at hrecord
  cases hrecord

/-- **A pass that has come to all that it was to leaves a quiescent state.** -/
theorem quiescent_commit :
    ((start settings v s now).commit settings s .empty os endedAt).state.Quiescent
      settings v inv := by
  have hid : ∀ {id i}, (v.declared settings).reverse.find? (·.id = id) = some i → i.id = id :=
    fun hfind => by simpa using List.find?_some hfind
  constructor
  · intro id
    rw [DesiredSet.get?_build]
    cases hfind : (v.declared settings).reverse.find? (·.id = id) with
    | none =>
      refine h.get?_commit_of_undeclared ?_
      rintro ⟨i, hi, rfl⟩
      rw [List.find?_eq_none] at hfind
      exact hfind i (List.mem_reverse.2 hi) (decide_eq_true rfl)
    | some i =>
      obtain rfl := hid hfind
      rw [Option.map_some]
      cases hheld : (DesiredSet.build settings v s.registry).held.contains i.id with
      | true =>
        have hget := get?_commit_of_held h.whole hheld
        rw [get?_working, DesiredSet.get?_build, hfind, Option.map_some, Option.some_or] at hget
        exact hget.trans (DesiredSet.filter_entry_again hget).symm
      | false =>
        obtain ⟨r, hr, hentry, hrests⟩ := h.exists_rests hfind hheld
        rw [hr, hentry, Option.filter_some_pos hrests.isLive]
  · intro id r hr hheld
    rw [DesiredSet.held_build _ s.registry] at hheld
    rw [DesiredSet.get?_build, Option.map_eq_some_iff] at hr
    obtain ⟨i, hfind, rfl⟩ := hr
    obtain rfl := hid hfind
    obtain ⟨r, -, hentry, hrests⟩ := h.exists_rests hfind hheld
    exact hentry ▸ hrests
  · intro id record hrecord
    rw [DesiredSet.held_build _ s.registry]
    exact h.held_of_get?_retries hrecord

end Attains

end Flight

end IngressBalancer
