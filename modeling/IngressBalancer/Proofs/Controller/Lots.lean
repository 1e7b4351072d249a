import IngressBalancer.Proofs.Controller.Handles
import IngressBalancer.Proofs.Controller.Records
import Mathlib.Data.Set.Card
/-!
# The lots of a pass

Whatever is declared or to be removed falls to one lot of a pass: it is held,
dispatched, deferred or parked. The lot of an id is told by what the cluster
declares and by the retry book as it stood before the pass (`Flight.InLot`),
although the pass changes the book while it sorts. No id falls to two lots
(`InLot.unique`), and each counter of the pass is the size of its lot
(`held_eq_ncard`, `dispatched_eq_ncard`, `deferred_eq_ncard`,
`parked_eq_ncard`), so they add up to what there was to sort (`sum_lots`).
-/

namespace IngressBalancer

/-- The members of a list without duplicates are as many as its length. -/
theorem ncard_of_nodup {α : Type} [DecidableEq α] {l : List α} (h : l.Nodup) :
    {a | a ∈ l}.ncard = l.length := by
  rw [← List.coe_toFinset, Set.ncard_coe_finset, List.toFinset_card_of_nodup h]

/-- And only then. -/
theorem ncard_eq_length_iff {α : Type} [DecidableEq α] {l : List α} :
    {a | a ∈ l}.ncard = l.length ↔ l.Nodup := by
  refine ⟨fun h => ?_, ncard_of_nodup⟩
  rw [← List.coe_toFinset, Set.ncard_coe_finset, List.card_toFinset] at h
  exact List.dedup_eq_self.1 ((List.dedup_sublist l).eq_of_length h)

/-- The keys of a map are as many as its entries. -/
theorem SortedMap.ncard_keys {κ α : Type} [Ord κ] [Std.TransOrd κ] [Std.LawfulEqOrd κ]
    [DecidableEq κ] (m : SortedMap κ α) : {k | m.contains k = true}.ncard = m.size := by
  have hkeys : {k | m.contains k = true} = {k | k ∈ m.keys} :=
    Set.ext fun k => SortedMap.contains_iff
  rw [hkeys, ncard_of_nodup m.nodup_keys, keys, List.length_map, size]

theorem Registry.length_toList (g : Registry) : g.toList.length = g.size := by
  rw [toList, SortedMap.values, List.length_map, size, SortedMap.size]

theorem Registry.length_ids (g : Registry) : g.ids.length = g.size := by
  rw [← map_id_toList, List.length_map, length_toList]

namespace Flight

variable {settings : Settings} {v : View} {state : SyncState} {now : Instant}
variable {id : ResourceId} {r : Resource}

/-- What a pass makes of something that is declared or to be removed. -/
inductive Lot
  | held
  | dispatched
  | deferred
  | parked
deriving DecidableEq, Repr

/-- The lot to which a verdict leads. -/
def lotOf : Option Dispatch → Lot
  | none => .held
  | some .run => .dispatched
  | some (.backoff _) => .deferred
  | some (.parked _) => .parked

/-- Whether an id falls to a lot of a pass. It is held where an ingress that declares it has no
spec, and dispatched where it is in the batch; else its record from before the pass is for the same
spec, and says whether it is parked or has to wait. -/
def InLot (settings : Settings) (v : View) (state : SyncState) (now : Instant)
    (id : ResourceId) : Lot → Prop
  | .held => ∃ i ∈ v.declared settings, i.id = id ∧ ∃ e, settings.specOf v i = .error e
  | .dispatched => id ∈ (start settings v state now).batch.map (·.id)
  | .deferred => ∃ r, (start settings v state now).checked? id = some r ∧
      ∃ record, state.retries.get? id = some record ∧ record.desired = r.desired ∧
        record.isParked settings.retry.maxFailures = false ∧ now < record.nextAttempt
  | .parked => ∃ r, (start settings v state now).checked? id = some r ∧
      ∃ record, state.retries.get? id = some record ∧ record.desired = r.desired ∧
        record.isParked settings.retry.maxFailures = true

/-! ## The lot of a verdict -/

/-- What is held is declared, and so worked on. -/
theorem exists_working_of_held
    (h : (DesiredSet.build settings v state.registry).held.contains id = true) :
    ∃ r, (start settings v state now).working.get? id = some r := by
  obtain ⟨i, hi, hid, -⟩ := DesiredSet.isHeld_build.1 h
  have hc : (start settings v state now).working.contains id = true :=
    contains_working.2 (.inl ⟨i, hi, hid⟩)
  exact Option.isSome_iff_exists.1 (Registry.contains_eq_isSome.symm.trans hc)

theorem lotOf_eq_held_iff : lotOf (verdictOf settings v state now r) = .held ↔
    (DesiredSet.build settings v state.registry).held.contains r.id = true := by
  unfold verdictOf verdict
  split
  · next h => simp [lotOf, h]
  · next h =>
    rw [Bool.not_eq_true] at h
    rcases (state.retries.check r settings.retry now).1 with _ | _ | _ <;> simp [lotOf, h]

theorem lotOf_eq_dispatched_iff : lotOf (verdictOf settings v state now r) = .dispatched ↔
    verdictOf settings v state now r = some .run := by
  rcases verdictOf settings v state now r with _ | _ | _ | _ <;> simp [lotOf]

/-- What is not held and does not run is kept from it by its record. -/
theorem lotOf_of_checked
    (h : (DesiredSet.build settings v state.registry).held.contains r.id = false) :
    (lotOf (verdictOf settings v state now r) = .deferred ↔
      ∃ record, state.retries.get? r.id = some record ∧ record.desired = r.desired ∧
        record.isParked settings.retry.maxFailures = false ∧ now < record.nextAttempt) ∧
    (lotOf (verdictOf settings v state now r) = .parked ↔
      ∃ record, state.retries.get? r.id = some record ∧ record.desired = r.desired ∧
        record.isParked settings.retry.maxFailures = true) := by
  unfold verdictOf verdict RetryBook.check
  rw [if_neg (by rw [h]; exact Bool.false_ne_true)]
  cases state.retries.get? r.id with
  | none => simp [lotOf]
  | some record =>
    by_cases hd : record.desired = r.desired
    · cases hp : record.isParked settings.retry.maxFailures
      · by_cases hn : now < record.nextAttempt <;> simp [lotOf, hd, hp, hn]
      · simp [lotOf, hd, hp]
    · simp [lotOf, hd]

/-- What falls to another lot than the held is what is checked. -/
theorem exists_checked_iff {lot : Lot} (hlot : lot ≠ .held) :
    (∃ r, (start settings v state now).checked? id = some r ∧
      lotOf (verdictOf settings v state now r) = lot) ↔
    ∃ r, (start settings v state now).working.get? id = some r ∧
      lotOf (verdictOf settings v state now r) = lot := by
  refine exists_congr fun r => and_congr_left fun hr => ?_
  rw [checked?_eq_some]
  refine and_iff_right_of_imp fun hget => Bool.eq_false_iff.2 fun hheld => hlot ?_
  have hid : r.id = id := Registry.id_of_get? hget
  rw [← hr]
  exact lotOf_eq_held_iff.2 (hid.symm ▸ hheld)

/-- **An id falls to the lot of its verdict.** -/
theorem inLot_iff {lot : Lot} : InLot settings v state now id lot ↔
    ∃ r, (start settings v state now).working.get? id = some r ∧
      lotOf (verdictOf settings v state now r) = lot := by
  have hid : ∀ {r}, (start settings v state now).working.get? id = some r → r.id = id :=
    Registry.id_of_get?
  -- what is checked is not held
  have hfree : ∀ {r}, (start settings v state now).checked? id = some r → r.id = id ∧
      (DesiredSet.build settings v state.registry).held.contains r.id = false := by
    intro r hr
    obtain ⟨hheld, hget⟩ := checked?_eq_some.1 hr
    exact ⟨hid hget, (hid hget).symm ▸ hheld⟩
  cases lot with
  | held =>
    have hheld : (DesiredSet.build settings v state.registry).held.contains id = true ↔ _ :=
      DesiredSet.isHeld_build
    rw [InLot, ← hheld]
    constructor
    · intro h
      obtain ⟨r, hr⟩ : ∃ r, (start settings v state now).working.get? id = some r :=
        exists_working_of_held h
      exact ⟨r, hr, lotOf_eq_held_iff.2 (hid hr ▸ h)⟩
    · rintro ⟨r, hr, hlot⟩
      exact hid hr ▸ lotOf_eq_held_iff.1 hlot
  | dispatched =>
    rw [InLot, List.mem_map]
    constructor
    · rintro ⟨r, hr, rfl⟩
      obtain ⟨hget, hrun⟩ := mem_batch_iff.1 hr
      exact ⟨r, hget, lotOf_eq_dispatched_iff.2 hrun⟩
    · rintro ⟨r, hr, hlot⟩
      exact ⟨r, mem_batch_iff.2 ⟨(hid hr).symm ▸ hr, lotOf_eq_dispatched_iff.1 hlot⟩, hid hr⟩
  | deferred =>
    rw [InLot, ← exists_checked_iff (by decide)]
    refine exists_congr fun r => and_congr_right fun hr => ?_
    obtain ⟨rfl, hheld⟩ := hfree hr
    exact (lotOf_of_checked hheld).1.symm
  | parked =>
    rw [InLot, ← exists_checked_iff (by decide)]
    refine exists_congr fun r => and_congr_right fun hr => ?_
    obtain ⟨rfl, hheld⟩ := hfree hr
    exact (lotOf_of_checked hheld).2.symm

/-- **No id falls to two lots.** -/
theorem InLot.unique {lot lot' : Lot} (h : InLot settings v state now id lot)
    (h' : InLot settings v state now id lot') : lot = lot' := by
  obtain ⟨r, hr, rfl⟩ := inLot_iff.1 h
  obtain ⟨r', hr', rfl⟩ := inLot_iff.1 h'
  rw [hr] at hr'
  cases hr'
  rfl

/-- **Whatever is declared or to be removed falls to a lot**, and nothing else does. -/
theorem exists_inLot_iff : (∃ lot, InLot settings v state now id lot) ↔
    v.Declares settings id ∨ id ∈ (start settings v state now).removed.map (·.id) := by
  have hworking : (∃ lot, InLot settings v state now id lot) ↔
      (start settings v state now).working.contains id = true := by
    simp only [inLot_iff, Registry.contains_eq_isSome, Option.isSome_iff_exists]
    constructor
    · rintro ⟨lot, r, hr, -⟩
      exact ⟨r, hr⟩
    · rintro ⟨r, hr⟩
      exact ⟨_, r, hr, rfl⟩
  have hremoved : (start settings v state now).removed.map (·.id) =
    state.registry.ids.filter fun id =>
      !(DesiredSet.build settings v state.registry).resources.contains id :=
    Registry.map_id_removed _ _
  rw [hworking, contains_working, hremoved, List.mem_filter, Registry.mem_ids_iff]
  rw [← DesiredSet.contains_build state.registry]
  cases (DesiredSet.build settings v state.registry).resources.contains id <;> simp

/-! ## The sizes of the lots -/

/-- What is worked on is what is declared and what is to be removed, each once. -/
theorem size_working : (start settings v state now).working.size =
    (start settings v state now).desired.resources.size +
      (start settings v state now).removed.length := by
  let f := start settings v state now
  have hdisjoint : ∀ id ∈ f.desired.resources.ids, ∀ id' ∈ f.removed.map (·.id), id ≠ id' := by
    rintro id hid _ hid' rfl
    obtain ⟨r, hr, rfl⟩ := List.mem_map.1 hid'
    obtain ⟨-, -, hlacks, -⟩ := Registry.mem_removed.1 hr
    have hhas : (DesiredSet.build settings v state.registry).resources.contains r.id = true :=
      Registry.mem_ids_iff.1 hid
    rw [hhas] at hlacks
    cases hlacks
  have hnodup : (f.desired.resources.ids ++ f.removed.map (·.id)).Nodup :=
    List.nodup_append.2 ⟨f.desired.resources.nodup_ids, Registry.nodup_removed _ _, hdisjoint⟩
  have hperm : f.working.ids.Perm (f.desired.resources.ids ++ f.removed.map (·.id)) := by
    refine (List.perm_ext_iff_of_nodup f.working.nodup_ids hnodup).2 fun id => ?_
    have hdeclared : id ∈ f.desired.resources.ids ↔ v.Declares settings id :=
      Registry.mem_ids_iff.trans (DesiredSet.contains_build _)
    rw [List.mem_append, hdeclared, ← exists_inLot_iff, Registry.mem_ids_iff,
      Registry.contains_eq_isSome, Option.isSome_iff_exists]
    simp only [inLot_iff]
    constructor
    · rintro ⟨r, hr⟩
      exact ⟨_, r, hr, rfl⟩
    · rintro ⟨lot, r, hr, -⟩
      exact ⟨r, hr⟩
  rw [← Registry.length_ids, ← Registry.length_ids, hperm.length_eq, List.length_append,
    List.length_map]

/-- The declared ids are as many as the desired set is large. -/
theorem declared_eq_ncard : (start settings v state now).desired.resources.size =
    {id | v.Declares settings id}.ncard := by
  have hids : {id | v.Declares settings id} =
      {id | id ∈ (start settings v state now).desired.resources.ids} :=
    Set.ext fun id => ((Registry.mem_ids_iff.trans (DesiredSet.contains_build _))).symm
  rw [hids, ncard_of_nodup (Registry.nodup_ids _), Registry.length_ids]

/-- The size of a lot is the number of verdicts that lead to it. -/
theorem ncard_inLot (lot : Lot) : {id | InLot settings v state now id lot}.ncard =
    (start settings v state now).working.toList.countP
      fun r => lotOf (verdictOf settings v state now r) = lot := by
  let rs := (start settings v state now).working.toList.filter
    fun r => lotOf (verdictOf settings v state now r) = lot
  have hids : {id | InLot settings v state now id lot} = {id | id ∈ rs.map (·.id)} := by
    ext id
    simp only [Set.mem_ofPred_eq, inLot_iff, rs, List.mem_map, List.mem_filter,
      Registry.mem_toList_iff, decide_eq_true_eq]
    constructor
    · rintro ⟨r, hr, hlot⟩
      have hid : r.id = id := Registry.id_of_get? hr
      exact ⟨r, ⟨hid.symm ▸ hr, hlot⟩, hid⟩
    · rintro ⟨r, ⟨hr, hlot⟩, rfl⟩
      exact ⟨r, hr, hlot⟩
  have hnodup : (rs.map (·.id)).Nodup := by
    refine List.Nodup.sublist (List.filter_sublist.map _) ?_
    rw [Registry.map_id_toList]
    exact Registry.nodup_ids _
  rw [hids, ncard_of_nodup hnodup, List.length_map, List.countP_eq_length_filter]

theorem held_eq_ncard : (start settings v state now).desired.held.size =
    {id | InLot settings v state now id .held}.ncard := by
  have hids : {id | InLot settings v state now id .held} =
      {id | (start settings v state now).desired.held.contains id = true} :=
    Set.ext fun id => DesiredSet.isHeld_build.symm
  rw [hids, SortedMap.ncard_keys]

theorem dispatched_eq_ncard : (start settings v state now).batch.length =
    {id | InLot settings v state now id .dispatched}.ncard := by
  have hids : {id | InLot settings v state now id .dispatched} =
    {id | id ∈ (start settings v state now).batch.map (·.id)} := rfl
  rw [hids, ncard_of_nodup nodup_batch, List.length_map]

theorem deferred_eq_ncard : (start settings v state now).deferred =
    {id | InLot settings v state now id .deferred}.ncard := by
  rw [ncard_inLot, selection_start.2.1]
  refine List.countP_congr fun r _ => ?_
  rcases verdictOf settings v state now r with _ | _ | _ | _ <;> simp [lotOf, waits]

theorem parked_eq_ncard : (start settings v state now).parked =
    {id | InLot settings v state now id .parked}.ncard := by
  rw [ncard_inLot, selection_start.2.2]
  refine List.countP_congr fun r _ => ?_
  rcases verdictOf settings v state now r with _ | _ | _ | _ <;> simp [lotOf, parks]

/-- Things that each have a lot are as many as those of all lots together. -/
theorem length_eq_sum_countP {α : Type} (lot : α → Lot) (l : List α) :
    l.length = l.countP (lot · = .held) + l.countP (lot · = .dispatched) +
      l.countP (lot · = .deferred) + l.countP (lot · = .parked) := by
  induction l with
  | nil => rfl
  | cons a l ih =>
    simp only [List.length_cons, List.countP_cons]
    cases lot a <;> simp <;> omega

/-- **The counters of a pass add up to what is declared and what is to be removed.** -/
theorem sum_lots : (start settings v state now).desired.resources.size +
      (start settings v state now).removed.length =
    (start settings v state now).desired.held.size + (start settings v state now).batch.length +
      (start settings v state now).deferred + (start settings v state now).parked := by
  rw [← size_working, ← Registry.length_toList,
    length_eq_sum_countP (fun r => lotOf (verdictOf settings v state now r)), ← ncard_inLot,
    ← ncard_inLot, ← ncard_inLot, ← ncard_inLot, ← held_eq_ncard, ← dispatched_eq_ncard,
    ← deferred_eq_ncard, ← parked_eq_ncard]

/-! ## Outcomes and entries -/

variable {f : Flight} {os : List Outcome} {metrics : Metrics} {policy : RetryPolicy}

theorem succeeded_foldl_take (os : List Outcome) (t : Tally) :
    (os.foldl (Tally.take policy now) t).succeeded = t.succeeded + (successes os).length := by
  induction os generalizing t with
  | nil => rfl
  | cons o os ih =>
    obtain ⟨id, e | r⟩ := o
    · have hsame : (t.fail policy now id e).succeeded = t.succeeded := by
        simp only [Tally.fail]
        split <;> rfl
      exact (ih (t.fail policy now id e)).trans (by rw [hsame]; rfl)
    · have hone : (successes ((id, .ok r) :: os)).length = (successes os).length + 1 := rfl
      refine (ih (t.take policy now (id, .ok r))).trans ?_
      rw [hone, Tally.take]
      simp only
      omega

theorem succeeded_commit : (f.commit settings state metrics os now).report.succeeded =
    (successes os).length :=
  (succeeded_foldl_take os ⟨f.working, f.retries, metrics, [], 0, 0⟩).trans (Nat.zero_add _)

/-- Each outcome is a success or a failure. -/
theorem length_successes_add_failures (os : List Outcome) :
    (successes os).length + failures os = os.length := by
  induction os with
  | nil => rfl
  | cons o os ih =>
    obtain ⟨id, e | r⟩ := o
    · have hfail : failures ((id, .error e) :: os) = failures os + 1 :=
        List.countP_cons_of_pos rfl
      have hsame : successes ((id, .error e) :: os) = successes os := rfl
      rw [hfail, hsame, List.length_cons]
      omega
    · have hone : (successes ((id, .ok r) :: os)).length = (successes os).length + 1 := rfl
      have hsame : failures ((id, .ok r) :: os) = failures os :=
        List.countP_cons_of_neg Bool.false_ne_true
      rw [hone, hsame, List.length_cons]
      omega

/-- **Everything that is dispatched succeeds or fails.** -/
theorem dispatched_commit (hc : f.Covers os) :
    let report := (f.commit settings state metrics os now).report
    report.dispatched = report.succeeded + report.failed := by
  intro report
  have hlength : os.length = f.batch.length := by
    simpa only [List.length_map] using congrArg List.length hc
  show f.batch.length = report.succeeded + report.failed
  rw [succeeded_commit, failed_commit, length_successes_add_failures, hlength]

/-- **Everything that was worked on is tracked afterwards or purged.** -/
theorem tracked_add_purged_commit (hw : ∀ r ∈ f.batch, f.working.contains r.id = true)
    (hc : f.Covers os) (hk : KeepIds os) :
    let report := (f.commit settings state metrics os now).report
    report.tracked + report.purged = f.working.size := by
  intro report
  have htracked : report.tracked = (f.settled os).retainLive.live.size := by
    rw [settled, ← (foldl_take os ⟨f.working, f.retries, metrics, [], 0, 0⟩).1]
    rfl
  have hpurged : report.purged = (f.settled os).retainLive.dropped.length := by
    rw [settled, ← (foldl_take os ⟨f.working, f.retries, metrics, [], 0, 0⟩).1]
    rfl
  have hsize : (f.settled os).toList.length = f.working.size := by
    rw [Registry.length_toList, ← Registry.length_ids, ids_settled hw hc hk, Registry.length_ids]
  have hlive : (f.settled os).retainLive.live.size =
      ((f.settled os).toList.filter Resource.isLive).length := by
    rw [← Registry.length_toList, Registry.toList_live]
  rw [htracked, hpurged, hlive, ← hsize]
  exact (List.length_eq_length_filter_add Resource.isLive).symm

end Flight

end IngressBalancer
