import IngressBalancer.Proofs.Controller.Lots
import IngressBalancer.Proofs.World.Accounts
import IngressBalancer.Proofs.World.Isolation
/-!
# Passes balance

The report of a pass accounts for each id once (`PassReport.Balances`). What
it sorts are the ids that are declared and those that it removes; each falls
to one lot, the counters are the sizes of the lots, and what is dispatched
succeeds or fails. **Every pass balances** (`pass_balances`), whatever has
happened before and happens meanwhile, and calls the provider once for each
id that it dispatches and for no other.
-/

namespace IngressBalancer

variable {settings : Settings} {v : View} {s : SyncState} {startedAt now : Instant}
variable {f : Flight} {os : List Flight.Outcome} {metrics : Metrics}

/-- How many a report says there are of a lot. -/
def PassReport.count (report : PassReport) : Flight.Lot → Nat
  | .held => report.held
  | .dispatched => report.dispatched
  | .deferred => report.deferred
  | .parked => report.parked

/-- Whether the report of a pass that set out from a state, with what the cluster showed then,
accounts for each id once. -/
structure PassReport.Balances (report : PassReport) (settings : Settings) (v : View)
    (s : SyncState) (startedAt : Instant) : Prop where
  /-- Two ingresses with one id are one declared id. -/
  declared : report.declared = {id | v.Declares settings id}.ncard
  removed : ∀ id, id ∈ report.removed ↔ s.registry.contains id = true ∧ ¬ v.Declares settings id
  increasing : report.removed.Pairwise fun a b => compare a b = .lt
  /-- What is declared or removed falls to one lot. -/
  lot : ∀ id, v.Declares settings id ∨ id ∈ report.removed →
    ∃! lot, Flight.InLot settings v s startedAt id lot
  /-- And nothing else falls to any. -/
  sorted : ∀ id lot, Flight.InLot settings v s startedAt id lot →
    v.Declares settings id ∨ id ∈ report.removed
  size : ∀ lot, report.count lot = {id | Flight.InLot settings v s startedAt id lot}.ncard
  sum : report.declared + report.removed.length =
    report.held + report.dispatched + report.deferred + report.parked
  outcomes : report.dispatched = report.succeeded + report.failed
  entries : report.tracked + report.purged = report.declared + report.removed.length

/-- **The report of a whole pass accounts for each id once.** -/
theorem Flight.balances_commit (he : (Episode.pass f os now).IsWhole settings s)
    (hf : f = .start settings v s startedAt) (settings' : Settings) (s' : SyncState)
    (metrics : Metrics) :
    (f.commit settings' s' metrics os now).report.Balances settings v s startedAt := by
  obtain ⟨-, hcovers, hkeep⟩ := he
  subst hf
  let f := start settings v s startedAt
  let report := (f.commit settings' s' metrics os now).report
  have hremoved : report.removed = s.registry.ids.filter fun id =>
      !(DesiredSet.build settings v s.registry).resources.contains id :=
    Registry.map_id_removed _ _
  have hsorted : ∀ id, (∃ lot, InLot settings v s startedAt id lot) ↔
      v.Declares settings id ∨ id ∈ report.removed := fun _ => exists_inLot_iff
  have hlength : report.removed.length = f.removed.length := List.length_map _
  refine ⟨declared_eq_ncard, fun id => ?_, ?_, fun id hid => ?_, fun id lot h => ?_,
    fun lot => ?_, ?_, dispatched_commit hcovers, ?_⟩
  · show id ∈ report.removed ↔ _
    rw [hremoved, List.mem_filter, Registry.mem_ids_iff, Bool.not_eq_true', ← Bool.not_eq_true,
      DesiredSet.contains_build]
  · show report.removed.Pairwise _
    rw [hremoved]
    exact s.registry.map.pairwise_keys.filter _
  · obtain ⟨lot, h⟩ := (hsorted id).2 hid
    exact ⟨lot, h, fun lot' h' => h'.unique h⟩
  · exact (hsorted id).1 ⟨lot, h⟩
  · cases lot with
    | held => exact held_eq_ncard
    | dispatched => exact dispatched_eq_ncard
    | deferred => exact deferred_eq_ncard
    | parked => exact parked_eq_ncard
  · show f.desired.resources.size + report.removed.length = _
    rw [hlength]
    exact sum_lots
  · refine (tracked_add_purged_commit (fun r hr => contains_of_mem_batch hr) hcovers hkeep).trans ?_
    show f.working.size = f.desired.resources.size + report.removed.length
    rw [hlength]
    exact size_working

namespace World

variable {view : View} {rig : Rig} {monitor : Monitor} {es : List Episode} {u w : World}
variable {t t' : Task} {attempts : List Attempt}

/-- **Every pass balances.** Take whatever has happened to a controller, and a pass that sets out
then and lands, whatever happens meanwhile, with attempts that keep the ids of their resources.
However many ingresses share an id, each id that is declared or removed falls to exactly one lot;
the counters of the report are the sizes of the lots and add up to what there was to sort; what is
dispatched succeeds or fails, and what was sorted is tracked or purged; and what is removed is
listed in strictly increasing order, with nothing declared among it. The provider is called once
for each id that is dispatched, and for no other. -/
theorem pass_balances (hbefore : Runs .any (World.new settings view rig monitor) es u)
    (ht : t ∈ u.tasks) (hact : t.activity = .queued .converge)
    (hheld : u.lock.isHeldBy t.number = true) (hduring : Runs .any (u.takeOff t) [] w)
    (ht' : t' ∈ w.tasks) (hact' : t'.activity = .converging f attempts)
    (hos : outcomes? attempts = some os) :
    (w.landingReport f os).Balances settings u.view u.state u.now ∧
    ∃ calls, w.calls = u.calls ++ calls ∧ (calls.map (·.id)).Nodup ∧
      ∀ id, id ∈ calls.map (·.id) ↔ Flight.InLot settings u.view u.state u.now id .dispatched := by
  have h : Flown settings es u w f attempts :=
    hduring.flown (hbefore.orderly (orderly_new _ _ _ _)) hbefore.tells ht hact hheld ht' hact'
  constructor
  · exact Flight.balances_commit (h.state ▸ h.isWhole hos) h.flight _ _ _
  · refine ⟨_, h.calls, ?_, fun id => ?_⟩
    · rw [Call.map_id_of, h.flight]
      exact Flight.nodup_batch
    · rw [Call.map_id_of, h.flight]
      exact Iff.rfl

/-- The pass for the shop and the cafe balances. -/
theorem pass_balances_street : ∃ (w : World) (f : Flight) (os : List Flight.Outcome),
    (w.landingReport f os).Balances Sample.accepted Sample.streetView street.state 0 ∧
      (w.landingReport f os).succeeded = 2 := by
  have hbefore : Runs .any (World.new Sample.accepted Sample.streetView (Rig.new "us-east-1")
      .empty) [] street := .happen .start (.order .converge (.head _) rfl (.inr rfl))
  obtain ⟨w, f, attempts, os, hmoves, hmem, hact, hos, htwo⟩ :
      ∃ (w : World) (f : Flight) (attempts : List Attempt) (os : List Flight.Outcome),
        [Sample.shop, Sample.shop, Sample.shop, Sample.cafe, Sample.cafe, Sample.cafe].foldlM
          (fun (w : World) id => w.move (.attempt 0 id)) (street.takeOff street.operator) = some w ∧
        w.operator ∈ w.tasks ∧ w.operator.activity = .converging f attempts ∧
        outcomes? attempts = some os ∧ (w.landingReport f os).succeeded = 2 :=
    ⟨_, _, _, _, rfl, .head _, rfl, rfl, rfl⟩
  obtain ⟨hbalances, -⟩ := pass_balances hbefore (.head _) rfl rfl
    (Runs.attempts .start hmoves) hmem hact hos
  exact ⟨w, f, os, hbalances, htwo⟩

end World

end IngressBalancer
